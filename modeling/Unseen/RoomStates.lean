import Unseen.ServerMoves

namespace Unseen.Server

open Codec

/-!
# States of the rooms

The state of a room says what its slots and its history say: it is paired when
both slots are taken, half open when a member has left and one remains, and
waiting as long as only its creator has been in it.

This holds in every run in which no connection is closed while a foreign room
is registered under the id it carries.  `remove` does not check that the
connection it removes is in the room: a connection whose room was deleted and
created anew by another client marks that client's room half open.
-/

/-- The state of a room agrees with its slots and its members. -/
structure Room.Faithful (room : Room) : Prop where
  members : ∀ {ws}, room.Holds ws → ws ∈ room.members
  someone : room.members ≠ []
  paired : room.state = .paired ↔ room.initiator.isSome ∧ room.joiner.isSome
  halfOpen : room.state = .halfOpen →
    (∃ member ∈ room.members, ¬ room.Holds member) ∧
      room.initiator.isSome ≠ room.joiner.isSome
  waiting : room.state = .waiting ↔ ∃ creator, room.members = [creator]

namespace Room

variable {room : Room} {ws other : Conn} {now : Millis} {role : Role}

theorem faithful_newRoom (roomId : RoomId) (ws : Conn) (now : Millis) :
    (Registry.newRoom roomId ws now).Faithful where
  members := by
    rintro other (isInitiator | isJoiner)
    · exact List.mem_singleton.mpr (Option.some.inj isInitiator).symm
    · cases isJoiner
  someone := List.cons_ne_nil _ _
  paired := by simp [Registry.newRoom]
  halfOpen isHalfOpen := by cases isHalfOpen
  waiting := by simp [Registry.newRoom]

/-- The slots of a room into which a connection came are both taken. -/
theorem Faithful.addPeer
    (faithful : room.Faithful)
    (occupied : room.Holds other)
    (added : (room.addPeer ws now).1 = some role) :
    (room.addPeer ws now).2.Faithful := by
  obtain ⟨wasFree, taken, kept, _, _, members, state⟩ := addPeer_eq_some added
  generalize (room.addPeer ws now).2 = joined at *
  obtain ⟨otherRole, isOther⟩ := holds_iff_slot.mp occupied
  have isPeer : otherRole = role.peer := by
    cases otherRole <;> cases role <;> simp_all [Role.peer]
  subst isPeer
  have bothTaken : joined.initiator.isSome ∧ joined.joiner.isSome := by
    rw [isOther] at kept
    cases role with
    | initiator => exact ⟨by rw [show joined.initiator = some ws from taken]; rfl,
        by rw [show joined.joiner = some other from kept]; rfl⟩
    | joiner => exact ⟨by rw [show joined.initiator = some other from kept]; rfl,
        by rw [show joined.joiner = some ws from taken]; rfl⟩
  have isPaired : joined.state = .paired := by
    rw [state, isOther]
    simp
  obtain ⟨first, rest, isMembers⟩ := List.exists_cons_of_ne_nil faithful.someone
  constructor
  · intro member holds
    rw [members]
    obtain ⟨memberRole, isMember⟩ := holds_iff_slot.mp holds
    by_cases isRole : memberRole = role
    · subst isRole
      rw [taken] at isMember
      rw [← Option.some.inj isMember]
      exact List.mem_append_right _ (List.mem_singleton_self ws)
    · have isPeer : memberRole = role.peer := by
        cases memberRole <;> cases role <;> simp_all [Role.peer]
      rw [isPeer, kept] at isMember
      exact List.mem_append_left _ (faithful.members (holds_iff_slot.mpr ⟨_, isMember⟩))
  · rw [members]
    simp
  · exact ⟨fun _ => bothTaken, fun _ => isPaired⟩
  · intro isHalfOpen
    rw [isPaired] at isHalfOpen
    cases isHalfOpen
  · rw [isPaired, members, isMembers]
    simp

/-- A room that one of its two occupants left is half open. -/
theorem Faithful.halfOpened
    (faithful : room.Faithful)
    (holds : room.Holds ws)
    (remains : room.Holds other)
    (different : other ≠ ws) :
    (room.halfOpened ws now).Faithful := by
  obtain ⟨role, isOther⟩ := holds_iff_slot.mp remains
  obtain ⟨leftRole, isSlot⟩ := holds_iff_slot.mp holds
  have isPeer : leftRole = role.peer := by
    cases leftRole <;> cases role <;> simp_all [Role.peer]
  subst isPeer
  have stays : (room.halfOpened ws now).slot role = some other :=
    slot_halfOpened.mpr ⟨isOther, different⟩
  have leaves : (room.halfOpened ws now).slot role.peer = none := by
    apply Option.eq_none_iff_forall_ne_some.mpr
    intro other isSome
    obtain ⟨before, notIt⟩ := slot_halfOpened.mp isSome
    rw [isSlot] at before
    exact notIt (Option.some.inj before).symm
  have oneSlot :
      (room.halfOpened ws now).initiator.isSome ≠ (room.halfOpened ws now).joiner.isSome := by
    cases role with
    | initiator =>
        rw [show (room.halfOpened ws now).initiator = some other from stays,
          show (room.halfOpened ws now).joiner = none from leaves]
        simp
    | joiner =>
        rw [show (room.halfOpened ws now).joiner = some other from stays,
          show (room.halfOpened ws now).initiator = none from leaves]
        simp
  have notHeld : ¬ (room.halfOpened ws now).Holds ws := fun held =>
    (holds_halfOpened.mp held).2 rfl
  constructor
  · intro member held
    exact faithful.members (holds_halfOpened.mp held).1
  · exact faithful.someone
  · constructor
    · intro isPaired
      cases isPaired
    · rintro ⟨hasInitiator, hasJoiner⟩
      exact absurd (hasInitiator.trans hasJoiner.symm) oneSlot
  · intro _
    exact ⟨⟨ws, faithful.members holds, notHeld⟩, oneSlot⟩
  · constructor
    · intro isWaiting
      cases isWaiting
    · rintro ⟨creator, isMembers⟩
      have isFirst := faithful.members holds
      have isSecond := faithful.members remains
      rw [show room.members = [creator] from isMembers, List.mem_singleton] at isFirst isSecond
      exact absurd (isSecond.trans isFirst.symm) different

/-- Leaving a room that was marked half open at this very time changes nothing. -/
theorem halfOpened_eq
    (outside : ¬ room.Holds ws)
    (isHalfOpen : room.state = .halfOpen)
    (isNow : room.lastActivityAtMs = now) :
    room.halfOpened ws now = room := by
  obtain ⟨notInitiator, notJoiner⟩ := not_or.mp outside
  unfold halfOpened vacate
  rw [if_neg notInitiator, if_neg notJoiner, ← isHalfOpen, ← isNow]

end Room

/-! ## Rooms stay faithful -/

namespace State

variable {server after : State} {ws other : Conn} {strict : Prop}

/-- Every registered room is faithful. -/
def RoomsFaithful (server : State) : Prop :=
  ∀ roomId room, server.rooms.get roomId = some room → room.Faithful

/-- A room that leaves the registry takes no other room with it, and the room a
member leaves stays faithful. -/
theorem RoomsFaithful.remove
    {room left : Room}
    {roomId : RoomId}
    {now : Millis}
    (faithful : server.RoomsFaithful)
    (registered : server.rooms.get room.roomId = some room)
    (leaving : room.Holds ws ∨ room.state = .halfOpen ∧ room.lastActivityAtMs = now)
    (found : OrderedMap.get (Registry.remove server.rooms room ws now).2.2 roomId = some left) :
    left.Faithful := by
  by_cases isRoom : roomId = room.roomId
  · subst isRoom
    obtain ⟨rfl, other, remains, different⟩ := Registry.get_remove_self found
    by_cases holds : room.Holds ws
    · exact (faithful _ _ registered).halfOpened holds remains different
    · obtain ⟨isHalfOpen, isNow⟩ := leaving.resolve_left holds
      rw [Room.halfOpened_eq holds isHalfOpen isNow]
      exact faithful _ _ registered
  · rw [Registry.get_remove_other isRoom] at found
    exact faithful _ _ found

theorem RoomsFaithful.set
    {room found : Room}
    {roomId other : RoomId}
    (faithful : server.RoomsFaithful)
    (isFaithful : room.Faithful)
    (isFound : (server.rooms.set roomId room).get other = some found) :
    found.Faithful := by
  by_cases isRoom : other = roomId
  · subst isRoom
    rw [OrderedMap.get_set_self] at isFound
    exact Option.some.inj isFound ▸ isFaithful
  · rw [OrderedMap.get_set_other isRoom] at isFound
    exact faithful _ _ isFound

theorem RoomsFaithful.move
    {config : Config}
    (isStrict : strict)
    (move : Move strict server after)
    (inv : Occupancy config server)
    (faithful : server.RoomsFaithful) :
    after.RoomsFaithful := by
  intro roomId room found
  cases move with
  | acts oracle actions own => exact faithful _ _ found
  | modify ws calm => exact faithful _ _ found
  | delete erased =>
      by_cases isErased : roomId = erased
      · subst isErased
        rw [show (server.delete roomId).rooms.get roomId = none from OrderedMap.get_erase_self]
          at found
        cases found
      · rw [show (server.delete erased).rooms.get roomId = server.rooms.get roomId from
          OrderedMap.get_erase_other isErased] at found
        exact faithful _ _ found
  | remove leftRoom ws registered holds =>
      exact faithful.remove registered (.inl holds) found
  | callback ws isOpened notRun own =>
      rw [(closeCallback_spec server ws).rooms] at found
      unfold leaveRoom at found
      cases isRoom : (server.data ws).roomId.bind server.rooms.get with
      | none =>
          rw [isRoom] at found
          exact faithful _ _ found
      | some leftRoom =>
          rw [isRoom] at found
          obtain ⟨leftId, _, registered⟩ := Option.bind_eq_some_iff.mp isRoom
          have isId := inv.ids registered
          subst isId
          apply faithful.remove registered _ found
          by_contra foreign
          obtain ⟨outside, changed⟩ := not_or.mp foreign
          exact own isStrict ⟨leftRoom, isRoom, outside, changed⟩
  | create ws createdId newcomer free =>
      exact faithful.set (Room.faithful_newRoom createdId ws server.now) found
  | @join ws remaining joinedId existing role newcomer registered wasPeer added =>
      obtain ⟨someone, occupied⟩ := inv.occupied registered
      exact faithful.set ((faithful _ _ registered).addPeer occupied added) found

theorem Moves.roomsFaithful
    {config : Config}
    (isStrict : strict)
    (moves : Moves strict server after)
    (inv : Occupancy config server)
    (faithful : server.RoomsFaithful) :
    after.RoomsFaithful :=
  (moves.preserve (P := fun state => Occupancy config state ∧ state.RoomsFaithful)
    (fun move holds => ⟨holds.1.move move, RoomsFaithful.move isStrict move holds.1 holds.2⟩)
    ⟨inv, faithful⟩).2

/-- Opening a connection touches no room. -/
theorem openConnection_rooms (config : Config) (server : State) :
    (server.openConnection config).rooms = server.rooms := by
  rcases openConnection_cases config server with ⟨code, refuses⟩ | ⟨_, admits⟩
  · rw [refuses]
    unfold sendErrorAndClose
    generalize isTold :
      ((server.upgraded config).safeSend server.opened (encodeError code)).2 = told
    have toldRooms : told.rooms = server.rooms := by
      rw [← isTold]
      rfl
    have roomless : (told.data server.opened).roomId = none := by
      rw [← isTold]
      change (((server.upgraded config).sockets server.opened).data).roomId = none
      rw [sockets_upgraded_self]
      rfl
    rcases close_cases told server.opened (closeCodeForError code) (.error code) with
      later | ⟨_, _, now⟩
    · rw [later]
      exact toldRooms
    · have stillRoomless :
          ((told.closing server.opened (closeCodeForError code) (.error code)).data
            server.opened).roomId = none :=
        (data_roomId_closing _ _).trans roomless
      rw [now, (closeCallback_spec _ _).rooms, leaveRoom, stillRoomless]
      exact toldRooms
  · rw [admits]
    rfl

/-- Closing a connection leaves every room alone that it is not in, exactly if
no foreign room is registered under the id it carries. -/
theorem Agree.closeCallback_rooms
    (agree : Agree server)
    (ws : Conn) :
    (∀ roomId room,
      server.rooms.get roomId = some room → ¬ room.Holds ws →
        (server.closeCallback ws).rooms.get roomId = some room) ↔
      ¬ server.Foreign ws := by
  rw [(closeCallback_spec server ws).rooms]
  unfold leaveRoom
  constructor
  · rintro unchanged ⟨room, isRoom, outside, changed⟩
    obtain ⟨roomId, _, registered⟩ := Option.bind_eq_some_iff.mp isRoom
    have isId := agree.ids registered
    subst isId
    have same := unchanged room.roomId room registered outside
    rw [isRoom] at same
    obtain ⟨isLeft, _⟩ := Registry.get_remove_self same
    apply changed
    rw [isLeft]
    exact ⟨rfl, rfl⟩
  · intro notForeign roomId room registered outside
    cases isRoom : (server.data ws).roomId.bind server.rooms.get with
    | none => exact registered
    | some leftRoom =>
        obtain ⟨leftId, _, leftRegistered⟩ := Option.bind_eq_some_iff.mp isRoom
        have isLeftId := agree.ids leftRegistered
        subst isLeftId
        by_cases sameRoom : roomId = leftRoom.roomId
        · subst sameRoom
          rw [registered] at leftRegistered
          obtain rfl := Option.some.inj leftRegistered
          have unchanged : room.state = .halfOpen ∧ room.lastActivityAtMs = server.now := by
            by_contra changed
            exact notForeign ⟨room, isRoom, outside, changed⟩
          obtain ⟨other, remains⟩ := agree.occupied registered
          change OrderedMap.get (Registry.remove server.rooms room ws server.now).2.2
            room.roomId = some room
          rcases Registry.remove_cases server.rooms room ws server.now with
            ⟨alone, _⟩ | ⟨_, removed⟩
          · exact absurd (alone other remains ▸ remains) outside
          · rw [removed, Room.halfOpened_eq outside unchanged.1 unchanged.2]
            exact OrderedMap.get_set_self
        · exact (Registry.get_remove_other sameRoom).trans registered

end State

/-! ## Runs without foreign closes -/

theorem roomsFaithful_of_reachable
    {config : Config}
    {server : State}
    (reachable : (machine config).Reachable Started NoForeignClose server) :
    State.Occupancy config server ∧ server.RoomsFaithful := by
  apply reachable.invariant
  · intro server started
    refine ⟨occupancy_started started, ?_⟩
    intro roomId room found
    rw [started.1, OrderedMap.get_empty] at found
    cases found
  · rintro server input ⟨inv, faithful⟩ isEnabled isAllowed
    refine ⟨occupancy_step inv isEnabled, ?_⟩
    have invReady := inv.ready input
    have faithfulReady : (server.ready input).RoomsFaithful := faithful
    rcases step_cases inv isEnabled (fun _ : True => isAllowed) with
      ⟨_, opens⟩ | ⟨span, _, elapses⟩ | ⟨ws, message, _, _, handled⟩ | moves
    · intro roomId room found
      rw [opens, State.openConnection_rooms] at found
      exact faithful _ _ found
    · intro roomId room found
      rw [elapses] at found
      exact faithful _ _ found
    · cases handled with
      | moves moves => exact moves.roomsFaithful trivial invReady faithfulReady
      | relays arrives _ _ _ _ _ rest =>
          have faithfulMid := arrives.roomsFaithful trivial invReady faithfulReady
          exact rest.roomsFaithful trivial
            (State.safeSend_occupancy (arrives.occupancy invReady) _) faithfulMid
    · exact moves.roomsFaithful trivial invReady faithfulReady

/--
In every run without foreign closes, every room is faithful in every state
reached, and closing a connection leaves every room alone that it is not in.
The second part holds of a close, in any state with agreeing rooms, exactly if
the close is not foreign.
-/
theorem room_states_faithful_without_foreign_close
    {config : Config}
    {server : State}
    (reachable : (machine config).Reachable Started NoForeignClose server) :
    (∀ roomId room, server.rooms.get roomId = some room →
      (room.state = .paired ↔ room.initiator.isSome ∧ room.joiner.isSome) ∧
      (room.state = .halfOpen →
        (∃ member ∈ room.members, ¬ room.Holds member) ∧
          room.initiator.isSome ≠ room.joiner.isSome) ∧
      (room.state = .waiting ↔ ∃ creator, room.members = [creator])) ∧
    (∀ ws oracle, (machine config).enabled server ⟨.closed ws, oracle⟩ →
      NoForeignClose server ⟨.closed ws, oracle⟩ →
        ∀ roomId room, server.rooms.get roomId = some room → ¬ room.Holds ws →
          ((machine config).step server ⟨.closed ws, oracle⟩).rooms.get roomId = some room) ∧
    (∀ state : State, state.Agree → ∀ ws,
      (∀ roomId room, state.rooms.get roomId = some room → ¬ room.Holds ws →
        (state.closeCallback ws).rooms.get roomId = some room) ↔ ¬ state.Foreign ws) := by
  obtain ⟨inv, faithful⟩ := roomsFaithful_of_reachable reachable
  refine ⟨?_, ?_, ?_⟩
  · intro roomId room found
    exact ⟨(faithful _ _ found).paired, (faithful _ _ found).halfOpen, (faithful _ _ found).waiting⟩
  · intro ws oracle _ isAllowed
    exact ((inv.ready ⟨.closed ws, oracle⟩).toAgree.closeCallback_rooms ws).mpr isAllowed
  · intro state agree ws
    exact agree.closeCallback_rooms ws

/-! ## A room created anew -/

instance (server : State) (ws : Conn) : Decidable (server.Foreign ws) :=
  decidable_of_iff
    (((server.data ws).roomId.bind server.rooms.get).any
      (fun room => decide (¬ room.Holds ws ∧
        ¬ (room.state = .halfOpen ∧ room.lastActivityAtMs = server.now))) = true)
    (by
      rw [Option.any_eq_true]
      simp only [decide_eq_true_eq]
      rfl)

instance decidableNoForeignClose (server : State) :
    (input : Input) → Decidable (NoForeignClose server input)
  | ⟨.opens, _⟩ => inferInstanceAs (Decidable True)
  | ⟨.message _ _, _⟩ => inferInstanceAs (Decidable (_ → _))
  | ⟨.closed _, _⟩ => inferInstanceAs (Decidable (¬ _))
  | ⟨.helloTimer _, _⟩ => inferInstanceAs (Decidable True)
  | ⟨.elapse _, _⟩ => inferInstanceAs (Decidable True)
  | ⟨.sweep, _⟩ => inferInstanceAs (Decidable True)

/-- The room of two clients once the first one has left. -/
def Sample.leftRoom : Room :=
  ((Registry.newRoom Sample.roomId 0 0).addPeer 1 0).2.halfOpened 0 0

/-- The close of a member leaves a half-open room behind. -/
theorem room_states_faithful_when_member_leaves :
    (∃ member ∈ Sample.leftRoom.members, ¬ Sample.leftRoom.Holds member) ∧
      Sample.leftRoom.initiator.isSome ≠ Sample.leftRoom.joiner.isSome :=
  have reachable :
      (machine Sample.config).Reachable Started NoForeignClose
        ((machine Sample.config).run Sample.start
          (Sample.pairing ++ [Sample.calmly (.closed 0)])) :=
    .run (.start ⟨rfl, rfl, rfl⟩) (by decide +kernel)
  ((room_states_faithful_without_foreign_close reachable).1 Sample.roomId Sample.leftRoom
    (by decide +kernel)).2.1 rfl

namespace Sample

/-- The first client's ACK is dropped and its room deleted; a second client
creates the room anew while the first one still carries the id. -/
def recreation : List Input :=
  [calmly .opens, dropping (hello 0 .create), calmly .opens, calmly (hello 1 .create)]

end Sample

/-- The close of the first client marks the room of the second one half open,
though its only member is still in it. -/
theorem foreign_close_marks_room_half_open :
    (¬ ∀ server,
        (machine Sample.config).Reachable Started EventMachine.Machine.anyStep server →
        ∀ roomId room, server.rooms.get roomId = some room →
          room.state = .halfOpen → ∃ member ∈ room.members, ¬ room.Holds member) ∧
      ¬ ∀ server,
        (machine Sample.config).Reachable Started EventMachine.Machine.anyStep server →
        ∀ ws oracle, (machine Sample.config).enabled server ⟨.closed ws, oracle⟩ →
          ∀ roomId room, server.rooms.get roomId = some room → ¬ room.Holds ws →
            ((machine Sample.config).step server ⟨.closed ws, oracle⟩).rooms.get roomId =
              some room := by
  constructor
  · intro claimed
    have left :=
      claimed _
        (Sample.reachable_run (Sample.recreation ++ [Sample.calmly (.closed 0)])
          (by decide +kernel))
        Sample.roomId ((Registry.newRoom Sample.roomId 1 0).halfOpened 0 0) (by decide +kernel)
        (by decide +kernel)
    revert left
    decide +kernel
  · intro claimed
    have kept :=
      claimed _ (Sample.reachable_run Sample.recreation (by decide +kernel)) 0
        (Sample.calmly .opens).oracle (by decide +kernel) Sample.roomId
        (Registry.newRoom Sample.roomId 1 0) (by decide +kernel) (by decide +kernel)
    revert kept
    decide +kernel

end Unseen.Server
