import Unseen.RoomStates

namespace Unseen.Server

open Codec

/-!
# Admission is transactional

A HELLO is answered in one of two ways.  Either the sender is admitted: it has
the slot that its ACK names, and nobody's frame was dropped.  Or it is refused:
it is closed, and the rooms it did not enter are as before.  A room that lost
a frame while somebody entered it is gone, and everybody in it is closed.

Two things stand in the way.  A creator whose ACK is dropped stays open after
its room is deleted.  And a HELLO of a connection that already carries the id
of a foreign room is refused, but the close changes that room.
-/

namespace State

variable {server after : State} {ws other remaining : Conn} {roomId otherId : RoomId}

/-! ## What closing a connection changes -/

theorem closed_close_iff (code : Nat) (reason : CloseReason) :
    ((server.close ws code reason).sockets other).closed = true ↔
      other = ws ∨ (server.sockets other).closed = true := by
  have marks :
      ((server.closing ws code reason).sockets other).closed = true ↔
        other = ws ∨ (server.sockets other).closed = true := by
    by_cases itself : other = ws
    · subst itself
      rw [closing, sockets_modifySocket_self]
      simp
    · rw [closing, sockets_modifySocket_other itself]
      simp [itself]
  rcases close_cases server ws code reason with later | ⟨_, _, now⟩
  · rw [later]
    exact marks
  · rw [now, (closeCallback_spec _ ws).sockets]
    by_cases itself : other = ws
    · subst itself
      rw [sockets_modifySocket_self]
      simp [shut]
    · rw [sockets_modifySocket_other itself]
      exact marks

theorem closed_close (code : Nat) (reason : CloseReason) :
    ((server.close ws code reason).sockets ws).closed = true :=
  (closed_close_iff code reason).mpr (.inl rfl)

theorem data_roomId_close (code : Nat) (reason : CloseReason) :
    ((server.close ws code reason).data other).roomId = (server.data other).roomId := by
  rcases close_cases server ws code reason with later | ⟨_, _, now⟩
  · rw [later]
    exact data_roomId_closing code reason
  · have marks : ((server.closing ws code reason).data other).roomId =
        (server.data other).roomId :=
      data_roomId_closing code reason
    rw [now, ← marks, data, (closeCallback_spec _ ws).sockets]
    by_cases itself : other = ws
    · subst itself
      rw [sockets_modifySocket_self]
      rfl
    · rw [sockets_modifySocket_other itself]
      rfl

theorem leaveRoom_congr
    (after server : State)
    (rooms : after.rooms = server.rooms)
    (now : after.now = server.now)
    (roomId : (after.data ws).roomId = (server.data ws).roomId) :
    after.leaveRoom ws = server.leaveRoom ws := by
  rw [leaveRoom, rooms, now, roomId, leaveRoom]

theorem rooms_close (code : Nat) (reason : CloseReason) :
    (server.close ws code reason).rooms =
      if server.oracle.closes.headD false = true ∧ (server.sockets ws).closeRan = false then
        server.leaveRoom ws
      else
        server.rooms := by
  rw [close_eq]
  split
  · rw [(closeCallback_spec _ ws).rooms]
    exact leaveRoom_congr _ server rfl rfl (data_roomId_closing code reason)
  · rfl

/-- Closing a connection concerns at most the room it names. -/
theorem Agree.get_close_other
    (agree : Agree server)
    (named : (server.data ws).roomId = some roomId)
    (different : otherId ≠ roomId)
    (code : Nat)
    (reason : CloseReason) :
    (server.close ws code reason).rooms.get otherId = server.rooms.get otherId := by
  rw [rooms_close]
  split
  · rw [leaveRoom, named, Option.bind_some]
    cases registered : server.rooms.get roomId with
    | none => rfl
    | some room =>
        have isId := agree.ids registered
        subst isId
        exact Registry.get_remove_other different
  · rfl

/-! ## The law -/

/-- The HELLO put the connection into the room. -/
def Enters (server after : State) (ws : Conn) (roomId : RoomId) : Prop :=
  (server.data ws).roomId = none ∧ (after.data ws).roomId = some roomId

/-- The connection was in the room, or the HELLO put it there. -/
def Takes (server after : State) (ws : Conn) (roomId : RoomId) (other : Conn) : Prop :=
  (∃ room, server.rooms.get roomId = some room ∧ room.Holds other) ∨
    other = ws ∧ server.Enters after ws roomId

/-- The sender has the slot its ACK names, nothing was dropped, and the peer
in the other slot was told. -/
def Admitted (after : State) (ws : Conn) (roomId : RoomId) : Prop :=
  ∃ room role status,
    after.rooms.get roomId = some room ∧
      room.slot role = some ws ∧
      (after.sockets ws).closed = false ∧
      status ≠ .dropped ∧
      match room.slot role.peer with
      | none => after.out = [.send ws (encodeAck role) status]
      | some peer =>
          ∃ told, told ≠ .dropped ∧
            after.out = [.send ws (encodeAck role) status, .send peer encodePeerJoined told]

/-- The sender is closed, and the rooms it did not enter are as before. -/
structure Refused (server after : State) (ws : Conn) : Prop where
  closed : (after.sockets ws).closed = true
  rooms : ∀ roomId room,
    server.rooms.get roomId = some room → ¬ room.Holds ws → ¬ server.Enters after ws roomId →
      after.rooms.get roomId = some room

/-- The law of admission for a HELLO that names a room. -/
structure Transactional (server after : State) (ws : Conn) (roomId : RoomId) : Prop where
  answered : after.Admitted ws roomId ∨ server.Refused after ws
  undone : ∀ entered, server.Enters after ws entered →
    (∃ other frame, Act.send other frame .dropped ∈ after.out) →
      after.rooms.get entered = none ∧
        ∀ other, server.Takes after ws entered other → (after.sockets other).closed = true
  remembered : ∀ forgotten other, server.Takes after ws forgotten other →
    after.rooms.get forgotten = none → (after.sockets other).closed = true

/-- A connection that entered no room was refused transactionally exactly if
its close left the room registered under the id it carries alone. -/
theorem refused_iff
    {config : Config}
    (inv : Occupancy config server)
    (notRun : (server.sockets ws).closeRan = false)
    (code : ErrorCode) :
    Transactional server (server.sendErrorAndClose ws code) ws roomId ↔
      ¬ (server.Foreign ws ∧ server.oracle.closes.headD false = true) := by
  generalize isAfter : server.sendErrorAndClose ws code = refused
  have isClosed : (refused.sockets ws).closed = true := by
    rw [← isAfter]
    exact closed_close _ _
  have entersNone : ∀ entered, ¬ server.Enters refused ws entered := by
    rintro entered ⟨wasOut, isIn⟩
    rw [← isAfter, sendErrorAndClose, data_roomId_close] at isIn
    rw [show ((server.safeSend ws (encodeError code)).2.data ws).roomId =
      (server.data ws).roomId from rfl, wasOut] at isIn
    cases isIn
  have takesOld : ∀ {entered other}, server.Takes refused ws entered other →
      ∃ room, server.rooms.get entered = some room ∧ room.Holds other := by
    rintro entered other (before | ⟨_, enters⟩)
    · exact before
    · exact absurd enters (entersNone entered)
  have left :
      refused.rooms =
        if server.oracle.closes.headD false = true then
          (server.closeCallback ws).rooms
        else
          server.rooms := by
    have told :
        (server.safeSend ws (encodeError code)).2.leaveRoom ws = server.leaveRoom ws :=
      leaveRoom_congr _ server rfl rfl rfl
    rw [← isAfter, sendErrorAndClose, rooms_close, told, (closeCallback_spec server ws).rooms]
    change
      (if server.oracle.closes.headD false = true ∧ (server.sockets ws).closeRan = false then
        server.leaveRoom ws
      else
        server.rooms) = _
    simp only [notRun, and_true]
  constructor
  · rintro transactional ⟨isForeign, sync⟩
    have isRefused : server.Refused refused ws := by
      refine transactional.answered.resolve_left ?_
      rintro ⟨_, _, _, _, _, isOpen, _⟩
      rw [isClosed] at isOpen
      cases isOpen
    rw [if_pos sync] at left
    refine absurd isForeign ((inv.toAgree.closeCallback_rooms ws).mp ?_)
    intro id room registered outside
    rw [← left]
    exact isRefused.rooms id room registered outside (entersNone id)
  · intro calm
    constructor
    · right
      refine ⟨isClosed, ?_⟩
      intro id room registered outside _
      rw [left]
      split
      next sync =>
        have notForeign : ¬ server.Foreign ws := fun isForeign => calm ⟨isForeign, sync⟩
        exact (inv.toAgree.closeCallback_rooms ws).mpr notForeign id room registered outside
      next => exact registered
    · intro entered enters
      exact absurd enters (entersNone entered)
    · intro forgotten other takes isGone
      obtain ⟨room, registered, holds⟩ := takesOld takes
      by_cases itself : other = ws
      · rw [itself]
        exact isClosed
      · obtain ⟨role, isSlot⟩ := Room.holds_iff_slot.mp holds
        have isOccupant := inv.occupant registered isSlot
        have agreeTold : Agree (server.safeSend ws (encodeError code)).2 :=
          (safeSend_occupancy inv (encodeError code)).toAgree
        have seated : (server.safeSend ws (encodeError code)).2.Seated other :=
          inv.toAgree.seated registered holds
        obtain ⟨stays, isStays, _⟩ :=
          seated_close agreeTold seated itself (closeCodeForError code) (.error code)
        rw [data_roomId_close] at isStays
        rw [show ((server.safeSend ws (encodeError code)).2.data other).roomId =
          (server.data other).roomId from rfl, isOccupant.roomId, Option.bind_some] at isStays
        rw [← isAfter] at isGone
        rw [show (server.sendErrorAndClose ws code).rooms.get forgotten = some stays from isStays]
          at isGone
        cases isGone

/-! ## Entering a room -/

theorem Admitted.transactional
    (admitted : after.Admitted ws roomId)
    (others : ∀ id, id ≠ roomId → after.rooms.get id = server.rooms.get id)
    (named : (after.data ws).roomId = some roomId) :
    Transactional server after ws roomId where
  answered := .inl admitted
  undone := by
    rintro entered _ ⟨other, frame, isDropped⟩
    obtain ⟨room, role, status, _, _, _, notDropped, told⟩ := admitted
    exfalso
    cases isPeer : room.slot role.peer with
    | none =>
        simp only [isPeer] at told
        rw [told] at isDropped
        simp only [List.mem_singleton, Act.send.injEq] at isDropped
        exact notDropped isDropped.2.2.symm
    | some peer =>
        simp only [isPeer] at told
        obtain ⟨toldStatus, toldNotDropped, isOut⟩ := told
        rw [isOut] at isDropped
        simp only [List.mem_cons, List.not_mem_nil, or_false, Act.send.injEq] at isDropped
        rcases isDropped with ⟨_, _, same⟩ | ⟨_, _, same⟩
        · exact notDropped same.symm
        · exact toldNotDropped same.symm
  remembered := by
    intro forgotten other takes isGone
    by_cases isRoom : forgotten = roomId
    · subst isRoom
      obtain ⟨room, _, _, registered, _⟩ := admitted
      rw [registered] at isGone
      cases isGone
    · rcases takes with ⟨room, registered, _⟩ | ⟨_, _, entered⟩
      · rw [others forgotten isRoom, registered] at isGone
        cases isGone
      · rw [named] at entered
        exact absurd (Option.some.inj entered).symm isRoom

/-- The room is deleted, and the two connections in it are closed. -/
structure RolledBack (server after : State) (ws remaining : Conn) (roomId : RoomId) : Prop where
  gone : after.rooms.get roomId = none
  others : ∀ id, id ≠ roomId → after.rooms.get id = server.rooms.get id
  closed : (after.sockets ws).closed = true
  closedRemaining : (after.sockets remaining).closed = true
  named : (after.data ws).roomId = some roomId

theorem RolledBack.transactional
    (rolledBack : RolledBack server after ws remaining roomId)
    (roomless : (server.data ws).roomId = none)
    (alone : ∀ room, server.rooms.get roomId = some room →
      ∀ other, room.Holds other → other = remaining) :
    Transactional server after ws roomId := by
  have closes : ∀ other, server.Takes after ws roomId other →
      (after.sockets other).closed = true := by
    rintro other (⟨room, registered, holds⟩ | ⟨itself, _⟩)
    · rw [alone room registered other holds]
      exact rolledBack.closedRemaining
    · rw [itself]
      exact rolledBack.closed
  constructor
  · right
    refine ⟨rolledBack.closed, ?_⟩
    intro id room registered _ notEntered
    have different : id ≠ roomId := by
      rintro rfl
      exact notEntered ⟨roomless, rolledBack.named⟩
    rw [rolledBack.others id different]
    exact registered
  · rintro entered ⟨_, isRoom⟩ _
    rw [rolledBack.named] at isRoom
    obtain rfl := Option.some.inj isRoom
    exact ⟨rolledBack.gone, closes⟩
  · intro forgotten other takes isGone
    by_cases isRoom : forgotten = roomId
    · subst isRoom
      exact closes other takes
    · rcases takes with ⟨room, registered, _⟩ | ⟨_, _, entered⟩
      · rw [rolledBack.others forgotten isRoom, registered] at isGone
        cases isGone
      · rw [rolledBack.named] at entered
        exact absurd (Option.some.inj entered).symm isRoom

/-- Two connections that name a room are closed and the room is deleted. -/
theorem rolledBack_closeBoth
    {config : Config}
    (inv : Occupancy config server)
    (isOpened : ws < server.opened)
    (named : (server.data ws).roomId = some roomId)
    (alsoNamed : (server.data remaining).roomId = some roomId)
    (code : Nat)
    (reason : CloseReason) :
    RolledBack server
      (((server.close ws code reason).close remaining code reason).delete roomId)
      ws remaining roomId := by
  have closesFirst : Moves False server (server.close ws code reason) :=
    moves_close code reason isOpened False.elim
  have agree := (closesFirst.occupancy inv).toAgree
  have stillNamed : ((server.close ws code reason).data remaining).roomId = some roomId := by
    rw [data_roomId_close]
    exact alsoNamed
  constructor
  · exact OrderedMap.get_erase_self
  · intro id different
    rw [← inv.toAgree.get_close_other named different code reason,
      ← agree.get_close_other stillNamed different code reason]
    exact OrderedMap.get_erase_other different
  · exact (closed_close_iff code reason).mpr (.inr (closed_close code reason))
  · exact closed_close code reason
  · have same :
        (((server.close ws code reason).close remaining code reason).data ws).roomId =
          (server.data ws).roomId := by
      rw [data_roomId_close, data_roomId_close]
    exact same.trans named

/-- Once a connection has its slot, both connections are told of it, or the
room is rolled back. -/
theorem announce_cases
    {config : Config}
    {existing : Room}
    (inv : Occupancy config server)
    (registered : server.rooms.get existing.roomId = some existing)
    (holds : existing.Holds ws)
    (remains : existing.Holds remaining)
    (different : remaining ≠ ws)
    (slot : Role) :
    RolledBack server
      (server.announce ws existing.roomId existing (some remaining) slot)
      ws remaining existing.roomId ∨
    ∃ status told, status ≠ .dropped ∧ told ≠ .dropped ∧
      server.announce ws existing.roomId existing (some remaining) slot =
        { server with
          oracle := { server.oracle with sends := server.oracle.sends.tail.tail }
          out :=
            server.out ++
              [.send ws (encodeAck slot) status, .send remaining encodePeerJoined told] } := by
  have seated := inv.toAgree.seated registered holds
  have isOpened := seated.opened inv.toAgree
  have named : (server.data ws).roomId = some existing.roomId := by
    obtain ⟨role, isSlot⟩ := Room.holds_iff_slot.mp holds
    exact (inv.occupant registered isSlot).roomId
  have alsoNamed : (server.data remaining).roomId = some existing.roomId := by
    obtain ⟨role, isSlot⟩ := Room.holds_iff_slot.mp remains
    exact (inv.occupant registered isSlot).roomId
  have acknowledges : Moves False server (server.safeSend ws (encodeAck slot)).2 :=
    moves_safeSend (ownFrame_ack slot)
  unfold announce
  simp only [if_neg different]
  split
  next dropped =>
    left
    have removes :
        Moves False server
          { (server.safeSend ws (encodeAck slot)).2 with
            rooms := (Registry.remove server.rooms existing ws server.now).2.2 } :=
      acknowledges.trans (Move.moves (Move.remove existing ws registered holds))
    have rolledBack :=
      rolledBack_closeBoth (removes.occupancy inv) isOpened named alsoNamed 1011 .ackDropped
    refine { rolledBack with others := ?_ }
    intro id isOther
    exact (rolledBack.others id isOther).trans (Registry.get_remove_other isOther)
  next acked =>
    split
    next dropped =>
      left
      have tells := acknowledges.trans
        (moves_safeSend ownFrame_peerJoined :
          Moves False _ ((server.safeSend ws (encodeAck slot)).2.safeSend remaining _).2)
      have rolledBack :=
        rolledBack_closeBoth (tells.occupancy inv) isOpened named alsoNamed 1011
          .peerJoinedDropped
      exact { rolledBack with }
    next told =>
      right
      refine ⟨_, _, acked, told, ?_⟩
      rw [safeSend_eq, safeSend_eq]
      simp only [List.append_assoc, List.singleton_append]

/-- A connection that is handled and has not said HELLO yet. -/
theorem Speaking.newcomer
    {config : Config}
    (inv : Occupancy config server)
    (speaking : server.Speaking ws)
    (isPending : (server.data ws).state = .pendingHello) :
    server.Newcomer ws where
  opened := speaking.opened
  live := speaking.live inv
  pending := isPending

theorem Newcomer.refused
    {config : Config}
    (inv : Occupancy config server)
    (newcomer : server.Newcomer ws)
    (code : ErrorCode) :
    Transactional server (server.sendErrorAndClose ws code) ws roomId :=
  (refused_iff inv newcomer.live.2 code).mpr fun isForeign =>
    newcomer.not_foreign inv isForeign.1

/-- Whoever takes a slot is admitted, or the room is rolled back. -/
theorem Joins.transactional
    {config : Config}
    {existing joined : Room}
    {slot : Role}
    (joins : Joins server ws remaining roomId existing joined slot)
    (inv : Occupancy config server)
    (speaking : server.Speaking ws)
    (newcomer : server.Newcomer ws)
    (silent : server.out = [])
    (registered : server.rooms.get roomId = some existing) :
    Transactional server
      ((server.seatBeside ws remaining roomId joined slot).announce ws roomId joined
        (some remaining) slot)
      ws roomId := by
  have isId := joins.isId
  subst isId
  generalize isSeated : server.seatBeside ws remaining joined.roomId joined slot = seated
  have invSeated : Occupancy config seated := by
    have seats : Moves False server _ := joins.seats
    rw [← isSeated]
    exact seats.occupancy inv
  have rooms : seated.rooms = server.rooms.set joined.roomId joined := by
    rw [← isSeated]
    rfl
  have registeredNow : seated.rooms.get joined.roomId = some joined := by
    rw [rooms]
    exact OrderedMap.get_set_self
  have others : ∀ id, id ≠ joined.roomId → seated.rooms.get id = server.rooms.get id := by
    intro id isOther
    rw [rooms]
    exact OrderedMap.get_set_other isOther
  have isOccupant := invSeated.occupant registeredNow joins.taken
  have roomless := inv.pending newcomer.opened newcomer.pending
  rcases announce_cases invSeated registeredNow (Room.holds_iff_slot.mpr ⟨slot, joins.taken⟩)
    (Room.holds_iff_slot.mpr ⟨slot.peer, joins.isPeer⟩) joins.different slot with
    rolledBack | ⟨status, told, acked, toldPeer, announces⟩
  · have fromServer :
        RolledBack server
          (seated.announce ws joined.roomId joined (some remaining) slot) ws remaining
          joined.roomId :=
      { rolledBack with
        others := fun id isOther =>
          (rolledBack.others id isOther).trans (others id isOther) }
    apply fromServer.transactional roomless
    intro room isRegistered other holds
    rw [registered] at isRegistered
    obtain rfl := Option.some.inj isRegistered
    obtain ⟨role, isSlot⟩ := Room.holds_iff_slot.mp holds
    by_cases isRole : role = slot
    · subst isRole
      rw [joins.wasFree] at isSlot
      cases isSlot
    · have isPeer : role = slot.peer := by
        cases role <;> cases slot <;> simp_all [Role.peer]
      rw [isPeer, joins.wasPeer] at isSlot
      exact (Option.some.inj isSlot).symm
  · rw [announces]
    apply Admitted.transactional
    · refine ⟨joined, slot, status, registeredNow, joins.taken, ?_, acked, ?_⟩
      · change (seated.sockets ws).closed = false
        rw [← isSeated, seatBeside, modifyData,
          sockets_modifySocket_other joins.different.symm, enter, modifyData,
          sockets_modifySocket_self]
        exact speaking.isOpen
      · rw [joins.isPeer]
        refine ⟨told, toldPeer, ?_⟩
        have silentStill : seated.out = [] := by
          rw [← isSeated]
          exact silent
        rw [silentStill, List.nil_append]
    · exact others
    · exact isOccupant.roomId

theorem handleJoinOrResume_transactional
    {config : Config}
    (inv : Occupancy config server)
    (speaking : server.Speaking ws)
    (isPending : (server.data ws).state = .pendingHello)
    (silent : server.out = [])
    (intent : HelloIntent) :
    Transactional server (server.handleJoinOrResume ws intent roomId) ws roomId := by
  have newcomer := speaking.newcomer inv isPending
  have refused : ∀ code, Transactional server (server.sendErrorAndClose ws code) ws roomId :=
    newcomer.refused inv
  unfold handleJoinOrResume
  split
  · exact refused _
  · cases registered : server.rooms.get roomId with
    | none => exact refused _
    | some existing =>
        dsimp only
        split
        · exact refused _
        · split
          · exact refused _
          · cases added : existing.addPeer ws server.now with
            | mk slot joined =>
                cases slot with
                | none => exact refused _
                | some slot =>
                    obtain ⟨remaining, joins⟩ := newcomer.joins inv registered added
                    rw [joins.remains]
                    exact joins.transactional inv speaking newcomer silent registered

/-! ## HELLO -/

/-- The HELLO creates a room whose ACK is dropped. -/
def CreateAckDropped (server : State) (ws : Conn) (frame : HelloFrame) : Prop :=
  (server.data ws).state = .pendingHello ∧
    frame.protocolVersion = protocolVersion ∧
    frame.intent = .create ∧
    server.oracle.allowed = true ∧
    server.rooms.get (hexEncode frame.roomId) = none ∧
    classify (server.oracle.sends.headD 1) = .dropped

/-- The HELLO is a second one, of a connection that carries the id of a foreign
room, and the close callback runs inside `ws.close`. -/
def ForeignRefusal (server : State) (ws : Conn) : Prop :=
  (server.data ws).state ≠ .pendingHello ∧ server.Foreign ws ∧
    server.oracle.closes.headD false = true

theorem handleCreate_transactional_iff
    {config : Config}
    (inv : Occupancy config server)
    (speaking : server.Speaking ws)
    (isPending : (server.data ws).state = .pendingHello)
    (silent : server.out = []) :
    Transactional server (server.handleCreate ws roomId) ws roomId ↔
      ¬ (server.oracle.allowed = true ∧ server.rooms.get roomId = none ∧
        classify (server.oracle.sends.headD 1) = .dropped) := by
  have newcomer := speaking.newcomer inv isPending
  have refused : ∀ code, Transactional server (server.sendErrorAndClose ws code) ws roomId :=
    newcomer.refused inv
  unfold handleCreate
  split
  next notAllowed =>
    refine iff_of_true (refused _) ?_
    rintro ⟨isAllowed, _⟩
    rw [isAllowed] at notAllowed
    cases notAllowed
  next isAllowed =>
    split
    next taken =>
      refine iff_of_true (refused _) ?_
      rintro ⟨_, isFree, _⟩
      rw [isFree] at taken
      cases taken
    next isFree =>
      rw [Option.not_isSome_iff_eq_none] at isFree
      rw [Bool.not_eq_true', Bool.not_eq_false] at isAllowed
      dsimp only
      generalize isCreated :
        { server with rooms := Registry.create server.rooms roomId ws server.now }.enter ws
          roomId .waitingForPeer .initiator = created
      have isOpen : (created.sockets ws).closed = false := by
        rw [← isCreated, enter, modifyData, sockets_modifySocket_self]
        exact speaking.isOpen
      have rooms : created.rooms = Registry.create server.rooms roomId ws server.now := by
        rw [← isCreated]
        rfl
      have sameSends : created.oracle = server.oracle := by
        rw [← isCreated]
        rfl
      have isStatus :
          (created.safeSend ws (encodeAck .initiator)).1 =
            classify (server.oracle.sends.headD 1) := by
        rw [← sameSends]
        rfl
      rw [isStatus]
      by_cases dropped : classify (server.oracle.sends.headD 1) = .dropped
      · rw [if_pos dropped]
        refine iff_of_false ?_ (not_not_intro ⟨isAllowed, isFree, dropped⟩)
        intro transactional
        rcases transactional.answered with ⟨room, _, _, registered, _⟩ | isRefused
        · rw [show State.rooms (delete _ roomId) = OrderedMap.erase _ roomId from rfl,
            OrderedMap.get_erase_self] at registered
          cases registered
        · have isClosed : (created.sockets ws).closed = true := isRefused.closed
          rw [isOpen] at isClosed
          cases isClosed
      · rw [if_neg dropped]
        refine iff_of_true ?_ (fun lost => dropped lost.2.2)
        apply Admitted.transactional
        · refine ⟨Registry.newRoom roomId ws server.now, .initiator, _, ?_, rfl, isOpen,
            dropped, ?_⟩
          · change created.rooms.get roomId = _
            rw [rooms]
            exact OrderedMap.get_set_self
          · change created.out ++ _ = _
            rw [← isStatus, show created.out = server.out by rw [← isCreated]; rfl, silent]
            rfl
        · intro id isOther
          change created.rooms.get id = _
          rw [rooms]
          exact OrderedMap.get_set_other isOther
        · change (created.data ws).roomId = _
          rw [← isCreated, data_enter_self]

/-- The law speaks of the rooms and of the sender's room before the HELLO only. -/
theorem Transactional.congr
    {before : State}
    (transactional : Transactional before after ws roomId)
    (rooms : before.rooms = server.rooms)
    (sameRoomId : (before.data ws).roomId = (server.data ws).roomId) :
    Transactional server after ws roomId := by
  have enters : ∀ id, before.Enters after ws id ↔ server.Enters after ws id := by
    intro id
    rw [Enters, sameRoomId, Enters]
  have takes : ∀ id other, before.Takes after ws id other ↔ server.Takes after ws id other := by
    intro id other
    rw [Takes, rooms, enters, Takes]
  constructor
  · refine transactional.answered.imp_right fun isRefused => ⟨isRefused.closed, ?_⟩
    intro id room registered outside notEntered
    exact isRefused.rooms id room (rooms ▸ registered) outside ((enters id).not.mpr notEntered)
  · intro entered isEntered dropped
    obtain ⟨gone, closes⟩ := transactional.undone entered ((enters entered).mpr isEntered) dropped
    exact ⟨gone, fun other isIn => closes other ((takes entered other).mpr isIn)⟩
  · intro forgotten other isIn
    exact transactional.remembered forgotten other ((takes forgotten other).mpr isIn)

theorem handleHello_transactional_iff
    {config : Config}
    (inv : Occupancy config server)
    (speaking : server.Speaking ws)
    (silent : server.out = [])
    (frame : HelloFrame) :
    Transactional server (server.handleHello ws frame) ws (hexEncode frame.roomId) ↔
      ¬ server.CreateAckDropped ws frame ∧ ¬ server.ForeignRefusal ws := by
  have clears : Moves False server (server.clearHelloTimer ws) :=
    moves_modifyData calm_clearHelloTimer
  have sameRoomId : ((server.clearHelloTimer ws).data ws).roomId = (server.data ws).roomId :=
    calm_clearHelloTimer.data_roomId
  have sameState : ((server.clearHelloTimer ws).data ws).state = (server.data ws).state := by
    rw [clearHelloTimer, modifyData, data, sockets_modifySocket_self, data]
  have sameClosed :
      ((server.clearHelloTimer ws).sockets ws).closed = (server.sockets ws).closed := by
    rw [clearHelloTimer, modifyData, sockets_modifySocket_self]
  have speakingStill : (server.clearHelloTimer ws).Speaking ws :=
    ⟨speaking.opened, sameClosed.trans speaking.isOpen⟩
  have invStill := clears.occupancy inv
  have foreignStill := foreign_congr (server.clearHelloTimer ws) server rfl rfl sameRoomId
  have sameLaw :
      Transactional server (server.handleHello ws frame) ws (hexEncode frame.roomId) ↔
        Transactional (server.clearHelloTimer ws) (server.handleHello ws frame) ws
          (hexEncode frame.roomId) :=
    ⟨fun transactional => transactional.congr rfl sameRoomId.symm,
      fun transactional => transactional.congr rfl sameRoomId⟩
  rw [sameLaw]
  unfold handleHello CreateAckDropped ForeignRefusal
  dsimp only
  rw [sameState]
  by_cases isPending : (server.data ws).state = .pendingHello
  · rw [if_neg (not_not_intro isPending)]
    have newcomer := speakingStill.newcomer invStill (sameState.trans isPending)
    simp only [isPending, true_and, ne_eq, not_true_eq_false, false_and, not_false_eq_true,
      and_true]
    by_cases version : frame.protocolVersion = protocolVersion
    · rw [if_neg (not_not_intro version)]
      by_cases creates : frame.intent = .create
      · rw [if_pos creates,
          handleCreate_transactional_iff invStill speakingStill (sameState.trans isPending) silent]
        simp only [version, creates, true_and]
        rfl
      · rw [if_neg creates]
        refine iff_of_true ?_ (fun lost => creates lost.2.1)
        exact handleJoinOrResume_transactional invStill speakingStill
          (sameState.trans isPending) silent _
    · rw [if_pos version]
      exact iff_of_true (newcomer.refused invStill _) (fun lost => version lost.1)
  · rw [if_pos isPending, refused_iff invStill (speakingStill.live invStill).2 _, foreignStill]
    simp only [isPending, false_and, not_false_eq_true, true_and, ne_eq]
    rfl

end State

/--
A HELLO that reaches the server is answered transactionally exactly if it is
not a creation whose ACK is dropped, and not a second HELLO of a connection
that carries the id of a foreign room and is called back inside `ws.close`.
-/
theorem hello_transactional_iff
    {config : Config}
    {server : State}
    {ws : Conn}
    {buf : Bytes}
    {frame : HelloFrame}
    {oracle : Oracle}
    (reachable : (machine config).Reachable Started EventMachine.Machine.anyStep server)
    (isEnabled : (machine config).enabled server ⟨.message ws (.binary buf), oracle⟩)
    (decodes : decodeClientFrame buf = some (.hello frame)) :
    server.Transactional ((machine config).step server ⟨.message ws (.binary buf), oracle⟩) ws
        (hexEncode frame.roomId) ↔
      ¬ (server.ready ⟨.message ws (.binary buf), oracle⟩).CreateAckDropped ws frame ∧
        ¬ (server.ready ⟨.message ws (.binary buf), oracle⟩).ForeignRefusal ws := by
  have inv := (occupancy_of_reachable reachable).ready ⟨.message ws (.binary buf), oracle⟩
  have speaking : (server.ready ⟨.message ws (.binary buf), oracle⟩).Speaking ws :=
    ⟨isEnabled.1, isEnabled.2⟩
  obtain ⟨_, isLayout⟩ := decodeClientFrame_eq_some_iff.mp decodes
  obtain ⟨rest, isBuf⟩ : ∃ rest, buf = msgHello :: rest := ⟨_, isLayout⟩
  subst isBuf
  have handles :
      (machine config).step server ⟨.message ws (.binary (msgHello :: rest)), oracle⟩ =
        (server.ready ⟨.message ws (.binary (msgHello :: rest)), oracle⟩).handleHello ws frame := by
    change State.handleMessage config _ ws (.binary (msgHello :: rest)) = _
    unfold State.handleMessage
    dsimp only
    rw [if_pos rfl, decodes]
    rfl
  rw [handles, ← State.handleHello_transactional_iff inv speaking rfl frame]
  exact ⟨fun transactional => transactional.congr rfl rfl,
    fun transactional => transactional.congr rfl rfl⟩

namespace Sample

def helloFrame (intent : HelloIntent) : HelloFrame :=
  { roomId := roomIdBytes, protocolVersion, intent }

/-- The HELLO arrives, and the frames sent first are dropped or not. -/
def helloInput (ws : Conn) (intent : HelloIntent) (sends : List Int) : Input :=
  { event := hello ws intent
    oracle := { sends, closes := [true, true], allowed := true, buffered := 0 } }

end Sample

/-- A joiner's ACK is sent, but its peer's PEER_JOINED is dropped. -/
theorem hello_transactional_joining :
    ((machine Sample.config).run Sample.start
        [Sample.calmly .opens, Sample.calmly (Sample.hello 0 .create),
          Sample.calmly .opens]).Transactional
      ((machine Sample.config).run Sample.start
        [Sample.calmly .opens, Sample.calmly (Sample.hello 0 .create), Sample.calmly .opens,
          Sample.helloInput 1 .join [1, 0]])
      1 Sample.roomId :=
  (hello_transactional_iff (Sample.reachable_run
      [Sample.calmly .opens, Sample.calmly (Sample.hello 0 .create), Sample.calmly .opens]
      (by decide +kernel))
    (by decide +kernel)
    (by decide +kernel : decodeClientFrame _ = some (.hello (Sample.helloFrame .join)))).mpr
    ⟨fun lost => absurd lost.2.2.1 (by decide), fun lost => absurd lost.1 (by decide +kernel)⟩

/-- The creator whose ACK is dropped is left open without its room. -/
theorem creator_left_open_without_room :
    ¬ ∀ server ws buf frame oracle,
        (machine Sample.config).Reachable Started EventMachine.Machine.anyStep server →
        (machine Sample.config).enabled server ⟨.message ws (.binary buf), oracle⟩ →
        decodeClientFrame buf = some (.hello frame) →
        server.Transactional
          ((machine Sample.config).step server ⟨.message ws (.binary buf), oracle⟩) ws
          (hexEncode frame.roomId) := by
  intro claimed
  have transactional :=
    claimed _ 0 _ (Sample.helloFrame .create) (Sample.helloInput 0 .create [0]).oracle
      (Sample.reachable_run [Sample.calmly .opens] (by decide +kernel))
      (by decide +kernel :
        (machine Sample.config).enabled _
          ⟨.message 0 (.binary ([msgHello] ++ (Sample.helloFrame .create).fields)), _⟩)
      (by decide +kernel)
  have closed :=
    transactional.remembered Sample.roomId 0 (.inr ⟨rfl, by decide +kernel, by decide +kernel⟩)
      (by decide +kernel)
  revert closed
  decide +kernel

end Unseen.Server
