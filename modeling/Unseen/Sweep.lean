import Unseen.RoomStates

namespace Unseen.Server

open Codec

/-!
# Exactness of the sweep

A sweep should remove the expired rooms, close their occupants and leave all
else alone, whether close callbacks run inside `ws.close` or later.  It does so
exactly if no expired room has an occupant beside the one that the sweep looks
at; a room that was marked half open while both of its members are in it loses
one of them, and forgets the other.
-/

/-! ## What a sweep should do -/

structure SweepOutcome where
  waitingExpired : Nat
  graceExpired : Nat
  deriving DecidableEq, Repr

namespace Room

/-- Waiting for longer than `INITIATOR_WAIT_TIMEOUT_MS`. -/
def WaitedOut (room : Room) (now : Millis) : Prop :=
  room.state = .waiting ∧ now - room.createdAtMs > initiatorWaitTimeoutMs

/-- Half open and idle for the grace period. -/
def GraceOver (config : Config) (room : Room) (now : Millis) : Prop :=
  room.state = .halfOpen ∧ now - room.lastActivityAtMs ≥ config.gracePeriodMs

instance (room : Room) (now : Millis) : Decidable (room.WaitedOut now) :=
  inferInstanceAs (Decidable (_ ∧ _))

instance (config : Config) (room : Room) (now : Millis) :
    Decidable (room.GraceOver config now) :=
  inferInstanceAs (Decidable (_ ∧ _))

def Expired (config : Config) (room : Room) (now : Millis) : Prop :=
  room.WaitedOut now ∨ room.GraceOver config now

instance (config : Config) (room : Room) (now : Millis) : Decidable (room.Expired config now) :=
  inferInstanceAs (Decidable (_ ∨ _))

def occupants (room : Room) : List Conn :=
  room.initiator.toList ++ room.joiner.toList

/-- What should be sent and closed when the room expires; the statuses of the sends are
left open. -/
def deeds (room : Room) : List Act :=
  if room.state = .waiting then
    room.occupants.map fun ws => .close ws 1000 .timeout
  else
    room.occupants.flatMap fun ws =>
      [.send ws encodePeerLeft .sent, .close ws 1000 .graceExpired]

/-- Nobody but the initiator waits, and nobody but one survivor is in a half-open room. -/
structure Lone (room : Room) : Prop where
  waiting : room.state = .waiting → room.joiner = none
  halfOpen : room.state = .halfOpen → room.initiator = none ∨ room.joiner = none

instance (room : Room) : Decidable room.Lone :=
  decidable_of_iff
    ((room.state = .waiting → room.joiner = none) ∧
      (room.state = .halfOpen → room.initiator = none ∨ room.joiner = none))
    ⟨fun lone => ⟨lone.1, lone.2⟩, fun lone => ⟨lone.waiting, lone.halfOpen⟩⟩

end Room

/-- An act, whatever became of a frame. -/
def Act.withoutStatus : Act → Act
  | .send ws frame _ => .send ws frame .sent
  | .close ws code reason => .close ws code reason

/-- The action hands a frame to a connection. -/
def Act.IsSend : Act → Prop
  | .send .. => True
  | .close .. => False

namespace State

/-- The counts of `sweepRooms`, after one more room. -/
def countSwept (config : Config) (server : State) (roomId : RoomId) (outcome : SweepOutcome) :
    SweepOutcome :=
  match server.rooms.get roomId with
  | none => outcome
  | some room =>
      if room.WaitedOut server.now then
        { outcome with waitingExpired := outcome.waitingExpired + 1 }
      else if room.GraceOver config server.now then
        { outcome with graceExpired := outcome.graceExpired + 1 }
      else
        outcome

/-- The loop of `sweepRooms`, over what is left of the rooms listed at its start. -/
def sweepListed (config : Config) : List RoomId → SweepOutcome × State → SweepOutcome × State
  | [], swept => swept
  | roomId :: rest, (outcome, server) =>
      sweepListed config rest
        (server.countSwept config roomId outcome, server.sweepRoom config roomId)

/-- `sweepRooms`, with the counts it returns. -/
def sweepCounted (config : Config) (server : State) : SweepOutcome × State :=
  sweepListed config server.rooms.keys (⟨0, 0⟩, server)

/-- A sweep removes exactly the expired rooms, closes their occupants, says PEER_LEFT
to survivors before that, leaves all else alone (the data of other connections included)
and counts what it removed; its state is that of `sweepRooms`. -/
structure SweepsExactly (config : Config) (server : State) : Prop where
  rooms : ∀ roomId, (server.sweepCounted config).2.rooms.get roomId =
    (server.rooms.get roomId).filter fun room => ¬ room.Expired config server.now
  acts : ∃ acts, (server.sweepCounted config).2.out = server.out ++ acts ∧
    acts.map Act.withoutStatus =
      (server.rooms.values.filter fun room => room.Expired config server.now).flatMap Room.deeds
  closed : ∀ roomId room ws, server.rooms.get roomId = some room →
    room.Expired config server.now → room.Holds ws →
      ((server.sweepCounted config).2.sockets ws).closed = true
  sockets : ∀ ws, (∀ roomId room, server.rooms.get roomId = some room →
    room.Expired config server.now → ¬ room.Holds ws) →
      (server.sweepCounted config).2.sockets ws = server.sockets ws
  data : ∀ ws, (∀ roomId room, server.rooms.get roomId = some room →
    room.Expired config server.now → ¬ room.Holds ws) →
      (server.sweepCounted config).2.data ws = server.data ws
  state : (server.sweepCounted config).2 = server.sweepRooms config
  outcome : (server.sweepCounted config).1 =
    ⟨server.rooms.values.countP fun room => room.WaitedOut server.now,
      server.rooms.values.countP fun room => room.GraceOver config server.now⟩

theorem sweepListed_state
    (config : Config)
    (roomIds : List RoomId)
    (outcome : SweepOutcome)
    (server : State) :
    (sweepListed config roomIds (outcome, server)).2 =
      roomIds.foldl (sweepRoom config) server := by
  induction roomIds generalizing outcome server with
  | nil => rfl
  | cons roomId rest ih => rw [sweepListed, ih, List.foldl_cons]

/-- The counts change nothing of what the sweep does. -/
theorem sweepCounted_state (config : Config) (server : State) :
    (server.sweepCounted config).2 = server.sweepRooms config :=
  sweepListed_state config server.rooms.keys ⟨0, 0⟩ server

/-! ## One close -/

section Closing

variable {server after : State} {ws : Conn} {room : Room}

/-- Closing a connection sends no more than frames, and none if it is alone in its
room. -/
theorem handleClose_sends (server : State) (ws : Conn) :
    ∃ sends, (server.handleClose ws).out = server.out ++ sends ∧
      (∀ action ∈ sends, action.IsSend) ∧
      ∀ room, (server.data ws).roomId.bind server.rooms.get = some room →
        (∀ other, room.Holds other → other = ws) → sends = [] := by
  have sameRoomId : ((server.clearHelloTimer ws).data ws).roomId = (server.data ws).roomId := by
    simp [clearHelloTimer, modifyData, data]
  unfold handleClose
  simp only [sameRoomId]
  cases isRoomId : (server.data ws).roomId with
  | none => exact ⟨[], (List.append_nil _).symm, by simp, fun _ _ _ => rfl⟩
  | some roomId =>
      have sameRooms : (server.clearHelloTimer ws).rooms = server.rooms := rfl
      have sameNow : (server.clearHelloTimer ws).now = server.now := rfl
      simp only [sameRooms, sameNow]
      cases isRoom : server.rooms.get roomId with
      | none => exact ⟨[], (List.append_nil _).symm, by simp, fun _ _ _ => rfl⟩
      | some room =>
          rcases Registry.remove_cases server.rooms room ws server.now with
            ⟨_, removed⟩ | ⟨⟨other, holds, different⟩, removed⟩
          · simp only [removed]
            exact ⟨[], (List.append_nil _).symm, by simp, fun _ _ _ => rfl⟩
          · have notAlone : ∀ found, (some roomId).bind server.rooms.get = some found →
                ¬ ∀ other, found.Holds other → other = ws := by
              intro found isFound alone
              rw [Option.bind_some, isRoom] at isFound
              cases isFound
              exact different (alone other holds)
            simp only [removed]
            split
            next =>
              exact ⟨[], (List.append_nil _).symm, by simp, fun _ _ _ => rfl⟩
            next remaining _ =>
              split
              next => exact ⟨[], (List.append_nil _).symm, by simp, fun _ _ _ => rfl⟩
              next =>
                refine ⟨[.send remaining peerDisconnectedFrame _], rfl, ?_, ?_⟩
                · intro action isAction
                  rw [List.mem_singleton.mp isAction]
                  trivial
                · intro found isFound alone
                  exact absurd alone (notAlone found isFound)

theorem closeCallback_sends (server : State) (ws : Conn) :
    ∃ sends, (server.closeCallback ws).out = server.out ++ sends ∧
      (∀ action ∈ sends, action.IsSend) ∧
      ∀ room, (server.data ws).roomId.bind server.rooms.get = some room →
        (∀ other, room.Holds other → other = ws) → sends = [] := by
  have sameData : ((server.modifySocket ws fun socket =>
      { socket with closed := true, closeRan := true }).data ws) = server.data ws := by
    rw [data, sockets_modifySocket_self, data]
  have ofHandle : ∀ marked : State, marked.data ws = server.data ws →
      marked.rooms = server.rooms → marked.out = server.out →
        ∃ sends, (marked.handleClose ws).out = server.out ++ sends ∧
          (∀ action ∈ sends, action.IsSend) ∧
          ∀ room, (server.data ws).roomId.bind server.rooms.get = some room →
            (∀ other, room.Holds other → other = ws) → sends = [] := by
    intro marked sameMarked sameRooms sameOut
    have out := handleClose_sends marked ws
    rwa [sameMarked, sameRooms, sameOut] at out
  unfold closeCallback
  dsimp only
  rw [sameData]
  split
  next => exact ofHandle _ sameData rfl rfl
  next => exact ofHandle _ sameData rfl rfl

/-- What closing an occupant of a room can change. -/
structure ClosedIn (server : State) (room : Room) (ws : Conn) (code : Nat)
    (reason : CloseReason) (after : State) : Prop where
  others : ∀ other, other ≠ room.roomId → after.rooms.get other = server.rooms.get other
  now : after.now = server.now
  sockets : ∀ other, other ≠ ws → after.sockets other = server.sockets other
  closed : (after.sockets ws).closed = true
  acts : ∃ sends, after.out = server.out ++ .close ws code reason :: sends ∧
    (∀ action ∈ sends, action.IsSend) ∧
    ((∀ other, room.Holds other → other = ws) → sends = [])

theorem close_closedIn
    (registered : server.rooms.get room.roomId = some room)
    (named : (server.data ws).roomId = some room.roomId)
    (code : Nat)
    (reason : CloseReason) :
    ClosedIn server room ws code reason (server.close ws code reason) := by
  have closingSockets : ∀ other, other ≠ ws →
      (server.closing ws code reason).sockets other = server.sockets other :=
    fun other isOther => sockets_modifySocket_other isOther
  rcases close_cases server ws code reason with later | ⟨_, _, atOnce⟩
  · rw [later]
    refine ⟨fun _ _ => rfl, rfl, closingSockets, ?_, ?_⟩
    · rw [closing, sockets_modifySocket_self]
    · exact ⟨[], rfl, by simp, fun _ => rfl⟩
  · rw [atOnce]
    have spec := closeCallback_spec (server.closing ws code reason) ws
    have sameNamed : ((server.closing ws code reason).data ws).roomId = some room.roomId := by
      rw [data_roomId_closing, named]
    have sameRooms : (server.closing ws code reason).rooms = server.rooms := rfl
    refine ⟨?_, spec.now, ?_, ?_, ?_⟩
    · intro other isOther
      rw [spec.rooms, leaveRoom, sameNamed, Option.bind_some, sameRooms, registered]
      exact Registry.get_remove_other isOther
    · intro other isOther
      rw [spec.sockets, sockets_modifySocket_other isOther]
      exact closingSockets other isOther
    · rw [spec.sockets, sockets_modifySocket_self]
      rfl
    · obtain ⟨sends, isOut, areSends, alone⟩ :=
        closeCallback_sends (server.closing ws code reason) ws
      refine ⟨sends, ?_, areSends, ?_⟩
      · rw [isOut, closing]
        exact List.append_assoc _ _ _
      · apply alone room
        rw [sameNamed, Option.bind_some, sameRooms, registered]

end Closing

end State

/-! ## One room -/

namespace Room

variable {config : Config} {room : Room} {ws : Conn} {now : Millis}

/-- The connection that the sweep closes when the room expires. -/
def closee (room : Room) : Option Conn :=
  if room.state = .waiting then room.initiator else room.remaining

theorem holds_of_closee (isClosee : room.closee = some ws) : room.Holds ws := by
  unfold closee at isClosee
  split at isClosee
  next => exact .inl isClosee
  next => exact holds_of_remaining isClosee

/-- Nobody is in a lone room but the connection that the sweep closes. -/
theorem Lone.occupants (lone : room.Lone) (expired : room.Expired config now) :
    room.occupants = room.closee.toList := by
  rcases expired with ⟨isWaiting, _⟩ | ⟨isHalfOpen, _⟩
  · rw [Room.occupants, closee, if_pos isWaiting, lone.waiting isWaiting]
    exact List.append_nil _
  · have notWaiting : room.state ≠ .waiting := by
      rw [isHalfOpen]
      decide
    rw [Room.occupants, closee, if_neg notWaiting, remaining]
    rcases lone.halfOpen isHalfOpen with noInitiator | noJoiner
    · rw [noInitiator]
      rfl
    · rw [noJoiner]
      cases room.initiator <;> rfl

theorem mem_occupants : ws ∈ room.occupants ↔ room.Holds ws := by
  simp only [occupants, List.mem_append, Option.mem_toList, Holds]

theorem Lone.closee
    (lone : room.Lone)
    (expired : room.Expired config now)
    (holds : room.Holds ws) :
    room.closee = some ws := by
  rw [← mem_occupants, lone.occupants expired] at holds
  exact Option.mem_toList.mp holds

end Room

namespace State

section Visiting

variable {config : Config} {server after : State} {roomId : RoomId} {room : Room} {ws : Conn}

/-- What the sweep does about an expired room. -/
structure Visited (server : State) (roomId : RoomId) (room : Room) (after : State) :
    Prop where
  gone : after.rooms.get roomId = none
  others : ∀ other, other ≠ roomId → after.rooms.get other = server.rooms.get other
  now : after.now = server.now
  sockets : ∀ ws, room.closee ≠ some ws → after.sockets ws = server.sockets ws
  closed : ∀ ws, room.closee = some ws → (after.sockets ws).closed = true
  acts : ∃ acts, after.out = server.out ++ acts ∧
    (∀ ws code reason, .close ws code reason ∈ acts → room.closee = some ws) ∧
    (room.Lone → acts.map Act.withoutStatus = room.deeds)

/-- An expired room without the connection that would be closed. -/
theorem visited_of_nobody
    (expired : room.Expired config server.now)
    (nobody : room.closee = none) :
    Visited server roomId room (server.delete roomId) where
  gone := OrderedMap.get_erase_self
  others _ := OrderedMap.get_erase_other
  now := rfl
  sockets _ _ := rfl
  closed ws isClosee := by
    rw [nobody] at isClosee
    cases isClosee
  acts := by
    refine ⟨[], (List.append_nil _).symm, by simp, ?_⟩
    intro lone
    have empty := lone.occupants expired
    rw [nobody] at empty
    rw [Room.deeds, empty]
    simp

/-- An expired room whose occupant is closed, after some frames. -/
theorem visited_of_close
    {before : State}
    {code : Nat}
    {reason : CloseReason}
    (closes : ClosedIn before room ws code reason after)
    (frames : List Act)
    (isId : room.roomId = roomId)
    (expired : room.Expired config server.now)
    (isClosee : room.closee = some ws)
    (rooms : before.rooms = server.rooms)
    (sockets : before.sockets = server.sockets)
    (now : before.now = server.now)
    (out : before.out = server.out ++ frames)
    (areFrames : ∀ action ∈ frames, action.IsSend)
    (deeds : room.Lone →
      (frames ++ [Act.close ws code reason]).map Act.withoutStatus = room.deeds) :
    Visited server roomId room (after.delete roomId) where
  gone := OrderedMap.get_erase_self
  others other isOther := by
    rw [delete, OrderedMap.get_erase_other isOther, closes.others other (isId ▸ isOther), rooms]
  now := closes.now.trans now
  sockets other notClosee := by
    have isOther : other ≠ ws := by
      rintro rfl
      exact notClosee isClosee
    rw [← sockets]
    exact closes.sockets other isOther
  closed other alsoClosee := by
    rw [isClosee] at alsoClosee
    exact Option.some.inj alsoClosee ▸ closes.closed
  acts := by
    obtain ⟨sends, isOut, areSends, alone⟩ := closes.acts
    refine ⟨frames ++ Act.close ws code reason :: sends, ?_, ?_, ?_⟩
    · change after.out = _
      rw [isOut, out, List.append_assoc]
    · intro other otherCode otherReason isClose
      rcases List.mem_append.mp isClose with isFrame | isClose
      · exact (areFrames _ isFrame).elim
      · rcases List.mem_cons.mp isClose with isIt | isSend
        · cases isIt
          exact isClosee
        · exact (areSends _ isSend).elim
    · intro lone
      rw [← deeds lone, alone]
      intro other holds
      have alsoClosee := lone.closee expired holds
      rw [isClosee] at alsoClosee
      exact (Option.some.inj alsoClosee).symm

theorem sweepRoom_eq (config : Config) (registered : server.rooms.get roomId = some room) :
    server.sweepRoom config roomId =
      if room.WaitedOut server.now then
        (match room.initiator with
          | none => server
          | some initiator => server.close initiator 1000 .timeout).delete roomId
      else if room.GraceOver config server.now then
        (match room.remaining with
          | none => server
          | some remaining =>
              (server.safeSend remaining encodePeerLeft).2.close remaining 1000
                .graceExpired).delete roomId
      else
        server := by
  simp only [sweepRoom, registered]
  rfl

theorem sweepRoom_of_fresh
    (registered : server.rooms.get roomId = some room)
    (isFresh : ¬ room.Expired config server.now) :
    server.sweepRoom config roomId = server := by
  obtain ⟨notWaited, notOver⟩ := not_or.mp isFresh
  rw [sweepRoom_eq config registered, if_neg notWaited, if_neg notOver]

theorem sweepRoom_of_expired
    (registered : server.rooms.get roomId = some room)
    (isId : room.roomId = roomId)
    (named : ∀ ws, room.Holds ws → (server.data ws).roomId = some roomId)
    (expired : room.Expired config server.now) :
    Visited server roomId room (server.sweepRoom config roomId) := by
  rw [sweepRoom_eq config registered]
  by_cases waited : room.WaitedOut server.now
  · rw [if_pos waited]
    have isClosee : room.closee = room.initiator := if_pos waited.1
    cases isInitiator : room.initiator with
    | none => exact visited_of_nobody expired (isClosee.trans isInitiator)
    | some initiator =>
        rw [isInitiator] at isClosee
        have isNamed := named initiator (Room.holds_of_closee isClosee)
        subst isId
        refine visited_of_close (close_closedIn registered isNamed _ _) [] rfl expired isClosee
          rfl rfl rfl (List.append_nil _).symm (by simp) ?_
        intro lone
        rw [Room.deeds, if_pos waited.1, lone.occupants expired, isClosee]
        rfl
  · have isOver : room.GraceOver config server.now := expired.resolve_left waited
    have notWaiting : room.state ≠ .waiting := by
      rw [isOver.1]
      decide
    rw [if_neg waited, if_pos isOver]
    have isClosee : room.closee = room.remaining := if_neg notWaiting
    cases isRemaining : room.remaining with
    | none => exact visited_of_nobody expired (isClosee.trans isRemaining)
    | some remaining =>
        rw [isRemaining] at isClosee
        have isNamed := named remaining (Room.holds_of_closee isClosee)
        subst isId
        have told : (server.safeSend remaining encodePeerLeft).2.rooms.get room.roomId =
            some room := registered
        have closes := close_closedIn told isNamed 1000 .graceExpired
        refine visited_of_close closes
          [.send remaining encodePeerLeft (server.safeSend remaining encodePeerLeft).1]
          rfl expired isClosee rfl rfl rfl rfl ?_ ?_
        · intro action isAction
          rw [List.mem_singleton.mp isAction]
          trivial
        · intro lone
          rw [Room.deeds, if_neg notWaiting, lone.occupants expired, isClosee]
          rfl

theorem countSwept_eq
    (registered : server.rooms.get roomId = some room)
    (outcome : SweepOutcome) :
    server.countSwept config roomId outcome =
      ⟨outcome.waitingExpired + if room.WaitedOut server.now then 1 else 0,
        outcome.graceExpired + if room.GraceOver config server.now then 1 else 0⟩ := by
  simp only [countSwept, registered]
  by_cases waited : room.WaitedOut server.now
  · have notOver : ¬ room.GraceOver config server.now := by
      rintro ⟨isHalfOpen, _⟩
      rw [waited.1] at isHalfOpen
      cases isHalfOpen
    simp only [if_pos waited, if_neg notOver, Nat.add_zero]
  · simp only [if_neg waited, Nat.add_zero]
    split
    next => rfl
    next => rfl

end Visiting

/-! ## All rooms listed -/

section Sweeping

variable {config : Config} {server after : State} {roomId : RoomId} {room : Room}
  {rest entries : List (RoomId × Room)}

/-- Rooms that are registered, and whose occupants name them. -/
structure Listed (server : State) (entries : List (RoomId × Room)) : Prop where
  distinct : (entries.map Prod.fst).Nodup
  registered : ∀ entry ∈ entries, server.rooms.get entry.1 = some entry.2
  ids : ∀ entry ∈ entries, entry.2.roomId = entry.1
  named : ∀ entry ∈ entries, ∀ ws, entry.2.Holds ws → (server.data ws).roomId = some entry.1

theorem Listed.tail (listed : Listed server ((roomId, room) :: rest)) : Listed server rest where
  distinct := (List.nodup_cons.mp listed.distinct).2
  registered entry isEntry := listed.registered entry (List.mem_cons_of_mem _ isEntry)
  ids entry isEntry := listed.ids entry (List.mem_cons_of_mem _ isEntry)
  named entry isEntry := listed.named entry (List.mem_cons_of_mem _ isEntry)

/-- The rooms listed behind a room are other rooms, with other occupants. -/
theorem Listed.different
    (listed : Listed server ((roomId, room) :: rest))
    {entry : RoomId × Room}
    (isEntry : entry ∈ rest) :
    entry.1 ≠ roomId ∧ ∀ ws, entry.2.Holds ws → room.closee ≠ some ws := by
  have isOther : entry.1 ≠ roomId := by
    intro same
    have isKey := List.mem_map_of_mem (f := Prod.fst) isEntry
    rw [same] at isKey
    exact (List.nodup_cons.mp listed.distinct).1 isKey
  refine ⟨isOther, ?_⟩
  intro ws holds isClosee
  have isNamed := listed.named entry (List.mem_cons_of_mem _ isEntry) ws holds
  rw [listed.named (roomId, room) List.mem_cons_self ws (Room.holds_of_closee isClosee)]
    at isNamed
  exact isOther (Option.some.inj isNamed).symm

theorem Listed.visited
    (listed : Listed server ((roomId, room) :: rest))
    (visited : Visited server roomId room after) :
    Listed after rest where
  distinct := listed.tail.distinct
  ids := listed.tail.ids
  registered entry isEntry := by
    rw [visited.others entry.1 (listed.different isEntry).1]
    exact listed.tail.registered entry isEntry
  named entry isEntry ws holds := by
    rw [data, visited.sockets ws ((listed.different isEntry).2 ws holds)]
    exact listed.tail.named entry isEntry ws holds

/-- What the sweep does about the rooms listed. -/
structure Swept (config : Config) (server : State) (entries : List (RoomId × Room))
    (outcome : SweepOutcome) (swept : SweepOutcome × State) : Prop where
  gone : ∀ entry ∈ entries, entry.2.Expired config server.now →
    swept.2.rooms.get entry.1 = none
  kept : ∀ roomId, (∀ entry ∈ entries, entry.2.Expired config server.now →
    entry.1 ≠ roomId) → swept.2.rooms.get roomId = server.rooms.get roomId
  sockets : ∀ ws, (∀ entry ∈ entries, entry.2.Expired config server.now →
    entry.2.closee ≠ some ws) → swept.2.sockets ws = server.sockets ws
  closed : ∀ entry ∈ entries, entry.2.Expired config server.now →
    ∀ ws, entry.2.closee = some ws → (swept.2.sockets ws).closed = true
  acts : ∃ acts, swept.2.out = server.out ++ acts ∧
    (∀ ws code reason, .close ws code reason ∈ acts →
      ∃ entry ∈ entries, entry.2.closee = some ws) ∧
    ((∀ entry ∈ entries, entry.2.Expired config server.now → entry.2.Lone) →
      acts.map Act.withoutStatus =
        ((entries.map Prod.snd).filter fun room => room.Expired config server.now).flatMap
          Room.deeds)
  outcome : swept.1 =
    ⟨outcome.waitingExpired +
        (entries.map Prod.snd).countP fun room => room.WaitedOut server.now,
      outcome.graceExpired +
        (entries.map Prod.snd).countP fun room => room.GraceOver config server.now⟩

theorem sweepListed_swept
    (listed : Listed server entries)
    (outcome : SweepOutcome) :
    Swept config server entries outcome
      (sweepListed config (entries.map Prod.fst) (outcome, server)) := by
  induction entries generalizing server outcome with
  | nil =>
      refine ⟨by simp, fun _ _ => rfl, fun _ _ => rfl, by simp, ?_, rfl⟩
      exact ⟨[], (List.append_nil _).symm, by simp, fun _ => rfl⟩
  | cons entry rest ih =>
      obtain ⟨roomId, room⟩ := entry
      have registered := listed.registered (roomId, room) List.mem_cons_self
      have counted : server.countSwept config roomId outcome = _ := countSwept_eq registered outcome
      rw [List.map_cons, sweepListed]
      by_cases expired : room.Expired config server.now
      · have visited := sweepRoom_of_expired registered
          (listed.ids (roomId, room) List.mem_cons_self)
          (listed.named (roomId, room) List.mem_cons_self) expired
        have swept := ih (listed.visited visited) (server.countSwept config roomId outcome)
        generalize server.sweepRoom config roomId = after at *
        generalize sweepListed config _ _ = result at *
        obtain ⟨gone, kept, sockets, closed, ⟨acts, isOut, closes, deeds⟩, counts⟩ := swept
        rw [visited.now] at gone kept sockets closed deeds counts
        obtain ⟨first, isFirst, firstCloses, firstDeeds⟩ := visited.acts
        refine ⟨?_, ?_, ?_, ?_, ⟨first ++ acts, ?_, ?_, ?_⟩, ?_⟩
        · intro entry isEntry isExpired
          rcases List.mem_cons.mp isEntry with rfl | isLater
          · rw [kept roomId (fun later isLater _ => (listed.different isLater).1)]
            exact visited.gone
          · exact gone entry isLater isExpired
        · intro other notExpired
          have isOther := notExpired (roomId, room) List.mem_cons_self expired
          rw [kept other fun later isLater => notExpired later (List.mem_cons_of_mem _ isLater)]
          exact visited.others other (Ne.symm isOther)
        · intro ws notClosee
          rw [sockets ws fun later isLater => notClosee later (List.mem_cons_of_mem _ isLater)]
          exact visited.sockets ws (notClosee (roomId, room) List.mem_cons_self expired)
        · intro entry isEntry isExpired ws isClosee
          rcases List.mem_cons.mp isEntry with rfl | isLater
          · rw [sockets ws fun later isLater _ isLaterClosee =>
              (listed.different isLater).2 ws (Room.holds_of_closee isLaterClosee) isClosee]
            exact visited.closed ws isClosee
          · exact closed entry isLater isExpired ws isClosee
        · rw [isOut, isFirst, List.append_assoc]
        · intro ws code reason isClose
          rcases List.mem_append.mp isClose with isClose | isClose
          · exact ⟨(roomId, room), List.mem_cons_self, firstCloses ws code reason isClose⟩
          · obtain ⟨entry, isLater, isClosee⟩ := closes ws code reason isClose
            exact ⟨entry, List.mem_cons_of_mem _ isLater, isClosee⟩
        · intro areLone
          have isFirstListed := List.filter_cons_of_pos
            (p := fun room : Room => decide (room.Expired config server.now))
            (l := rest.map Prod.snd) (decide_eq_true expired)
          rw [List.map_append, firstDeeds (areLone (roomId, room) List.mem_cons_self expired),
            deeds fun later isLater => areLone later (List.mem_cons_of_mem _ isLater),
            List.map_cons, isFirstListed, List.flatMap_cons]
        · rw [counts, counted]
          simp only [List.map_cons, List.countP_cons, decide_eq_true_eq]
          congr 1 <;> omega
      · have swept := ih listed.tail (server.countSwept config roomId outcome)
        rw [sweepRoom_of_fresh registered expired]
        generalize sweepListed config _ _ = result at *
        obtain ⟨gone, kept, sockets, closed, ⟨acts, isOut, closes, deeds⟩, counts⟩ := swept
        refine ⟨?_, ?_, ?_, ?_, ⟨acts, isOut, ?_, ?_⟩, ?_⟩
        · intro entry isEntry isExpired
          rcases List.mem_cons.mp isEntry with rfl | isLater
          · exact absurd isExpired expired
          · exact gone entry isLater isExpired
        · intro other notExpired
          exact kept other fun later isLater => notExpired later (List.mem_cons_of_mem _ isLater)
        · intro ws notClosee
          exact sockets ws fun later isLater => notClosee later (List.mem_cons_of_mem _ isLater)
        · intro entry isEntry isExpired
          rcases List.mem_cons.mp isEntry with rfl | isLater
          · exact absurd isExpired expired
          · exact closed entry isLater isExpired
        · intro ws code reason isClose
          obtain ⟨entry, isLater, isClosee⟩ := closes ws code reason isClose
          exact ⟨entry, List.mem_cons_of_mem _ isLater, isClosee⟩
        · intro areLone
          have isLeftOut := List.filter_cons_of_neg
            (p := fun room : Room => decide (room.Expired config server.now))
            (l := rest.map Prod.snd) (fun isExpired => expired (of_decide_eq_true isExpired))
          rw [deeds fun later isLater => areLone later (List.mem_cons_of_mem _ isLater),
            List.map_cons, isLeftOut]
        · rw [counts, counted]
          simp only [List.map_cons, List.countP_cons, decide_eq_true_eq]
          congr 1 <;> omega

theorem Agree.listed (agree : Agree server) : Listed server server.rooms.entries where
  distinct := server.rooms.distinct
  registered _ isEntry := OrderedMap.get_eq_some_iff.mpr isEntry
  ids _ isEntry := agree.ids (OrderedMap.get_eq_some_iff.mpr isEntry)
  named _ isEntry ws holds := by
    obtain ⟨role, isSlot⟩ := Room.holds_iff_slot.mp holds
    exact (agree.occupant (OrderedMap.get_eq_some_iff.mpr isEntry) isSlot).roomId

theorem Agree.swept (config : Config) (agree : Agree server) :
    Swept config server server.rooms.entries ⟨0, 0⟩ (server.sweepCounted config) :=
  sweepListed_swept agree.listed ⟨0, 0⟩

end Sweeping

/-! ## Exactness -/

section Exactness

variable {config : Config} {server : State} {roomId : RoomId} {room : Room} {ws : Conn}

theorem Agree.sweepsExactly
    (agree : Agree server)
    (areLone : ∀ roomId room, server.rooms.get roomId = some room →
      room.Expired config server.now → room.Lone) :
    SweepsExactly config server := by
  obtain ⟨gone, kept, sockets, closed, ⟨acts, isOut, _, deeds⟩, counts⟩ := agree.swept config
  have untouched : ∀ ws, (∀ roomId room, server.rooms.get roomId = some room →
      room.Expired config server.now → ¬ room.Holds ws) →
        (server.sweepCounted config).2.sockets ws = server.sockets ws := by
    intro ws outside
    apply sockets
    intro entry isEntry expired isClosee
    exact outside entry.1 entry.2 (OrderedMap.get_eq_some_iff.mpr isEntry) expired
      (Room.holds_of_closee isClosee)
  refine ⟨?_, ⟨acts, isOut, ?_⟩, ?_, untouched, ?_, sweepCounted_state config server, ?_⟩
  · intro roomId
    cases isRoom : server.rooms.get roomId with
    | none =>
        rw [kept roomId, isRoom]
        · rfl
        · rintro entry isEntry _ rfl
          rw [OrderedMap.get_eq_some_iff.mpr isEntry] at isRoom
          cases isRoom
    | some room =>
        by_cases expired : room.Expired config server.now
        · rw [gone (roomId, room) (OrderedMap.get_eq_some_iff.mp isRoom) expired]
          simp [Option.filter, expired]
        · rw [kept roomId, isRoom]
          · simp [Option.filter, expired]
          · rintro entry isEntry isExpired rfl
            rw [OrderedMap.get_eq_some_iff.mpr isEntry] at isRoom
            exact expired (Option.some.inj isRoom ▸ isExpired)
  · apply deeds
    intro entry isEntry
    exact areLone entry.1 entry.2 (OrderedMap.get_eq_some_iff.mpr isEntry)
  · intro roomId room ws isRoom expired holds
    exact closed (roomId, room) (OrderedMap.get_eq_some_iff.mp isRoom) expired ws
      ((areLone roomId room isRoom expired).closee expired holds)
  · intro ws outside
    rw [data, data, untouched ws outside]
  · simp only [counts, Nat.zero_add]
    rfl

theorem close_mem_deeds (holds : room.Holds ws) :
    ∃ code reason, .close ws code reason ∈ room.deeds := by
  rw [← Room.mem_occupants] at holds
  unfold Room.deeds
  split
  next => exact ⟨1000, .timeout, List.mem_map_of_mem holds⟩
  next =>
    refine ⟨1000, .graceExpired, List.mem_flatMap.mpr ⟨ws, holds, ?_⟩⟩
    exact List.mem_cons_of_mem _ List.mem_cons_self

/-- If the sweep is exact, it looks at every occupant of an expired room. -/
theorem SweepsExactly.closee
    (isExact : SweepsExactly config server)
    (agree : Agree server)
    (registered : server.rooms.get roomId = some room)
    (expired : room.Expired config server.now)
    (holds : room.Holds ws) :
    room.closee = some ws := by
  obtain ⟨acts, isOut, closes, _⟩ := (agree.swept config).acts
  obtain ⟨same, isSame, deeds⟩ := isExact.acts
  rw [isOut, List.append_cancel_left_eq] at isSame
  subst isSame
  obtain ⟨code, reason, isDeed⟩ := close_mem_deeds holds
  have isListed : room ∈ server.rooms.values.filter fun room => room.Expired config server.now :=
    List.mem_filter.mpr ⟨OrderedMap.mem_values_iff.mpr ⟨roomId, registered⟩,
      decide_eq_true expired⟩
  have isMade := List.mem_flatMap.mpr ⟨room, isListed, isDeed⟩
  rw [← deeds] at isMade
  obtain ⟨action, isAct, isClose⟩ := List.mem_map.mp isMade
  cases action with
  | send => cases isClose
  | close other otherCode otherReason =>
      cases isClose
      obtain ⟨entry, isEntry, isClosee⟩ := closes ws code reason isAct
      have alsoRegistered := OrderedMap.get_eq_some_iff.mpr isEntry
      obtain ⟨role, isSlot⟩ := Room.holds_iff_slot.mp holds
      obtain ⟨otherRole, isOtherSlot⟩ :=
        Room.holds_iff_slot.mp (Room.holds_of_closee isClosee)
      obtain ⟨sameRoom, _⟩ := agree.one_slot alsoRegistered isOtherSlot registered isSlot
      rw [sameRoom, registered] at alsoRegistered
      rw [Option.some.inj alsoRegistered]
      exact isClosee

/-- The two occupants of a room are different connections. -/
theorem Agree.distinct
    (agree : Agree server)
    (registered : server.rooms.get roomId = some room)
    (isInitiator : room.initiator = some ws) :
    room.joiner ≠ some ws := by
  intro isJoiner
  have sameSlot : roomId = roomId ∧ Role.initiator = Role.joiner :=
    agree.one_slot registered isInitiator registered isJoiner
  cases sameSlot.2

end Exactness

end State

/-- A sweep is exact if and only if nobody is in an expired room besides its waiting
initiator or the one survivor. -/
theorem sweep_exact_iff
    {config : Config}
    {server : State}
    (inv : State.Occupancy config server) :
    State.SweepsExactly config server ↔
      ∀ roomId room, server.rooms.get roomId = some room →
        room.Expired config server.now → room.Lone := by
  refine ⟨?_, inv.toAgree.sweepsExactly⟩
  intro isExact roomId room registered expired
  refine ⟨?_, ?_⟩
  · intro isWaiting
    by_contra someJoiner
    obtain ⟨joiner, isJoiner⟩ := Option.ne_none_iff_exists'.mp someJoiner
    have isClosee := isExact.closee inv.toAgree registered expired (.inr isJoiner)
    rw [Room.closee, if_pos isWaiting] at isClosee
    exact inv.toAgree.distinct registered isClosee isJoiner
  · intro isHalfOpen
    by_contra both
    obtain ⟨someInitiator, someJoiner⟩ := not_or.mp both
    obtain ⟨initiator, isInitiator⟩ := Option.ne_none_iff_exists'.mp someInitiator
    obtain ⟨joiner, isJoiner⟩ := Option.ne_none_iff_exists'.mp someJoiner
    have isClosee := isExact.closee inv.toAgree registered expired (.inr isJoiner)
    have notWaiting : room.state ≠ .waiting := by
      rw [isHalfOpen]
      decide
    rw [Room.closee, if_neg notWaiting, Room.remaining, isInitiator] at isClosee
    exact inv.toAgree.distinct registered (isInitiator.trans isClosee) isJoiner

namespace Sample

/-- The survivor of a pair stays alone for the whole grace period. -/
def abandonment : List Input :=
  pairing ++ [calmly (.closed 0), calmly (.elapse config.gracePeriodMs)]

/-- A foreign close marks the room of a pair half open, and the pair is quiet for the
grace period. -/
def mistakenGrace : List Input :=
  recreation ++ [calmly .opens, calmly (hello 2 .join), calmly (.closed 0),
    calmly (.elapse config.gracePeriodMs)]

end Sample

/-- A survivor is told and closed, and its room is forgotten. -/
theorem sweep_exact_of_abandonment :
    State.SweepsExactly Sample.config ((machine Sample.config).run Sample.start Sample.abandonment) := by
  apply (sweep_exact_iff (occupancy_of_reachable
    (Sample.reachable_run Sample.abandonment (by decide +kernel)))).mpr
  intro roomId room registered _
  have areLone : ∀ room ∈ ((machine Sample.config).run Sample.start Sample.abandonment).rooms.values,
      room.Lone := by
    decide +kernel
  exact areLone room (OrderedMap.mem_values_iff.mpr ⟨roomId, registered⟩)

/-- Of a quiet pair whose room was marked half open, one is closed; the other is left
open in a room that is forgotten. -/
theorem sweep_forgets_member :
    ¬ ∀ config server,
        (machine config).Reachable Started EventMachine.Machine.anyStep server →
          State.Occupancy config server → State.SweepsExactly config server := by
  intro claimed
  have reachable := Sample.reachable_run Sample.mistakenGrace (by decide +kernel)
  have isClosed := (claimed Sample.config _ reachable (occupancy_of_reachable reachable)).closed
    Sample.roomId (((Registry.newRoom Sample.roomId 1 0).addPeer 2 0).2.halfOpened 0 0) 2
    (by decide +kernel) (by decide +kernel) (by decide +kernel)
  revert isClosed
  decide +kernel

end Unseen.Server
