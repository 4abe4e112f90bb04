import Mathlib.Data.Finset.Card
import Mathlib.Data.Finset.Range
import Unseen.Server

namespace Unseen.Server

/-!
# Occupancy of the rooms

The registry, the data of the connections and the connection counter agree:
every room has an occupant, and every occupant is an admitted live connection
whose own data name the room and the slot.

The invariant is proved for the operations out of which handlers are
composed: bookkeeping on a connection, rooms that lose occupants or are
deleted, close callbacks, connections that enter a room or are opened.
-/

/-! ## What the elementary operations change -/

namespace State

variable {server : State} {ws other : Conn} {change : Socket → Socket}

@[simp]
theorem sockets_modifySocket_self :
    (server.modifySocket ws change).sockets ws = change (server.sockets ws) :=
  if_pos rfl

theorem sockets_modifySocket_other (different : other ≠ ws) :
    (server.modifySocket ws change).sockets other = server.sockets other :=
  if_neg different

/-- The registry once a connection left the room it names. -/
def leaveRoom (server : State) (ws : Conn) : Registry :=
  match (server.data ws).roomId.bind server.rooms.get with
  | none => server.rooms
  | some room => (Registry.remove server.rooms room ws server.now).2.2

/-- A connection whose close callback has run. -/
def shut (socket : Socket) : Socket :=
  { data := { socket.data with helloTimer := none }, closed := true, closeRan := true }

/-- What the close callback of a connection changes. -/
structure ClosedBy (server : State) (ws : Conn) (after : State) : Prop where
  rooms : after.rooms = server.leaveRoom ws
  sockets : after.sockets = (server.modifySocket ws shut).sockets
  opened : after.opened = server.opened
  openConnections :
    after.openConnections =
      server.openConnections - if (server.data ws).admitted then 1 else 0
  now : after.now = server.now

theorem handleClose_spec (server : State) (ws : Conn) :
    (server.handleClose ws).rooms = server.leaveRoom ws ∧
      (server.handleClose ws).sockets = (server.clearHelloTimer ws).sockets ∧
      (server.handleClose ws).opened = server.opened ∧
      (server.handleClose ws).openConnections = server.openConnections ∧
      (server.handleClose ws).now = server.now := by
  have sameRoomId : ((server.clearHelloTimer ws).data ws).roomId = (server.data ws).roomId := by
    simp [clearHelloTimer, modifyData, data]
  unfold handleClose leaveRoom
  simp only [sameRoomId]
  cases (server.data ws).roomId with
  | none => exact ⟨rfl, rfl, rfl, rfl, rfl⟩
  | some roomId =>
      have sameRooms : (server.clearHelloTimer ws).rooms = server.rooms := rfl
      simp only [Option.bind_some, sameRooms]
      cases server.rooms.get roomId with
      | none => exact ⟨rfl, rfl, rfl, rfl, rfl⟩
      | some room =>
          have sameNow : (server.clearHelloTimer ws).now = server.now := rfl
          simp only [sameNow]
          generalize Registry.remove server.rooms room ws server.now = removed
          obtain ⟨result, left, rooms⟩ := removed
          cases result with
          | closed => exact ⟨rfl, rfl, rfl, rfl, rfl⟩
          | halfOpen =>
              cases left.remaining with
              | none => exact ⟨rfl, rfl, rfl, rfl, rfl⟩
              | some remaining =>
                  by_cases itself : remaining = ws
                  · refine ⟨?_, ?_, ?_, ?_, ?_⟩ <;> simp only [if_pos itself] <;> rfl
                  · refine ⟨?_, ?_, ?_, ?_, ?_⟩ <;> simp only [if_neg itself] <;> rfl

theorem closeCallback_spec (server : State) (ws : Conn) :
    ClosedBy server ws (server.closeCallback ws) := by
  unfold closeCallback
  generalize isMarked :
    server.modifySocket ws (fun socket => { socket with closed := true, closeRan := true }) =
      marked
  have sameData : marked.data ws = server.data ws := by
    rw [← isMarked, data, sockets_modifySocket_self, data]
  have sameRest :
      marked.rooms = server.rooms ∧ marked.opened = server.opened ∧
        marked.openConnections = server.openConnections ∧ marked.now = server.now := by
    rw [← isMarked]
    exact ⟨rfl, rfl, rfl, rfl⟩
  obtain ⟨sameRooms, sameOpened, sameCount, sameNow⟩ := sameRest
  have sameLeft : marked.leaveRoom ws = server.leaveRoom ws := by
    simp only [leaveRoom, sameData, sameRooms, sameNow]
  have sameSockets :
      (marked.clearHelloTimer ws).sockets = (server.modifySocket ws shut).sockets := by
    funext other
    by_cases itself : other = ws
    · subst itself
      simp [← isMarked, clearHelloTimer, modifyData, shut]
    · simp [← isMarked, clearHelloTimer, modifyData, sockets_modifySocket_other itself]
  cases isAdmitted : (server.data ws).admitted with
  | false =>
      have spec := handleClose_spec marked ws
      simp only [sameData, isAdmitted, Bool.false_eq_true, ↓reduceIte]
      constructor
      · rw [spec.1, sameLeft]
      · rw [spec.2.1, sameSockets]
      · rw [spec.2.2.1, sameOpened]
      · simp [spec.2.2.2.1, sameCount, isAdmitted]
      · rw [spec.2.2.2.2, sameNow]
  | true =>
      have spec :=
        handleClose_spec { marked with openConnections := marked.openConnections - 1 } ws
      simp only [sameData, isAdmitted, ↓reduceIte]
      constructor
      · exact spec.1.trans sameLeft
      · exact spec.2.1.trans sameSockets
      · rw [spec.2.2.1, sameOpened]
      · exact spec.2.2.2.1.trans (by simp [sameCount, isAdmitted])
      · rw [spec.2.2.2.2, sameNow]

/-! ## The invariant -/

/-- An admitted connection whose close callback has not run. -/
def Live (server : State) (ws : Conn) : Prop :=
  (server.data ws).admitted = true ∧ (server.sockets ws).closeRan = false

instance (server : State) (ws : Conn) : Decidable (server.Live ws) :=
  inferInstanceAs (Decidable (_ ∧ _))

/-- The opened connections that are live. -/
def liveConnections (server : State) : Finset Conn :=
  (Finset.range server.opened).filter server.Live

/-- A live connection whose own data name a room and a slot. -/
structure Occupant (server : State) (ws : Conn) (roomId : RoomId) (role : Role) : Prop where
  opened : ws < server.opened
  live : server.Live ws
  roomId : (server.data ws).roomId = some roomId
  role : (server.data ws).role = some role
  entered : (server.data ws).state ≠ .pendingHello

/-- Every room has an occupant, and its occupants agree that they are in it. -/
structure Agree (server : State) : Prop where
  ids : ∀ {roomId room}, server.rooms.get roomId = some room → room.roomId = roomId
  occupied : ∀ {roomId room}, server.rooms.get roomId = some room → ∃ ws, room.Holds ws
  occupant : ∀ {roomId room role ws},
    server.rooms.get roomId = some room → room.slot role = some ws →
      server.Occupant ws roomId role

/-- Registry, connections and counter agree. -/
structure Occupancy (config : Config) (server : State) : Prop extends Agree server where
  admitted : ∀ {ws}, ws < server.opened → (server.sockets ws).closed = false →
    (server.data ws).admitted = true
  closing : ∀ {ws}, ws < server.opened → (server.sockets ws).closeRan = true →
    (server.sockets ws).closed = true
  pending : ∀ {ws}, ws < server.opened → (server.data ws).state = .pendingHello →
    (server.data ws).roomId = none
  counted : server.openConnections = server.liveConnections.card
  bounded : server.openConnections ≤ config.maxConnections

/-! ## Bookkeeping -/

/-- A change that leaves the admission and the place of a connection alone. -/
structure Calm (change : Socket → Socket) : Prop where
  roomId : ∀ socket, (change socket).data.roomId = socket.data.roomId
  role : ∀ socket, (change socket).data.role = socket.data.role
  admitted : ∀ socket, (change socket).data.admitted = socket.data.admitted
  closeRan : ∀ socket, (change socket).closeRan = socket.closeRan
  closed : ∀ socket, socket.closed = true → (change socket).closed = true
  state : ∀ socket, (change socket).data.state = .pendingHello →
    socket.data.state = .pendingHello
  paired : ∀ socket, socket.data.state = .paired → (change socket).data.state = .paired
  forwards : ∀ socket, socket.data.handshakeForwards ≤ (change socket).data.handshakeForwards

section Bookkeeping

variable (calm : Calm change)
include calm

theorem Calm.data_roomId : ((server.modifySocket ws change).data other).roomId =
    (server.data other).roomId := by
  by_cases itself : other = ws
  · subst itself
    rw [data, sockets_modifySocket_self, calm.roomId, data]
  · rw [data, sockets_modifySocket_other itself, data]

theorem Calm.live : (server.modifySocket ws change).Live other ↔ server.Live other := by
  by_cases itself : other = ws
  · subst itself
    rw [Live, data, sockets_modifySocket_self, calm.admitted, calm.closeRan, Live, data]
  · rw [Live, data, sockets_modifySocket_other itself, Live, data]

theorem Occupant.modifySocket
    {roomId : RoomId}
    {role : Role}
    (occupant : server.Occupant other roomId role) :
    (server.modifySocket ws change).Occupant other roomId role where
  opened := occupant.opened
  live := calm.live.mpr occupant.live
  roomId := calm.data_roomId.trans occupant.roomId
  role := by
    by_cases itself : other = ws
    · subst itself
      rw [data, sockets_modifySocket_self, calm.role]
      exact occupant.role
    · rw [data, sockets_modifySocket_other itself]
      exact occupant.role
  entered := by
    by_cases itself : other = ws
    · subst itself
      rw [data, sockets_modifySocket_self]
      exact fun isPending => occupant.entered (calm.state _ isPending)
    · rw [data, sockets_modifySocket_other itself]
      exact occupant.entered

theorem Occupancy.modifySocket
    {config : Config}
    (inv : Occupancy config server) :
    Occupancy config (server.modifySocket ws change) where
  ids := inv.ids
  occupied := inv.occupied
  occupant registered isSlot := (inv.occupant registered isSlot).modifySocket calm
  admitted := by
    intro other isOpened isOpen
    by_cases itself : other = ws
    · subst itself
      rw [sockets_modifySocket_self] at isOpen
      rw [data, sockets_modifySocket_self, calm.admitted]
      apply inv.admitted isOpened
      by_contra isClosed
      rw [Bool.not_eq_false] at isClosed
      rw [calm.closed _ isClosed] at isOpen
      cases isOpen
    · rw [sockets_modifySocket_other itself] at isOpen
      rw [data, sockets_modifySocket_other itself]
      exact inv.admitted isOpened isOpen
  closing := by
    intro other isOpened hasRun
    by_cases itself : other = ws
    · subst itself
      rw [sockets_modifySocket_self] at hasRun ⊢
      rw [calm.closeRan] at hasRun
      exact calm.closed _ (inv.closing isOpened hasRun)
    · rw [sockets_modifySocket_other itself] at hasRun ⊢
      exact inv.closing isOpened hasRun
  pending := by
    intro other isOpened isPending
    rw [calm.data_roomId]
    apply inv.pending isOpened
    by_cases itself : other = ws
    · subst itself
      rw [data, sockets_modifySocket_self] at isPending
      exact calm.state _ isPending
    · rw [data, sockets_modifySocket_other itself] at isPending
      exact isPending
  counted := by
    have same : (server.modifySocket ws change).liveConnections = server.liveConnections := by
      apply Finset.filter_congr
      intro other _
      exact calm.live
    rw [same]
    exact inv.counted
  bounded := inv.bounded

end Bookkeeping

/-! ## Rooms that shrink -/

/-- Every room left is an earlier room with some of its occupants. -/
def Shrinks (before after : Registry) : Prop :=
  ∀ roomId room, after.get roomId = some room →
    ∃ old, before.get roomId = some old ∧ room.roomId = old.roomId ∧
      ((∃ ws, old.Holds ws) → ∃ ws, room.Holds ws) ∧
      ∀ role ws, room.slot role = some ws → old.slot role = some ws

theorem shrinks_erase (rooms : Registry) (roomId : RoomId) :
    Shrinks rooms (OrderedMap.erase rooms roomId) := by
  intro other room found
  by_cases erased : other = roomId
  · subst erased
    rw [OrderedMap.get_erase_self] at found
    cases found
  · rw [OrderedMap.get_erase_other erased] at found
    exact ⟨room, found, rfl, id, fun _ _ => id⟩

theorem shrinks_remove
    {rooms : Registry}
    {room : Room}
    (registered : OrderedMap.get rooms room.roomId = some room)
    (ws : Conn)
    (now : Millis) :
    Shrinks rooms (Registry.remove rooms room ws now).2.2 := by
  intro roomId left found
  by_cases isRoom : roomId = room.roomId
  · subst isRoom
    obtain ⟨rfl, other, holds, different⟩ := Registry.get_remove_self found
    refine ⟨room, registered, rfl, ?_, ?_⟩
    · intro _
      exact ⟨other, Room.holds_halfOpened.mpr ⟨holds, different⟩⟩
    · intro role occupant isSlot
      exact (Room.slot_halfOpened.mp isSlot).1
  · rw [Registry.get_remove_other isRoom] at found
    exact ⟨left, found, rfl, id, fun _ _ => id⟩

theorem Agree.leaveRoom_shrinks
    (agree : Agree server)
    (ws : Conn) :
    Shrinks server.rooms (server.leaveRoom ws) := by
  unfold leaveRoom
  cases isRoom : (server.data ws).roomId.bind server.rooms.get with
  | none => exact fun _ room found => ⟨room, found, rfl, id, fun _ _ => id⟩
  | some room =>
      obtain ⟨roomId, _, registered⟩ := Option.bind_eq_some_iff.mp isRoom
      apply shrinks_remove
      rw [agree.ids registered]
      exact registered

/-- After leaving the room it names, an agreeing connection is in no room. -/
theorem Agree.not_holds_leaveRoom
    (agree : Agree server)
    {roomId : RoomId}
    {room : Room}
    (found : (server.leaveRoom ws).get roomId = some room) :
    ¬ room.Holds ws := by
  intro holds
  obtain ⟨role, isSlot⟩ := Room.holds_iff_slot.mp holds
  obtain ⟨old, registered, _, _, slots⟩ := agree.leaveRoom_shrinks ws roomId room found
  have occupant := agree.occupant registered (slots role ws isSlot)
  have isRoom : (server.data ws).roomId.bind server.rooms.get = some old := by
    rw [occupant.roomId, Option.bind_some, registered]
  rw [leaveRoom, isRoom] at found
  have isId := agree.ids registered
  subst isId
  obtain ⟨rfl, _⟩ := Registry.get_remove_self found
  exact (Room.slot_halfOpened.mp isSlot).2 rfl

theorem Agree.shrink
    (agree : Agree server)
    {rooms : Registry}
    (shrinks : Shrinks server.rooms rooms) :
    Agree { server with rooms } where
  ids := by
    intro roomId room found
    obtain ⟨old, registered, sameId, _⟩ := shrinks roomId room found
    exact sameId.trans (agree.ids registered)
  occupied := by
    intro roomId room found
    obtain ⟨old, registered, _, stays, _⟩ := shrinks roomId room found
    exact stays (agree.occupied registered)
  occupant := by
    intro roomId room role ws found isSlot
    obtain ⟨old, registered, _, _, slots⟩ := shrinks roomId room found
    exact { agree.occupant registered (slots role ws isSlot) with }

theorem Occupancy.shrink
    {config : Config}
    (inv : Occupancy config server)
    {rooms : Registry}
    (shrinks : Shrinks server.rooms rooms) :
    Occupancy config { server with rooms } :=
  { inv.toAgree.shrink shrinks, inv with }

/-! ## Closing -/

/-- A closed connection no longer counts. -/
theorem ClosedBy.liveConnections
    {after : State}
    (closes : ClosedBy server ws after) :
    after.liveConnections = server.liveConnections.erase ws := by
  ext other
  simp only [State.liveConnections, Finset.mem_erase, Finset.mem_filter, Finset.mem_range,
    closes.opened, Live, data, closes.sockets]
  by_cases itself : other = ws
  · subst itself
    simp [shut]
  · rw [sockets_modifySocket_other itself]
    simp [itself]

theorem Occupancy.closed
    {config : Config}
    {after : State}
    (inv : Occupancy config server)
    (isOpened : ws < server.opened)
    (notRun : (server.sockets ws).closeRan = false)
    (closes : ClosedBy server ws after) :
    Occupancy config after where
  ids := by
    intro roomId room found
    rw [closes.rooms] at found
    exact (inv.toAgree.shrink (inv.toAgree.leaveRoom_shrinks ws)).ids found
  occupied := by
    intro roomId room found
    rw [closes.rooms] at found
    exact (inv.toAgree.shrink (inv.toAgree.leaveRoom_shrinks ws)).occupied found
  occupant := by
    intro roomId room role other found isSlot
    rw [closes.rooms] at found
    have occupant := (inv.toAgree.shrink (inv.toAgree.leaveRoom_shrinks ws)).occupant found isSlot
    have different : other ≠ ws := by
      rintro rfl
      exact inv.toAgree.not_holds_leaveRoom found (Room.holds_iff_slot.mpr ⟨role, isSlot⟩)
    have sameSocket : after.sockets other = server.sockets other := by
      rw [closes.sockets, sockets_modifySocket_other different]
    constructor
    · rw [closes.opened]
      exact occupant.opened
    · rw [Live, data, sameSocket]
      exact occupant.live
    · rw [data, sameSocket]
      exact occupant.roomId
    · rw [data, sameSocket]
      exact occupant.role
    · rw [data, sameSocket]
      exact occupant.entered
  admitted := by
    intro other isOpenedToo isOpen
    rw [closes.opened] at isOpenedToo
    rw [closes.sockets] at isOpen
    rw [data, closes.sockets]
    by_cases itself : other = ws
    · subst itself
      simp [shut] at isOpen
    · rw [sockets_modifySocket_other itself] at isOpen ⊢
      exact inv.admitted isOpenedToo isOpen
  closing := by
    intro other isOpenedToo hasRun
    rw [closes.opened] at isOpenedToo
    rw [closes.sockets] at hasRun ⊢
    by_cases itself : other = ws
    · subst itself
      rw [sockets_modifySocket_self]
      rfl
    · rw [sockets_modifySocket_other itself] at hasRun ⊢
      exact inv.closing isOpenedToo hasRun
  pending := by
    intro other isOpenedToo isPending
    rw [closes.opened] at isOpenedToo
    rw [data, closes.sockets] at isPending ⊢
    by_cases itself : other = ws
    · subst itself
      rw [sockets_modifySocket_self] at isPending ⊢
      exact inv.pending isOpened isPending
    · rw [sockets_modifySocket_other itself] at isPending ⊢
      exact inv.pending isOpenedToo isPending
  counted := by
    rw [closes.liveConnections, closes.openConnections]
    cases isAdmitted : (server.data ws).admitted with
    | true =>
        have isLive : ws ∈ server.liveConnections := by
          simp [State.liveConnections, isOpened, Live, isAdmitted, notRun]
        have someLive := Finset.card_pos.mpr ⟨ws, isLive⟩
        rw [Finset.card_erase_of_mem isLive, inv.counted, if_pos rfl]
        omega
    | false =>
        have notLive : ws ∉ server.liveConnections := by
          simp [State.liveConnections, Live, isAdmitted]
        rw [Finset.erase_eq_of_notMem notLive, inv.counted]
        simp
  bounded := by
    rw [closes.openConnections]
    have bound := inv.bounded
    split <;> omega

/-! ## Entering a room -/

/-- A connection that may enter a room: open, admitted and in no room. -/
structure Newcomer (server : State) (ws : Conn) : Prop where
  opened : ws < server.opened
  live : server.Live ws
  pending : (server.data ws).state = .pendingHello

/-- A newcomer occupies no slot. -/
theorem Newcomer.not_occupant
    {roomId : RoomId}
    {role : Role}
    (newcomer : server.Newcomer ws)
    (occupant : server.Occupant other roomId role) :
    other ≠ ws := by
  rintro rfl
  exact occupant.entered newcomer.pending

theorem data_enter_self {roomId : RoomId} {state : ConnectionState} {role : Role} :
    (server.enter ws roomId state role).data ws =
      { server.data ws with roomId := some roomId, state, role := some role } := by
  rw [enter, modifyData, data, sockets_modifySocket_self, data]

theorem sockets_enter_other
    {roomId : RoomId}
    {state : ConnectionState}
    {role : Role}
    (different : other ≠ ws) :
    (server.enter ws roomId state role).sockets other = server.sockets other := by
  rw [enter, modifyData, sockets_modifySocket_other different]

/-- A room is registered in which the newcomer has the slot of its role, and
every other occupant had its slot before. -/
theorem Occupancy.enter
    {config : Config}
    {roomId : RoomId}
    {room : Room}
    {state : ConnectionState}
    {role : Role}
    (inv : Occupancy config server)
    (newcomer : server.Newcomer ws)
    (isId : room.roomId = roomId)
    (hasSlot : room.slot role = some ws)
    (others : ∀ otherRole other, room.slot otherRole = some other → other = ws ∧ otherRole = role ∨
      server.Occupant other roomId otherRole)
    (entered : state ≠ .pendingHello) :
    Occupancy config
      ({ server with rooms := server.rooms.set roomId room }.enter ws roomId state role) := by
  generalize isAfter :
    { server with rooms := server.rooms.set roomId room }.enter ws roomId state role = after
  have rooms : after.rooms = server.rooms.set roomId room := by
    rw [← isAfter]
    rfl
  have opened : after.opened = server.opened := by
    rw [← isAfter]
    rfl
  have itself :
      after.data ws = { server.data ws with roomId := some roomId, state, role := some role } := by
    rw [← isAfter, data_enter_self]
    rfl
  have flags :
      (after.sockets ws).closed = (server.sockets ws).closed ∧
        (after.sockets ws).closeRan = (server.sockets ws).closeRan := by
    rw [← isAfter, State.enter, modifyData, sockets_modifySocket_self]
    exact ⟨rfl, rfl⟩
  have sameSocket : ∀ {other}, other ≠ ws → after.sockets other = server.sockets other := by
    intro other different
    rw [← isAfter, sockets_enter_other different]
  have sameData : ∀ {other}, other ≠ ws → after.data other = server.data other := by
    intro other different
    rw [data, sameSocket different, data]
  have live : ∀ {other}, after.Live other ↔ server.Live other := by
    intro other
    by_cases isNewcomer : other = ws
    · subst isNewcomer
      rw [Live, itself, flags.2, Live]
    · rw [Live, sameData isNewcomer, sameSocket isNewcomer, Live]
  have stays : ∀ {id otherRole other}, server.Occupant other id otherRole →
      after.Occupant other id otherRole := by
    intro id otherRole other occupant
    have same := sameData (newcomer.not_occupant occupant)
    constructor
    · exact opened ▸ occupant.opened
    · exact live.mpr occupant.live
    · rw [same]
      exact occupant.roomId
    · rw [same]
      exact occupant.role
    · rw [same]
      exact occupant.entered
  have takesSlot : after.Occupant ws roomId role := by
    constructor
    · exact opened ▸ newcomer.opened
    · exact live.mpr newcomer.live
    · rw [itself]
    · rw [itself]
    · rw [itself]
      exact entered
  have registered : ∀ {id found}, after.rooms.get id = some found →
      id = roomId ∧ found = room ∨ id ≠ roomId ∧ server.rooms.get id = some found := by
    intro id found isFound
    rw [rooms] at isFound
    by_cases isRoom : id = roomId
    · subst isRoom
      rw [OrderedMap.get_set_self] at isFound
      exact .inl ⟨rfl, (Option.some.inj isFound).symm⟩
    · rw [OrderedMap.get_set_other isRoom] at isFound
      exact .inr ⟨isRoom, isFound⟩
  constructor
  · constructor
    · intro id found isFound
      rcases registered isFound with ⟨rfl, rfl⟩ | ⟨_, before⟩
      · exact isId
      · exact inv.ids before
    · intro id found isFound
      rcases registered isFound with ⟨rfl, rfl⟩ | ⟨_, before⟩
      · exact ⟨ws, Room.holds_iff_slot.mpr ⟨role, hasSlot⟩⟩
      · exact inv.occupied before
    · intro id found otherRole other isFound isSlot
      rcases registered isFound with ⟨rfl, rfl⟩ | ⟨_, before⟩
      · rcases others otherRole other isSlot with ⟨rfl, rfl⟩ | occupant
        · exact takesSlot
        · exact stays occupant
      · exact stays (inv.occupant before isSlot)
  · intro other isOpened isOpen
    rw [opened] at isOpened
    by_cases isNewcomer : other = ws
    · subst isNewcomer
      rw [itself]
      exact newcomer.live.1
    · rw [sameSocket isNewcomer] at isOpen
      rw [sameData isNewcomer]
      exact inv.admitted isOpened isOpen
  · intro other isOpened hasRun
    rw [opened] at isOpened
    by_cases isNewcomer : other = ws
    · subst isNewcomer
      rw [flags.2, newcomer.live.2] at hasRun
      cases hasRun
    · rw [sameSocket isNewcomer] at hasRun ⊢
      exact inv.closing isOpened hasRun
  · intro other isOpened isPending
    rw [opened] at isOpened
    by_cases isNewcomer : other = ws
    · subst isNewcomer
      rw [itself] at isPending
      exact absurd isPending entered
    · rw [sameData isNewcomer] at isPending ⊢
      exact inv.pending isOpened isPending
  · have sameLive : after.liveConnections = server.liveConnections := by
      rw [State.liveConnections, opened]
      exact Finset.filter_congr fun other _ => live
    have sameCount : after.openConnections = server.openConnections := by
      rw [← isAfter]
      rfl
    rw [sameLive, sameCount]
    exact inv.counted
  · rw [← isAfter]
    exact inv.bounded

/-! ## Opening a connection -/

/-- The new connection has not been admitted or closed yet. -/
theorem Occupancy.opening
    {config : Config}
    (inv : Occupancy config server)
    {after : State}
    (rooms : after.rooms = server.rooms)
    (opened : after.opened = server.opened + 1)
    (count : after.openConnections = server.openConnections +
      if after.Live server.opened then 1 else 0)
    (bound : after.openConnections ≤ config.maxConnections)
    (others : ∀ {other}, other < server.opened → after.sockets other = server.sockets other)
    (admitted : (after.sockets server.opened).closed = false →
      (after.data server.opened).admitted = true)
    (closing : (after.sockets server.opened).closeRan = true →
      (after.sockets server.opened).closed = true)
    (roomless : (after.data server.opened).roomId = none) :
    Occupancy config after := by
  have sameData : ∀ {other}, other < server.opened → after.data other = server.data other := by
    intro other isOpened
    rw [data, others isOpened, data]
  have live : ∀ {other}, other < server.opened → (after.Live other ↔ server.Live other) := by
    intro other isOpened
    rw [Live, sameData isOpened, others isOpened, Live]
  have cases : ∀ {other}, other < after.opened → other = server.opened ∨ other < server.opened := by
    intro other isOpened
    rw [opened] at isOpened
    omega
  constructor
  · constructor
    · intro roomId room found
      rw [rooms] at found
      exact inv.ids found
    · intro roomId room found
      rw [rooms] at found
      exact inv.occupied found
    · intro roomId room role ws found isSlot
      rw [rooms] at found
      have occupant := inv.occupant found isSlot
      have same := sameData occupant.opened
      constructor
      · rw [opened]
        exact Nat.lt_succ_of_lt occupant.opened
      · exact (live occupant.opened).mpr occupant.live
      · rw [same]
        exact occupant.roomId
      · rw [same]
        exact occupant.role
      · rw [same]
        exact occupant.entered
  · intro other isOpened isOpen
    rcases cases isOpened with rfl | before
    · exact admitted isOpen
    · rw [others before] at isOpen
      rw [sameData before]
      exact inv.admitted before isOpen
  · intro other isOpened hasRun
    rcases cases isOpened with rfl | before
    · exact closing hasRun
    · rw [others before] at hasRun ⊢
      exact inv.closing before hasRun
  · intro other isOpened isPending
    rcases cases isOpened with rfl | before
    · exact roomless
    · rw [sameData before] at isPending ⊢
      exact inv.pending before isPending
  · have sameLive : (Finset.range server.opened).filter after.Live = server.liveConnections := by
      apply Finset.filter_congr
      intro other isOpened
      exact live (Finset.mem_range.mp isOpened)
    have afterLive :
        after.liveConnections =
          if after.Live server.opened then insert server.opened server.liveConnections
          else server.liveConnections := by
      rw [State.liveConnections, opened, Finset.range_add_one, Finset.filter_insert, sameLive]
    rw [count, inv.counted, afterLive]
    split
    next isLive =>
      rw [Finset.card_insert_of_notMem (by simp [State.liveConnections])]
      simp
    next => simp
  · exact bound

end State

end Unseen.Server
