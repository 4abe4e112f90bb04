import Mathlib.Algebra.Order.Ring.Rat
import Unseen.Hex
import Unseen.OrderedMap
import Unseen.Wire

namespace Unseen.Server

/-!
# The room registry

A room has two slots for connections, a state and two timestamps.  The
registry maps room ids to rooms in the order in which the rooms were created.
-/

/-- A connection: each upgraded WebSocket is a new one. -/
abbrev Conn := Nat

/-- A room id as the registry keeps it: the hexadecimal form of 16 bytes. -/
abbrev RoomId := Text

/-- A point in time, in milliseconds of `performance.now()`. -/
abbrev Millis := Rat

inductive RoomState where
  | waiting
  | paired
  | halfOpen
  deriving DecidableEq, Repr

/-- `members` is a history variable that no function reads: every connection
that entered one of the slots, in order. -/
structure Room where
  roomId : RoomId
  initiator : Option Conn
  joiner : Option Conn
  state : RoomState
  createdAtMs : Millis
  lastActivityAtMs : Millis
  members : List Conn
  deriving DecidableEq, Repr

inductive RemoveResult where
  | halfOpen
  | closed
  deriving DecidableEq, Repr

namespace Room

/-- The connection in the slot of a role. -/
def slot (room : Room) : Role → Option Conn
  | .initiator => room.initiator
  | .joiner => room.joiner

/-- The connection occupies one of the slots. -/
def Holds (room : Room) (ws : Conn) : Prop :=
  room.initiator = some ws ∨ room.joiner = some ws

instance (room : Room) (ws : Conn) : Decidable (room.Holds ws) :=
  inferInstanceAs (Decidable (_ ∨ _))

/-- `room.initiator ?? room.joiner` -/
def remaining (room : Room) : Option Conn :=
  room.initiator <|> room.joiner

def hasFreeSlot (room : Room) : Bool :=
  room.initiator.isNone || room.joiner.isNone

/-- `addPeer`: the role of the slot taken, or nothing when the room is full. -/
def addPeer (room : Room) (ws : Conn) (now : Millis) : Option Role × Room :=
  if room.initiator.isNone then
    (some .initiator,
      { room with
        initiator := some ws
        state := if room.joiner.isNone then .waiting else .paired
        lastActivityAtMs := now
        members := room.members ++ [ws] })
  else if room.joiner.isNone then
    (some .joiner,
      { room with
        joiner := some ws
        state := .paired
        lastActivityAtMs := now
        members := room.members ++ [ws] })
  else
    (none, room)

def getPeer (room : Room) (ws : Conn) : Option Conn :=
  if room.initiator = some ws then
    room.joiner
  else if room.joiner = some ws then
    room.initiator
  else
    none

/-- The slots of the room without a connection. -/
def vacate (room : Room) (ws : Conn) : Room :=
  { room with
    initiator := if room.initiator = some ws then none else room.initiator
    joiner := if room.joiner = some ws then none else room.joiner }

end Room

abbrev Registry := OrderedMap RoomId Room

namespace Registry

/-- The room that `create` registers. -/
def newRoom (roomId : RoomId) (initiator : Conn) (now : Millis) : Room where
  roomId
  initiator := some initiator
  joiner := none
  state := .waiting
  createdAtMs := now
  lastActivityAtMs := now
  members := [initiator]

def create (rooms : Registry) (roomId : RoomId) (initiator : Conn) (now : Millis) :
    Registry :=
  OrderedMap.set rooms roomId (newRoom roomId initiator now)

/-- `remove`, with the room object it leaves behind. -/
def remove (rooms : Registry) (room : Room) (ws : Conn) (now : Millis) :
    RemoveResult × Room × Registry :=
  let room := room.vacate ws
  if room.initiator.isNone && room.joiner.isNone then
    (.closed, room, OrderedMap.erase rooms room.roomId)
  else
    let room := { room with state := .halfOpen, lastActivityAtMs := now }
    (.halfOpen, room, OrderedMap.set rooms room.roomId room)

end Registry

/-! ## Slots -/

namespace Room

variable {room : Room} {ws other : Conn} {now : Millis} {role : Role}

theorem holds_iff_slot : room.Holds ws ↔ ∃ role, room.slot role = some ws := by
  constructor
  · rintro (isInitiator | isJoiner)
    · exact ⟨.initiator, isInitiator⟩
    · exact ⟨.joiner, isJoiner⟩
  · rintro ⟨role, isSlot⟩
    cases role with
    | initiator => exact .inl isSlot
    | joiner => exact .inr isSlot

theorem holds_of_remaining (remains : room.remaining = some ws) : room.Holds ws := by
  unfold remaining at remains
  cases isInitiator : room.initiator with
  | none =>
      rw [isInitiator] at remains
      exact .inr remains
  | some initiator =>
      rw [isInitiator] at remains
      exact .inl (isInitiator.trans remains)

/-- Vacating empties the slots of one connection and leaves the others. -/
theorem slot_vacate :
    (room.vacate ws).slot role = some other ↔ room.slot role = some other ∧ other ≠ ws := by
  cases role
  all_goals
    simp only [vacate, slot]
    split
    next same =>
      rw [same]
      simp only [reduceCtorEq, Option.some.injEq, false_iff, not_and, not_not]
      exact Eq.symm
    next different =>
      constructor
      · rintro isSlot
        refine ⟨isSlot, ?_⟩
        rintro rfl
        exact different isSlot
      · exact And.left

theorem holds_vacate : (room.vacate ws).Holds other ↔ room.Holds other ∧ other ≠ ws := by
  simp only [holds_iff_slot, slot_vacate, exists_and_right]

/-- What `addPeer` does when it finds a free slot. -/
theorem addPeer_eq_some (added : (room.addPeer ws now).1 = some role) :
    room.slot role = none ∧
      (room.addPeer ws now).2.slot role = some ws ∧
      (room.addPeer ws now).2.slot role.peer = room.slot role.peer ∧
      (room.addPeer ws now).2.roomId = room.roomId ∧
      (room.addPeer ws now).2.createdAtMs = room.createdAtMs ∧
      (room.addPeer ws now).2.members = room.members ++ [ws] ∧
      (room.addPeer ws now).2.state =
        if (room.slot role.peer).isNone ∧ role = .initiator then .waiting else .paired := by
  unfold addPeer at added ⊢
  split at added
  next isFree =>
    obtain rfl := Option.some.inj added
    rw [if_pos isFree]
    refine ⟨Option.isNone_iff_eq_none.mp isFree, rfl, rfl, rfl, rfl, rfl, ?_⟩
    simp [slot, Role.peer]
  next initiatorTaken =>
    split at added
    next isFree =>
      obtain rfl := Option.some.inj added
      rw [if_neg initiatorTaken, if_pos isFree]
      exact ⟨Option.isNone_iff_eq_none.mp isFree, rfl, rfl, rfl, rfl, rfl, by simp⟩
    next => cases added

theorem getPeer_eq_some (isPeer : room.getPeer ws = some other) :
    ∃ role, room.slot role = some ws ∧ room.slot role.peer = some other := by
  unfold getPeer at isPeer
  split at isPeer
  next isInitiator => exact ⟨.initiator, isInitiator, isPeer⟩
  next =>
    split at isPeer
    next isJoiner => exact ⟨.joiner, isJoiner, isPeer⟩
    next => cases isPeer

end Room

/-! ## Leaving a room -/

/-- The room a connection leaves behind if the other slot is occupied. -/
def Room.halfOpened (room : Room) (ws : Conn) (now : Millis) : Room :=
  { room.vacate ws with state := .halfOpen, lastActivityAtMs := now }

theorem Room.slot_halfOpened {room : Room} {ws other : Conn} {now : Millis} {role : Role} :
    (room.halfOpened ws now).slot role = some other ↔
      room.slot role = some other ∧ other ≠ ws := by
  rw [← Room.slot_vacate]
  cases role <;> rfl

theorem Room.holds_halfOpened {room : Room} {ws other : Conn} {now : Millis} :
    (room.halfOpened ws now).Holds other ↔ room.Holds other ∧ other ≠ ws := by
  simp only [Room.holds_iff_slot, Room.slot_halfOpened, exists_and_right]

namespace Registry

variable {rooms : Registry} {room left : Room} {ws : Conn} {now : Millis} {roomId : RoomId}

/-- `remove` deletes the room if nobody else is in it and marks it half open otherwise. -/
theorem remove_cases (rooms : Registry) (room : Room) (ws : Conn) (now : Millis) :
    ((∀ other, room.Holds other → other = ws) ∧
      Registry.remove rooms room ws now =
        (.closed, room.vacate ws, OrderedMap.erase rooms room.roomId)) ∨
    ((∃ other, room.Holds other ∧ other ≠ ws) ∧
      Registry.remove rooms room ws now =
        (.halfOpen, room.halfOpened ws now,
          OrderedMap.set rooms room.roomId (room.halfOpened ws now))) := by
  unfold Registry.remove
  by_cases empty : ((room.vacate ws).initiator.isNone && (room.vacate ws).joiner.isNone) = true
  · left
    simp only [if_pos empty]
    refine ⟨?_, rfl⟩
    intro other holds
    by_contra different
    rw [Bool.and_eq_true, Option.isNone_iff_eq_none, Option.isNone_iff_eq_none] at empty
    rcases Room.holds_vacate.mpr ⟨holds, different⟩ with isInitiator | isJoiner
    · rw [empty.1] at isInitiator
      cases isInitiator
    · rw [empty.2] at isJoiner
      cases isJoiner
  · right
    simp only [if_neg empty]
    refine ⟨?_, rfl⟩
    simp only [Bool.and_eq_true, Option.isNone_iff_eq_none, not_and_or] at empty
    rcases empty with noInitiator | noJoiner
    · obtain ⟨other, isInitiator⟩ := Option.ne_none_iff_exists'.mp noInitiator
      exact ⟨other, Room.holds_vacate.mp (.inl isInitiator)⟩
    · obtain ⟨other, isJoiner⟩ := Option.ne_none_iff_exists'.mp noJoiner
      exact ⟨other, Room.holds_vacate.mp (.inr isJoiner)⟩

theorem get_remove_other (different : roomId ≠ room.roomId) :
    OrderedMap.get (Registry.remove rooms room ws now).2.2 roomId =
      OrderedMap.get rooms roomId := by
  rcases remove_cases rooms room ws now with ⟨_, removed⟩ | ⟨_, removed⟩
  · rw [removed]
    exact OrderedMap.get_erase_other different
  · rw [removed]
    exact OrderedMap.get_set_other different

/-- What is registered under the id of the room a connection left. -/
theorem get_remove_self
    (found : OrderedMap.get (Registry.remove rooms room ws now).2.2 room.roomId = some left) :
    left = room.halfOpened ws now ∧ ∃ other, room.Holds other ∧ other ≠ ws := by
  rcases remove_cases rooms room ws now with ⟨_, removed⟩ | ⟨others, removed⟩
  · rw [removed] at found
    rw [show OrderedMap.get (OrderedMap.erase rooms room.roomId) room.roomId = none from
      OrderedMap.get_erase_self] at found
    cases found
  · rw [removed] at found
    rw [show OrderedMap.get (OrderedMap.set rooms room.roomId _) room.roomId = some _ from
      OrderedMap.get_set_self] at found
    exact ⟨(Option.some.inj found).symm, others⟩

/-- Every other occupant of a registered room still is in it. -/
theorem remove_keeps
    {kept : Room}
    {other : Conn}
    (registered : OrderedMap.get rooms room.roomId = some room)
    (found : OrderedMap.get rooms roomId = some kept)
    (holds : kept.Holds other)
    (different : other ≠ ws) :
    ∃ left, OrderedMap.get (Registry.remove rooms room ws now).2.2 roomId = some left ∧
      left.Holds other := by
  by_cases sameRoom : roomId = room.roomId
  · subst sameRoom
    rw [registered] at found
    obtain rfl := Option.some.inj found
    rcases remove_cases rooms room ws now with ⟨alone, _⟩ | ⟨_, removed⟩
    · exact absurd (alone other holds) different
    · refine ⟨room.halfOpened ws now, ?_, Room.holds_halfOpened.mpr ⟨holds, different⟩⟩
      rw [removed]
      exact OrderedMap.get_set_self
  · exact ⟨kept, (get_remove_other sameRoom).trans found, holds⟩

end Registry

end Unseen.Server
