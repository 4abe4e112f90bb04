import Mathlib.Logic.Relation
import Unseen.Occupancy

namespace Unseen.Server

open Codec

/-!
# Handlers as sequences of moves

Every handler is a sequence of a few kinds of moves, and each move is described
once, with what is known when it is made.  What all moves preserve, every
handler preserves.

Only one thing a handler does is not a move: it forwards a client's frame to
the client's peer.  A handler does so at most once.

Moves come in two strengths.  Strict moves run the close callback of a
connection only if the room registered under the id the connection carries is
not a foreign one.
-/

/-- The action hands a HANDSHAKE or RELAY frame to a connection. -/
def Act.Relays : Act → Prop
  | .send _ frame _ => frame.head? = some msgHandshake ∨ frame.head? = some msgRelay
  | .close .. => False

namespace State

/-- A room is registered under the id the connection carries, the connection
is not in it, and leaving it would change it. -/
def Foreign (server : State) (ws : Conn) : Prop :=
  ∃ room, (server.data ws).roomId.bind server.rooms.get = some room ∧ ¬ room.Holds ws ∧
    ¬ (room.state = .halfOpen ∧ room.lastActivityAtMs = server.now)

/-- The state in which `handleJoinOrResume` announces that a slot is taken. -/
def seatBeside
    (server : State)
    (ws remaining : Conn)
    (roomId : RoomId)
    (joined : Room)
    (slot : Role) : State :=
  ({ server with rooms := server.rooms.set roomId joined }.enter ws roomId .paired slot).modifyData
    remaining fun data => { data with state := .paired }

/-- One thing a handler does. -/
inductive Move (strict : Prop) (server : State) : State → Prop where
  | acts (oracle : Oracle) (actions : List Act) :
      (∀ action ∈ actions, ¬ action.Relays) →
      Move strict server { server with oracle, out := server.out ++ actions }
  | modify {change : Socket → Socket} (ws : Conn) :
      Calm change →
      Move strict server (server.modifySocket ws change)
  | delete (roomId : RoomId) :
      Move strict server (server.delete roomId)
  | remove (room : Room) (ws : Conn) :
      server.rooms.get room.roomId = some room →
      room.Holds ws →
      Move strict server
        { server with rooms := (Registry.remove server.rooms room ws server.now).2.2 }
  | callback (ws : Conn) :
      ws < server.opened →
      (server.sockets ws).closeRan = false →
      (strict → ¬ server.Foreign ws) →
      Move strict server (server.closeCallback ws)
  | create (ws : Conn) (roomId : RoomId) :
      server.Newcomer ws →
      server.rooms.get roomId = none →
      Move strict server
        ({ server with rooms := Registry.create server.rooms roomId ws server.now }.enter ws
          roomId .waitingForPeer .initiator)
  | join (ws remaining : Conn) {roomId : RoomId} {existing : Room} {role : Role} :
      server.Newcomer ws →
      server.rooms.get roomId = some existing →
      existing.slot role.peer = some remaining →
      (existing.addPeer ws server.now).1 = some role →
      Move strict server
        (server.seatBeside ws remaining roomId (existing.addPeer ws server.now).2 role)

variable {server after : State} {ws other : Conn} {strict : Prop}

/-- Any number of moves. -/
def Moves (strict : Prop) : State → State → Prop :=
  Relation.ReflTransGen (Move strict)

theorem Moves.refl : Moves strict server server :=
  Relation.ReflTransGen.refl

theorem Moves.trans
    {middle : State}
    (first : Moves strict server middle)
    (second : Moves strict middle after) :
    Moves strict server after :=
  Relation.ReflTransGen.trans first second

theorem Move.moves (move : Move strict server after) : Moves strict server after :=
  Relation.ReflTransGen.single move

/-- What every move preserves, any number of moves preserves. -/
theorem Moves.preserve
    {P : State → Prop}
    (preserved : ∀ {before next}, Move strict before next → P before → P next)
    (moves : Moves strict server after)
    (holds : P server) :
    P after := by
  induction moves with
  | refl => exact holds
  | tail _ move inductionHypothesis => exact preserved move inductionHypothesis

/-! ## Moves preserve occupancy -/

theorem calm_pairing :
    Calm fun socket => { socket with data := { socket.data with state := .paired } } where
  roomId _ := rfl
  role _ := rfl
  admitted _ := rfl
  closeRan _ := rfl
  closed _ := id
  state _ isPending := by cases isPending
  paired _ _ := rfl
  forwards _ := le_rfl

theorem safeSend_eq (frame : Bytes) :
    (server.safeSend ws frame).2 =
      { server with
        oracle := { server.oracle with sends := server.oracle.sends.tail }
        out := server.out ++ [.send ws frame (server.safeSend ws frame).1] } :=
  rfl

theorem Occupancy.move
    {config : Config}
    (move : Move strict server after)
    (inv : Occupancy config server) :
    Occupancy config after := by
  cases move with
  | acts oracle actions own =>
      exact { inv with occupant := fun registered isSlot =>
        { inv.occupant registered isSlot with } }
  | modify ws calm => exact inv.modifySocket calm
  | delete roomId => exact inv.shrink (shrinks_erase _ _)
  | remove room ws registered holds => exact inv.shrink (shrinks_remove registered _ _)
  | callback ws isOpened notRun own =>
      exact inv.closed isOpened notRun (closeCallback_spec server ws)
  | create ws roomId newcomer free =>
      refine inv.enter newcomer
        (rfl : (Registry.newRoom roomId ws server.now).roomId = roomId) rfl ?_ (by decide)
      intro otherRole other isSlot
      cases otherRole with
      | initiator => exact .inl ⟨(Option.some.inj isSlot).symm, rfl⟩
      | joiner => cases isSlot
  | @join ws remaining roomId existing role newcomer registered wasPeer added =>
      obtain ⟨_, taken, kept, sameId, _⟩ := Room.addPeer_eq_some added
      apply Occupancy.modifySocket calm_pairing
      refine inv.enter newcomer (sameId.trans (inv.ids registered)) taken ?_ (by decide)
      intro otherRole other isSlot
      by_cases isRole : otherRole = role
      · subst isRole
        rw [taken] at isSlot
        exact .inl ⟨(Option.some.inj isSlot).symm, rfl⟩
      · have isPeer : otherRole = role.peer := by
          cases otherRole <;> cases role <;> simp_all [Role.peer]
        subst isPeer
        rw [kept] at isSlot
        exact .inr (inv.occupant registered isSlot)

theorem Moves.occupancy
    {config : Config}
    (moves : Moves strict server after)
    (inv : Occupancy config server) :
    Occupancy config after :=
  moves.preserve (P := Occupancy config) Occupancy.move inv

/-! ## Frames of the server itself -/

/-- A frame that is neither a HANDSHAKE nor a RELAY. -/
def OwnFrame (frame : Bytes) : Prop :=
  ¬ (frame.head? = some msgHandshake ∨ frame.head? = some msgRelay)

instance (frame : Bytes) : Decidable (OwnFrame frame) :=
  inferInstanceAs (Decidable (¬ _))

theorem ownFrame_error (code : ErrorCode) : OwnFrame (encodeError code) := by
  rw [encodeError_eq]
  simp [OwnFrame, msgError, msgHandshake, msgRelay]

theorem ownFrame_ack (role : Role) : OwnFrame (encodeAck role) := by
  rw [encodeAck_eq]
  simp [OwnFrame, msgAck, msgHandshake, msgRelay]

theorem ownFrame_peerJoined : OwnFrame encodePeerJoined := by
  rw [encodePeerJoined, encodeSingleByteFrame_eq]
  simp [OwnFrame, msgPeerJoined, msgHandshake, msgRelay]

theorem ownFrame_peerLeft : OwnFrame encodePeerLeft := by
  rw [encodePeerLeft, encodeSingleByteFrame_eq]
  simp [OwnFrame, msgPeerLeft, msgHandshake, msgRelay]

theorem ownFrame_peerDisconnected : OwnFrame peerDisconnectedFrame := by
  decide +kernel

theorem moves_safeSend
    {frame : Bytes}
    (own : OwnFrame frame) :
    Moves strict server (server.safeSend ws frame).2 := by
  rw [safeSend_eq]
  apply Move.moves
  apply Move.acts
  intro action isAction
  rw [List.mem_singleton] at isAction
  rw [isAction]
  exact own

theorem moves_modifyData
    {change : ConnectionData → ConnectionData}
    (calm : Calm fun socket => { socket with data := change socket.data }) :
    Moves strict server (server.modifyData ws change) :=
  (Move.modify ws calm).moves

/-! ## Closing a connection -/

/-- The connection occupies a slot of the room it names. -/
def Seated (server : State) (ws : Conn) : Prop :=
  ∃ room, (server.data ws).roomId.bind server.rooms.get = some room ∧ room.Holds ws

theorem Seated.not_foreign (seated : server.Seated ws) : ¬ server.Foreign ws := by
  rintro ⟨other, isOther, outside, _⟩
  obtain ⟨room, isRoom, holds⟩ := seated
  rw [isRoom] at isOther
  obtain rfl := Option.some.inj isOther
  exact outside holds

theorem Seated.opened (agree : Agree server) (seated : server.Seated ws) :
    ws < server.opened := by
  obtain ⟨room, isRoom, holds⟩ := seated
  obtain ⟨roomId, _, registered⟩ := Option.bind_eq_some_iff.mp isRoom
  obtain ⟨role, isSlot⟩ := Room.holds_iff_slot.mp holds
  exact (agree.occupant registered isSlot).opened

/-- An occupant of a registered room is seated. -/
theorem Agree.seated
    (agree : Agree server)
    {roomId : RoomId}
    {room : Room}
    (registered : server.rooms.get roomId = some room)
    (holds : room.Holds ws) :
    server.Seated ws := by
  obtain ⟨role, isSlot⟩ := Room.holds_iff_slot.mp holds
  have occupant := agree.occupant registered isSlot
  exact ⟨room, by rw [occupant.roomId, Option.bind_some, registered], holds⟩

theorem foreign_congr
    (after server : State)
    (rooms : after.rooms = server.rooms)
    (now : after.now = server.now)
    (roomId : (after.data ws).roomId = (server.data ws).roomId) :
    after.Foreign ws ↔ server.Foreign ws := by
  rw [Foreign, rooms, now, roomId, Foreign]

theorem seated_congr
    (after server : State)
    (rooms : after.rooms = server.rooms)
    (roomId : (after.data ws).roomId = (server.data ws).roomId) :
    after.Seated ws ↔ server.Seated ws := by
  rw [Seated, rooms, roomId, Seated]

theorem calm_close : Calm fun socket => { socket with closed := true } where
  roomId _ := rfl
  role _ := rfl
  admitted _ := rfl
  closeRan _ := rfl
  closed _ _ := rfl
  state _ := id
  paired _ := id
  forwards _ := le_rfl

/-- The connection once `ws.close` marked it and before its callback. -/
def closing (server : State) (ws : Conn) (code : Nat) (reason : CloseReason) : State :=
  State.modifySocket
    { server with
      oracle := { server.oracle with closes := server.oracle.closes.tail }
      out := server.out ++ [.close ws code reason] }
    ws fun socket => { socket with closed := true }

theorem close_eq (server : State) (ws : Conn) (code : Nat) (reason : CloseReason) :
    server.close ws code reason =
      if server.oracle.closes.headD false = true ∧ (server.sockets ws).closeRan = false then
        (server.closing ws code reason).closeCallback ws
      else
        server.closing ws code reason := by
  have sameRan :
      ((server.closing ws code reason).sockets ws).closeRan = (server.sockets ws).closeRan := by
    rw [closing, sockets_modifySocket_self]
  have isClose :
      server.close ws code reason =
        if server.oracle.closes.headD false &&
            !((server.closing ws code reason).sockets ws).closeRan then
          (server.closing ws code reason).closeCallback ws
        else
          server.closing ws code reason :=
    rfl
  rw [isClose, sameRan]
  simp only [Bool.and_eq_true, Bool.not_eq_true']

/-- `ws.close` runs the callback at once, or leaves it for later. -/
theorem close_cases (server : State) (ws : Conn) (code : Nat) (reason : CloseReason) :
    server.close ws code reason = server.closing ws code reason ∨
    server.oracle.closes.headD false = true ∧
      (server.sockets ws).closeRan = false ∧
      server.close ws code reason = (server.closing ws code reason).closeCallback ws := by
  rw [close_eq]
  by_cases callsBack :
      server.oracle.closes.headD false = true ∧ (server.sockets ws).closeRan = false
  · rw [if_pos callsBack]
    exact .inr ⟨callsBack.1, callsBack.2, rfl⟩
  · rw [if_neg callsBack]
    exact .inl rfl

theorem moves_closing (code : Nat) (reason : CloseReason) :
    Moves strict server (server.closing ws code reason) := by
  apply Moves.trans
  · apply Move.moves
    apply Move.acts { server.oracle with closes := server.oracle.closes.tail }
      [.close ws code reason]
    intro action isAction
    rw [List.mem_singleton] at isAction
    rw [isAction]
    exact id
  · exact (Move.modify ws calm_close).moves

theorem data_roomId_closing (code : Nat) (reason : CloseReason) :
    ((server.closing ws code reason).data other).roomId = (server.data other).roomId :=
  calm_close.data_roomId

theorem moves_close
    (code : Nat)
    (reason : CloseReason)
    (isOpened : ws < server.opened)
    (own : strict → server.oracle.closes.headD false = true → ¬ server.Foreign ws) :
    Moves strict server (server.close ws code reason) := by
  rcases close_cases server ws code reason with later | ⟨sync, notRun, now⟩
  · rw [later]
    exact moves_closing code reason
  · rw [now]
    apply (moves_closing code reason).trans
    apply Move.moves
    apply Move.callback
    · exact isOpened
    · rw [closing, sockets_modifySocket_self]
      exact notRun
    · intro isStrict
      rw [foreign_congr (server.closing ws code reason) server rfl rfl
        (data_roomId_closing code reason)]
      exact own isStrict sync

theorem moves_sendErrorAndClose
    (code : ErrorCode)
    (isOpened : ws < server.opened)
    (own : strict → server.oracle.closes.headD false = true → ¬ server.Foreign ws) :
    Moves strict server (server.sendErrorAndClose ws code) :=
  (moves_safeSend (ownFrame_error code)).trans (moves_close _ _ isOpened own)

/-! ## Closing one connection leaves the others in their rooms -/

theorem seated_closeCallback
    (agree : Agree server)
    (seated : server.Seated other)
    (different : other ≠ ws) :
    (server.closeCallback ws).Seated other := by
  have closes := closeCallback_spec server ws
  have sameRoomId : ((server.closeCallback ws).data other).roomId = (server.data other).roomId := by
    rw [data, closes.sockets, sockets_modifySocket_other different, data]
  obtain ⟨room, isRoom, holds⟩ := seated
  obtain ⟨roomId, isId, registered⟩ := Option.bind_eq_some_iff.mp isRoom
  unfold Seated
  rw [sameRoomId, closes.rooms, isId, Option.bind_some]
  unfold leaveRoom
  cases left : (server.data ws).roomId.bind server.rooms.get with
  | none => exact ⟨room, registered, holds⟩
  | some leftRoom =>
      obtain ⟨leftId, _, leftRegistered⟩ := Option.bind_eq_some_iff.mp left
      have isLeftId := agree.ids leftRegistered
      subst isLeftId
      exact Registry.remove_keeps leftRegistered registered holds different

theorem Agree.closing
    (agree : Agree server)
    (code : Nat)
    (reason : CloseReason) :
    Agree (server.closing ws code reason) where
  ids := agree.ids
  occupied := agree.occupied
  occupant registered isSlot :=
    Occupant.modifySocket calm_close { agree.occupant registered isSlot with }

theorem seated_close
    (agree : Agree server)
    (seated : server.Seated other)
    (different : other ≠ ws)
    (code : Nat)
    (reason : CloseReason) :
    (server.close ws code reason).Seated other := by
  have still : (server.closing ws code reason).Seated other :=
    (seated_congr (server.closing ws code reason) server rfl
      (data_roomId_closing code reason)).mpr seated
  rcases close_cases server ws code reason with later | ⟨_, _, now⟩
  · rw [later]
    exact still
  · rw [now]
    exact seated_closeCallback (agree.closing code reason) still different

/-- Two connections are closed, and the second is seated until then. -/
theorem moves_closeBoth
    {config : Config}
    (inv : Occupancy config server)
    (isOpened : ws < server.opened)
    (notForeign : ¬ server.Foreign ws)
    (seated : server.Seated other)
    (different : other ≠ ws)
    (code : Nat)
    (reason : CloseReason) :
    Moves strict server ((server.close ws code reason).close other code reason) := by
  have closesFirst : Moves strict server (server.close ws code reason) :=
    moves_close code reason isOpened fun _ _ => notForeign
  have stays := seated_close inv.toAgree seated different code reason
  have isOpenedStill := stays.opened (closesFirst.occupancy inv).toAgree
  exact closesFirst.trans (moves_close code reason isOpenedStill fun _ _ => stays.not_foreign)

/-- Two seated connections get an error and are closed. -/
theorem moves_failBoth
    {config : Config}
    (inv : Occupancy config server)
    (seated : server.Seated ws)
    (alsoSeated : server.Seated other)
    (different : other ≠ ws)
    (code : ErrorCode) :
    Moves strict server
      ((server.sendErrorAndClose ws code).sendErrorAndClose other code) := by
  have fails : Moves strict server (server.safeSend ws (encodeError code)).2 :=
    moves_safeSend (ownFrame_error code)
  have closesFirst : Moves strict server (server.sendErrorAndClose ws code) :=
    moves_sendErrorAndClose code (seated.opened inv.toAgree) fun _ _ => seated.not_foreign
  have stays : (server.sendErrorAndClose ws code).Seated other :=
    seated_close (fails.occupancy inv).toAgree alsoSeated different _ _
  have isOpenedStill := stays.opened (closesFirst.occupancy inv).toAgree
  exact closesFirst.trans
    (moves_sendErrorAndClose code isOpenedStill fun _ _ => stays.not_foreign)

/-! ## HELLO -/

theorem Newcomer.not_foreign
    {config : Config}
    (inv : Occupancy config server)
    (newcomer : server.Newcomer ws) :
    ¬ server.Foreign ws := by
  rintro ⟨room, isRoom, _⟩
  rw [inv.pending newcomer.opened newcomer.pending] at isRoom
  cases isRoom

theorem moves_handleCreate
    {config : Config}
    {roomId : RoomId}
    (inv : Occupancy config server)
    (newcomer : server.Newcomer ws) :
    Moves strict server (server.handleCreate ws roomId) := by
  have refused : ∀ code, Moves strict server (server.sendErrorAndClose ws code) := fun code =>
    moves_sendErrorAndClose code newcomer.opened fun _ _ => newcomer.not_foreign inv
  unfold handleCreate
  split
  · exact refused _
  · split
    · exact refused _
    next taken =>
      have free : server.rooms.get roomId = none := by
        rw [← Option.not_isSome_iff_eq_none]
        exact taken
      have creates := (Move.create ws roomId newcomer free : Move strict server _).moves
      have announces := creates.trans
        (moves_safeSend (ownFrame_ack .initiator) :
          Moves strict _ (State.safeSend _ ws (encodeAck .initiator)).2)
      dsimp only
      split
      · exact announces.trans (Move.delete roomId).moves
      · exact announces

/-- The room is registered and holds both connections when they are told of
each other; whatever is dropped, each is seated when it is closed. -/
theorem moves_announce
    {config : Config}
    {existing : Room}
    {remaining : Conn}
    (inv : Occupancy config server)
    (registered : server.rooms.get existing.roomId = some existing)
    (holds : existing.Holds ws)
    (remains : existing.Holds remaining)
    (different : remaining ≠ ws)
    (slot : Role) :
    Moves strict server
      (server.announce ws existing.roomId existing (some remaining) slot) := by
  have seated := inv.toAgree.seated registered holds
  have seatedRemaining := inv.toAgree.seated registered remains
  have isOpened := seated.opened inv.toAgree
  have acknowledges : Moves strict server (server.safeSend ws (encodeAck slot)).2 :=
    moves_safeSend (ownFrame_ack slot)
  have isRoomId : (server.data ws).roomId = some existing.roomId := by
    obtain ⟨role, isSlot⟩ := Room.holds_iff_slot.mp holds
    exact (inv.occupant registered isSlot).roomId
  unfold announce
  simp only [if_neg different]
  split
  · have removes :
        Moves strict server
          { (server.safeSend ws (encodeAck slot)).2 with
            rooms := (Registry.remove server.rooms existing ws server.now).2.2 } :=
      acknowledges.trans (Move.moves (Move.remove existing ws registered holds))
    apply removes.trans
    apply Moves.trans _ (Move.delete existing.roomId).moves
    apply moves_closeBoth (removes.occupancy inv) isOpened _ _ different
    · rintro ⟨left, isLeft, _, changed⟩
      have found :
          OrderedMap.get (Registry.remove server.rooms existing ws server.now).2.2
            existing.roomId = some left := by
        rw [← isLeft]
        exact (congrArg
          (Option.bind · (Registry.remove server.rooms existing ws server.now).2.2.get)
          isRoomId).symm
      obtain ⟨rfl, _⟩ := Registry.get_remove_self found
      exact changed ⟨rfl, rfl⟩
    · obtain ⟨room, isRoom, holdsIt⟩ := seatedRemaining
      obtain ⟨roomId, isId, found⟩ := Option.bind_eq_some_iff.mp isRoom
      obtain ⟨left, isLeft, stays⟩ :=
        Registry.remove_keeps registered found holdsIt different
      exact ⟨left, Option.bind_eq_some_iff.mpr ⟨roomId, isId, isLeft⟩, stays⟩
  · have tells := acknowledges.trans
      (moves_safeSend ownFrame_peerJoined :
        Moves strict _ ((server.safeSend ws (encodeAck slot)).2.safeSend remaining _).2)
    split
    · apply tells.trans
      apply Moves.trans _ (Move.delete existing.roomId).moves
      exact moves_closeBoth (tells.occupancy inv) isOpened seated.not_foreign seatedRemaining
        different _ _
    · exact tells

theorem remaining_isSome {room : Room} (holds : room.Holds ws) :
    ∃ remaining, room.remaining = some remaining := by
  unfold Room.remaining
  rcases holds with isInitiator | isJoiner
  · exact ⟨ws, by rw [isInitiator]; rfl⟩
  · cases isInitiator : room.initiator with
    | none => exact ⟨ws, by rw [isJoiner]; rfl⟩
    | some initiator => exact ⟨initiator, rfl⟩

theorem calm_clearHelloTimer :
    Calm fun socket => { socket with data := { socket.data with helloTimer := none } } where
  roomId _ := rfl
  role _ := rfl
  admitted _ := rfl
  closeRan _ := rfl
  closed _ := id
  state _ := id
  paired _ := id
  forwards _ := le_rfl

/-- A newcomer takes the slot beside the one connection that is in the room. -/
structure Joins
    (server : State)
    (ws remaining : Conn)
    (roomId : RoomId)
    (existing joined : Room)
    (slot : Role) : Prop where
  remains : existing.remaining = some remaining
  different : remaining ≠ ws
  wasFree : existing.slot slot = none
  wasPeer : existing.slot slot.peer = some remaining
  isId : joined.roomId = roomId
  taken : joined.slot slot = some ws
  isPeer : joined.slot slot.peer = some remaining
  seats : ∀ {strict}, Moves strict server (server.seatBeside ws remaining roomId joined slot)

theorem Newcomer.joins
    {config : Config}
    {roomId : RoomId}
    {existing joined : Room}
    {slot : Role}
    (inv : Occupancy config server)
    (newcomer : server.Newcomer ws)
    (registered : server.rooms.get roomId = some existing)
    (added : existing.addPeer ws server.now = (some slot, joined)) :
    ∃ remaining, Joins server ws remaining roomId existing joined slot := by
  have isSlot : (existing.addPeer ws server.now).1 = some slot := by rw [added]
  obtain ⟨wasFree, taken, kept, sameId, _⟩ := Room.addPeer_eq_some isSlot
  obtain ⟨someone, someoneHolds⟩ := inv.occupied registered
  obtain ⟨remaining, isRemaining⟩ := remaining_isSome someoneHolds
  obtain ⟨otherRole, isOther⟩ := Room.holds_iff_slot.mp (Room.holds_of_remaining isRemaining)
  have isPeer : otherRole = slot.peer := by
    cases otherRole <;> cases slot <;> simp_all [Role.peer]
  subst isPeer
  have seats : ∀ {strict}, Moves strict server _ := fun {strict} =>
    (Move.join ws remaining newcomer registered isOther isSlot : Move strict server _).moves
  rw [added] at seats taken kept sameId
  exact ⟨remaining,
    { remains := isRemaining
      different := newcomer.not_occupant (inv.occupant registered isOther)
      wasFree := wasFree
      wasPeer := isOther
      isId := sameId.trans (inv.ids registered)
      taken := taken
      isPeer := kept.trans isOther
      seats := seats }⟩

theorem moves_handleJoinOrResume
    {config : Config}
    {roomId : RoomId}
    (inv : Occupancy config server)
    (newcomer : server.Newcomer ws)
    (intent : HelloIntent) :
    Moves strict server (server.handleJoinOrResume ws intent roomId) := by
  have refused : ∀ code, Moves strict server (server.sendErrorAndClose ws code) := fun code =>
    moves_sendErrorAndClose code newcomer.opened fun _ _ => newcomer.not_foreign inv
  unfold handleJoinOrResume
  split
  · exact refused _
  · cases registered : server.rooms.get roomId with
    | none => exact refused _
    | some existing =>
        dsimp only
        split
        · exact refused _
        · split
          · exact refused _
          · cases added : existing.addPeer ws server.now with
            | mk slot joined =>
                cases slot with
                | none => exact refused _
                | some slot =>
                    obtain ⟨remaining, joins⟩ := newcomer.joins inv registered added
                    have isId := joins.isId
                    subst isId
                    rw [joins.remains]
                    apply joins.seats.trans
                    have seats : Moves strict server _ := joins.seats
                    apply moves_announce (seats.occupancy inv) _ _ _ joins.different
                    · exact OrderedMap.get_set_self
                    · exact Room.holds_iff_slot.mpr ⟨slot, joins.taken⟩
                    · exact Room.holds_iff_slot.mpr ⟨slot.peer, joins.isPeer⟩

/-- A connection whose message is handled. -/
structure Speaking (server : State) (ws : Conn) : Prop where
  opened : ws < server.opened
  isOpen : (server.sockets ws).closed = false

theorem Speaking.live
    {config : Config}
    (inv : Occupancy config server)
    (speaking : server.Speaking ws) :
    server.Live ws := by
  refine ⟨inv.admitted speaking.opened speaking.isOpen, ?_⟩
  by_contra hasRun
  rw [Bool.not_eq_false] at hasRun
  have isClosed := inv.closing speaking.opened hasRun
  rw [speaking.isOpen] at isClosed
  cases isClosed

theorem moves_handleHello
    {config : Config}
    (inv : Occupancy config server)
    (speaking : server.Speaking ws)
    (own : strict → server.oracle.closes.headD false = true → ¬ server.Foreign ws)
    (frame : HelloFrame) :
    Moves strict server (server.handleHello ws frame) := by
  have clears : Moves strict server (server.clearHelloTimer ws) :=
    moves_modifyData calm_clearHelloTimer
  have sameRoomId : ((server.clearHelloTimer ws).data ws).roomId = (server.data ws).roomId :=
    calm_clearHelloTimer.data_roomId
  have ownStill : strict → (server.clearHelloTimer ws).oracle.closes.headD false = true →
      ¬ (server.clearHelloTimer ws).Foreign ws := by
    rw [foreign_congr (server.clearHelloTimer ws) server rfl rfl sameRoomId]
    exact own
  have isOpenedStill : ws < (server.clearHelloTimer ws).opened := speaking.opened
  unfold handleHello
  dsimp only
  split
  · exact clears.trans (moves_sendErrorAndClose _ isOpenedStill ownStill)
  next isPending =>
    rw [not_not] at isPending
    have invStill := clears.occupancy inv
    have newcomer : (server.clearHelloTimer ws).Newcomer ws :=
      { opened := isOpenedStill
        live := calm_clearHelloTimer.live.mpr (speaking.live inv)
        pending := isPending }
    split
    · exact clears.trans (moves_sendErrorAndClose _ isOpenedStill ownStill)
    · split
      · exact clears.trans (moves_handleCreate invStill newcomer)
      · exact clears.trans (moves_handleJoinOrResume invStill newcomer _)

/-! ## HANDSHAKE and RELAY -/

/-- What a handler does with a frame: moves, and at most one forward of the
frame to the peer of its sender. -/
inductive Handled (strict : Prop) (server : State) (ws : Conn) (buf : Bytes) (after : State) :
    Prop where
  | moves :
      Moves strict server after →
      Handled strict server ws buf after
  | relays {mid : State} {room : Room} {role : Role} {peer : Conn} :
      Moves strict server mid →
      server.rooms.get room.roomId = some room →
      room.slot role = some ws →
      room.slot role.peer = some peer →
      (buf.head? = some msgHandshake →
        (server.data ws).handshakeForwards = 0 ∧ 0 < (mid.data ws).handshakeForwards) →
      mid.out = server.out →
      Moves strict (mid.safeSend peer buf).2 after →
      Handled strict server ws buf after

theorem calm_relayBucket (bucket : RelayBucket) :
    Calm fun socket => { socket with data := { socket.data with relayBucket := bucket } } where
  roomId _ := rfl
  role _ := rfl
  admitted _ := rfl
  closeRan _ := rfl
  closed _ := id
  state _ := id
  paired _ := id
  forwards _ := le_rfl

theorem calm_handshakeForwards :
    Calm fun socket =>
      { socket with
        data := { socket.data with handshakeForwards := socket.data.handshakeForwards + 1 } } where
  roomId _ := rfl
  role _ := rfl
  admitted _ := rfl
  closeRan _ := rfl
  closed _ := id
  state _ := id
  paired _ := id
  forwards _ := Nat.le_succ _

theorem Agree.peers_differ
    {roomId : RoomId}
    {room : Room}
    {role : Role}
    (agree : Agree server)
    (registered : server.rooms.get roomId = some room)
    (isSlot : room.slot role = some ws)
    (isPeer : room.slot role.peer = some other) :
    other ≠ ws := by
  rintro rfl
  have first := (agree.occupant registered isSlot).role
  have second := (agree.occupant registered isPeer).role
  rw [first] at second
  cases role <;> cases second

theorem safeSend_occupancy
    {config : Config}
    (inv : Occupancy config server)
    (frame : Bytes) :
    Occupancy config (server.safeSend ws frame).2 :=
  { inv with occupant := fun registered isSlot => { inv.occupant registered isSlot with } }

theorem handled_forwardTo
    {config : Config}
    {mid : State}
    {room : Room}
    {role : Role}
    {peer : Conn}
    {buf : Bytes}
    (inv : Occupancy config server)
    (arrives : Moves strict server mid)
    (sameRooms : mid.rooms = server.rooms)
    (sameOut : mid.out = server.out)
    (registered : server.rooms.get room.roomId = some room)
    (isSlot : room.slot role = some ws)
    (isPeer : room.slot role.peer = some peer)
    (counted : buf.head? = some msgHandshake →
      (server.data ws).handshakeForwards = 0 ∧ 0 < (mid.data ws).handshakeForwards) :
    Handled strict server ws buf (mid.forwardTo ws peer room.roomId buf) := by
  have invMid := arrives.occupancy inv
  have holds : room.Holds ws := Room.holds_iff_slot.mpr ⟨role, isSlot⟩
  have holdsPeer : room.Holds peer := Room.holds_iff_slot.mpr ⟨role.peer, isPeer⟩
  have different : peer ≠ ws := inv.toAgree.peers_differ registered isSlot isPeer
  have registeredMid : mid.rooms.get room.roomId = some room := sameRooms ▸ registered
  have seated := invMid.toAgree.seated registeredMid holds
  have seatedPeer := invMid.toAgree.seated registeredMid holdsPeer
  unfold forwardTo
  split
  · apply Handled.moves
    apply arrives.trans
    apply Moves.trans _ (Move.delete room.roomId).moves
    exact moves_closeBoth invMid (seated.opened invMid.toAgree) seated.not_foreign seatedPeer
      different _ _
  · apply Handled.relays arrives registered isSlot isPeer counted sameOut
    have invSent : Occupancy config (mid.safeSend peer buf).2 := safeSend_occupancy invMid buf
    dsimp only
    split
    · apply Moves.trans _ (Move.delete room.roomId).moves
      exact moves_failBoth invSent seated seatedPeer different _
    · exact Moves.refl

/-- A connection to whom `forward` comes from the checks before it. -/
structure Checked (strict : Prop) (server : State) (ws : Conn) (mid : State) : Prop where
  arrives : Moves strict server mid
  rooms : mid.rooms = server.rooms
  out : mid.out = server.out
  opened : ws < mid.opened
  roomId : (mid.data ws).roomId = (server.data ws).roomId
  forwards : (mid.data ws).handshakeForwards = (server.data ws).handshakeForwards
  own : strict → mid.oracle.closes.headD false = true → ¬ mid.Foreign ws

theorem Checked.refl
    (isOpened : ws < server.opened)
    (own : strict → server.oracle.closes.headD false = true → ¬ server.Foreign ws) :
    Checked strict server ws server where
  arrives := .refl
  rooms := rfl
  out := rfl
  opened := isOpened
  roomId := rfl
  forwards := rfl
  own := own

theorem Checked.refuse
    {mid : State}
    (checked : Checked strict server ws mid)
    (code : ErrorCode) :
    Moves strict server (mid.sendErrorAndClose ws code) :=
  checked.arrives.trans (moves_sendErrorAndClose code checked.opened checked.own)

theorem Checked.takeToken
    {config : Config}
    {mid : State}
    (checked : Checked strict server ws mid) :
    Checked strict server ws (takeToken config mid ws).2 where
  arrives := checked.arrives.trans (Move.modify ws (calm_relayBucket _)).moves
  rooms := checked.rooms
  out := checked.out
  opened := checked.opened
  roomId := (calm_relayBucket _).data_roomId.trans checked.roomId
  forwards := by
    rw [← checked.forwards]
    simp [State.takeToken, modifyData, data]
  own := by
    intro isStrict sync
    rw [foreign_congr (State.takeToken config mid ws).2 mid rfl rfl
      (calm_relayBucket _).data_roomId]
    exact checked.own isStrict sync

theorem handled_forward
    {config : Config}
    {mid : State}
    {buf : Bytes}
    {type : UInt8}
    (inv : Occupancy config server)
    (checked : Checked strict server ws mid)
    (isType : buf.head? = some type) :
    Handled strict server ws buf (forward config mid ws buf type) := by
  unfold forward
  cases isRoom : (mid.data ws).roomId.bind mid.rooms.get with
  | none => exact .moves (checked.refuse _)
  | some room =>
      obtain ⟨roomId, _, found⟩ := Option.bind_eq_some_iff.mp isRoom
      rw [checked.rooms] at found
      have isId := inv.ids found
      subst isId
      dsimp only
      cases isPeer : room.getPeer ws with
      | none =>
          dsimp only
          split
          · split
            · split
              · exact .moves checked.takeToken.arrives
              · exact .moves (checked.takeToken.refuse _)
            · exact .moves checked.arrives
          · exact .moves (checked.refuse _)
      | some peer =>
          obtain ⟨role, isSlot, isOther⟩ := Room.getPeer_eq_some isPeer
          dsimp only
          split
          next isHandshake =>
            split
            · exact .moves (checked.refuse _)
            next unforwarded =>
              have counts : Moves strict mid
                  (mid.modifyData ws fun data =>
                    { data with handshakeForwards := data.handshakeForwards + 1 }) :=
                moves_modifyData calm_handshakeForwards
              apply handled_forwardTo inv (checked.arrives.trans counts) checked.rooms
                checked.out found isSlot isOther
              intro _
              rw [← checked.forwards]
              refine ⟨?_, ?_⟩
              · unfold maxHandshakeForwards at unforwarded
                omega
              · simp [modifyData, data]
          next notHandshake =>
            apply handled_forwardTo inv checked.arrives checked.rooms checked.out found isSlot
              isOther
            intro isHandshake
            rw [isType] at isHandshake
            exact absurd (Option.some.inj isHandshake) notHandshake

theorem handled_handleForward
    {config : Config}
    {buf : Bytes}
    {type : UInt8}
    (inv : Occupancy config server)
    (isOpened : ws < server.opened)
    (own : strict → server.oracle.closes.headD false = true → ¬ server.Foreign ws)
    (isType : buf.head? = some type) :
    Handled strict server ws buf (handleForward config server ws buf type) := by
  have checked := Checked.refl isOpened own
  unfold handleForward
  split
  · exact .moves (checked.refuse _)
  · split
    · exact .moves (checked.refuse _)
    · split
      · exact .moves (checked.refuse _)
      · split
        · dsimp only
          split
          · exact handled_forward inv checked.takeToken isType
          · exact .moves (checked.takeToken.refuse _)
        · exact handled_forward inv checked isType

/-- The bytes of a message; a text frame has none. -/
def Message.bytes : Message → Bytes
  | .text => []
  | .binary buf => buf

theorem handled_handleMessage
    {config : Config}
    (inv : Occupancy config server)
    (speaking : server.Speaking ws)
    (own : strict → server.oracle.closes.headD false = true → ¬ server.Foreign ws)
    (message : Message) :
    Handled strict server ws message.bytes (handleMessage config server ws message) := by
  have refused : ∀ code, Moves strict server (server.sendErrorAndClose ws code) := fun code =>
    moves_sendErrorAndClose code speaking.opened own
  rcases message with _ | ⟨_ | ⟨typeByte, rest⟩⟩
  · exact .moves (refused _)
  · exact .moves (refused _)
  · unfold handleMessage
    dsimp only
    split
    · split
      · exact .moves (moves_handleHello inv speaking own _)
      · exact .moves (refused _)
    · split
      · exact handled_handleForward inv speaking.opened own rfl
      · exact .moves (refused _)

/-! ## The sweeper and the timer -/

theorem moves_sweepRoom
    {config : Config}
    (inv : Occupancy config server)
    (roomId : RoomId) :
    Moves strict server (sweepRoom config server roomId) := by
  unfold sweepRoom
  cases registered : server.rooms.get roomId with
  | none => exact Moves.refl
  | some room =>
      dsimp only
      split
      · apply Moves.trans _ (Move.delete roomId).moves
        cases isInitiator : room.initiator with
        | none => exact Moves.refl
        | some initiator =>
            have seated := inv.toAgree.seated registered (.inl isInitiator)
            exact moves_close _ _ (seated.opened inv.toAgree) fun _ _ => seated.not_foreign
      · split
        · apply Moves.trans _ (Move.delete roomId).moves
          cases remains : room.remaining with
          | none => exact Moves.refl
          | some remaining =>
              have seated :=
                inv.toAgree.seated registered (Room.holds_of_remaining remains)
              have isOpened := seated.opened inv.toAgree
              apply (moves_safeSend ownFrame_peerLeft).trans
              exact moves_close _ _ isOpened fun _ _ => seated.not_foreign
        · exact Moves.refl

theorem moves_sweepRooms
    {config : Config}
    (inv : Occupancy config server) :
    Moves strict server (sweepRooms config server) := by
  unfold sweepRooms
  generalize server.rooms.keys = keys
  induction keys generalizing server with
  | nil => exact Moves.refl
  | cons roomId rest inductionHypothesis =>
      have sweeps : Moves strict server (sweepRoom config server roomId) :=
        moves_sweepRoom inv roomId
      exact sweeps.trans (inductionHypothesis (sweeps.occupancy inv))

theorem moves_helloTimerFired
    {config : Config}
    (inv : Occupancy config server)
    (isOpened : ws < server.opened) :
    Moves strict server (server.helloTimerFired ws) := by
  have clears : Moves strict server (server.clearHelloTimer ws) :=
    moves_modifyData calm_clearHelloTimer
  unfold helloTimerFired
  dsimp only
  split
  next isPending =>
    apply clears.trans
    apply moves_sendErrorAndClose
    · exact isOpened
    · rintro _ _ ⟨room, isRoom, _⟩
      rw [(clears.occupancy inv).pending isOpened isPending] at isRoom
      cases isRoom
  next => exact clears

end State

/-! ## Steps -/

/-- In this step no connection is closed by its callback while a foreign room
is registered under the id it carries. -/
def NoForeignClose (server : State) (input : Input) : Prop :=
  match input.event with
  | .message ws _ => input.oracle.closes.headD false = true → ¬ server.Foreign ws
  | .closed ws => ¬ server.Foreign ws
  | _ => True

/-- The state in which the handler of an event starts. -/
def State.ready (server : State) (input : Input) : State :=
  { server with oracle := input.oracle, out := [] }

theorem State.Occupancy.ready
    {config : Config}
    {server : State}
    (inv : State.Occupancy config server)
    (input : Input) :
    State.Occupancy config (server.ready input) :=
  { inv with occupant := fun registered isSlot => { inv.occupant registered isSlot with } }

/-- What an event other than the opening of a connection does. -/
theorem step_cases
    {config : Config}
    {server : State}
    {input : Input}
    {strict : Prop}
    (inv : State.Occupancy config server)
    (isEnabled : (machine config).enabled server input)
    (own : strict → NoForeignClose server input) :
    (input.event = .opens ∧
      (machine config).step server input = (server.ready input).openConnection config) ∨
    (∃ span, input.event = .elapse span ∧
      (machine config).step server input = { server.ready input with now := server.now + span }) ∨
    (∃ ws message, input.event = .message ws message ∧ server.Speaking ws ∧
      State.Handled strict (server.ready input) ws message.bytes ((machine config).step server input)) ∨
    State.Moves strict (server.ready input) ((machine config).step server input) := by
  have invReady := inv.ready input
  obtain ⟨event, oracle⟩ := input
  cases event with
  | opens => exact .inl ⟨rfl, rfl⟩
  | elapse span => exact .inr (.inl ⟨span, rfl, rfl⟩)
  | message ws message =>
      have speaking : server.Speaking ws := ⟨isEnabled.1, isEnabled.2⟩
      have speakingReady : (server.ready ⟨.message ws message, oracle⟩).Speaking ws :=
        ⟨isEnabled.1, isEnabled.2⟩
      exact .inr (.inr (.inl ⟨ws, message, rfl, speaking,
        State.handled_handleMessage invReady speakingReady own message⟩))
  | closed ws =>
      right; right; right
      change State.Moves strict (server.ready ⟨.closed ws, oracle⟩)
        ((server.ready ⟨.closed ws, oracle⟩).closeCallback ws)
      apply State.Move.moves
      exact State.Move.callback ws isEnabled.1 isEnabled.2 own
  | helloTimer ws =>
      exact .inr (.inr (.inr (State.moves_helloTimerFired invReady isEnabled.1)))
  | sweep => exact .inr (.inr (.inr (State.moves_sweepRooms invReady)))

/-! ## Opening a connection -/

namespace State

variable {server after : State} {ws other : Conn}

/-- The new connection before its open callback. -/
def upgraded (config : Config) (server : State) : State :=
  { server with
    opened := server.opened + 1
    sockets := fun other =>
      if other = server.opened then
        { data := createInitialConnectionData config server.now
          closed := false
          closeRan := false }
      else
        server.sockets other }

/-- The open callback refuses the connection or admits it. -/
theorem openConnection_cases (config : Config) (server : State) :
    (∃ code, server.openConnection config =
      (server.upgraded config).sendErrorAndClose server.opened code) ∨
    (server.openConnections < config.maxConnections ∧
      server.openConnection config =
        { server.upgraded config with
          openConnections := server.openConnections + 1 }.modifyData server.opened fun data =>
          { data with admitted := true, helloTimer := some (server.now + helloDeadlineMs) }) := by
  unfold openConnection
  dsimp only
  split
  · exact .inl ⟨_, rfl⟩
  · split
    · exact .inl ⟨_, rfl⟩
    next capacity => exact .inr ⟨not_le.mp capacity, rfl⟩

theorem sockets_upgraded_self (config : Config) :
    (server.upgraded config).sockets server.opened =
      { data := createInitialConnectionData config server.now
        closed := false
        closeRan := false } :=
  if_pos rfl

theorem sockets_upgraded_other
    (config : Config)
    (different : other ≠ server.opened) :
    (server.upgraded config).sockets other = server.sockets other :=
  if_neg different

/-- A connection that is refused is closed before anything else happens to it. -/
theorem Occupancy.refused
    {config : Config}
    (inv : Occupancy config server)
    (code : ErrorCode) :
    Occupancy config ((server.upgraded config).sendErrorAndClose server.opened code) := by
  unfold sendErrorAndClose
  generalize isTold :
    ((server.upgraded config).safeSend server.opened (encodeError code)).2 = told
  generalize closeCodeForError code = closeCode
  generalize isMarked : told.closing server.opened closeCode (.error code) = marked
  have itself :
      marked.sockets server.opened =
        { data := createInitialConnectionData config server.now
          closed := true
          closeRan := false } := by
    rw [← isMarked, State.closing, sockets_modifySocket_self, ← isTold]
    change { (server.upgraded config).sockets server.opened with closed := true } = _
    rw [sockets_upgraded_self]
  have invMarked : Occupancy config marked := by
    apply inv.opening
    · rw [← isMarked, ← isTold]
      rfl
    · rw [← isMarked, ← isTold]
      rfl
    · have notLive : ¬ marked.Live server.opened := by
        rw [Live, data, itself]
        simp [createInitialConnectionData]
      rw [if_neg notLive, ← isMarked, ← isTold]
      exact (Int.add_zero _).symm
    · rw [← isMarked, ← isTold]
      exact inv.bounded
    · intro other before
      rw [← isMarked, State.closing, sockets_modifySocket_other (Nat.ne_of_lt before), ← isTold]
      exact sockets_upgraded_other config (Nat.ne_of_lt before)
    · rw [itself]
      intro isOpen
      cases isOpen
    · rw [itself]
      intro hasRun
      cases hasRun
    · rw [data, itself]
      rfl
  rcases close_cases told server.opened closeCode (.error code) with later | ⟨_, _, now⟩
  · rw [later, isMarked]
    exact invMarked
  · rw [now, isMarked]
    apply invMarked.closed _ _ (closeCallback_spec marked server.opened)
    · rw [← isMarked, ← isTold]
      exact Nat.lt_succ_self _
    · rw [itself]

theorem Occupancy.openConnection
    {config : Config}
    (inv : Occupancy config server) :
    Occupancy config (server.openConnection config) := by
  rcases openConnection_cases config server with ⟨code, refuses⟩ | ⟨capacity, admits⟩
  · rw [refuses]
    exact inv.refused code
  · rw [admits]
    generalize isAdmitted :
      { server.upgraded config with
        openConnections := server.openConnections + 1 }.modifyData server.opened (fun data =>
        { data with admitted := true, helloTimer := some (server.now + helloDeadlineMs) }) =
        admitted
    have itself :
        admitted.sockets server.opened =
          { data :=
              { createInitialConnectionData config server.now with
                admitted := true
                helloTimer := some (server.now + helloDeadlineMs) }
            closed := false
            closeRan := false } := by
      rw [← isAdmitted, modifyData, sockets_modifySocket_self]
      change
        { (server.upgraded config).sockets server.opened with
          data :=
            { ((server.upgraded config).sockets server.opened).data with
              admitted := true
              helloTimer := some (server.now + helloDeadlineMs) } } = _
      rw [sockets_upgraded_self]
    apply inv.opening
    · rw [← isAdmitted]
      rfl
    · rw [← isAdmitted]
      rfl
    · have isLive : admitted.Live server.opened := by
        rw [Live, data, itself]
        exact ⟨rfl, rfl⟩
      rw [if_pos isLive, ← isAdmitted]
      rfl
    · rw [← isAdmitted]
      exact capacity
    · intro other before
      rw [← isAdmitted, modifyData, sockets_modifySocket_other (Nat.ne_of_lt before)]
      exact sockets_upgraded_other config (Nat.ne_of_lt before)
    · rw [data, itself]
      exact fun _ => rfl
    · rw [itself]
      intro hasRun
      cases hasRun
    · rw [data, itself]
      rfl

end State

/-! ## Occupancy of reachable states -/

theorem occupancy_step
    {config : Config}
    {server : State}
    {input : Input}
    (inv : State.Occupancy config server)
    (isEnabled : (machine config).enabled server input) :
    State.Occupancy config ((machine config).step server input) := by
  have invReady := inv.ready input
  rcases step_cases inv isEnabled (False.elim : False → NoForeignClose server input) with
    ⟨_, opens⟩ | ⟨span, _, elapses⟩ | ⟨ws, message, _, _, handled⟩ | moves
  · rw [opens]
    exact invReady.openConnection
  · rw [elapses]
    exact { invReady with occupant := fun registered isSlot =>
      { invReady.occupant registered isSlot with } }
  · cases handled with
    | moves moves => exact moves.occupancy invReady
    | relays arrives _ _ _ _ _ rest =>
        exact rest.occupancy (State.safeSend_occupancy (arrives.occupancy invReady) _)
  · exact moves.occupancy invReady

theorem occupancy_started {config : Config} {server : State} (started : Started server) :
    State.Occupancy config server := by
  obtain ⟨noRooms, noConnections, noneOpen⟩ := started
  constructor
  · constructor
    all_goals
      intro roomId room
      rw [noRooms, OrderedMap.get_empty]
      intros
      contradiction
  · intro ws isOpened
    rw [noConnections] at isOpened
    cases isOpened
  · intro ws isOpened
    rw [noConnections] at isOpened
    cases isOpened
  · intro ws isOpened
    rw [noConnections] at isOpened
    cases isOpened
  · rw [noneOpen, State.liveConnections, noConnections]
    rfl
  · rw [noneOpen]
    exact Int.natCast_nonneg _

theorem occupancy_of_reachable
    {config : Config}
    {server : State}
    {allowed : State → Input → Prop}
    (reachable : (machine config).Reachable Started allowed server) :
    State.Occupancy config server :=
  reachable.invariant (fun _ => occupancy_started)
    fun _ _ inv isEnabled _ => occupancy_step inv isEnabled

/-- A connection occupies at most one slot of one room. -/
theorem State.Agree.one_slot
    {server : State}
    (agree : server.Agree)
    {roomId otherId : RoomId}
    {room other : Room}
    {role otherRole : Role}
    {ws : Conn}
    (registered : server.rooms.get roomId = some room)
    (isSlot : room.slot role = some ws)
    (alsoRegistered : server.rooms.get otherId = some other)
    (alsoSlot : other.slot otherRole = some ws) :
    roomId = otherId ∧ role = otherRole := by
  have first := agree.occupant registered isSlot
  have second := agree.occupant alsoRegistered alsoSlot
  exact ⟨Option.some.inj (first.roomId.symm.trans second.roomId),
    Option.some.inj (first.role.symm.trans second.role)⟩

/-- Each room has a live connection of its own. -/
theorem State.Agree.size_le_live {server : State} (agree : server.Agree) :
    server.rooms.size ≤ server.liveConnections.card := by
  have someone : ∀ roomId ∈ server.rooms.keys, ∃ ws room role,
      server.rooms.get roomId = some room ∧ room.slot role = some ws := by
    intro roomId isKey
    obtain ⟨room, registered⟩ := OrderedMap.mem_keys_iff.mp isKey
    obtain ⟨ws, holds⟩ := agree.occupied registered
    obtain ⟨role, isSlot⟩ := Room.holds_iff_slot.mp holds
    exact ⟨ws, room, role, registered, isSlot⟩
  choose! occupant room role registered isSlot using someone
  have distinct : server.rooms.keys.Nodup := server.rooms.distinct
  have sizes : server.rooms.size = server.rooms.keys.toFinset.card := by
    rw [List.toFinset_card_of_nodup distinct, OrderedMap.keys, List.length_map, OrderedMap.size]
  rw [sizes]
  apply Finset.card_le_card_of_injOn occupant
  · intro roomId isKey
    have isOccupant := agree.occupant (registered roomId (List.mem_toFinset.mp isKey))
      (isSlot roomId (List.mem_toFinset.mp isKey))
    simp [State.liveConnections, isOccupant.opened, isOccupant.live]
  · intro first isKey second alsoKey same
    rw [Finset.mem_coe, List.mem_toFinset] at isKey alsoKey
    have alsoSlot := isSlot second alsoKey
    rw [← same] at alsoSlot
    exact (agree.one_slot (registered first isKey) (isSlot first isKey)
      (registered second alsoKey) alsoSlot).1

/--
In every reachable state each room has an occupant; each occupant is an
admitted connection whose close callback has not run and whose own data name
the room and the slot; no connection is in two slots; the counter counts the
admitted connections that are not closed; and there are at most as many rooms
as such connections, and at most as many of them as the configuration allows.
-/
theorem rooms_occupied_within_capacity
    {config : Config}
    {server : State}
    (reachable : (machine config).Reachable Started EventMachine.Machine.anyStep server) :
    (∀ roomId room, server.rooms.get roomId = some room → ∃ ws, room.Holds ws) ∧
    (∀ roomId room role ws,
      server.rooms.get roomId = some room → room.slot role = some ws →
        ws < server.opened ∧ (server.data ws).admitted = true ∧
          (server.sockets ws).closeRan = false ∧ room.roomId = roomId ∧
          (server.data ws).roomId = some roomId ∧ (server.data ws).role = some role) ∧
    (∀ roomId room role otherId other otherRole ws,
      server.rooms.get roomId = some room → room.slot role = some ws →
      server.rooms.get otherId = some other → other.slot otherRole = some ws →
        roomId = otherId ∧ role = otherRole) ∧
    server.openConnections = server.liveConnections.card ∧
    (server.rooms.size : Int) ≤ server.openConnections ∧
    server.openConnections ≤ config.maxConnections := by
  have inv := occupancy_of_reachable reachable
  refine ⟨?_, ?_, ?_, inv.counted, ?_, inv.bounded⟩
  · intro roomId room registered
    exact inv.occupied registered
  · intro roomId room role ws registered isSlot
    have occupant := inv.occupant registered isSlot
    exact ⟨occupant.opened, occupant.live.1, occupant.live.2, inv.ids registered,
      occupant.roomId, occupant.role⟩
  · intro roomId room role otherId other otherRole ws registered isSlot alsoRegistered alsoSlot
    exact inv.toAgree.one_slot registered isSlot alsoRegistered alsoSlot
  · rw [inv.counted]
    exact_mod_cast inv.toAgree.size_le_live

/-! ## A sample server -/

namespace Sample

def config : Config where
  maxConnections := 256
  relayBucket := { limit := 2000, refillPerSec := 200 }
  gracePeriodMs := 5 * 60 * 1000

def start : State where
  rooms := OrderedMap.empty
  sockets _ :=
    { data := createInitialConnectionData config 0, closed := false, closeRan := false }
  opened := 0
  openConnections := 0
  now := 0
  oracle := { sends := [], closes := [], allowed := true, buffered := 0 }
  out := []

/-- The event in a runtime that sends everything and calls back later. -/
def calmly (event : Event) : Input :=
  { event, oracle := { sends := [], closes := [], allowed := true, buffered := 0 } }

/-- The event in a runtime that drops the first frame and calls back later. -/
def dropping (event : Event) : Input :=
  { event, oracle := { sends := [0], closes := [], allowed := true, buffered := 0 } }

/-- The event in a runtime that calls back inside the first `ws.close`. -/
def callingBack (event : Event) : Input :=
  { event, oracle := { sends := [], closes := [true], allowed := true, buffered := 0 } }

def roomIdBytes : Bytes := List.replicate roomIdLength 0x5a

def roomId : RoomId := hexEncode roomIdBytes

def hello (ws : Conn) (intent : HelloIntent) : Event :=
  .message ws (.binary
    ([msgHello] ++ (HelloFrame.mk roomIdBytes protocolVersion intent).fields))

theorem reachable_run
    (inputs : List Input)
    (legal : (machine config).Legal EventMachine.Machine.anyStep start inputs) :
    (machine config).Reachable Started EventMachine.Machine.anyStep
      ((machine config).run start inputs) :=
  .run (.start ⟨rfl, rfl, rfl⟩) legal

/-- One client creates a room and another one joins it. -/
def pairing : List Input :=
  [calmly .opens, calmly (hello 0 .create), calmly .opens, calmly (hello 1 .join)]

end Sample

/-- Two clients in one room are two live connections. -/
theorem rooms_occupied_within_capacity_pairing :
    ((machine Sample.config).run Sample.start Sample.pairing).openConnections =
        ((machine Sample.config).run Sample.start Sample.pairing).liveConnections.card ∧
      (((machine Sample.config).run Sample.start Sample.pairing).rooms.size : Int) ≤
        ((machine Sample.config).run Sample.start Sample.pairing).openConnections :=
  have holds :=
    rooms_occupied_within_capacity (Sample.reachable_run Sample.pairing (by decide +kernel))
  ⟨holds.2.2.2.1, holds.2.2.2.2.1⟩

end Unseen.Server
