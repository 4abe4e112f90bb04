import Unseen.Admission

namespace Unseen.Server

open Codec

/-!
# Isolation of the relay

A HANDSHAKE or RELAY frame reaches a connection only in the step in which its
peer sent it: nothing is kept for later, and nothing is handed to anybody but
the connection in the other slot of the sender's room.  The results about runs
follow from what one step hands over.
-/

/-! ## What moves leave to the forwarding of frames -/

namespace State

variable {server after : State} {ws other : Conn} {strict : Prop}

/-- The server only tells the remaining peer that the other one disconnected. -/
theorem closeCallback_out (server : State) (ws : Conn) :
    ∃ actions, (server.closeCallback ws).out = server.out ++ actions ∧
      ∀ action ∈ actions, ¬ action.Relays := by
  have handles : ∀ server : State, ∃ actions,
      (server.handleClose ws).out = server.out ++ actions ∧
        ∀ action ∈ actions, ¬ action.Relays := by
    intro server
    have silent : ∃ actions, (server.clearHelloTimer ws).out = server.out ++ actions ∧
        ∀ action ∈ actions, ¬ action.Relays :=
      ⟨[], (List.append_nil _).symm, by simp⟩
    unfold handleClose
    dsimp only
    split
    · exact silent
    · split
      · exact silent
      · split
        · exact silent
        · split
          · exact silent
          next remaining _ =>
            split
            · exact silent
            · refine ⟨[.send remaining peerDisconnectedFrame _], rfl, ?_⟩
              intro action isAction
              rw [List.mem_singleton] at isAction
              rw [isAction]
              exact ownFrame_peerDisconnected
  unfold closeCallback
  dsimp only
  split
  · exact handles _
  · exact handles _

theorem Move.out (move : Move strict server after) :
    ∃ actions, after.out = server.out ++ actions ∧ ∀ action ∈ actions, ¬ action.Relays := by
  cases move with
  | acts oracle actions own => exact ⟨actions, rfl, own⟩
  | callback ws => exact closeCallback_out server ws
  | modify | delete | remove | create | join => exact ⟨[], (List.append_nil _).symm, by simp⟩

theorem Moves.out (moves : Moves strict server after) :
    ∃ actions, after.out = server.out ++ actions ∧ ∀ action ∈ actions, ¬ action.Relays := by
  apply moves.preserve (P := fun state =>
    ∃ actions, state.out = server.out ++ actions ∧ ∀ action ∈ actions, ¬ action.Relays)
  · rintro before next move ⟨earlier, isBefore, ownEarlier⟩
    obtain ⟨later, isNext, ownLater⟩ := move.out
    refine ⟨earlier ++ later, by rw [isNext, isBefore, List.append_assoc], ?_⟩
    intro action isAction
    rcases List.mem_append.mp isAction with isEarlier | isLater
    · exact ownEarlier action isEarlier
    · exact ownLater action isLater
  · exact ⟨[], (List.append_nil _).symm, by simp⟩

/-- The connection is known, and at least as many HANDSHAKE frames of it were
forwarded. -/
def Counts (server after : State) : Prop :=
  server.opened ≤ after.opened ∧
    ∀ ws < server.opened,
      (server.data ws).handshakeForwards ≤ (after.data ws).handshakeForwards

theorem Counts.trans
    {middle : State}
    (first : Counts server middle)
    (second : Counts middle after) :
    Counts server after :=
  ⟨first.1.trans second.1, fun ws isOpened =>
    (first.2 ws isOpened).trans (second.2 ws (isOpened.trans_le first.1))⟩

theorem Calm.counts
    {change : Socket → Socket}
    (calm : Calm change) :
    Counts server (server.modifySocket ws change) := by
  refine ⟨le_rfl, ?_⟩
  intro other _
  by_cases itself : other = ws
  · subst itself
    rw [data, data, sockets_modifySocket_self]
    exact calm.forwards _
  · rw [data, data, sockets_modifySocket_other itself]

theorem counts_enter
    {rooms : Registry}
    {roomId : RoomId}
    {state : ConnectionState}
    {role : Role} :
    Counts server ({ server with rooms }.enter ws roomId state role) := by
  refine ⟨le_rfl, ?_⟩
  intro other _
  by_cases itself : other = ws
  · subst itself
    rw [data_enter_self]
    exact le_rfl
  · rw [data, data, sockets_enter_other itself]

theorem Move.counts (move : Move strict server after) : Counts server after := by
  cases move with
  | acts | delete | remove => exact ⟨le_rfl, fun _ _ => le_rfl⟩
  | modify ws calm => exact calm.counts
  | callback ws =>
      have closes := closeCallback_spec server ws
      refine ⟨closes.opened.ge, ?_⟩
      intro other _
      rw [data, data, closes.sockets]
      by_cases itself : other = ws
      · subst itself
        rw [sockets_modifySocket_self]
        exact le_rfl
      · rw [sockets_modifySocket_other itself]
  | create => exact counts_enter
  | join => exact counts_enter.trans calm_pairing.counts

theorem Moves.counts (moves : Moves strict server after) : Counts server after :=
  moves.preserve (P := Counts server) (fun move counts => counts.trans move.counts)
    ⟨le_rfl, fun _ _ => le_rfl⟩

theorem sockets_close_other
    (different : other ≠ ws)
    (code : Nat)
    (reason : CloseReason) :
    (server.close ws code reason).sockets other = server.sockets other := by
  rcases close_cases server ws code reason with later | ⟨_, _, now⟩
  · rw [later, closing, sockets_modifySocket_other different]
  · rw [now, (closeCallback_spec _ ws).sockets, sockets_modifySocket_other different, closing,
      sockets_modifySocket_other different]

/-- Opening a connection leaves the earlier ones alone. -/
theorem sockets_openConnection
    (config : Config)
    (different : other ≠ server.opened) :
    (server.openConnection config).sockets other = server.sockets other := by
  rcases openConnection_cases config server with ⟨code, refuses⟩ | ⟨_, admits⟩
  · rw [refuses, sendErrorAndClose, sockets_close_other different]
    exact sockets_upgraded_other config different
  · rw [admits, modifyData, sockets_modifySocket_other different]
    exact sockets_upgraded_other config different

/-- Opening a connection hands over nothing and forgets nothing. -/
theorem openConnection_moves (config : Config) (server : State) :
    Counts server (server.openConnection config) ∧
      ∃ actions, (server.openConnection config).out = server.out ++ actions ∧
        ∀ action ∈ actions, ¬ action.Relays := by
  have keeps : ∀ ws < server.opened,
      (server.data ws).handshakeForwards ≤
        ((server.openConnection config).data ws).handshakeForwards := by
    intro other isOpened
    rw [data, data, sockets_openConnection config (Nat.ne_of_lt isOpened)]
  rcases openConnection_cases config server with ⟨code, refuses⟩ | ⟨_, admits⟩
  · have moves : Moves False (server.upgraded config)
        ((server.upgraded config).sendErrorAndClose server.opened code) :=
      moves_sendErrorAndClose code (Nat.lt_succ_self _) False.elim
    rw [refuses] at keeps ⊢
    exact ⟨⟨(Nat.le_succ _).trans moves.counts.1, keeps⟩, moves.out⟩
  · rw [admits] at keeps ⊢
    exact ⟨⟨Nat.le_succ _, keeps⟩, [], (List.append_nil _).symm, by simp⟩

end State

/-! ## Deliveries -/

/-- A HANDSHAKE or RELAY frame is handed to a connection while a message is handled. -/
structure Delivery where
  sender : Option Conn
  receiver : Conn
  frame : Bytes
  deriving DecidableEq, Repr

def Event.sender : Event → Option Conn
  | .message ws _ => some ws
  | _ => none

/-- The binary frame that the connection sends in this event, if any. -/
def Event.sentBy (event : Event) (ws : Conn) : List Bytes :=
  match event with
  | .message other (.binary buf) => if other = ws then [buf] else []
  | _ => []

def Act.delivery (sender : Option Conn) : Act → Option Delivery
  | .send receiver frame _ =>
      if frame.head? = some msgHandshake ∨ frame.head? = some msgRelay then
        some { sender, receiver, frame }
      else
        none
  | .close .. => none

theorem Act.delivery_eq_none_iff {sender : Option Conn} {action : Act} :
    action.delivery sender = none ↔ ¬ action.Relays := by
  cases action with
  | send receiver frame status => simp [Act.delivery, Act.Relays]
  | close ws code reason => simp [Act.delivery, Act.Relays]

/-- What a step hands over. -/
def stepDeliveries (config : Config) (server : State) (input : Input) : List Delivery :=
  ((machine config).step server input).out.filterMap (Act.delivery input.event.sender)

/-- What a run hands over. -/
def deliveries (config : Config) : State → List Input → List Delivery
  | _, [] => []
  | server, input :: rest =>
      stepDeliveries config server input ++
        deliveries config ((machine config).step server input) rest

/-- A message is handed to the connection in the other slot of its sender's room. -/
structure Forwards
    (server : State)
    (input : Input)
    (after : State)
    (sender receiver : Conn)
    (frame : Bytes)
    (room : Room)
    (role : Role) : Prop where
  sends : input.event = .message sender (.binary frame)
  opened : sender < server.opened
  registered : server.rooms.get room.roomId = some room
  isSlot : room.slot role = some sender
  isPeer : room.slot role.peer = some receiver
  counted : frame.head? = some msgHandshake →
    (server.data sender).handshakeForwards = 0 ∧ 0 < (after.data sender).handshakeForwards

/-- A step hands over nothing, or one frame to the peer of its sender. -/
theorem stepDeliveries_cases
    {config : Config}
    {server : State}
    {input : Input}
    (inv : State.Occupancy config server)
    (isEnabled : (machine config).enabled server input) :
    State.Counts server ((machine config).step server input) ∧
      (stepDeliveries config server input = [] ∨
        ∃ sender receiver frame room role,
          Forwards server input ((machine config).step server input) sender receiver frame
              room role ∧
            stepDeliveries config server input =
              [{ sender := some sender, receiver, frame }]) := by
  have nothing : ∀ {actions},
      ((machine config).step server input).out = [] ++ actions →
      (∀ action ∈ actions, ¬ action.Relays) → stepDeliveries config server input = [] := by
    intro actions isOut own
    rw [stepDeliveries, isOut, List.nil_append, List.filterMap_eq_nil_iff]
    intro action isAction
    exact Act.delivery_eq_none_iff.mpr (own action isAction)
  rcases step_cases inv isEnabled (False.elim : False → NoForeignClose server input) with
    ⟨_, opens⟩ | ⟨span, _, elapses⟩ | ⟨ws, message, isMessage, speaking, handled⟩ | moves
  · obtain ⟨counts, actions, isOut, own⟩ :=
      State.openConnection_moves config (server.ready input)
    rw [← opens] at counts isOut
    exact ⟨counts, .inl (nothing isOut own)⟩
  · refine ⟨by rw [elapses]; exact ⟨le_rfl, fun _ _ => le_rfl⟩, .inl ?_⟩
    have isOut : ((machine config).step server input).out = [] ++ [] := by
      rw [elapses]
      rfl
    exact nothing isOut (by simp)
  · cases handled with
    | moves moves =>
        obtain ⟨actions, isOut, own⟩ := moves.out
        exact ⟨moves.counts, .inl (nothing isOut own)⟩
    | @relays mid room role peer arrives registered isSlot isPeer counted sameOut rest =>
        have sendCounts : State.Counts mid (mid.safeSend peer message.bytes).2 :=
          ⟨le_rfl, fun _ _ => le_rfl⟩
        refine ⟨arrives.counts.trans (sendCounts.trans rest.counts), ?_⟩
        obtain ⟨actions, isOut, own⟩ := rest.out
        have restNothing : actions.filterMap (Act.delivery input.event.sender) = [] := by
          rw [List.filterMap_eq_nil_iff]
          intro action isAction
          exact Act.delivery_eq_none_iff.mpr (own action isAction)
        have isDelivered :
            stepDeliveries config server input =
              [Act.send peer message.bytes (mid.safeSend peer message.bytes).1].filterMap
                (Act.delivery input.event.sender) := by
          rw [stepDeliveries, isOut, State.safeSend_eq]
          dsimp only
          rw [sameOut, List.filterMap_append, List.filterMap_append, restNothing,
            List.append_nil]
          rfl
        by_cases relays :
            message.bytes.head? = some msgHandshake ∨ message.bytes.head? = some msgRelay
        · right
          cases message with
          | text => simp [State.Message.bytes] at relays
          | binary buf =>
              refine ⟨ws, peer, buf, room, role, ?_, ?_⟩
              · refine
                  { sends := isMessage
                    opened := speaking.opened
                    registered := registered
                    isSlot := isSlot
                    isPeer := isPeer
                    counted := ?_ }
                intro isHandshake
                obtain ⟨none, some⟩ := counted isHandshake
                refine ⟨none, ?_⟩
                have grows := (sendCounts.trans rest.counts).2 ws
                  (speaking.opened.trans_le arrives.counts.1)
                exact some.trans_le grows
              · rw [isDelivered, isMessage]
                simp [Act.delivery, Event.sender, relays]
                rfl
        · left
          rw [isDelivered]
          simp [Act.delivery, relays]
  · obtain ⟨actions, isOut, own⟩ := moves.out
    exact ⟨moves.counts, .inl (nothing isOut own)⟩

/-! ## Deliveries of a run -/

section Runs

variable {config : Config} {server : State} {inputs : List Input} {input : Input}

/-- The frames handed from one connection to another. -/
def handed (sender receiver : Conn) (deliveries : List Delivery) : List Bytes :=
  (deliveries.filter fun delivery =>
    delivery.sender = some sender ∧ delivery.receiver = receiver).map Delivery.frame

/-- The HANDSHAKE frames handed over for one connection. -/
def handshakes (sender : Conn) (deliveries : List Delivery) : List Delivery :=
  deliveries.filter fun delivery =>
    delivery.sender = some sender ∧ delivery.frame.head? = some msgHandshake

theorem step_handed_sublist
    (inv : State.Occupancy config server)
    (isEnabled : (machine config).enabled server input)
    (sender receiver : Conn) :
    (handed sender receiver (stepDeliveries config server input)).Sublist
      (input.event.sentBy sender) := by
  rcases (stepDeliveries_cases inv isEnabled).2 with
    nothing | ⟨source, target, frame, room, role, forwards, one⟩
  · rw [nothing]
    exact List.nil_sublist _
  · rw [one, forwards.sends]
    by_cases isSender : source = sender
    · subst isSender
      by_cases isReceiver : target = receiver
      · simp [handed, Event.sentBy, isReceiver]
      · simp [handed, isReceiver]
    · simp [handed, isSender]

/-- The frames handed over are some of those sent, in the order of sending. -/
theorem handed_sublist_sent
    (inv : State.Occupancy config server)
    (legal : (machine config).Legal EventMachine.Machine.anyStep server inputs)
    (sender receiver : Conn) :
    (handed sender receiver (deliveries config server inputs)).Sublist
      (inputs.flatMap fun input => input.event.sentBy sender) := by
  induction inputs generalizing server with
  | nil => exact List.Sublist.refl _
  | cons input rest inductionHypothesis =>
      obtain ⟨isEnabled, _, legalRest⟩ := legal
      have later := inductionHypothesis (occupancy_step inv isEnabled) legalRest
      have first := step_handed_sublist inv isEnabled sender receiver
      unfold handed at first later ⊢
      rw [deliveries, List.filter_append, List.map_append, List.flatMap_cons]
      exact first.append later

/-- A HANDSHAKE frame of the connection was forwarded. -/
def State.Spent (server : State) (ws : Conn) : Prop :=
  ws < server.opened ∧ 0 < (server.data ws).handshakeForwards

theorem step_handshakes
    (inv : State.Occupancy config server)
    (isEnabled : (machine config).enabled server input)
    (sender : Conn) :
    (server.Spent sender →
      handshakes sender (stepDeliveries config server input) = [] ∧
        ((machine config).step server input).Spent sender) ∧
    (handshakes sender (stepDeliveries config server input) = [] ∨
      (handshakes sender (stepDeliveries config server input)).length = 1 ∧
        ((machine config).step server input).Spent sender) := by
  obtain ⟨counts, cases⟩ := stepDeliveries_cases inv isEnabled
  have stays : server.Spent sender → ((machine config).step server input).Spent sender :=
    fun spent => ⟨spent.1.trans_le counts.1, spent.2.trans_le (counts.2 sender spent.1)⟩
  rcases cases with nothing | ⟨source, target, frame, room, role, forwards, one⟩
  · rw [nothing]
    exact ⟨fun spent => ⟨rfl, stays spent⟩, .inl rfl⟩
  · rw [one]
    by_cases isSender : source = sender ∧ frame.head? = some msgHandshake
    · obtain ⟨rfl, isHandshake⟩ := isSender
      obtain ⟨unspent, spends⟩ := forwards.counted isHandshake
      constructor
      · intro spent
        exact absurd spent.2 (unspent ▸ Nat.lt_irrefl 0)
      · right
        exact ⟨by simp [handshakes, isHandshake],
          forwards.opened.trans_le counts.1, spends⟩
    · have noHandshake :
          handshakes sender [{ sender := some source, receiver := target, frame }] = [] := by
        simpa [handshakes] using isSender
      rw [noHandshake]
      exact ⟨fun spent => ⟨rfl, stays spent⟩, .inl rfl⟩

/-- At most one HANDSHAKE frame of a connection is handed over, and none once
one was forwarded. -/
theorem handshakes_of_run
    (inv : State.Occupancy config server)
    (legal : (machine config).Legal EventMachine.Machine.anyStep server inputs)
    (sender : Conn) :
    (server.Spent sender → handshakes sender (deliveries config server inputs) = []) ∧
      (handshakes sender (deliveries config server inputs)).length ≤ 1 := by
  induction inputs generalizing server with
  | nil => exact ⟨fun _ => rfl, Nat.zero_le 1⟩
  | cons input rest inductionHypothesis =>
      obtain ⟨isEnabled, _, legalRest⟩ := legal
      obtain ⟨spentLater, atMostOne⟩ :=
        inductionHypothesis (occupancy_step inv isEnabled) legalRest
      obtain ⟨spentNow, nothing | ⟨one, spends⟩⟩ := step_handshakes inv isEnabled sender
      · unfold handshakes at *
        rw [deliveries, List.filter_append, nothing, List.nil_append]
        exact ⟨fun spent => spentLater (spentNow spent).2, atMostOne⟩
      · have noneLater := spentLater spends
        unfold handshakes at *
        rw [deliveries, List.filter_append, noneLater, List.append_nil]
        exact ⟨fun spent => (spentNow spent).1, one.le⟩

end Runs

/-! ## Survivors -/

namespace State

variable {server after : State} {ws other : Conn} {strict : Prop} {room : Room}

/-- Once two connections have been in a room, its occupants are paired, and an
empty slot means that it is half open. -/
structure Shared (server : State) (room : Room) : Prop where
  members : ∀ {ws}, room.Holds ws → ws ∈ room.members
  paired : 2 ≤ room.members.length → ∀ {ws}, room.Holds ws → (server.data ws).state = .paired
  halfOpen : 2 ≤ room.members.length → ∀ {role}, room.slot role = none → room.state = .halfOpen

theorem Shared.mono
    (shared : Shared server room)
    (stays : ∀ {ws}, room.Holds ws →
      (server.data ws).state = .paired → (after.data ws).state = .paired) :
    Shared after room where
  members := shared.members
  paired two _ holds := stays holds (shared.paired two holds)
  halfOpen := shared.halfOpen

theorem Shared.halfOpened
    (shared : Shared server room)
    (ws : Conn)
    (now : Millis) :
    Shared server (room.halfOpened ws now) where
  members holds := shared.members (Room.holds_halfOpened.mp holds).1
  paired two _ holds := shared.paired two (Room.holds_halfOpened.mp holds).1
  halfOpen _ _ _ := rfl

theorem Shared.left
    {left : Room}
    {roomId : RoomId}
    {now : Millis}
    (shared : ∀ roomId room, server.rooms.get roomId = some room → Shared server room)
    (registered : server.rooms.get room.roomId = some room)
    (found : OrderedMap.get (Registry.remove server.rooms room ws now).2.2 roomId = some left) :
    Shared server left := by
  by_cases isRoom : roomId = room.roomId
  · subst isRoom
    obtain ⟨rfl, _⟩ := Registry.get_remove_self found
    exact (shared _ _ registered).halfOpened ws now
  · rw [Registry.get_remove_other isRoom] at found
    exact shared _ _ found

/-- The room of a newcomer and its peer. -/
theorem Shared.joined
    {config : Config}
    {remaining : Conn}
    {roomId : RoomId}
    {existing : Room}
    {role : Role}
    (inv : Occupancy config server)
    (shared : Shared server existing)
    (newcomer : server.Newcomer ws)
    (registered : server.rooms.get roomId = some existing)
    (wasPeer : existing.slot role.peer = some remaining)
    (added : (existing.addPeer ws server.now).1 = some role) :
    Shared
      (server.seatBeside ws remaining roomId (existing.addPeer ws server.now).2 role)
      (existing.addPeer ws server.now).2 := by
  obtain ⟨_, taken, kept, _, _, members, _⟩ := Room.addPeer_eq_some added
  have different : remaining ≠ ws := newcomer.not_occupant (inv.occupant registered wasPeer)
  generalize (existing.addPeer ws server.now).2 = joined at *
  have occupants : ∀ {ws'}, joined.Holds ws' → ws' = ws ∨ ws' = remaining := by
    intro ws' holds
    obtain ⟨otherRole, isSlot⟩ := Room.holds_iff_slot.mp holds
    by_cases isRole : otherRole = role
    · subst isRole
      rw [taken] at isSlot
      exact .inl (Option.some.inj isSlot).symm
    · have isPeer : otherRole = role.peer := by
        cases otherRole <;> cases role <;> simp_all [Role.peer]
      rw [isPeer, kept, wasPeer] at isSlot
      exact .inr (Option.some.inj isSlot).symm
  constructor
  · intro ws' holds
    rw [members]
    rcases occupants holds with rfl | rfl
    · exact List.mem_append_right _ (List.mem_singleton_self _)
    · exact List.mem_append_left _ (shared.members (Room.holds_iff_slot.mpr ⟨_, wasPeer⟩))
  · intro _ ws' holds
    unfold seatBeside modifyData
    rcases occupants holds with rfl | rfl
    · rw [data, sockets_modifySocket_other different.symm]
      exact congrArg ConnectionData.state data_enter_self
    · rw [data, sockets_modifySocket_self]
  · intro _ otherRole isFree
    exfalso
    by_cases isRole : otherRole = role
    · rw [isRole, taken] at isFree
      cases isFree
    · have isPeer : otherRole = role.peer := by
        cases otherRole <;> cases role <;> simp_all [Role.peer]
      rw [isPeer, kept, wasPeer] at isFree
      cases isFree

theorem Shared.move
    {config : Config}
    (move : Move strict server after)
    (inv : Occupancy config server)
    (shared : ∀ roomId room, server.rooms.get roomId = some room → Shared server room) :
    ∀ roomId room, after.rooms.get roomId = some room → Shared after room := by
  intro roomId room found
  cases move with
  | acts => exact (shared _ _ found).mono fun _ => id
  | @modify change ws calm =>
      apply (shared _ _ found).mono
      intro other _ isPaired
      by_cases itself : other = ws
      · subst itself
        rw [data, sockets_modifySocket_self]
        exact calm.paired _ isPaired
      · rw [data, sockets_modifySocket_other itself]
        exact isPaired
  | delete erased =>
      by_cases isErased : roomId = erased
      · subst isErased
        rw [show (server.delete roomId).rooms.get roomId = none from OrderedMap.get_erase_self]
          at found
        cases found
      · rw [show (server.delete erased).rooms.get roomId = server.rooms.get roomId from
          OrderedMap.get_erase_other isErased] at found
        exact (shared _ _ found).mono fun _ => id
  | remove leftRoom ws registered holds =>
      exact (Shared.left shared registered found).mono fun _ => id
  | callback ws isOpened notRun own =>
      have closes := closeCallback_spec server ws
      have isShared : Shared server room := by
        rw [closes.rooms] at found
        unfold leaveRoom at found
        cases isRoom : (server.data ws).roomId.bind server.rooms.get with
        | none =>
            rw [isRoom] at found
            exact shared _ _ found
        | some leftRoom =>
            rw [isRoom] at found
            obtain ⟨leftId, _, registered⟩ := Option.bind_eq_some_iff.mp isRoom
            have isId := inv.ids registered
            subst isId
            exact Shared.left shared registered found
      apply isShared.mono
      intro other _ isPaired
      rw [data, closes.sockets]
      by_cases itself : other = ws
      · subst itself
        rw [sockets_modifySocket_self]
        exact isPaired
      · rw [sockets_modifySocket_other itself]
        exact isPaired
  | create ws createdId newcomer free =>
      by_cases isCreated : roomId = createdId
      · subst isCreated
        rw [show State.rooms (enter _ ws roomId _ _) =
          server.rooms.set roomId (Registry.newRoom roomId ws server.now) from rfl,
          OrderedMap.get_set_self] at found
        obtain rfl := Option.some.inj found
        constructor
        · rintro other (isInitiator | isJoiner)
          · exact List.mem_singleton.mpr (Option.some.inj isInitiator).symm
          · cases isJoiner
        · intro two
          simp [Registry.newRoom] at two
        · intro two
          simp [Registry.newRoom] at two
      · rw [show State.rooms (enter _ ws createdId _ _) =
          server.rooms.set createdId (Registry.newRoom createdId ws server.now) from rfl,
          OrderedMap.get_set_other isCreated] at found
        apply (shared _ _ found).mono
        intro other holds isPaired
        obtain ⟨role, isSlot⟩ := Room.holds_iff_slot.mp holds
        have different := newcomer.not_occupant (inv.occupant found isSlot)
        rw [data, sockets_enter_other different]
        exact isPaired
  | @join ws remaining joinedId existing role newcomer registered wasPeer added =>
      have rooms :
          (server.seatBeside ws remaining joinedId (existing.addPeer ws server.now).2
            role).rooms = server.rooms.set joinedId (existing.addPeer ws server.now).2 :=
        rfl
      rw [rooms] at found
      by_cases isJoined : roomId = joinedId
      · subst isJoined
        rw [OrderedMap.get_set_self] at found
        obtain rfl := Option.some.inj found
        exact Shared.joined inv (shared _ _ registered) newcomer registered wasPeer added
      · rw [OrderedMap.get_set_other isJoined] at found
        apply (shared _ _ found).mono
        intro other holds isPaired
        obtain ⟨otherRole, isSlot⟩ := Room.holds_iff_slot.mp holds
        have different := newcomer.not_occupant (inv.occupant found isSlot)
        unfold seatBeside modifyData
        by_cases isRemaining : other = remaining
        · subst isRemaining
          rw [data, sockets_modifySocket_self]
        · rw [data, sockets_modifySocket_other isRemaining, sockets_enter_other different]
          exact isPaired

theorem Moves.shared
    {config : Config}
    (moves : Moves strict server after)
    (inv : Occupancy config server)
    (shared : ∀ roomId room, server.rooms.get roomId = some room → Shared server room) :
    ∀ roomId room, after.rooms.get roomId = some room → Shared after room :=
  (moves.preserve (P := fun state => Occupancy config state ∧
      ∀ roomId room, state.rooms.get roomId = some room → Shared state room)
    (fun move holds => ⟨holds.1.move move, Shared.move move holds.1 holds.2⟩)
    ⟨inv, shared⟩).2

end State

theorem shared_of_reachable
    {config : Config}
    {server : State}
    {allowed : State → Input → Prop}
    (reachable : (machine config).Reachable Started allowed server) :
    State.Occupancy config server ∧
      ∀ roomId room, server.rooms.get roomId = some room → server.Shared room := by
  apply reachable.invariant
  · intro server started
    refine ⟨occupancy_started started, ?_⟩
    intro roomId room found
    rw [started.1, OrderedMap.get_empty] at found
    cases found
  · rintro server input ⟨inv, shared⟩ isEnabled _
    refine ⟨occupancy_step inv isEnabled, ?_⟩
    have invReady := inv.ready input
    have sharedReady : ∀ roomId room, (server.ready input).rooms.get roomId = some room →
        (server.ready input).Shared room :=
      fun roomId room found => (shared roomId room found).mono fun _ => id
    rcases step_cases inv isEnabled (False.elim : False → NoForeignClose server input) with
      ⟨_, opens⟩ | ⟨span, _, elapses⟩ | ⟨ws, message, _, _, handled⟩ | moves
    · intro roomId room found
      rw [opens, State.openConnection_rooms] at found
      rw [opens]
      apply (sharedReady _ _ found).mono
      intro ws holds isPaired
      obtain ⟨role, isSlot⟩ := Room.holds_iff_slot.mp holds
      have isOpened := (invReady.occupant found isSlot).opened
      rw [State.data, State.sockets_openConnection config (Nat.ne_of_lt isOpened)]
      exact isPaired
    · intro roomId room found
      rw [elapses] at found ⊢
      exact (shared _ _ found).mono fun _ => id
    · cases handled with
      | moves moves => exact moves.shared invReady sharedReady
      | relays arrives _ _ _ _ _ rest =>
          apply rest.shared (State.safeSend_occupancy (arrives.occupancy invReady) _)
          intro roomId room found
          exact (arrives.shared invReady sharedReady roomId room found).mono fun _ => id
    · exact moves.shared invReady sharedReady

/-- A frame that `handleForward` takes for a HANDSHAKE or a RELAY. -/
def Forwardable (buf : Bytes) : Prop :=
  buf.head? = some msgHandshake ∧ buf.length = handshakeFrameLength ∨
    buf.head? = some msgRelay ∧ buf.length ≤ maxWireBytes

instance (buf : Bytes) : Decidable (Forwardable buf) :=
  inferInstanceAs (Decidable (_ ∨ _))

theorem Room.getPeer_eq_none
    {room : Room}
    {role : Role}
    {ws : Conn}
    (isSlot : room.slot role = some ws)
    (alone : room.slot role.peer = none) :
    room.getPeer ws = none := by
  unfold Room.getPeer
  cases role with
  | initiator =>
      have isInitiator : room.initiator = some ws := isSlot
      rw [if_pos isInitiator]
      exact alone
  | joiner =>
      have isJoiner : room.joiner = some ws := isSlot
      rw [show room.initiator = none from alone, if_neg (by simp), if_pos isJoiner]

/-- A frame of a survivor costs a token of its bucket, and nothing else happens. -/
theorem State.handleForward_survivor
    {config : Config}
    {server : State}
    {ws : Conn}
    {room : Room}
    {role : Role}
    {buf : Bytes}
    {type : UInt8}
    (named : (server.data ws).roomId.bind server.rooms.get = some room)
    (isPaired : (server.data ws).state = .paired)
    (isHalfOpen : room.state = .halfOpen)
    (isSlot : room.slot role = some ws)
    (alone : room.slot role.peer = none)
    (isType : buf.head? = some type)
    (forwardable : Forwardable buf)
    (granted :
      (consumeRelayToken (server.data ws).relayBucket config.relayBucket server.now).1 = true) :
    handleForward config server ws buf type = (takeToken config server ws).2 := by
  have noPeer := Room.getPeer_eq_none isSlot alone
  have isGranted : (takeToken config server ws).1 = true := granted
  have namedStill :
      ((takeToken config server ws).2.data ws).roomId.bind (takeToken config server ws).2.rooms.get =
        some room := by
    rw [← named]
    exact congrArg (fun roomId : Option RoomId => roomId.bind server.rooms.get)
      (State.calm_relayBucket _).data_roomId
  have small : ¬ buf.length > maxWireBytes := by
    rcases forwardable with ⟨_, isLength⟩ | ⟨_, isLength⟩
    · rw [isLength]
      decide
    · exact not_lt.mpr isLength
  unfold handleForward
  rw [if_neg (not_not_intro isPaired), if_neg small]
  rcases forwardable with ⟨isHandshake, isLength⟩ | ⟨isRelay, _⟩
  · have isMsg : type = msgHandshake := Option.some.inj (isType.symm.trans isHandshake)
    rw [if_neg (fun wrong => wrong.2 isLength),
      if_neg (by rw [isMsg]; decide : ¬ type = msgRelay)]
    unfold forward
    rw [named]
    dsimp only
    rw [noPeer]
    dsimp only
    rw [if_pos isHalfOpen, if_pos isMsg, if_pos isGranted]
  · have isMsg : type = msgRelay := Option.some.inj (isType.symm.trans isRelay)
    have notHandshake : ¬ type = msgHandshake := by
      rw [isMsg]
      decide
    rw [if_neg (fun wrong => notHandshake wrong.1), if_pos isMsg]
    dsimp only
    rw [if_pos isGranted]
    unfold forward
    rw [namedStill]
    dsimp only
    rw [noPeer]
    dsimp only
    rw [if_pos isHalfOpen, if_neg notHandshake]

/-- The member in the only taken slot of a half-open room is not the only one there was. -/
theorem Room.Faithful.survivor
    {room : Room}
    {role : Role}
    {ws : Conn}
    (faithful : room.Faithful)
    (isSlot : room.slot role = some ws)
    (isHalfOpen : room.state = .halfOpen) :
    ∃ other ∈ room.members, room.slot role.peer = none ∧ other ≠ ws := by
  obtain ⟨⟨other, another, left⟩, oneSlot⟩ := faithful.halfOpen isHalfOpen
  refine ⟨other, another, ?_, ?_⟩
  · cases role with
    | initiator =>
        rw [show room.initiator = some ws from isSlot] at oneSlot
        exact Option.not_isSome_iff_eq_none.mp fun taken => oneSlot taken.symm
    | joiner =>
        rw [show room.joiner = some ws from isSlot] at oneSlot
        exact Option.not_isSome_iff_eq_none.mp oneSlot
  · rintro rfl
    exact left (Room.holds_iff_slot.mpr ⟨role, isSlot⟩)

/-- What the step of a survivor's frame does when its peer has left. -/
theorem step_survivor
    {config : Config}
    {server : State}
    {room : Room}
    {role : Role}
    {ws other : Conn}
    {buf : Bytes}
    (inv : State.Occupancy config server)
    (shared : ∀ roomId room, server.rooms.get roomId = some room → server.Shared room)
    (oracle : Oracle)
    (registered : server.rooms.get room.roomId = some room)
    (isSlot : room.slot role = some ws)
    (alone : room.slot role.peer = none)
    (another : other ∈ room.members)
    (different : other ≠ ws)
    (forwardable : Forwardable buf)
    (granted :
      (consumeRelayToken (server.data ws).relayBucket config.relayBucket server.now).1 = true) :
    (machine config).step server ⟨.message ws (.binary buf), oracle⟩ =
      (server.ready ⟨.message ws (.binary buf), oracle⟩).modifyData ws fun data =>
        { data with
          relayBucket :=
            (consumeRelayToken data.relayBucket config.relayBucket server.now).2 } := by
  have isShared := shared _ _ registered
  have holds : room.Holds ws := Room.holds_iff_slot.mpr ⟨role, isSlot⟩
  have two : 2 ≤ room.members.length := by
    have pair : [other, ws].Nodup := by simp [different]
    have included : [other, ws] ⊆ room.members := by
      intro member isMember
      simp only [List.mem_cons, List.not_mem_nil, or_false] at isMember
      rcases isMember with rfl | rfl
      · exact another
      · exact isShared.members holds
    exact (List.subperm_of_subset pair included).length_le
  have isOccupant := inv.occupant registered isSlot
  have named : (server.data ws).roomId.bind server.rooms.get = some room := by
    rw [isOccupant.roomId, Option.bind_some, registered]
  have isPaired := isShared.paired two holds
  have isHalfOpen := isShared.halfOpen two alone
  obtain ⟨type, isType, known⟩ :
      ∃ type, buf.head? = some type ∧ (type = msgHandshake ∨ type = msgRelay) := by
    rcases forwardable with ⟨isHandshake, _⟩ | ⟨isRelay, _⟩
    · exact ⟨_, isHandshake, .inl rfl⟩
    · exact ⟨_, isRelay, .inr rfl⟩
  obtain ⟨rest, rfl⟩ := List.head?_eq_some_iff.mp isType
  have handles :
      (machine config).step server ⟨.message ws (.binary (type :: rest)), oracle⟩ =
        State.handleForward config
          (server.ready ⟨.message ws (.binary (type :: rest)), oracle⟩) ws (type :: rest)
          type := by
    change State.handleMessage config _ ws (.binary (type :: rest)) = _
    unfold State.handleMessage
    dsimp only
    rw [if_neg (by rcases known with rfl | rfl <;> decide), if_pos known]
    rfl
  have survives :
      State.handleForward config
          (server.ready ⟨.message ws (.binary (type :: rest)), oracle⟩) ws (type :: rest)
          type =
        (State.takeToken config
          (server.ready ⟨.message ws (.binary (type :: rest)), oracle⟩) ws).2 :=
    State.handleForward_survivor named isPaired isHalfOpen isSlot alone isType forwardable
      granted
  rw [handles, survives]
  rfl

/--
In every reachable state: a step hands a HANDSHAKE or RELAY frame only to the
connection in the other slot of the room of the frame's sender; along every
run, the frames handed from one connection to another are some of those sent,
in order, and at most one of a connection is a HANDSHAKE; a frame of a sender
without a peer is handed to nobody; and if the peer of that sender has left,
the frame costs a token and changes nothing else.  In runs without foreign closes
that is so of every sender whose room is half open.
-/
theorem relay_isolated
    {config : Config}
    {server : State}
    (reachable : (machine config).Reachable Started EventMachine.Machine.anyStep server) :
    (∀ input, (machine config).enabled server input →
      ∀ action ∈ ((machine config).step server input).out, action.Relays →
        ∃ sender receiver frame status room role,
          action = .send receiver frame status ∧
            input.event = .message sender (.binary frame) ∧
            server.rooms.get room.roomId = some room ∧
            room.slot role = some sender ∧ room.slot role.peer = some receiver ∧
            receiver ≠ sender ∧
            ∀ otherId other, server.rooms.get otherId = some other →
              other.Holds receiver ∨ other.Holds sender → otherId = room.roomId) ∧
    (∀ inputs, (machine config).Legal EventMachine.Machine.anyStep server inputs →
      ∀ sender receiver,
        (handed sender receiver (deliveries config server inputs)).Sublist
          (inputs.flatMap fun input => input.event.sentBy sender)) ∧
    (∀ inputs, (machine config).Legal EventMachine.Machine.anyStep server inputs →
      ∀ sender, (handshakes sender (deliveries config server inputs)).length ≤ 1) ∧
    (∀ ws buf oracle, (machine config).enabled server ⟨.message ws (.binary buf), oracle⟩ →
      (∀ room role, server.rooms.get room.roomId = some room → room.slot role = some ws →
        room.slot role.peer = none) →
      ∀ action ∈ ((machine config).step server ⟨.message ws (.binary buf), oracle⟩).out,
        ¬ action.Relays) ∧
    (∀ ws buf oracle, (machine config).enabled server ⟨.message ws (.binary buf), oracle⟩ →
      ∀ room role other, server.rooms.get room.roomId = some room →
        room.slot role = some ws → room.slot role.peer = none →
        other ∈ room.members → other ≠ ws →
        Forwardable buf →
        (consumeRelayToken (server.data ws).relayBucket config.relayBucket server.now).1 =
          true →
        (machine config).step server ⟨.message ws (.binary buf), oracle⟩ =
          (server.ready ⟨.message ws (.binary buf), oracle⟩).modifyData ws fun data =>
            { data with
              relayBucket :=
                (consumeRelayToken data.relayBucket config.relayBucket server.now).2 }) ∧
    ((machine config).Reachable Started NoForeignClose server →
      ∀ ws buf oracle, (machine config).enabled server ⟨.message ws (.binary buf), oracle⟩ →
      ∀ room role, server.rooms.get room.roomId = some room →
        room.slot role = some ws → room.state = .halfOpen →
        Forwardable buf →
        (consumeRelayToken (server.data ws).relayBucket config.relayBucket server.now).1 =
          true →
        (machine config).step server ⟨.message ws (.binary buf), oracle⟩ =
          (server.ready ⟨.message ws (.binary buf), oracle⟩).modifyData ws fun data =>
            { data with
              relayBucket :=
                (consumeRelayToken data.relayBucket config.relayBucket server.now).2 }) := by
  obtain ⟨inv, shared⟩ := shared_of_reachable reachable
  have relayed : ∀ input, (machine config).enabled server input →
      ∀ action ∈ ((machine config).step server input).out, action.Relays →
        ∃ sender receiver frame status room role,
          action = .send receiver frame status ∧
            Forwards server input ((machine config).step server input) sender receiver frame
              room role := by
    intro input isEnabled action isAction relays
    obtain ⟨delivery, isDelivery⟩ :=
      Option.ne_none_iff_exists'.mp fun none =>
        Act.delivery_eq_none_iff.mp none relays
    have isDelivered : delivery ∈ stepDeliveries config server input :=
      List.mem_filterMap.mpr ⟨action, isAction, isDelivery⟩
    rcases (stepDeliveries_cases inv isEnabled).2 with
      nothing | ⟨sender, receiver, frame, room, role, forwards, one⟩
    · rw [nothing] at isDelivered
      cases isDelivered
    · rw [one, List.mem_singleton] at isDelivered
      subst isDelivered
      cases action with
      | close => cases relays
      | send target sent status =>
          have isFrame : sent.head? = some msgHandshake ∨ sent.head? = some msgRelay := relays
          rw [Act.delivery, if_pos isFrame] at isDelivery
          simp only [Option.some.injEq, Delivery.mk.injEq] at isDelivery
          obtain ⟨_, rfl, rfl⟩ := isDelivery
          exact ⟨sender, target, sent, status, room, role, rfl, forwards⟩
  refine ⟨?_, ?_, ?_, ?_, ?_, ?_⟩
  · intro input isEnabled action isAction relays
    obtain ⟨sender, receiver, frame, status, room, role, isSend, forwards⟩ :=
      relayed input isEnabled action isAction relays
    refine ⟨sender, receiver, frame, status, room, role, isSend, forwards.sends,
      forwards.registered, forwards.isSlot, forwards.isPeer,
      inv.toAgree.peers_differ forwards.registered forwards.isSlot forwards.isPeer, ?_⟩
    rintro otherId other registered (holds | holds)
    · obtain ⟨otherRole, otherSlot⟩ := Room.holds_iff_slot.mp holds
      exact (inv.toAgree.one_slot registered otherSlot forwards.registered forwards.isPeer).1
    · obtain ⟨otherRole, otherSlot⟩ := Room.holds_iff_slot.mp holds
      exact (inv.toAgree.one_slot registered otherSlot forwards.registered forwards.isSlot).1
  · intro inputs legal sender receiver
    exact handed_sublist_sent inv legal sender receiver
  · intro inputs legal sender
    exact (handshakes_of_run inv legal sender).2
  · intro ws buf oracle isEnabled alone action isAction relays
    obtain ⟨sender, receiver, frame, status, room, role, _, forwards⟩ :=
      relayed _ isEnabled action isAction relays
    have isSender := forwards.sends
    simp only [Event.message.injEq] at isSender
    obtain ⟨rfl, _⟩ := isSender
    have noPeer := alone room role forwards.registered forwards.isSlot
    rw [forwards.isPeer] at noPeer
    cases noPeer
  · intro ws buf oracle _ room role other registered isSlot alone another different
    exact step_survivor inv shared oracle registered isSlot alone another different
  · intro undisturbed ws buf oracle _ room role registered isSlot isHalfOpen
    have faithful := (roomsFaithful_of_reachable undisturbed).2 _ _ registered
    obtain ⟨other, another, alone, different⟩ := faithful.survivor isSlot isHalfOpen
    exact step_survivor inv shared oracle registered isSlot alone another different

namespace Sample

/-- A RELAY frame of twenty bytes without a ciphertext. -/
def relay : Bytes :=
  [msgRelay] ++ List.replicate 19 0

/-- The peer leaves; the survivor sends a frame; the peer comes back. -/
def resuming : List Input :=
  pairing ++ [calmly (.closed 1), calmly (.message 0 (.binary relay)), calmly .opens,
    calmly (hello 2 .resume)]

end Sample

/-- What the survivor sent while it was alone is not kept for the peer that
comes back; what it sends then arrives once. -/
theorem relay_isolated_resuming :
    (handed 0 2 (deliveries Sample.config
        ((machine Sample.config).run Sample.start Sample.pairing)
        [Sample.calmly (.closed 1), Sample.calmly (.message 0 (.binary Sample.relay)),
          Sample.calmly .opens, Sample.calmly (Sample.hello 2 .resume),
          Sample.calmly (.message 0 (.binary Sample.relay))])).Sublist
        [Sample.relay, Sample.relay] ∧
      handed 0 2 (deliveries Sample.config Sample.start Sample.resuming) = [] :=
  ⟨(relay_isolated (Sample.reachable_run Sample.pairing (by decide +kernel))).2.1 _
      (by decide +kernel) 0 2,
    by decide +kernel⟩

/-- The room of a client that is alone in it is marked half open by a foreign close, and
the client's next frame closes its connection. -/
theorem half_open_survivor_closed :
    ¬ ∀ server,
        (machine Sample.config).Reachable Started EventMachine.Machine.anyStep server →
        ∀ ws buf oracle,
          (machine Sample.config).enabled server ⟨.message ws (.binary buf), oracle⟩ →
          ∀ room role, server.rooms.get room.roomId = some room →
            room.slot role = some ws → room.state = .halfOpen →
            Forwardable buf →
            (consumeRelayToken (server.data ws).relayBucket Sample.config.relayBucket
              server.now).1 = true →
              (((machine Sample.config).step server ⟨.message ws (.binary buf), oracle⟩).sockets
                ws).closed = (server.sockets ws).closed := by
  intro claimed
  have stays :=
    claimed _
      (Sample.reachable_run (Sample.recreation ++ [Sample.calmly (.closed 0)]) (by decide +kernel))
      1 Sample.relay (Sample.calmly .opens).oracle (by decide +kernel)
      ((Registry.newRoom Sample.roomId 1 0).halfOpened 0 0) .initiator (by decide +kernel)
      (by decide +kernel) (by decide +kernel) (by decide +kernel) (by decide +kernel)
  revert stays
  decide +kernel

end Unseen.Server
