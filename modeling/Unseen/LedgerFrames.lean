import Unseen.KeyLedger

namespace Unseen

/-!
# What leaves the ledger of session keys alone

Most of what a client does touches neither its session key, its counters and
key pairs nor the stored record (`KeyFrame`).  Beside the inbound chain this
keeps the ledger.
-/

namespace Client

/-- The keys of a session, but for those that its upgrades generate. -/
structure Keys where
  mirrors : List StoredSession
  sealer : Option Sealer
  ephemeral : Option Draw
  inFlight : Bool
  pending : Option Draw

/-- What the ledger reads of a client that has not ended. -/
def keys (client : Client) : Keys where
  mirrors := client.store.mirrors
  sealer := client.vars.internal.context?.map ActiveContext.sealer
  ephemeral := client.handshake.ephemeral
  inFlight := client.vars.rekeyInFlight
  pending := client.vars.pendingRekeyPair

/-- Nothing was encrypted or accepted; the session ended or its keys are as they were. -/
structure KeyFrame (before after : Client) : Prop where
  device : after.page.device = before.page.device
  draws : before.page.nextDraw ≤ after.page.nextDraw
  spends : after.out.filterMap Act.spends? = before.out.filterMap Act.spends?
  hears : after.out.filterMap Act.hears? = before.out.filterMap Act.hears?
  storage :
    after.store.storage = before.store.storage ∨
      after.vars.terminated = true ∧ after.store.storage = none
  stored : after.vars.stored = before.vars.stored
  terminated : before.vars.terminated = true → after.vars.terminated = true
  live :
    after.vars.terminated = true ∨
      after.keys = before.keys ∧
        (after.vars.upgrades.filterMap Upgrade.keygen?).Sublist
          (before.vars.upgrades.filterMap Upgrade.keygen?)

namespace KeyFrame

theorem refl (client : Client) : KeyFrame client client where
  device := rfl
  draws := Nat.le_refl _
  spends := rfl
  hears := rfl
  storage := .inl rfl
  stored := rfl
  terminated := id
  live := .inr ⟨rfl, List.Sublist.refl _⟩

/-- Two calls that leave the ledger alone leave it alone together; an end in between is final. -/
theorem trans
    {first second third : Client}
    (early : KeyFrame first second)
    (late : KeyFrame second third) : KeyFrame first third where
  device := late.device.trans early.device
  draws := Nat.le_trans early.draws late.draws
  spends := late.spends.trans early.spends
  hears := late.hears.trans early.hears
  storage := by
    rcases late.storage with same | gone
    · rcases early.storage with kept | ⟨ended, cleared⟩
      · exact .inl (same.trans kept)
      · exact .inr ⟨late.terminated ended, same.trans cleared⟩
    · exact .inr gone
  stored := late.stored.trans early.stored
  terminated := fun ended => late.terminated (early.terminated ended)
  live := by
    rcases late.live with ended | ⟨lateSame, lateFewer⟩
    · exact .inl ended
    · rcases early.live with ended | ⟨earlySame, earlyFewer⟩
      · exact .inl (late.terminated ended)
      · exact .inr ⟨lateSame.trans earlySame, lateFewer.trans earlyFewer⟩

/-- While the same handler runs the ledger is kept. -/
theorem keeps
    {before after : Client}
    (frame : KeyFrame before after)
    (handler : after.inbound.handler = before.inbound.handler)
    (past : Past)
    {earlier later : List SessionKey}
    (answers : later ⊆ earlier) :
    Ledger.Keeps { before.ledger past with answers := earlier }
      { after.ledger past with answers := later } where
  device := frame.device
  draws := frame.draws
  spent := congrArg (past.spent ++ ·) frame.spends
  heard := by
    unfold ledger
    rw [frame.hears]
  listens := rfl
  storage := frame.storage
  live := by
    cases live : after.vars.terminated with
    | true => exact .inl live
    | false =>
        obtain ⟨same, fewer⟩ := frame.live.resolve_left (by simp [live])
        refine .inr ⟨?_, ?_⟩
        · cases wasLive : before.vars.terminated with
          | true => simp [frame.terminated wasLive] at live
          | false => exact wasLive
        · exact
            { mirrors := congrArg Keys.mirrors same
              sealer := congrArg Keys.sealer same
              ephemeral := congrArg Keys.ephemeral same
              inFlight := congrArg Keys.inFlight same
              pending := congrArg Keys.pending same
              handler := handler
              keygens := fewer
              answers := answers }

variable (client : Client)

/-- An act that neither encrypts nor accepts. -/
theorem act
    {action : Act}
    (spendsNothing : action.spends? = none)
    (hearsNothing : action.hears? = none) : KeyFrame client (client.act action) :=
  { refl client with
    spends := by simp [Client.act, spendsNothing]
    hears := by simp [Client.act, hearsNothing] }

theorem system (event : SystemEventKind) : KeyFrame client (client.system event) :=
  act client rfl rfl

theorem setState (state : SessionState) : KeyFrame client (client.setState state) :=
  { refl client with
    spends := by simp [Client.setState, Act.spends?]
    hears := by simp [Client.setState, Act.hears?] }

/-- The active context changes in what has nothing to do with sealing. -/
theorem updateActive
    (change : ActiveContext → ActiveContext)
    (same : ∀ active, (change active).sealer = active.sealer) :
    KeyFrame client (client.updateActive change) := by
  have sameKeys : (client.updateActive change).keys = client.keys := by
    simp only [keys, Client.updateActive, InternalState.context?_mapContext, Option.map_map]
    congr 2
    exact funext same
  exact { refl client with
    live := .inr ⟨sameKeys, List.Sublist.refl _⟩ }

/-- A segment of the file machines asks for sends and tells events; it encrypts nothing. -/
theorem file
    {before after : Client}
    (frame : FileFrame before after) : KeyFrame before after := by
  obtain ⟨acts, out, quiet⟩ := frame.out
  have spendsNothing : acts.filterMap Act.spends? = [] := by
    rw [List.filterMap_eq_nil_iff]
    intro action member
    have isQuiet := quiet action member
    cases action <;> first | rfl | exact isQuiet.elim
  have hearsNothing : acts.filterMap Act.hears? = [] := by
    rw [List.filterMap_eq_nil_iff]
    intro action member
    have isQuiet := quiet action member
    cases action <;> first | rfl | exact isQuiet.elim
  exact
    { device := by rw [frame.page]
      draws := by rw [frame.page]
      spends := by rw [out, List.filterMap_append, spendsNothing, List.append_nil]
      hears := by rw [out, List.filterMap_append, hearsNothing, List.append_nil]
      storage := .inl (by rw [frame.store])
      stored := by rw [frame.vars]
      terminated := by rw [frame.vars]; exact id
      live := .inr
        ⟨by simp only [keys, frame.store, frame.vars, frame.handshake], by rw [frame.vars]⟩ }

theorem runFiles (segment : Files → Files) : KeyFrame client (client.runFiles segment) :=
  file (runFiles_frame client segment)

theorem schedule (job : Job) : KeyFrame client (client.schedule job) :=
  { refl client with }

/-- A queued frame has no counter yet: that is allocated when its task starts. -/
theorem enqueueRelaySend (task : SendTask) :
    KeyFrame client (client.enqueueRelaySend task) := by
  unfold Client.enqueueRelaySend
  simp only
  split <;> exact { refl client with }

/-- An envelope is queued, or its oversize is reported. -/
theorem sendEncoded (envelope : PlaintextEnvelope) (continuation : SendCont) :
    KeyFrame client (client.sendEncoded envelope continuation) := by
  unfold Client.sendEncoded
  split
  · exact refl client
  · exact enqueueRelaySend client _

/-! ## Ending the session -/

/-- Closing the connection drops the socket only. -/
theorem closeConnection : KeyFrame client client.closeConnection := by
  unfold Client.closeConnection
  split
  · exact refl client
  · exact
      { refl client with
        spends := by simp [Act.spends?]
        hears := by simp [Act.hears?] }

theorem relinked (link : Link) : KeyFrame client { client with link := link } :=
  { refl client with }

theorem clearReconnectTimer : KeyFrame client client.clearReconnectTimer :=
  relinked client _

theorem armed (timer : Option Nat) :
    KeyFrame client { client with vars.fatalTimer := timer } :=
  { refl client with }

/-- `finalizeTermination` clears the record and the session's variables of an ended session. -/
theorem finalizeTermination
    (ended : client.vars.terminated = true) :
    KeyFrame client client.finalizeTermination := by
  have down :=
    (setState client .terminated).trans (file (shutdownFiles_frame (client.setState .terminated)))
  have signalled :
      KeyFrame client (client.setState .terminated).shutdownFiles.signalCredential := by
    unfold signalCredential
    split
    · exact down.trans (act _ rfl rfl)
    · exact down
  have still := signalled.terminated ended
  exact
    { signalled with
      spends := by
        have cleared : [Act.clearRecord].filterMap Act.spends? = [] := rfl
        simp only [Client.finalizeTermination, clearStoredSession, List.filterMap_append, cleared,
          List.append_nil]
        exact signalled.spends
      hears := by
        have cleared : [Act.clearRecord].filterMap Act.hears? = [] := rfl
        simp only [Client.finalizeTermination, clearStoredSession, List.filterMap_append, cleared,
          List.append_nil]
        exact signalled.hears
      storage := .inr ⟨still, rfl⟩
      terminated := fun _ => still
      live := .inl still }

/-- `terminate` ends the session, at once or with the record kept for its buffer. -/
theorem terminate (reason : TerminateReason) : KeyFrame client (client.terminate reason) := by
  have begun : KeyFrame client (client.beginTermination reason) := by
    have ended : KeyFrame client { client with vars.terminated := true } :=
      { refl client with
        storage := .inl rfl
        terminated := fun _ => rfl
        live := .inl rfl }
    exact ((ended.trans (system _ _)).trans (clearReconnectTimer _)).trans (closeConnection _)
  have ended := AsideFrame.beginTermination_terminated client reason
  unfold Client.terminate
  split
  · exact refl client
  · simp only
    split
    · have fatal := begun.trans (setState _ .fatalEnding)
      exact (fatal.trans (armed _ _)).trans (act _ rfl rfl)
    · exact (begun.trans (finalizeTermination _ ended)).trans (act _ rfl rfl)

/-! ## Connections -/

/-- A new connection has a new generation, and keeps the keys. -/
theorem openWith (intent : HelloIntent) : KeyFrame client (client.openWith intent) :=
  { refl client with
    spends := by simp [Client.openWith, Act.spends?]
    hears := by simp [Client.openWith, Act.hears?] }

theorem reopenAsJoiner : KeyFrame client client.reopenAsJoiner :=
  ((closeConnection client).trans (setState _ _)).trans (openWith _ _)

/-- A frame is written to a connection; what it carries was encrypted before. -/
theorem sendOn (gen : Nat) (frame : ClientFrame) :
    KeyFrame client (client.sendOn gen frame) := by
  unfold Client.sendOn
  split
  · exact refl client
  · split
    · exact act client rfl rfl
    · exact refl client

/-- A lost connection arms the timer, gives up, or ends the session. -/
theorem scheduleReconnect : KeyFrame client client.scheduleReconnect := by
  unfold Client.scheduleReconnect
  simp only
  have episode :
      KeyFrame client
        (if client.signals.sessionState = .reconnecting ∨
            client.signals.sessionState = .resuming then
          client
        else
          { client with
            link.reconnectStartMs := client.page.now
            link.reconnectAttempt := 0 }) := by
    split
    · exact refl client
    · exact relinked client _
  split
  · exact episode.trans (terminate _ _)
  · exact (episode.trans (setState _ .reconnecting)).trans (relinked _ _)

/-- The reconnect timer opens a connection, or does nothing in an ended session. -/
theorem reconnectTimerFired : KeyFrame client client.reconnectTimerFired := by
  unfold Client.reconnectTimerFired
  simp only
  split
  · exact relinked client _
  · split
    · rename_i active isActive
      have resuming :
          KeyFrame client
            { client with
              link.reconnectTimer := none
              link.reconnectAttempt := client.link.reconnectAttempt + 1
              vars.internal := .resuming { active with nextRecvMode := .firstGapAllowed } } :=
        { refl client with
          live := .inr
            ⟨by
              simp only [keys, show client.vars.internal = .active active from isActive]
              rfl,
            List.Sublist.refl _⟩ }
      exact resuming.trans (openWith _ _)
    · exact (relinked client _).trans (openWith _ _)

/-- The end of the ending buffer finalizes a session that has ended. -/
theorem fatalTimerFired
    (ended : client.vars.terminated = true) : KeyFrame client client.fatalTimerFired := by
  exact (armed client none).trans (finalizeTermination _ ended)

/-- The wrapped local half is written to the connection that it was wrapped for. -/
theorem handshakeWrapped (ok : Bool) : KeyFrame client (client.handshakeWrapped ok) := by
  unfold Client.handshakeWrapped
  split
  · rename_i gen pair _ _
    have settled : KeyFrame client { client with handshake.handshakeSend := none } :=
      { refl client with }
    simp only
    split
    · exact settled
    · have sent := settled.trans (sendOn _ gen (.handshake (.wrapped pair)))
      split
      · exact sent.trans (setState _ _)
      · exact sent
  · exact refl client

/-! ## Upgrades up to the wrapped key -/

/-- An upgrade that has settled is forgotten; its key pair, if any, with it. -/
theorem settled (index : Nat) :
    KeyFrame client { client with vars.upgrades := client.vars.upgrades.eraseIdx index } :=
  { refl client with
    live := .inr ⟨rfl, (List.eraseIdx_sublist _ _).filterMap _⟩ }

/-- `upgradeToPrf` asks for a passkey; no key is derived before the dialog is answered. -/
theorem upgradeToPrf : KeyFrame client client.upgradeToPrf := by
  unfold Client.upgradeToPrf
  split
  · exact refl client
  · have upgrading := setState client .upgradingLocal
    exact upgrading.trans
      { refl (client.setState .upgradingLocal) with
        live := .inr ⟨rfl, by simp [Client.setState, List.filterMap_append, Upgrade.keygen?]⟩ }

/-- An upgrade that generates no key pair takes the place of another. -/
theorem keygens_set
    {upgrade : Upgrade}
    (noKeygen : upgrade.keygen? = none)
    (upgrades : List Upgrade)
    (index : Nat) :
    ((upgrades.set index upgrade).filterMap Upgrade.keygen?).Sublist
      (upgrades.filterMap Upgrade.keygen?) := by
  induction upgrades generalizing index with
  | nil => exact List.Sublist.refl _
  | cons first rest inductionHypothesis =>
      cases index with
      | zero =>
          simp only [List.set_cons_zero, List.filterMap_cons, noKeygen]
          cases first.keygen? with
          | none => exact List.Sublist.refl _
          | some pair => exact List.sublist_cons_self _ _
      | succ index =>
          simp only [List.set_cons_succ, List.filterMap_cons]
          cases first.keygen? with
          | none => exact inductionHypothesis index
          | some pair => exact (inductionHypothesis index).cons_cons pair

/-- The answer of the dialog starts the wrapping of the key, or drops the upgrade. -/
theorem upgradeRegistered (index : Nat) (outcome : RegisterOutcome) :
    KeyFrame client (client.upgradeRegistered index outcome) := by
  unfold Client.upgradeRegistered
  simp only
  split
  · split
    · exact (settled client index).trans (act _ rfl rfl)
    · exact settled client index
  · split
    · exact ((settled client index).trans (setState _ _)).trans (system _ _)
    · exact ((settled client index).trans (setState _ _)).trans (system _ _)
    · split
      · exact settled client index
      · exact
          { refl client with
            live := .inr ⟨rfl, keygens_set rfl _ _⟩ }

/-! ## Sends -/

/-- The caller of a send gets its result in a segment of its own. -/
theorem settleSend (continuation : SendCont) (sent : Bool) :
    KeyFrame client (client.settleSend continuation sent) := by
  unfold Client.settleSend
  simp only
  split
  · exact { refl client with }
  · exact (schedule client _).trans (schedule _ _)

/-- What a send ends with changes no key: its counter was taken when it started. -/
theorem sendSettled (flight : InFlight) (outcome : SendOutcome) :
    KeyFrame client (client.sendSettled flight outcome) := by
  have taken : KeyFrame client { client with outbound.sending := none } :=
    { refl client with }
  unfold Client.sendSettled
  split
  · exact (taken.trans (sendOn _ _ _)).trans (settleSend _ _ _)
  · exact (taken.trans (terminate _ _)).trans (settleSend _ _ _)
  · exact (taken.trans (terminate _ _)).trans (settleSend _ _ _)

/-- A drawn key pair is known to nobody yet. -/
theorem draw : KeyFrame client client.draw.1 :=
  { refl client with draws := Nat.le_succ _ }

theorem sendResumeProbe : KeyFrame client client.sendResumeProbe := by
  have drawn :
      KeyFrame client
        { client.draw.1 with vars.pendingResumeId := some client.draw.2 } :=
    { draw client with }
  exact drawn.trans
    (sendEncoded { client.draw.1 with vars.pendingResumeId := some client.draw.2 }
      (.resume client.draw.2) .discard)

/-- `send` queues a message. -/
theorem send (body t : Text) : KeyFrame client (client.send body t) := by
  unfold Client.send
  split
  · exact sendEncoded client _ _
  · exact terminate client _

/-! ## Server frames, the socket and the page -/

/-- The peer's absence is waited out, or ends the session. -/
theorem onPeerDisconnected : KeyFrame client client.onPeerDisconnected := by
  unfold Client.onPeerDisconnected
  split
  · exact terminate client _
  · split
    · exact terminate client _
    · have widened :=
        updateActive (client.setState .peerReconnecting)
          (fun context => { context with nextRecvMode := .firstGapAllowed }) fun _ => rfl
      exact ((setState client _).trans widened).trans (system _ _)

/-- A frame that waits its turn has not been opened. -/
theorem enqueueInbound (task : InboundTask) : KeyFrame client (client.enqueueInbound task) := by
  unfold Client.enqueueInbound
  simp only
  split <;> exact { refl client with }

/-- On opening, a connection sends its HELLO. -/
theorem socketOpened : KeyFrame client client.socketOpened := by
  unfold Client.socketOpened
  split
  · exact refl client
  · simp only
    split
    · exact relinked client _
    · exact (relinked client _).trans (sendOn _ _ _)

/-- A close reconnects or ends the session. -/
theorem socketClosed (kind : CloseKind) : KeyFrame client (client.socketClosed kind) := by
  unfold Client.socketClosed
  split
  · exact refl client
  · rename_i socket _
    have closed :
        KeyFrame client
          { client with link.socket := some { socket with readyState := .closed } } :=
      relinked client _
    simp only
    split
    · exact closed
    · have told := closed.trans (file (tellFilesClosed_frame _))
      split
      · exact told.trans (scheduleReconnect _)
      · exact told.trans (terminate _ _)

/-- A protocol error ends the session. -/
theorem onProtocolError (kind : ProtocolError) :
    KeyFrame client (client.onProtocolError kind) := by
  unfold Client.onProtocolError
  split
  · exact refl client
  · exact terminate client _

/-- A retry asks for the passkey again. -/
theorem retryResume : KeyFrame client client.retryResume := by
  unfold Client.retryResume
  split
  · exact refl client
  · exact (setState client .resuming).trans { refl (client.setState .resuming) with }

/-- A page that becomes visible without an open connection ends its session. -/
theorem becameVisible : KeyFrame client client.becameVisible := by
  unfold Client.becameVisible
  split
  · exact refl client
  · split
    · exact refl client
    · split
      · exact refl client
      · split
        · exact refl client
        · exact terminate client _

/-- A page that is being hidden marks itself. -/
theorem markHiding : KeyFrame client client.markHiding := by
  have marked : KeyFrame client { client with page.pageHiding := true } :=
    { refl client with }
  exact marked.trans (file (runPageHideListeners_frame _))

/-- Hiding a page cancels its transfers, and closes the connection unless it is kept. -/
theorem pageHide (persisted : Bool) : KeyFrame client (client.pageHide persisted) := by
  unfold Client.pageHide
  simp only
  split
  · exact markHiding client
  · exact (markHiding client).trans (closeConnection _)

/-- A page shown from the cache is swept and told terminated. -/
theorem pageShow (persisted : Bool) : KeyFrame client (client.pageShow persisted) := by
  have shown : KeyFrame client { client with page.pageHiding := false } :=
    { refl client with }
  unfold Client.pageShow
  simp only
  split
  · unfold bfcacheGuard
    split
    · exact shown
    · exact (shown.trans (act _ rfl rfl)).trans (setState _ _)
  · exact shown

/-! ## Start-up -/

/-- The claim of the session's lock decides whether a boot goes on. -/
theorem claimDecided (granted : Bool) : KeyFrame client (client.claimDecided granted) := by
  unfold Client.claimDecided
  split
  · exact (terminate client .duplicateTab).trans { refl (client.terminate .duplicateTab) with }
  · have held : KeyFrame client { client with vars.claim := .held } := { refl client with }
    simp only
    split
    · exact held.trans { refl { client with vars.claim := .held } with }
    · exact (held.trans (openWith _ .create)).trans
        { refl ({ client with vars.claim := .held }.openWith .create) with }

end KeyFrame

/-- Events that may draw, derive, use or store a key. -/
def Event.isKeyed : Event → Bool
  | .job => true
  | .claimDecided _ => true
  | .resumeDecided _ => true
  | .socketFrame (.ack _) => true
  | .socketFrame .peerJoined => true
  | .socketFrame (.handshake _) => true
  | .socketFrame (.relay _) => true
  | .handshakeDerived _ => true
  | .decrypted => true
  | .upgradeWrapped _ _ => true
  | .upgradeKeygen _ _ => true
  | .rekeyKeygen _ => true
  | .rekeyInitDerived _ => true
  | .rekeyAckDerived _ => true
  | .commitWrapped _ => true
  | .reload => true
  | _ => false

/-- All other events leave the keys alone. -/
theorem handle_keyFrame
    {client : Client}
    (armed : Armed client)
    {input : Input}
    (isEnabled : client.enabled input)
    (notKeyed : input.event.isKeyed = false) :
    KeyFrame client (client.handle input.event) := by
  obtain ⟨event, oracle⟩ := input
  have files :
      ∀ segment (created : Bool),
        KeyFrame client (if created then client.runFiles segment else client) := by
    intro segment created
    split
    · exact .runFiles client segment
    · exact .refl client
  cases event with
  | send body t => exact .send client body t
  | sendFile file tid => exact files _ _
  | cancelTransfer => exact .file (cancelTransfer_frame client)
  | acceptFileOffer => exact files _ _
  | declineFileOffer => exact files _ _
  | upgradeToPrf => exact .upgradeToPrf client
  | retryResume => exact .retryResume client
  | terminate reason => exact .terminate client reason
  | socketOpened => exact .socketOpened client
  | socketFrame frame =>
      simp only [Client.handle, handleServerFrame]
      split
      · exact .refl client
      · cases frame with
        | peerDisconnected => exact .onPeerDisconnected client
        | peerLeft => exact .terminate client _
        | error code =>
            simp only
            split
            · exact .reopenAsJoiner client
            · exact .terminate client _
        | _ => cases notKeyed
  | socketClosing => exact .relinked client _
  | socketClosed kind => exact .socketClosed client kind
  | socketBuffered amount => exact .relinked client _
  | protocolError kind => exact .onProtocolError client kind
  | handshakeWrapped ok => exact .handshakeWrapped client ok
  | upgradeRegistered index outcome => exact .upgradeRegistered client index outcome
  | sendSettled outcome =>
      simp only [Client.handle]
      split
      · exact .sendSettled client _ outcome
      · exact .refl client
  | reconnectTimer => exact .reconnectTimerFired client
  | fatalTimer =>
      have running : client.vars.fatalTimer ≠ none := by
        intro none
        simp [enabled, canOccur, isDue, none] at isEnabled
      exact .fatalTimerFired client (armed running)
  | file event => exact .runFiles client fun files => files.handle client.fileEnv event
  | visible => exact .becameVisible client
  | beforeUnload => exact .markHiding client
  | pageHide persisted => exact .pageHide client persisted
  | pageShow persisted => exact .pageShow client persisted
  | elapse ms => exact { KeyFrame.refl client with }
  | _ => cases notKeyed

end Client

end Unseen
