import Unseen.FrameProgress

namespace Unseen

/-!
# A survivor waits for evidence of its peer

After the peer of a stored session dropped out, the survivor waits.  What ends
the wait is evidence: a resume envelope that was accepted, a new connection of
its own, or the end of the session.  A rekey or a `upgradeToPrf` call that was
suspended when the peer dropped out can also end it, and no check prevents that;
the law is proved for runs in which none of these is resumed.
-/

/-- The wait for the peer is over for a good reason. -/
def Act.isEvidence : Act → Bool
  | .openConnection _ _ => true
  | .terminated _ => true
  | .accept _ _ _ (.envelope (.resume _)) => true
  | _ => false

/-- The states in which a client talks to its peer. -/
def SessionState.awake : SessionState → Bool
  | .active => true
  | .upgradingLocal => true
  | .rekeying => true
  | _ => false

/-- The states of a session that is under way. -/
def SessionState.isLive : SessionState → Bool
  | .active => true
  | .reconnecting => true
  | .resuming => true
  | .rekeying => true
  | .upgradingLocal => true
  | .peerReconnecting => true
  | _ => false

/-- The action belongs to a session that is under way. -/
def Act.revives : Act → Bool
  | .setState state => state.isLive
  | .openConnection _ _ => true
  | .encrypt _ _ _ => true
  | _ => false

theorem Act.IsQuiet.notReviving
    {action : Act}
    (quiet : action.IsQuiet) : action.revives = false := by
  cases action <;> simp_all [Act.IsQuiet, Act.revives]

namespace Client

/-- The session state and its kind are kept, and no action shows a session under way. -/
structure StateFrame (before after : Client) : Prop where
  terminated : after.vars.terminated = before.vars.terminated
  isActive : after.vars.internal.isActive = before.vars.internal.isActive
  state : after.signals.sessionState = before.signals.sessionState
  out :
    ∃ acts, after.out = before.out ++ acts ∧ ∀ action ∈ acts, action.revives = false

namespace StateFrame

theorem refl (client : Client) : StateFrame client client :=
  ⟨rfl, rfl, rfl, [], by simp⟩

theorem trans
    {first second third : Client}
    (early : StateFrame first second)
    (late : StateFrame second third) : StateFrame first third where
  terminated := late.terminated.trans early.terminated
  isActive := late.isActive.trans early.isActive
  state := late.state.trans early.state
  out := by
    obtain ⟨earlyActs, earlyOut, earlyQuiet⟩ := early.out
    obtain ⟨lateActs, lateOut, lateQuiet⟩ := late.out
    refine ⟨earlyActs ++ lateActs, by rw [lateOut, earlyOut, List.append_assoc], ?_⟩
    intro action member
    exact (List.mem_append.mp member).elim (earlyQuiet action) (lateQuiet action)

theorem subset
    {before after : Client}
    (frame : StateFrame before after) : before.out ⊆ after.out := by
  obtain ⟨acts, outEq, -⟩ := frame.out
  rw [outEq]
  exact List.subset_append_left _ _

variable (client : Client)

theorem act
    (action : Act)
    (quiet : action.revives = false) : StateFrame client (client.act action) :=
  ⟨rfl, rfl, rfl, [action], rfl, by simpa using quiet⟩

theorem updateActive (change : ActiveContext → ActiveContext) :
    StateFrame client (client.updateActive change) :=
  ⟨rfl, by simp [Client.updateActive], rfl, [], by simp [Client.updateActive]⟩

theorem enqueueRelaySend (task : SendTask) :
    StateFrame client (client.enqueueRelaySend task) := by
  unfold Client.enqueueRelaySend
  simp only
  split <;> exact ⟨rfl, rfl, rfl, [], by simp [schedule]⟩

theorem sendEncoded (envelope : PlaintextEnvelope) (continuation : SendCont) :
    StateFrame client (client.sendEncoded envelope continuation) := by
  unfold Client.sendEncoded
  split
  · exact refl client
  · exact enqueueRelaySend client _

theorem sendModeFrame (kind : RelayKind) (payload : Plaintext) (continuation : SendCont) :
    StateFrame client (client.sendModeFrame kind payload continuation) :=
  enqueueRelaySend client _

theorem finishHandler : StateFrame client client.finishHandler := by
  unfold Client.finishHandler
  simp only
  split <;> exact ⟨rfl, rfl, rfl, [], by simp [schedule]⟩

theorem enqueueInbound (task : InboundTask) :
    StateFrame client (client.enqueueInbound task) := by
  unfold Client.enqueueInbound
  simp only
  split <;> exact ⟨rfl, rfl, rfl, [], by simp [schedule]⟩

theorem settleSend (continuation : SendCont) (sent : Bool) :
    StateFrame client (client.settleSend continuation sent) := by
  unfold Client.settleSend
  simp only
  split <;> exact ⟨rfl, rfl, rfl, [], by simp [schedule]⟩

theorem sendOn (gen : Nat) (frame : ClientFrame) :
    StateFrame client (client.sendOn gen frame) := by
  unfold Client.sendOn
  split
  · exact refl client
  · split
    · exact act client _ rfl
    · exact refl client

theorem closeConnection : StateFrame client client.closeConnection := by
  unfold Client.closeConnection
  split
  · exact refl client
  · exact ⟨rfl, rfl, rfl, [_], rfl, by simp [Act.revives]⟩

theorem flushMirror (mirror : MirrorId) (change : StoredSession → StoredSession) :
    StateFrame client (client.flushMirror mirror change).1 := by
  rcases flushMirror_cases client mirror change with refused | ⟨record, -, -, written⟩
  · rw [refused]
    exact ⟨rfl, rfl, rfl, [], by simp [mirrorChanged]⟩
  · rw [written]
    exact ⟨rfl, rfl, rfl, [_], rfl, by simp [Act.revives]⟩

theorem allocateSendCounter (active : ActiveContext) (kind : RelayKind) :
    StateFrame client (client.allocateSendCounter active kind).1 := by
  have stored :=
    allocateCounter_store (active.mirror.map setCounterSend) (StateFrame client)
      (by
        intro persist member store counter holds
        obtain ⟨mirror, -, rfl⟩ := Option.map_eq_some_iff.mp member
        exact holds.trans (flushMirror store mirror _))
      active.sendState kind (refl client)
  exact stored.trans (updateActive _ _)

end StateFrame

theorem FileFrame.state
    {before after : Client}
    (frame : FileFrame before after) : StateFrame before after := by
  obtain ⟨acts, outEq, quiet⟩ := frame.out
  exact
    { terminated := by rw [frame.vars]
      isActive := by rw [frame.vars]
      state := by rw [frame.signals]
      out := ⟨acts, outEq, fun action member => (quiet action member).notReviving⟩ }

/-! ## Suspended work that would end the wait -/

/-- `commitRekey` has no key to wrap: it reports ACTIVE at once. -/
def commitsAtOnce (client : Client) : Bool :=
  match client.vars.internal.context?.bind ActiveContext.mirror, client.vars.currentWrapKey,
      client.vars.credentialIdForCleanup with
  | some _, some _, some _ => false
  | _, _, _ => true

/-- `startRekeyIfInitiator` passes its guard. -/
def rekeyStarts (client : Client) : Bool :=
  !(client.vars.terminated || client.vars.rekeyInFlight ||
    client.signals.sessionState == .rekeying) &&
    client.vars.internal.context?.isSome

/-- `persistWrappedSessionKey` wraps the key and stores the record. -/
def keyStored
    (client : Client)
    (storageOk : Bool)
    (keyToWrap : CryptoKey)
    (wrapKey : WrapKey)
    (ok : Bool) : Bool :=
  ok && (wrapSessionKey keyToWrap wrapKey).isSome &&
    client.vars.internal.context?.isSome && (!client.vars.terminated && storageOk)

/-- An accepted mode frame that puts the client into REKEYING. -/
def startsRekey (client : Client) (kind : RelayKind) (payload : Plaintext) : Bool :=
  match kind with
  | .modeUpgraded =>
      decodeModeUpgradedPayload payload &&
        (client.signals.sessionMode == .prf && client.rekeyStarts)
  | .rekeyInit =>
      (decodeRekeyPubkeyPayload payload).isSome &&
        client.vars.internal.context?.map ActiveContext.role == some .joiner
  | _ => false

/-- A settled send whose caller writes a state in which the client talks. -/
def wakesCaller (client : Client) (continuation : SendCont) (sent : Bool) : Bool :=
  match continuation with
  | .resumeAck => true
  | .modeUpgraded => client.signals.peerMode == .prf && client.rekeyStarts
  | .rekeyAck _ => sent && client.commitsAtOnce
  | _ => false

/--
A continuation of `upgradeToPrf`, of a rekey or of an earlier resume, or a mode frame
of the peer, that writes a state in which the client talks, whatever the state was.
-/
def wakes (client : Client) (input : Input) : Bool :=
  match input.event with
  | .upgradeRegistered _ (.ok _) => false
  | .upgradeRegistered _ _ => true
  | .upgradeWrapped index ok =>
      match client.vars.upgrades[index]? with
      | some (.wrapping sessionKey wrapKey _) =>
          client.keyStored input.oracle.storageOk sessionKey wrapKey ok
      | _ => false
  | .rekeyAckDerived ok =>
      match client.inbound.handler with
      | some (.rekeyAck pair peerPub) =>
          ok && client.commitsAtOnce && (deriveRekeyedSessionKey pair peerPub).isSome
      | _ => false
  | .commitWrapped ok =>
      match client.inbound.handler with
      | some (.commitWrap newSessionKey wrapKey _) =>
          client.keyStored input.oracle.storageOk
            { material := newSessionKey, extractable := true } wrapKey ok
      | _ => false
  | .job =>
      match client.jobs with
      | .settle continuation sent :: _ => client.wakesCaller continuation sent
      | _ => false
  | .decrypted =>
      match client.inbound.handler with
      | some (.decrypting frame mode state _) =>
          match validateAndDecryptFrame state frame.kind frame.nonce frame.ciphertext
              mode with
          | .ok payload _ => client.startsRekey frame.kind payload
          | _ => false
      | _ => false
  | _ => false

/-- Without starting a rekey `startRekeyIfInitiator` returns to its caller. -/
theorem startRekey_idle
    {client : Client}
    {origin : RekeyOrigin}
    (idle : client.rekeyStarts = false) :
    client.startRekeyIfInitiator origin = client.rekeyCallerDone origin := by
  unfold startRekeyIfInitiator
  split
  · rfl
  · rename_i passes
    split
    · rfl
    · rename_i context
      simp_all [rekeyStarts]

/-- A key that is not stored ends the session. -/
theorem persistWrappedSessionKey_refused
    {client : Client}
    {keyToWrap : CryptoKey}
    {wrapKey : WrapKey}
    (modePhase : ModePhase)
    (credentialId : CredentialId)
    {ok : Bool}
    (fails :
      client.keyStored client.page.oracle.storageOk keyToWrap wrapKey ok = false) :
    ∃ reason, (reason = .sessionKeyWrapFailed ∨ reason = .storageFail) ∧
      client.persistWrappedSessionKey keyToWrap wrapKey modePhase credentialId ok =
        (client.terminate reason, false) := by
  unfold persistWrappedSessionKey
  split
  · exact ⟨_, .inl rfl, rfl⟩
  · rename_i wrapped isWrapped
    have isOk : ok = true := by
      cases ok with
      | true => rfl
      | false => cases isWrapped
    rw [isOk] at isWrapped fails
    have wraps : wrapSessionKey keyToWrap wrapKey = some wrapped := isWrapped
    split
    · exact ⟨_, .inr rfl, rfl⟩
    · rename_i active hasContext
      have refuses :
          client.writeRecord (wrappedRecord active wrapped modePhase credentialId) =
            (client, false) := by
        cases live : client.vars.terminated <;>
          simp_all [writeRecord, keyStored]
      simp only [refuses]
      exact ⟨_, .inr rfl, rfl⟩

/-! ## Waiting -/

/-- A live session whose state is one of the given ones. -/
structure Asleep (states : SessionState → Prop) (client : Client) : Prop where
  live : client.vars.terminated = false
  isActive : client.vars.internal.isActive = true
  state : states client.signals.sessionState

/-- Evidence was seen in this segment, or the client still waits. -/
def Watch (states : SessionState → Prop) (client : Client) : Prop :=
  (∃ action ∈ client.out, action.isEvidence = true) ∨ Asleep states client

namespace Watch

variable {states : SessionState → Prop} {client : Client}

theorem keep
    {after : Client}
    (watch : Watch states client)
    (frame : StateFrame client after) : Watch states after := by
  rcases watch with ⟨action, member, evidence⟩ | asleep
  · exact Or.inl ⟨action, frame.subset member, evidence⟩
  · exact Or.inr
      { live := frame.terminated.trans asleep.live
        isActive := frame.isActive.trans asleep.isActive
        state := by rw [frame.state]; exact asleep.state }

theorem finishHandler (watch : Watch states client) : Watch states client.finishHandler :=
  watch.keep (StateFrame.finishHandler client)

theorem settleSend
    (watch : Watch states client)
    (continuation : SendCont)
    (sent : Bool) : Watch states (client.settleSend continuation sent) :=
  watch.keep (StateFrame.settleSend client continuation sent)

end Watch

/-- Ending a live session leaves its mark. -/
theorem terminate_mark
    {client : Client}
    (live : client.vars.terminated = false)
    (reason : TerminateReason) : .terminated reason ∈ (client.terminate reason).out := by
  unfold Client.terminate
  simp only [live, Bool.false_eq_true, ↓reduceIte]
  split
  · simp [Client.act]
  · simp [Client.act]

namespace Asleep

variable {states : SessionState → Prop} {client : Client}

theorem watch (asleep : Asleep states client) : Watch states client :=
  Or.inr asleep

theorem keep
    {after : Client}
    (asleep : Asleep states client)
    (frame : StateFrame client after) : Asleep states after where
  live := frame.terminated.trans asleep.live
  isActive := frame.isActive.trans asleep.isActive
  state := by rw [frame.state]; exact asleep.state

theorem terminate
    (asleep : Asleep states client)
    (reason : TerminateReason) : Watch states (client.terminate reason) :=
  Or.inl ⟨.terminated reason, terminate_mark asleep.live reason, rfl⟩

theorem setState
    (asleep : Asleep states client)
    {state : SessionState}
    (isState : states state) : Asleep states (client.setState state) :=
  ⟨asleep.live, asleep.isActive, isState⟩

theorem openWith (intent : HelloIntent) : Watch states (client.openWith intent) :=
  Or.inl
    ⟨.openConnection (client.link.connectionGen + 1) intent, by simp [Client.openWith], rfl⟩

/-! ### Events beside the inbound chain -/

theorem scheduleReconnect
    (asleep : Asleep states client)
    (reconnecting : states .reconnecting) : Watch states client.scheduleReconnect := by
  unfold Client.scheduleReconnect
  simp only
  have episode :
      Asleep states
        (if client.signals.sessionState = .reconnecting ∨
            client.signals.sessionState = .resuming then
          client
        else
          { client with
            link.reconnectStartMs := client.page.now
            link.reconnectAttempt := 0 }) := by
    split
    · exact asleep
    · exact { asleep with }
  split
  · exact episode.terminate _
  · have entered := episode.setState reconnecting
    exact Or.inr { entered with }

theorem reconnectTimerFired
    (asleep : Asleep states client) : Watch states client.reconnectTimerFired := by
  unfold Client.reconnectTimerFired
  simp only
  split
  · exact Or.inr { asleep with }
  · split
    · exact openWith _
    · exact openWith _

theorem sendLocalHandshake
    (asleep : Asleep states client) : Watch states client.sendLocalHandshake := by
  unfold Client.sendLocalHandshake
  split
  · exact asleep.watch
  · split
    · exact asleep.terminate _
    · split
      · rename_i internal
        have active := asleep.isActive
        rw [internal] at active
        cases active
      · exact asleep.terminate _

theorem handshakeWrapped
    (asleep : Asleep states client)
    (settled :
      client.signals.sessionState = .connecting ∨
          client.signals.sessionState = .waitingForPeer →
        states .handshaking)
    (ok : Bool) : Watch states (client.handshakeWrapped ok) := by
  unfold Client.handshakeWrapped
  split
  · rename_i gen pair _ _
    have begun : Asleep states { client with handshake.handshakeSend := none } :=
      { asleep with }
    simp only
    split
    · exact begun.watch
    · have frame :=
        StateFrame.sendOn { client with handshake.handshakeSend := none } gen
          (.handshake (.wrapped pair))
      have sent := begun.keep frame
      split
      · rename_i waiting
        rw [frame.state] at waiting
        exact (sent.setState (settled waiting)).watch
      · exact sent.watch
  · exact asleep.watch

theorem rekeyCallerDone
    (watch : Watch states client)
    (origin : RekeyOrigin) : Watch states (client.rekeyCallerDone origin) := by
  cases origin with
  | upgrade => exact watch
  | handler => exact watch.finishHandler

theorem startRekeyIfInitiator
    (asleep : Asleep states client)
    (idle : client.rekeyStarts = false)
    (origin : RekeyOrigin) : Watch states (client.startRekeyIfInitiator origin) := by
  rw [startRekey_idle idle]
  exact rekeyCallerDone asleep.watch origin

theorem rekeyKeygenDone
    (asleep : Asleep states client)
    (origin : RekeyOrigin)
    (pair : Draw)
    (ok : Bool) : Watch states (client.rekeyKeygenDone origin pair ok) := by
  unfold Client.rekeyKeygenDone
  split
  · exact rekeyCallerDone (asleep.terminate _) origin
  · have pending : Asleep states { client with vars.pendingRekeyPair := some pair } :=
      { asleep with }
    cases origin with
    | upgrade => exact (pending.keep (StateFrame.sendModeFrame _ _ _ _)).watch
    | handler =>
        have sent :=
          pending.keep
            (StateFrame.sendModeFrame _ .rekeyInit (.publicKey pair) .handlerDone)
        exact Or.inr { sent with }

theorem upgradeRegistered
    (asleep : Asleep states client)
    (index : Nat)
    (credentialId : CredentialId) :
    Watch states (client.upgradeRegistered index (.ok credentialId)) := by
  unfold Client.upgradeRegistered
  simp only
  split
  · exact Or.inr { asleep with }
  · split
    · exact Or.inr { asleep with }
    · exact Or.inr { asleep with }

theorem onPeerJoined (asleep : Asleep states client) : Watch states client.onPeerJoined := by
  have removed := asleep.keep (StateFrame.act client (.removeSystemMessage .waitingForPeer) rfl)
  unfold Client.onPeerJoined
  simp only
  split
  · exact removed.sendLocalHandshake
  · split
    · exact (removed.keep (StateFrame.updateActive _ _)).watch
    · exact removed.watch

theorem onPeerDisconnected
    (asleep : Asleep states client)
    (reconnecting : states .peerReconnecting) : Watch states client.onPeerDisconnected := by
  unfold Client.onPeerDisconnected
  split
  · exact asleep.terminate _
  · split
    · exact asleep.terminate _
    · exact
        (((asleep.setState reconnecting).keep (StateFrame.updateActive _ _)).keep
          (StateFrame.act _ _ rfl)).watch

/-- A frame of the server, whose second acknowledgement would be a surprise. -/
theorem handleServerFrame
    (asleep : Asleep states client)
    (reconnecting : states .peerReconnecting)
    (frame : ServerFrame)
    (acknowledged : (∃ role, frame = .ack role) → states .waitingForPeer) :
    Watch states (client.handleServerFrame frame) := by
  unfold Client.handleServerFrame
  split
  · exact asleep.watch
  · cases frame with
    | ack role =>
        have named : Asleep states { client with signals.myRole := some role } :=
          { asleep with }
        have notResuming : client.vars.internal.isResuming = false := by
          have active := asleep.isActive
          cases internal : client.vars.internal <;> simp_all [InternalState.isActive,
            InternalState.isResuming]
        simp only [notResuming, Bool.false_eq_true, ↓reduceIte]
        split
        · exact
            ((named.setState (acknowledged ⟨role, rfl⟩)).keep (StateFrame.act _ _ rfl)).watch
        · exact named.sendLocalHandshake
    | peerJoined => exact asleep.onPeerJoined
    | handshake ciphertext => exact (asleep.keep (StateFrame.enqueueInbound _ _)).watch
    | relay relayFrame => exact (asleep.keep (StateFrame.enqueueInbound _ _)).watch
    | peerDisconnected => exact asleep.onPeerDisconnected reconnecting
    | peerLeft => exact asleep.terminate _
    | error code =>
        simp only
        split
        · exact openWith _
        · exact asleep.terminate _

theorem socketOpened (asleep : Asleep states client) : Watch states client.socketOpened := by
  unfold Client.socketOpened
  split
  · exact asleep.watch
  · rename_i socket _
    have opened :
        Asleep states
          { client with link.socket := some { socket with readyState := .opened } } :=
      { asleep with }
    simp only
    split
    · exact opened.watch
    · exact (opened.keep (StateFrame.sendOn _ _ _)).watch

theorem socketClosed
    (asleep : Asleep states client)
    (reconnecting : states .reconnecting)
    (kind : CloseKind) : Watch states (client.socketClosed kind) := by
  unfold Client.socketClosed
  split
  · exact asleep.watch
  · rename_i socket _
    have closed :
        Asleep states
          { client with link.socket := some { socket with readyState := .closed } } :=
      { asleep with }
    simp only
    split
    · exact closed.watch
    · have told := closed.keep (tellFilesClosed_frame _).state
      split
      · exact told.scheduleReconnect reconnecting
      · exact told.terminate _

theorem send
    (asleep : Asleep states client)
    (body t : Text) : Watch states (client.send body t) := by
  unfold Client.send
  split
  · exact (asleep.keep (StateFrame.sendEncoded _ _ _)).watch
  · exact asleep.terminate _

theorem becameVisible (asleep : Asleep states client) : Watch states client.becameVisible := by
  unfold Client.becameVisible
  split
  · exact asleep.watch
  · split
    · exact asleep.watch
    · split
      · exact asleep.watch
      · split
        · exact asleep.watch
        · exact asleep.terminate _

theorem markHiding (asleep : Asleep states client) : Asleep states client.markHiding := by
  have marked : Asleep states { client with page.pageHiding := true } := { asleep with }
  exact marked.keep (runPageHideListeners_frame _).state

theorem pageHide
    (asleep : Asleep states client)
    (persisted : Bool) : Watch states (client.pageHide persisted) := by
  unfold Client.pageHide
  simp only
  split
  · exact asleep.markHiding.watch
  · exact (asleep.markHiding.keep (StateFrame.closeConnection _)).watch

theorem pageShow
    (asleep : Asleep states client)
    (persisted : Bool)
    (restored : persisted = true → states .terminated) :
    Watch states (client.pageShow persisted) := by
  have shown : Asleep states { client with page.pageHiding := false } := { asleep with }
  unfold Client.pageShow
  simp only
  split
  · rename_i isPersisted
    unfold bfcacheGuard
    split
    · exact shown.watch
    · exact ((shown.keep (StateFrame.act _ _ rfl)).setState (restored isPersisted)).watch
  · exact shown.watch

/-! ### The outbound serializer -/

theorem runRelaySendTask
    (asleep : Asleep states client)
    (task : SendTask) : Watch states (client.runRelaySendTask task) := by
  unfold Client.runRelaySendTask
  split
  · exact asleep.watch.settleSend _ _
  · split
    · rename_i socket active _ _
      split
      · exact asleep.watch.settleSend _ _
      · have allocated := asleep.keep (StateFrame.allocateSendCounter client active task.kind)
        split
        · rename_i refused result
          rw [result] at allocated
          exact (allocated.terminate _).settleSend _ _
        · rename_i after counter result
          rw [result] at allocated
          split
          · exact (allocated.terminate _).settleSend _ _
          · rename_i frame _
            exact Or.inr { allocated with }
    · exact asleep.watch.settleSend _ _

theorem runOutbound (asleep : Asleep states client) : Watch states client.runOutbound := by
  unfold Client.runOutbound
  split
  · exact Or.inr { asleep with }
  · rename_i task rest _
    have taken : Asleep states { client with outbound.queue := rest } := { asleep with }
    exact taken.runRelaySendTask task

theorem sendSettled
    (asleep : Asleep states client)
    (flight : InFlight)
    (outcome : SendOutcome) : Watch states (client.sendSettled flight outcome) := by
  have settled : Asleep states { client with outbound.sending := none } := { asleep with }
  unfold Client.sendSettled
  split
  · exact (settled.keep (StateFrame.sendOn _ _ _)).watch.settleSend _ _
  · exact (settled.terminate _).settleSend _ _
  · exact (settled.terminate _).settleSend _ _

/-! ### Frame handlers -/

theorem handleHandshakeFrame
    (asleep : Asleep states client)
    (ciphertext : HandshakeCiphertext) :
    Watch states (client.handleHandshakeFrame ciphertext) := by
  unfold Client.handleHandshakeFrame
  split
  · rename_i internal
    have active := asleep.isActive
    rw [internal] at active
    cases active
  · exact (asleep.terminate _).finishHandler

theorem handleRelay
    (asleep : Asleep states client)
    (frame : RelayFrame) : Watch states (client.handleRelay frame) := by
  have taken : ∀ active, Watch states (client.handleRelayWith active frame) := by
    intro active
    have strict :=
      asleep.keep
        (StateFrame.updateActive client fun context =>
          { context with nextRecvMode := .strict })
    unfold Client.handleRelayWith
    simp only
    split
    · exact strict.watch.finishHandler
    · exact Or.inr { strict with }
  unfold Client.handleRelay
  split
  · exact (asleep.terminate _).finishHandler
  · exact taken _
  · exact taken _

theorem runInbound (asleep : Asleep states client) : Watch states client.runInbound := by
  unfold Client.runInbound
  split
  · exact Or.inr { asleep with }
  · rename_i task rest _
    have taken : Asleep states { client with inbound.queue := rest } := { asleep with }
    simp only
    split
    · exact taken.watch.finishHandler
    · split
      · exact taken.handleHandshakeFrame _
      · exact taken.handleRelay _

theorem messageDecrypted
    (asleep : Asleep states client)
    (frame : RelayFrame)
    (mode : CounterMode)
    (state : ReceiveState)
    (mirror : Option MirrorId) :
    Watch states (client.messageDecrypted frame mode state mirror) := by
  have persisted :=
    decryptIncoming_store (mirror.map setCounterRecv) (Asleep states)
      (by
        intro persist member store counter holds
        obtain ⟨held, -, rfl⟩ := Option.map_eq_some_iff.mp member
        exact holds.keep (StateFrame.flushMirror store held _))
      state frame.nonce frame.ciphertext mode asleep
  unfold Client.messageDecrypted
  generalize
    decryptIncoming (mirror.map setCounterRecv) client state frame.nonce
      frame.ciphertext mode = decrypted at persisted
  obtain ⟨stored, recvState, result⟩ := decrypted
  simp only at persisted ⊢
  split
  · exact persisted.watch.finishHandler
  · split
    · rename_i envelope counter
      have accepted :=
        (persisted.keep
          (StateFrame.updateActive stored fun context =>
            { context with counterRecv := recvState.counterRecv })).keep
          (StateFrame.act _ (.accept state.sessionKey counter .msg (.envelope envelope)) rfl)
      have mark :
          .accept state.sessionKey counter .msg (.envelope envelope) ∈
            ((stored.updateActive fun context =>
              { context with counterRecv := recvState.counterRecv }).act
                (.accept state.sessionKey counter .msg (.envelope envelope))).out := by
        simp [Client.act]
      generalize
        (stored.updateActive fun context =>
          { context with counterRecv := recvState.counterRecv }).act
            (.accept state.sessionKey counter .msg (.envelope envelope)) = after
        at accepted mark
      unfold Client.handleEnvelope
      split
      · exact (accepted.keep (StateFrame.act _ _ rfl)).watch.finishHandler
      · -- a resume was accepted: whatever follows, this is the evidence
        have seen : Watch states after := Or.inl ⟨_, mark, rfl⟩
        split
        · exact (accepted.terminate _).finishHandler
        · rcases seen.keep (StateFrame.sendEncoded after (.resumeAck _) .resumeAck) with
            evidence | still
          · exact Or.inl evidence
          · exact Or.inr { still with }
      · split
        · rename_i internal
          have active := accepted.isActive
          rw [internal] at active
          cases active
        · exact (accepted.terminate _).finishHandler
      · exact (accepted.keep (runFiles_frame _ _).state).watch.finishHandler
    · exact (persisted.terminate _).finishHandler

theorem chunkDecrypted
    (asleep : Asleep states client)
    (frame : RelayFrame)
    (mode : CounterMode)
    (state : ReceiveState) :
    Watch states (client.chunkDecrypted frame mode state) := by
  unfold Client.chunkDecrypted
  split
  · rename_i recvState plaintext counter _
    have synced :=
      (asleep.keep
        (StateFrame.updateActive client fun context =>
          { context with counterRecv := recvState.counterRecv })).keep
        (StateFrame.act _ (.accept state.sessionKey counter .chunk plaintext) rfl)
    simp only
    split
    · split
      · exact (synced.terminate _).finishHandler
      · exact (synced.keep (runFiles_frame _ _).state).watch.finishHandler
    · exact (synced.terminate _).finishHandler
  · exact (asleep.terminate _).finishHandler

/-! ### The rekey -/

/-- A key change that need not wrap the new key. -/
theorem commitRekey
    (asleep : Asleep states client)
    (wraps : client.commitsAtOnce = false)
    (newSessionKey : SessionKey) : Watch states (client.commitRekey newSessionKey) := by
  unfold Client.commitRekey
  split
  · exact asleep.watch.finishHandler
  · have keyed :=
      asleep.keep
        (StateFrame.updateActive client fun context =>
          { context with
            sessionKey := { material := newSessionKey, extractable := false }
            counterCommitted := 0
            counterReserved := 0
            counterRecv := 0 })
    simp only
    split
    · exact Or.inr { keyed with }
    · rename_i incomplete
      unfold Client.commitsAtOnce at wraps
      split at wraps
      · rename_i mirror wrapKey credentialId hasMirror hasWrapKey hasCredential
        obtain ⟨context, hasContext, contextMirror⟩ := Option.bind_eq_some_iff.mp hasMirror
        exact absurd hasCredential
          (incomplete mirror wrapKey credentialId
            (by simp [Client.updateActive, hasContext, contextMirror]) hasWrapKey)
      · cases wraps

/-- Wrapping or storing the new key failed: the session ends. -/
theorem persistWrappedSessionKey
    (asleep : Asleep states client)
    (keyToWrap : CryptoKey)
    (wrapKey : WrapKey)
    (modePhase : ModePhase)
    (credentialId : CredentialId)
    (ok : Bool)
    (fails :
      client.keyStored client.page.oracle.storageOk keyToWrap wrapKey ok = false) :
    ∃ after,
      client.persistWrappedSessionKey keyToWrap wrapKey modePhase credentialId ok =
          (after, false) ∧
        Watch states after := by
  obtain ⟨reason, -, refused⟩ :=
    persistWrappedSessionKey_refused modePhase credentialId fails
  exact ⟨_, refused, asleep.terminate reason⟩

theorem upgradeWrapped
    (asleep : Asleep states client)
    (index : Nat)
    (sessionKey : CryptoKey)
    (wrapKey : WrapKey)
    (credentialId : CredentialId)
    (ok : Bool)
    (fails :
      client.keyStored client.page.oracle.storageOk sessionKey wrapKey ok = false) :
    Watch states (client.upgradeWrapped index sessionKey wrapKey credentialId ok) := by
  have settled :
      Asleep states { client with vars.upgrades := client.vars.upgrades.eraseIdx index } :=
    { asleep with }
  obtain ⟨after, fails, watch⟩ :=
    settled.persistWrappedSessionKey sessionKey wrapKey .soft credentialId ok fails
  simpa only [Client.upgradeWrapped, fails] using watch

theorem commitWrapped
    (asleep : Asleep states client)
    (newSessionKey : SessionKey)
    (wrapKey : WrapKey)
    (credentialId : CredentialId)
    (ok : Bool)
    (fails :
      client.keyStored client.page.oracle.storageOk
        { material := newSessionKey, extractable := true } wrapKey ok = false) :
    Watch states (client.commitWrapped newSessionKey wrapKey credentialId ok) := by
  obtain ⟨after, refused, watch⟩ :=
    asleep.persistWrappedSessionKey { material := newSessionKey, extractable := true }
      wrapKey .hardened credentialId ok fails
  simp only [Client.commitWrapped, refused]
  exact watch.finishHandler

theorem handleModeUpgraded
    (asleep : Asleep states client)
    (quiet : (client.signals.sessionMode == .prf && client.rekeyStarts) = false) :
    Watch states client.handleModeUpgraded := by
  have upgraded : Asleep states { client with signals.peerMode := .prf } := { asleep with }
  unfold Client.handleModeUpgraded
  simp only
  split
  · rename_i isPrf
    have isPrf : client.signals.sessionMode = .prf := isPrf
    have idle : client.rekeyStarts = false := by simpa [isPrf] using quiet
    exact upgraded.startRekeyIfInitiator idle .handler
  · exact (upgraded.keep (StateFrame.act _ _ rfl)).watch.finishHandler

theorem handleRekeyAck
    (asleep : Asleep states client)
    (active : ActiveContext)
    (peerPub : PublicKey) : Watch states (client.handleRekeyAck active peerPub) := by
  unfold Client.handleRekeyAck
  split
  · exact (asleep.terminate _).finishHandler
  · split
    · exact (asleep.terminate _).finishHandler
    · exact Or.inr { asleep with }

theorem rekeyInitDerived
    (asleep : Asleep states client)
    (pair : Draw)
    (peerPub : PublicKey)
    (outcome : RekeyOutcome) :
    Watch states (client.rekeyInitDerived pair peerPub outcome) := by
  unfold Client.rekeyInitDerived
  split
  · exact (asleep.terminate _).finishHandler
  · exact (asleep.terminate _).finishHandler
  · split
    · exact (asleep.terminate _).finishHandler
    · rename_i newSessionKey _
      have sent :=
        asleep.keep
          (StateFrame.sendModeFrame client .rekeyAck (.publicKey pair)
            (.rekeyAck newSessionKey))
      exact Or.inr { sent with }

theorem rekeyAckDerived
    (asleep : Asleep states client)
    (pair : Draw)
    (peerPub : PublicKey)
    (ok : Bool)
    (quiet :
      (ok && client.commitsAtOnce && (deriveRekeyedSessionKey pair peerPub).isSome) =
        false) :
    Watch states (client.rekeyAckDerived pair peerPub ok) := by
  unfold Client.rekeyAckDerived
  split
  · exact (asleep.terminate _).finishHandler
  · rename_i newSessionKey derives
    have isOk : ok = true := by
      cases ok with
      | true => rfl
      | false => cases derives
    rw [isOk] at derives quiet
    have wraps : client.commitsAtOnce = false := by
      simpa [show deriveRekeyedSessionKey pair peerPub = some newSessionKey from derives]
        using quiet
    have answered : Asleep states { client with vars.pendingRekeyPair := none } :=
      { asleep with }
    exact answered.commitRekey wraps newSessionKey

theorem handleModePayload
    (asleep : Asleep states client)
    (kind : RelayKind)
    (payload : Plaintext)
    (quiet : client.startsRekey kind payload = false) :
    Watch states (client.handleModePayload kind payload) := by
  unfold Client.handleModePayload
  split
  · exact asleep.watch.finishHandler
  · rename_i active hasContext
    split
    · split
      · rename_i decodes
        apply asleep.handleModeUpgraded
        simpa [startsRekey, decodes] using quiet
      · exact (asleep.terminate _).finishHandler
    · split
      · rename_i peerPub decodes
        have notJoiner : active.role ≠ .joiner := by
          intro isJoiner
          simp [startsRekey, decodes, hasContext, isJoiner] at quiet
        simp only [Client.handleRekeyInit, ne_eq, notJoiner, not_false_eq_true, ↓reduceIte]
        exact (asleep.terminate _).finishHandler
      · exact (asleep.terminate _).finishHandler
    · split
      · exact asleep.handleRekeyAck _ _
      · exact (asleep.terminate _).finishHandler
    · split
      · exact asleep.watch.finishHandler
      · exact (asleep.terminate _).finishHandler

theorem modeFrameDecrypted
    (asleep : Asleep states client)
    (frame : RelayFrame)
    (mode : CounterMode)
    (state : ReceiveState)
    (quiet :
      ∀ payload counter,
        validateAndDecryptFrame state frame.kind frame.nonce frame.ciphertext mode =
            .ok payload counter →
          client.startsRekey frame.kind payload = false) :
    Watch states (client.modeFrameDecrypted frame mode state) := by
  unfold Client.modeFrameDecrypted
  split
  · rename_i payload counter accepts
    have accepted :=
      (asleep.keep
        (StateFrame.updateActive client fun context =>
          { context with counterRecv := counter })).keep
        (StateFrame.act _ (.accept state.sessionKey counter frame.kind payload) rfl)
    simp only
    split
    · exact accepted.watch.finishHandler
    · apply accepted.handleModePayload
      rw [← quiet payload counter accepts]
      cases internal : client.vars.internal <;>
        simp [startsRekey, rekeyStarts, Client.act, Client.updateActive, internal,
          InternalState.mapContext, InternalState.context?]
  · exact (asleep.terminate _).finishHandler

/-! ### Microtasks -/

theorem resumeSend
    (asleep : Asleep states client)
    (continuation : SendCont)
    (sent : Bool)
    (quiet : client.wakesCaller continuation sent = false) :
    Watch states (client.resumeSend continuation sent) := by
  cases continuation with
  | discard => exact asleep.watch
  | text body =>
      simp only [Client.resumeSend]
      split
      · exact (asleep.keep (StateFrame.act client _ rfl)).watch
      · exact asleep.watch
  | resumeAck => cases quiet
  | modeUpgraded =>
      simp only [Client.resumeSend]
      split
      · rename_i isPrf
        apply asleep.startRekeyIfInitiator
        simpa [wakesCaller, isPrf] using quiet
      · exact asleep.watch
  | rekeyAck newSessionKey =>
      simp only [Client.resumeSend]
      split
      · rename_i isSent
        apply asleep.commitRekey
        simpa [wakesCaller, isSent] using quiet
      · exact asleep.watch.finishHandler
  | handlerDone => exact asleep.watch.finishHandler
  | file continuation => exact (asleep.keep (runFiles_frame client _).state).watch

theorem runJob
    (asleep : Asleep states client)
    (quiet :
      ∀ continuation sent rest, client.jobs = .settle continuation sent :: rest →
        client.wakesCaller continuation sent = false) :
    Watch states client.runJob := by
  unfold Client.runJob
  split
  · exact asleep.watch
  · rename_i job rest jobsEq
    have taken : Asleep states { client with jobs := rest } := { asleep with }
    cases job with
    | outboundNext => exact taken.runOutbound
    | inboundNext => exact taken.runInbound
    | settle continuation sent =>
        exact taken.resumeSend continuation sent (quiet continuation sent rest jobsEq)

/-! ### Every event -/

/-- Where other events than the peer's may move a waiting client. -/
structure Permits (states : SessionState → Prop) (client : Client) (event : Event) : Prop where
  peerReconnecting : states .peerReconnecting
  asleep : ∀ state, states state → state.awake = false
  reconnecting : (∃ kind, event = .socketClosed kind) → states .reconnecting
  acknowledged : (∃ role, event = .socketFrame (.ack role)) → states .waitingForPeer
  restored : event = .pageShow true → states .terminated
  handshaking :
    client.signals.sessionState = .connecting ∨
        client.signals.sessionState = .waitingForPeer →
      states .handshaking

/-- A waiting client waits until there is evidence, unless suspended work wakes it. -/
theorem handle
    (asleep : Asleep states client)
    {progress : Progress}
    (settled : Settled progress client)
    {input : Input}
    (oracle : client.page.oracle = input.oracle)
    (isEnabled : client.enabled input)
    (notReload : input.event ≠ .reload)
    (quiet : client.wakes input = false)
    (permits : Permits states client input.event) :
    Watch states (client.handle input.event) := by
  have files :
      ∀ segment (created : Bool),
        Watch states (if created then client.runFiles segment else client) := by
    intro segment created
    split
    · exact (asleep.keep (runFiles_frame client segment).state).watch
    · exact asleep.watch
  obtain ⟨event, browser⟩ := input
  cases event with
  | job =>
      apply asleep.runJob
      intro continuation sent rest jobsEq
      simpa [wakes, jobsEq] using quiet
  | claimDecided granted =>
      exact absurd (by simpa using (Bool.and_eq_true_iff.mp isEnabled).2) settled.connected.1
  | resumeDecided outcome =>
      have attempting : client.vars.resumeAttempt = true := by
        simpa using (Bool.and_eq_true_iff.mp isEnabled).2
      rw [settled.connected.2.1] at attempting
      cases attempting
  | send body t => exact asleep.send body t
  | sendFile file tid => exact files _ _
  | cancelTransfer => exact (asleep.keep (cancelTransfer_frame client).state).watch
  | acceptFileOffer => exact files _ _
  | declineFileOffer => exact files _ _
  | upgradeToPrf =>
      have notActive : client.signals.sessionState ≠ .active := by
        intro isActive
        have still := permits.asleep _ asleep.state
        rw [isActive] at still
        cases still
      simp only [Client.handle, Client.upgradeToPrf, bne_iff_ne.mpr notActive, Bool.or_true,
        Bool.true_or, ↓reduceIte]
      exact asleep.watch
  | retryResume =>
      simp only [Client.handle, Client.retryResume, bne_iff_ne.mpr settled.connected.2.2,
        Bool.or_true, Bool.true_or, ↓reduceIte]
      exact asleep.watch
  | terminate reason => exact asleep.terminate reason
  | socketOpened => exact asleep.socketOpened
  | socketFrame frame =>
      refine asleep.handleServerFrame permits.peerReconnecting frame ?_
      rintro ⟨role, rfl⟩
      exact permits.acknowledged ⟨role, rfl⟩
  | socketClosing => exact Or.inr { asleep with }
  | socketClosed kind => exact asleep.socketClosed (permits.reconnecting ⟨kind, rfl⟩) kind
  | socketBuffered amount => exact Or.inr { asleep with }
  | protocolError kind =>
      simp only [Client.handle, Client.onProtocolError]
      split
      · exact asleep.watch
      · exact asleep.terminate _
  | handshakeWrapped ok => exact asleep.handshakeWrapped permits.handshaking ok
  | handshakeDerived ok =>
      obtain ⟨handler, running, stage⟩ :=
        Settled.awaiting (Bool.and_eq_true_iff.mp isEnabled).2
      have active := asleep.isActive
      rcases settled.handshaking (by rw [running]; simp [stage]) with ended | nothing
      · rw [asleep.live] at ended
        cases ended
      · cases internal : client.vars.internal <;>
          simp [received, internal, InternalState.context?, InternalState.isActive]
            at nothing active
  | decrypted =>
      obtain ⟨handler, running, stage⟩ :=
        Settled.awaiting (Bool.and_eq_true_iff.mp isEnabled).2
      cases handler with
      | decrypting frame mode state mirror =>
          simp only [Client.handle, running, frameDecrypted]
          split
          · exact asleep.messageDecrypted frame mode state mirror
          · exact asleep.chunkDecrypted frame mode state
          · apply asleep.modeFrameDecrypted
            intro payload counter accepts
            simpa [wakes, running, accepts] using quiet
      | _ => cases stage
  | upgradeRegistered index outcome =>
      cases outcome with
      | ok credentialId => exact asleep.upgradeRegistered index credentialId
      | _ => cases quiet
  | upgradeWrapped index ok =>
      simp only [Client.handle]
      split
      · rename_i wrapping
        apply asleep.upgradeWrapped
        rw [oracle]
        simpa [wakes, wrapping] using quiet
      · exact asleep.watch
  | upgradeKeygen index ok =>
      simp only [Client.handle]
      split
      · have taken :
            Asleep states
              { client with vars.upgrades := client.vars.upgrades.eraseIdx index } :=
          { asleep with }
        exact taken.rekeyKeygenDone .upgrade _ ok
      · exact asleep.watch
  | rekeyKeygen ok =>
      simp only [Client.handle]
      split
      · exact asleep.rekeyKeygenDone .handler _ ok
      · exact asleep.watch
  | rekeyInitDerived outcome =>
      simp only [Client.handle]
      split
      · exact asleep.rekeyInitDerived _ _ outcome
      · exact asleep.watch
  | rekeyAckDerived ok =>
      simp only [Client.handle]
      split
      · rename_i running
        apply asleep.rekeyAckDerived
        simpa [wakes, running] using quiet
      · exact asleep.watch
  | commitWrapped ok =>
      simp only [Client.handle]
      split
      · rename_i running
        apply asleep.commitWrapped
        rw [oracle]
        simpa [wakes, running] using quiet
      · exact asleep.watch
  | sendSettled outcome =>
      simp only [Client.handle]
      split
      · exact asleep.sendSettled _ outcome
      · exact asleep.watch
  | reconnectTimer => exact asleep.reconnectTimerFired
  | fatalTimer =>
      have running : client.vars.fatalTimer ≠ none := by
        intro none
        simp [enabled, canOccur, isDue, none] at isEnabled
      have ended := settled.armed running
      rw [asleep.live] at ended
      cases ended
  | file event =>
      exact (asleep.keep (runFiles_frame client _).state).watch
  | visible => exact asleep.becameVisible
  | beforeUnload => exact asleep.markHiding.watch
  | pageHide persisted => exact asleep.pageHide persisted
  | pageShow persisted =>
      apply asleep.pageShow
      rintro rfl
      exact permits.restored rfl
  | elapse ms => exact Or.inr { asleep with }
  | reload => exact absurd rfl notReload

end Asleep

/-! ## Whole runs -/

/-- The page is not reloaded and no suspended work wakes the client. -/
def undisturbed (client : Client) (input : Input) : Prop :=
  client.sameLife input ∧ client.wakes input = false

instance (client : Client) (input : Input) : Decidable (client.undisturbed input) :=
  inferInstanceAs (Decidable (client.sameLife input ∧ client.wakes input = false))

/-- The event moves a waiting client out of PEER_RECONNECTING for another reason. -/
def Event.movesOn : Event → Bool
  | .socketClosed _ => true
  | .socketFrame (.ack _) => true
  | .pageShow true => true
  | _ => false

/-- Moreover the client's own connection stays as it is. -/
def inPlace (client : Client) (input : Input) : Prop :=
  client.undisturbed input ∧ input.event.movesOn = false

instance (client : Client) (input : Input) : Decidable (client.inPlace input) :=
  inferInstanceAs (Decidable (client.undisturbed input ∧ input.event.movesOn = false))

/-- The frame whose decryption settles carries a resume envelope of the peer. -/
def DecryptsResume (client : Client) (input : Input) : Prop :=
  input.event = .decrypted ∧
    ∃ frame mode state mirror id counter,
      client.inbound.handler = some (.decrypting frame mode state mirror) ∧
        frame.kind = .msg ∧
        (decryptIncoming (mirror.map setCounterRecv)
          { client with out := [], page.oracle := input.oracle } state frame.nonce
          frame.ciphertext mode).2.2 = .ok (.resume id) counter

/-- A page whose session waits is connected and its chain is in order. -/
theorem Asleep.settled
    {states : SessionState → Prop}
    {client : Client}
    (asleep : Asleep states client)
    (chain : Chain client) : Settled (fun _ => True) client := by
  rcases chain.phase with offline | settled
  · have active := asleep.isActive
    rw [offline.internal] at active
    cases active
  · exact settled

/-- One step of a waiting client. -/
theorem Asleep.step
    {states : SessionState → Prop}
    {client : Client}
    (asleep : Asleep states client)
    (chain : Chain client)
    {input : Input}
    (isEnabled : machine.enabled client input)
    (calm : client.undisturbed input)
    (permits : Asleep.Permits states client input.event) :
    Watch states (machine.step client input) := by
  have fresh : Asleep states { client with out := [], page.oracle := input.oracle } :=
    { asleep with }
  have settled :
      Settled (fun _ => True) { client with out := [], page.oracle := input.oracle } :=
    { asleep.settled chain with }
  exact
    fresh.handle settled rfl isEnabled calm.1.notReload calm.2
      { permits with }

/-- Without evidence a waiting client waits on, whatever else happens. -/
theorem run_of_asleep
    (states : SessionState → Prop)
    (allowed : Client → Input → Prop)
    (calm : ∀ client input, allowed client input → client.undisturbed input)
    (permits :
      ∀ client input, Asleep states client → allowed client input →
        Asleep.Permits states client input.event)
    {client : Client}
    (chain : Chain client)
    (asleep : Asleep states client)
    {inputs : List Input}
    (legal : machine.Legal allowed client inputs)
    (noEvidence :
      ∀ action ∈ machine.observations Client.out client inputs,
        action.isEvidence = false) :
    Asleep states (machine.run client inputs) ∧ Chain (machine.run client inputs) := by
  induction inputs generalizing client with
  | nil => exact ⟨asleep, chain⟩
  | cons input rest inductionHypothesis =>
      obtain ⟨isEnabled, isAllowed, legalRest⟩ := legal
      simp only [EventMachine.Machine.observations, List.mem_append] at noEvidence
      have watch :=
        asleep.step chain isEnabled (calm client input isAllowed)
          (permits client input asleep isAllowed)
      have still : Asleep states (machine.step client input) := by
        rcases watch with ⟨action, member, evidence⟩ | still
        · rw [noEvidence action (Or.inl member)] at evidence
          cases evidence
        · exact still
      exact
        inductionHypothesis (chain.step isEnabled) still legalRest
          fun action member => noEvidence action (Or.inr member)

/-- A `peer_disconnected` that does not end the session lets the client wait. -/
theorem asleep_of_disconnected
    {client : Client}
    {input : Input}
    (disconnected : input.event = .socketFrame .peerDisconnected)
    (survived : (machine.step client input).vars.terminated = false) :
    Asleep (· = .peerReconnecting) (machine.step client input) := by
  have ends :
      ∀ other : Client, ∀ reason, (other.terminate reason).vars.terminated = true := by
    intro other reason
    rcases terminate_cases other reason with ⟨already, same⟩ | ⟨-, frame⟩
    · rw [same]
      exact already
    · exact frame.terminated
  revert survived
  rw [show machine.step client input =
      ({ client with out := [], page.oracle := input.oracle } : Client).handleServerFrame
        .peerDisconnected by
    change Client.handle _ input.event = _
    rw [disconnected]
    rfl]
  generalize ({ client with out := [], page.oracle := input.oracle } : Client) = fresh
  unfold handleServerFrame
  split
  · rename_i terminated
    intro survived
    rw [terminated] at survived
    cases survived
  · rename_i live
    simp only [onPeerDisconnected]
    split
    · intro survived
      rw [ends] at survived
      cases survived
    · rename_i isActive
      split
      · intro survived
        rw [ends] at survived
        cases survived
      · intro _
        exact
          { live := by simpa [system, Client.act, updateActive, setState] using live
            isActive := by
              simpa [system, Client.act, updateActive, setState] using isActive
            state := rfl }

/-- A resume envelope that arrives while the client waits is answered. -/
theorem Asleep.resume_answered
    {client : Client}
    (asleep : Asleep (· = .peerReconnecting) client)
    {input : Input}
    (resumes : client.DecryptsResume input) :
    (machine.step client input).vars.terminated = false ∧
      (machine.step client input).inbound.handler = some .sending := by
  obtain ⟨decrypted, frame, mode, state, mirror, id, counter, running, isMessage, accepts⟩ :=
    resumes
  have fresh :
      Asleep (· = .peerReconnecting)
        { client with out := [], page.oracle := input.oracle } :=
    { asleep with }
  have handled :
      machine.step client input =
        ({ client with out := [], page.oracle := input.oracle } : Client).messageDecrypted
          frame mode state mirror := by
    change Client.handle _ input.event = _
    simp only [decrypted, Client.handle, running, frameDecrypted, isMessage]
  rw [handled]
  generalize ({ client with out := [], page.oracle := input.oracle } : Client) = start
    at fresh accepts
  have persisted :=
    decryptIncoming_store (mirror.map setCounterRecv) (Asleep (· = .peerReconnecting))
      (by
        intro persist member store counter holds
        obtain ⟨held, -, rfl⟩ := Option.map_eq_some_iff.mp member
        exact holds.keep (StateFrame.flushMirror store held _))
      state frame.nonce frame.ciphertext mode fresh
  unfold Client.messageDecrypted
  generalize
    decryptIncoming (mirror.map setCounterRecv) start state frame.nonce
      frame.ciphertext mode = settled at persisted accepts
  obtain ⟨stored, recvState, result⟩ := settled
  simp only at persisted accepts
  subst accepts
  have accepted :=
    (persisted.keep
      (StateFrame.updateActive stored fun context =>
        { context with counterRecv := recvState.counterRecv })).keep
      (StateFrame.act _ (.accept state.sessionKey counter .msg (.envelope (.resume id))) rfl)
  have waiting := accepted.state
  simp only [persisted.live, Bool.false_eq_true, ↓reduceIte, handleEnvelope, waiting, ne_eq,
    not_true_eq_false]
  exact ⟨(accepted.keep (StateFrame.sendEncoded _ _ _)).live, rfl⟩

/--
A survivor that waits for its peer does not talk before there is evidence: a resume
envelope that was accepted, a connection it opened, or the end of the session.  As
long as moreover its own connection stays as it is, a resume envelope of the peer is
answered and does not end the session.
-/
theorem peer_reconnecting_left_on_evidence
    {before : Client}
    (reachable : machine.Reachable Booted EventMachine.Machine.anyStep before)
    {disconnect : Input}
    (isEnabled : machine.enabled before disconnect)
    (disconnected : disconnect.event = .socketFrame .peerDisconnected)
    (survived : (machine.step before disconnect).vars.terminated = false)
    {inputs : List Input}
    (legal : machine.Legal undisturbed (machine.step before disconnect) inputs)
    (noEvidence :
      ∀ action ∈ machine.observations Client.out (machine.step before disconnect) inputs,
        action.isEvidence = false) :
    (machine.step before disconnect).signals.sessionState = .peerReconnecting ∧
      (machine.run (machine.step before disconnect) inputs).signals.sessionState.awake =
        false ∧
      (machine.Legal inPlace (machine.step before disconnect) inputs →
        ∀ input,
          DecryptsResume (machine.run (machine.step before disconnect) inputs) input →
            (machine.run (machine.step before disconnect)
                (inputs ++ [input])).vars.terminated = false ∧
              (machine.run (machine.step before disconnect)
                (inputs ++ [input])).inbound.handler = some .sending) := by
  have waits := asleep_of_disconnected disconnected survived
  have chain := (Chain.of_reachable reachable).step isEnabled
  have resting : Asleep (·.awake = false) (machine.step before disconnect) :=
    { waits with state := by rw [waits.state]; rfl }
  refine ⟨waits.state, ?_, ?_⟩
  · have still :=
      run_of_asleep (·.awake = false) undisturbed (fun _ _ allowed => allowed)
        (fun _ _ _ _ =>
          { peerReconnecting := rfl
            asleep := fun _ notAwake => notAwake
            reconnecting := fun _ => rfl
            acknowledged := fun _ => rfl
            restored := fun _ => rfl
            handshaking := fun _ => rfl })
        chain resting legal noEvidence
    exact still.1.state
  · intro legalInPlace input resumes
    have still :=
      run_of_asleep (· = .peerReconnecting) inPlace (fun _ _ allowed => allowed.1)
        (by
          rintro later next asleep ⟨-, stays⟩
          exact
            { peerReconnecting := rfl
              asleep := by rintro _ rfl; rfl
              reconnecting := by
                rintro ⟨kind, closes⟩
                rw [closes] at stays
                cases stays
              acknowledged := by
                rintro ⟨role, acknowledges⟩
                rw [acknowledges] at stays
                cases stays
              restored := by
                intro restores
                rw [restores] at stays
                cases stays
              handshaking := by
                rw [asleep.state]
                rintro (other | other) <;> cases other })
        chain waits legalInPlace noEvidence
    rw [EventMachine.Machine.run_append]
    exact still.1.resume_answered resumes

/-- The notice of the peer that it has upgraded. -/
def peerUpgraded : RelayFrame :=
  (encryptRelayFrame .joiner establishedKey .modeUpgraded 1 emptyPayload).get (by decide)

/-- A session whose peer has upgraded, while the own passkey dialog is open. -/
def registeringBesidePeer : Client :=
  machine.run freshPage
    (establish peerPublicKey ++
      [ plain (.socketFrame (.relay peerUpgraded)),
        plain .job,
        plain .decrypted,
        plain .upgradeToPrf ])

/-- The peer drops out while the passkey dialog is open, which then succeeds. -/
theorem peer_reconnecting_left_on_evidence_while_registering :
    (machine.run
        (machine.step registeringBesidePeer (plain (.socketFrame .peerDisconnected)))
        [plain (.upgradeRegistered 0 (.ok 7)), plain (.elapse 1000)]).signals.sessionState.awake =
      false :=
  (peer_reconnecting_left_on_evidence
    (EventMachine.Machine.Reachable.run (.start ⟨0, 0, 0, none, id, rfl⟩)
      (by decide +kernel))
    (by decide +kernel) rfl (by decide +kernel) (by decide +kernel)
    (by decide +kernel)).2.1

/-- Dismissing the passkey dialog makes a waiting client report ACTIVE. -/
theorem dismissed_dialog_ends_wait :
    ¬∀ before disconnect inputs,
        machine.Reachable Booted EventMachine.Machine.anyStep before →
        machine.enabled before disconnect →
        disconnect.event = .socketFrame .peerDisconnected →
        (machine.step before disconnect).signals.sessionState = .peerReconnecting →
        machine.Legal sameLife (machine.step before disconnect) inputs →
        (∀ action ∈
            machine.observations Client.out (machine.step before disconnect) inputs,
          action.isEvidence = false) →
        (machine.run (machine.step before disconnect)
          inputs).signals.sessionState.awake = false := by
  intro claimed
  have asleep :=
    claimed registeringBesidePeer (plain (.socketFrame .peerDisconnected))
      [plain (.upgradeRegistered 0 .cancelled)]
      (EventMachine.Machine.Reachable.run (.start ⟨0, 0, 0, none, id, rfl⟩)
        (by decide +kernel))
      (by decide +kernel) rfl (by decide +kernel) (by decide +kernel)
      (by decide +kernel)
  revert asleep
  decide +kernel

end Client

end Unseen
