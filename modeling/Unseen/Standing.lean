import Unseen.PeerReconnecting

namespace Unseen

/-!
# Where a session stands

The state of a session, its connection and its reconnect timer, the send that
is encrypting and the results of sent resume acks that are still to be handled:
this is what laws about reconnecting speak of.  Almost everything a client does
leaves it alone or ends the session (`Keeps`).  Of work that was suspended
earlier and writes a state at its end (`wakes`) it is shown only that it gives
up no reconnect episode.
-/

/-- The action marks that a reconnect episode was given up. -/
def Act.isExhaustion : Act → Bool
  | .terminated reason => reason = .reconnectExhausted
  | _ => false

/-- The send does not report its failure as the end of a reconnect episode. -/
def SendTask.isSound (task : SendTask) : Bool :=
  task.encryptFailReason ≠ .reconnectExhausted

/-- The result of a sent resume ack whose caller is still to be resumed. -/
def Job.ack? : Job → Option Bool
  | .settle .resumeAck sent => some sent
  | _ => none

/-- What the budget of reconnecting reads of a client. -/
structure Standing where
  ended : Bool
  state : SessionState
  isActive : Bool
  isResuming : Bool
  now : Nat
  intent : HelloIntent
  gen : Option Nat
  opened : Bool
  /-- the connection is closed -/
  down : Bool
  timer : Option Nat
  attempt : Nat
  startMs : Nat
  sending : Option InFlight
  acks : List Bool
  /-- no send will report its failure as the end of a reconnect episode -/
  sound : Bool
  exhausted : Bool

/-- Of the state and the connection only the state was written, to one of a running session. -/
structure Standing.Wakened (before after : Standing) : Prop where
  state : after.state = before.state ∨ after.state = .active ∨ after.state = .rekeying
  rest :
    after =
      { before with
        state := after.state
        sending := after.sending
        acks := after.acks
        sound := after.sound
        exhausted := after.exhausted }

/-- Two segments that at most wake the session do so together. -/
theorem Standing.Wakened.trans
    {first second third : Standing}
    (early : first.Wakened second)
    (late : second.Wakened third) : first.Wakened third where
  state := by
    rcases late.state with same | written
    · rw [same]
      exact early.state
    · exact .inr written
  rest := by
    rw [late.rest, early.rest]

/--
No episode was given up, no send will be said to have done so, and unless the session is
over only its state was written.
-/
structure Standing.Unexhausted (before after : Standing) : Prop where
  sound : before.sound = true → after.sound = true
  exhausted : after.exhausted = true → before.exhausted = true
  wakened : after.ended = true ∨ before.Wakened after

theorem Standing.Unexhausted.refl (standing : Standing) : standing.Unexhausted standing :=
  ⟨id, id, .inr ⟨.inl rfl, rfl⟩⟩

/-- Writing ACTIVE or REKEYING uses up no budget. -/
theorem Standing.Unexhausted.setState
    (standing : Standing)
    {state : SessionState}
    (isWritten : state = .active ∨ state = .rekeying) :
    standing.Unexhausted { standing with state := state } :=
  ⟨id, id, .inr ⟨.inr isWritten, rfl⟩⟩

/-- Two calls that leave the budget alone leave it alone together. -/
theorem Standing.Unexhausted.trans
    {first second third : Standing}
    (early : first.Unexhausted second)
    (late : second.Unexhausted third) : first.Unexhausted third where
  sound := fun isSound => late.sound (early.sound isSound)
  exhausted := fun isExhausted => early.exhausted (late.exhausted isExhausted)
  wakened := by
    rcases late.wakened with ended | lateWakened
    · exact .inl ended
    · rcases early.wakened with ended | earlyWakened
      · refine .inl ?_
        rw [lateWakened.rest]
        exact ended
      · exact .inr (earlyWakened.trans lateWakened)

/-- The standing from which `scheduleReconnect` computes its delay. -/
def Standing.episode (standing : Standing) : Standing :=
  if standing.state = .reconnecting ∨ standing.state = .resuming then
    standing
  else
    { standing with startMs := standing.now, attempt := 0 }

/-- The delay of the next attempt after a connection closed. -/
def Standing.delay (standing : Standing) : Option Nat :=
  nextReconnectDelayMs standing.episode.attempt (standing.now - standing.episode.startMs)

namespace Client

/-- What the budget sees of a client. -/
def standing (client : Client) : Standing where
  ended := client.vars.terminated
  state := client.signals.sessionState
  isActive := client.vars.internal.isActive
  isResuming := client.vars.internal.isResuming
  now := client.page.now
  intent := client.link.intentTried
  gen := client.link.socket.map Socket.gen
  opened := client.link.socket.any fun socket => socket.readyState = .opened
  down := client.link.socket.any fun socket => socket.readyState = .closed
  timer := client.link.reconnectTimer
  attempt := client.link.reconnectAttempt
  startMs := client.link.reconnectStartMs
  sending := client.outbound.sending
  acks := client.jobs.filterMap Job.ack?
  sound :=
    client.outbound.queue.all SendTask.isSound &&
      client.outbound.sending.all fun flight => flight.task.isSound
  exhausted := client.out.any Act.isExhaustion

/-! ## The elementary operations -/

variable (client : Client)

/-- An act is seen by the budget only if it tells that the budget is used up. -/
@[simp]
theorem act_standing (action : Act) :
    (client.act action).standing =
      { client.standing with exhausted := client.standing.exhausted || action.isExhaustion } := by
  simp [standing, Client.act]

/-- A state that is written is the state the budget reads. -/
@[simp]
theorem setState_standing (state : SessionState) :
    (client.setState state).standing = { client.standing with state := state } := by
  simp [standing, Client.setState, Act.isExhaustion]

@[simp]
theorem system_standing (event : SystemEventKind) :
    (client.system event).standing = client.standing := by
  simp [system, Act.isExhaustion]

/-- A scheduled job is seen if it answers a resume ack. -/
@[simp]
theorem schedule_standing (job : Job) :
    (client.schedule job).standing =
      { client.standing with acks := client.standing.acks ++ job.ack?.toList } := by
  simp only [standing, schedule, List.filterMap_append]
  cases isAck : job.ack? <;> simp [isAck]

@[simp]
theorem draw_standing : client.draw.1.standing = client.standing :=
  rfl

@[simp]
theorem updateActive_standing (change : ActiveContext → ActiveContext) :
    (client.updateActive change).standing = client.standing := by
  simp [standing, updateActive]

/-- Records are none of the budget's business. -/
@[simp]
theorem writeRecord_standing (record : StoredSession) :
    (client.writeRecord record).1.standing = client.standing := by
  unfold writeRecord
  split
  · rfl
  · split
    · simp [standing, Act.isExhaustion]
    · rfl

@[simp]
theorem flushMirror_standing (mirror : MirrorId) (change : StoredSession → StoredSession) :
    (client.flushMirror mirror change).1.standing = client.standing := by
  unfold flushMirror
  simp only
  split
  · exact writeRecord_standing _ _
  · rfl

@[simp]
theorem clearStoredSession_standing : client.clearStoredSession.standing = client.standing := by
  simp [standing, clearStoredSession, Act.isExhaustion]

@[simp]
theorem mirrorStoredSession_standing (record : StoredSession) :
    (client.mirrorStoredSession record).1.standing = client.standing :=
  rfl

/-- A failing counter ends no session by itself: its task does. -/
@[simp]
theorem allocateSendCounter_standing (active : ActiveContext) (kind : RelayKind) :
    (client.allocateSendCounter active kind).1.standing = client.standing := by
  have stored :=
    allocateCounter_store (active.mirror.map setCounterSend)
      (fun other => other.standing = client.standing)
      (by
        intro persist member store counter same
        obtain ⟨mirror, -, rfl⟩ := Option.map_eq_some_iff.mp member
        exact (flushMirror_standing store mirror _).trans same)
      active.sendState kind rfl
  exact (updateActive_standing _ _).trans stored

/-- A queued task changes no standing, if it is none that ends the session as exhausted. -/
theorem enqueueRelaySend_standing {task : SendTask} (isSound : task.isSound) :
    (client.enqueueRelaySend task).standing = client.standing := by
  unfold enqueueRelaySend
  simp only
  split
  · simp [standing, isSound]
  · simp [standing, schedule, Job.ack?, isSound]

@[simp]
theorem sendEncoded_standing (envelope : PlaintextEnvelope) (continuation : SendCont) :
    (client.sendEncoded envelope continuation).standing = client.standing := by
  unfold sendEncoded
  split
  · rfl
  · exact enqueueRelaySend_standing _ rfl

@[simp]
theorem sendModeFrame_standing
    (kind : RelayKind)
    (payload : Plaintext)
    (continuation : SendCont) :
    (client.sendModeFrame kind payload continuation).standing = client.standing :=
  enqueueRelaySend_standing _ rfl

/-- The connection is closed by this side. -/
@[simp]
theorem closeConnection_standing :
    client.closeConnection.standing = { client.standing with opened := false } := by
  unfold closeConnection
  split
  · rename_i noSocket
    simp [standing, noSocket]
  · rename_i socket isSocket
    simp only [standing, isSocket, List.any_append, Act.isExhaustion, List.any_cons, List.any_nil,
      Bool.or_false, Option.map_some, Option.any_some]
    congr 1
    · split <;> rfl
    · split
      · rename_i isClosed
        rw [isClosed]
      · rename_i notClosed
        simp [notClosed]

@[simp]
theorem signalCredential_standing : client.signalCredential.standing = client.standing := by
  unfold signalCredential
  split
  · simp [Act.isExhaustion]
  · rfl

@[simp]
theorem finishHandler_standing : client.finishHandler.standing = client.standing := by
  unfold finishHandler
  simp only
  split
  · rfl
  · simp [standing, schedule, Job.ack?]

@[simp]
theorem await_standing (handler : Handler) : (client.await handler).standing = client.standing :=
  rfl

@[simp]
theorem enqueueInbound_standing (task : InboundTask) :
    (client.enqueueInbound task).standing = client.standing := by
  unfold enqueueInbound
  simp only
  split
  · rfl
  · simp [standing, schedule, Job.ack?]

@[simp]
theorem ensureEphemeral_standing : client.ensureEphemeral.1.standing = client.standing := by
  unfold ensureEphemeral
  split <;> rfl

@[simp]
theorem sendOn_standing (gen : Nat) (frame : ClientFrame) :
    (client.sendOn gen frame).standing = client.standing := by
  unfold sendOn
  split
  · rfl
  · split
    · simp [Act.isExhaustion]
    · rfl

/-- A new connection is opened; the one before is forgotten. -/
@[simp]
theorem openWith_standing (intent : HelloIntent) :
    (client.openWith intent).standing =
      { client.standing with
        intent := intent
        gen := some (client.link.connectionGen + 1)
        opened := false
        down := false } := by
  simp [standing, openWith, Act.isExhaustion]

/-- Becoming active ends the episode: its start, its attempts and its timer are cleared. -/
@[simp]
theorem transitionToActive_standing (active : ActiveContext) :
    (client.transitionToActive active).standing =
      { client.standing with
        state := .active
        isActive := true
        isResuming := false
        timer := none
        attempt := 0
        startMs := 0 } := by
  simp [standing, transitionToActive, Client.setState, Act.isExhaustion, InternalState.isActive,
    InternalState.isResuming]

/-! ## The file machines -/

/-- Effects of the file machines reach the session as envelopes and system events. -/
theorem applyFileEffect_standing (effect : FileEffect) :
    (client.applyFileEffect effect).standing = client.standing := by
  cases effect with
  | sendEnvelope envelope continuation =>
      simp only [applyFileEffect]
      split
      · exact sendEncoded_standing _ _ _
      · simp [Job.ack?]
  | sendChunk plaintext continuation =>
      simp only [applyFileEffect]
      split
      · exact enqueueRelaySend_standing _ rfl
      · simp [Job.ack?]
  | _ => simp [applyFileEffect, system, Act.isExhaustion]

@[simp]
theorem runFiles_standing (segment : Files → Files) :
    (client.runFiles segment).standing = client.standing := by
  have effects (list : List FileEffect) (start : Client) :
      (list.foldl applyFileEffect start).standing = start.standing := by
    induction list generalizing start with
    | nil => rfl
    | cons effect rest inductionHypothesis =>
        exact (inductionHypothesis _).trans (applyFileEffect_standing start effect)
  exact effects _ _

/-- Both file machines run in one segment, the receiver after the sender. -/
theorem twoFileSegments_standing (senderSegment receiverSegment : Files → Files) :
    (let senderDone :=
      if client.files.senderCreated then client.runFiles senderSegment else client
    if senderDone.files.receiverCreated then
      senderDone.runFiles receiverSegment
    else
      senderDone).standing = client.standing := by
  have senderDone :
      (if client.files.senderCreated then client.runFiles senderSegment
        else client).standing = client.standing := by
    split
    · exact runFiles_standing _ _
    · rfl
  simp only
  generalize
    (if client.files.senderCreated then client.runFiles senderSegment
      else client) = sender at senderDone ⊢
  split
  · exact (runFiles_standing _ _).trans senderDone
  · exact senderDone

@[simp]
theorem cancelFilesForRekey_standing : client.cancelFilesForRekey.standing = client.standing :=
  twoFileSegments_standing client _ _

@[simp]
theorem shutdownFiles_standing : client.shutdownFiles.standing = client.standing :=
  twoFileSegments_standing client _ _

@[simp]
theorem tellFilesClosed_standing : client.tellFilesClosed.standing = client.standing :=
  twoFileSegments_standing client _ _

/-- The listeners of a hiding page cancel its transfers. -/
@[simp]
theorem runPageHideListeners_standing :
    client.runPageHideListeners.standing = client.standing :=
  twoFileSegments_standing client _ _

@[simp]
theorem cancelTransfer_standing : client.cancelTransfer.standing = client.standing :=
  twoFileSegments_standing client _ _

@[simp]
theorem markRekeyInProgress_standing (active : ActiveContext) :
    (client.markRekeyInProgress active).1.standing = client.standing := by
  unfold markRekeyInProgress
  split
  · rfl
  · exact flushMirror_standing _ _ _

/-- Whoever asked for a rekey is answered, or goes on with the inbound chain. -/
@[simp]
theorem rekeyCallerDone_standing (origin : RekeyOrigin) :
    (client.rekeyCallerDone origin).standing = client.standing := by
  cases origin with
  | upgrade => rfl
  | handler => exact finishHandler_standing client

/-! ## Termination -/

@[simp]
theorem clearReconnectTimer_standing :
    client.clearReconnectTimer.standing = { client.standing with timer := none } :=
  rfl

/-- Ending closes the connection and stops the timer. -/
@[simp]
theorem beginTermination_standing (reason : TerminateReason) :
    (client.beginTermination reason).standing =
      { client.standing with ended := true, opened := false, timer := none } := by
  simp only [beginTermination, closeConnection_standing, clearReconnectTimer_standing,
    system_standing]
  rfl

/-- Finalizing clears the session's variables. -/
theorem finalizeTermination_standing :
    client.finalizeTermination.standing =
      { client.standing with state := .terminated, isActive := false, isResuming := false } := by
  have cleared :
      (client.setState .terminated).shutdownFiles.signalCredential.clearStoredSession.standing =
        { client.standing with state := .terminated } := by simp
  have finalized :
      client.finalizeTermination.standing =
        { (client.setState .terminated).shutdownFiles.signalCredential.clearStoredSession.standing
          with isActive := false, isResuming := false } := rfl
  rw [finalized, cleared]

/-- A session that ends for another reason has not used up its budget. -/
theorem terminate_unexhausted
    {reason : TerminateReason}
    (isOther : reason ≠ .reconnectExhausted) :
    client.standing.Unexhausted (client.terminate reason).standing := by
  have notExhaustion : (Act.terminated reason).isExhaustion = false := decide_eq_false isOther
  unfold Client.terminate
  simp only
  split
  · exact .refl _
  · split
    · have entered := setState_standing (client.beginTermination reason) .fatalEnding
      rw [beginTermination_standing] at entered
      rw [act_standing, notExhaustion, Bool.or_false]
      refine ⟨fun isSound => ?_, fun isExhausted => ?_, .inl ?_⟩
      · exact (congrArg Standing.sound entered).trans isSound
      · exact (congrArg Standing.exhausted entered).symm.trans isExhausted
      · exact congrArg Standing.ended entered
    · rw [act_standing, notExhaustion, Bool.or_false, finalizeTermination_standing,
        beginTermination_standing]
      exact ⟨id, id, .inl rfl⟩

/-! ## Keeping the standing, or ending the session -/

/-- The standing is kept, or the session is over and no episode was given up. -/
def Keeps (before after : Client) : Prop :=
  after.standing = before.standing ∨
    (after.standing.ended = true ∧ before.standing.Unexhausted after.standing)

/-- What an accepted resume ack does to a session that is resuming. -/
def Resumes (before after : Client) : Prop :=
  before.standing.isResuming = true ∧
    after.standing =
      { before.standing with
        state := .active
        isActive := true
        isResuming := false
        timer := none
        attempt := 0
        startMs := 0 }

namespace Keeps

variable {client : Client}

theorem refl (client : Client) : Keeps client client :=
  .inl rfl

/-- What follows without a change of standing keeps what was kept. -/
theorem same
    {middle after : Client}
    (keeps : Keeps client middle)
    (isSame : after.standing = middle.standing) : Keeps client after := by
  unfold Keeps
  rw [isSame]
  exact keeps

/-- What keeps the standing from an unchanged one keeps it. -/
theorem of_standing
    {before middle after : Client}
    (isSame : middle.standing = before.standing)
    (keeps : Keeps middle after) : Keeps before after := by
  unfold Keeps at keeps ⊢
  rw [← isSame]
  exact keeps

theorem terminate
    (client : Client)
    {reason : TerminateReason}
    (isOther : reason ≠ .reconnectExhausted) : Keeps client (client.terminate reason) :=
  .inr ⟨terminate_terminated client reason, terminate_unexhausted client isOther⟩

/-- An end for another reason, after calls that changed nothing. -/
theorem terminate_from
    {middle : Client}
    (isSame : middle.standing = client.standing)
    {reason : TerminateReason}
    (isOther : reason ≠ .reconnectExhausted) : Keeps client (middle.terminate reason) :=
  of_standing isSame (terminate middle isOther)

theorem finishHandler
    {middle : Client}
    (keeps : Keeps client middle) : Keeps client middle.finishHandler :=
  keeps.same (finishHandler_standing middle)

/-- The session ends and the handler returns. -/
theorem terminateHandler
    (client : Client)
    {reason : TerminateReason}
    (isOther : reason ≠ .reconnectExhausted) :
    Keeps client (client.terminate reason).finishHandler :=
  (terminate client isOther).finishHandler

/-! ### Handshake -/

/-- The local half of a handshake is sent once; out of place it ends the session. -/
theorem sendLocalHandshake (client : Client) : Keeps client client.sendLocalHandshake := by
  unfold Client.sendLocalHandshake
  split
  · exact refl client
  · split
    · exact terminate client nofun
    · split
      · exact .inl (ensureEphemeral_standing client)
      · exact terminate client nofun

/-- A handshake frame waits for its key, or ends the session. -/
theorem handleHandshakeFrame (client : Client) (ciphertext : HandshakeCiphertext) :
    Keeps client (client.handleHandshakeFrame ciphertext) := by
  unfold Client.handleHandshakeFrame
  split
  · exact (sendLocalHandshake client).same (ensureEphemeral_standing _)
  · exact terminateHandler client nofun

/-! ### Rekey -/

/-- Without a rekey to start the call changes no state. -/
theorem startRekeyIfInitiator
    (client : Client)
    (origin : RekeyOrigin)
    (idle : client.rekeyStarts = false) :
    Keeps client (client.startRekeyIfInitiator origin) := by
  rw [startRekey_idle idle]
  exact .inl (rekeyCallerDone_standing client origin)

/-- A failing key pair ends the session. -/
theorem rekeyKeygenDone (client : Client) (origin : RekeyOrigin) (pair : Draw) (ok : Bool) :
    Keeps client (client.rekeyKeygenDone origin pair ok) := by
  unfold Client.rekeyKeygenDone
  split
  · exact (terminate client (by decide)).same (rekeyCallerDone_standing _ origin)
  · cases origin with
    | upgrade => exact .inl (sendModeFrame_standing _ _ _ _)
    | handler => exact .inl (sendModeFrame_standing _ _ _ _)

/-- A committed key whose record is still to be wrapped waits; the state is not written. -/
theorem commitRekey
    (client : Client)
    (newSessionKey : SessionKey)
    (waits : client.commitsAtOnce = false) :
    Keeps client (client.commitRekey newSessionKey) := by
  unfold Client.commitRekey
  split
  · exact .inl (finishHandler_standing client)
  · simp only
    split
    · exact .inl (updateActive_standing _ _)
    · rename_i noKey
      exfalso
      revert waits
      unfold commitsAtOnce
      split
      · rename_i mirror wrapKey credentialId hasMirror hasKey hasCredential
        refine fun _ => noKey mirror wrapKey credentialId ?_ hasKey hasCredential
        rw [← hasMirror]
        simp only [updateActive, InternalState.context?_mapContext]
        cases client.vars.internal.context? <;> rfl
      · exact nofun

/-- A key that is not stored ends the session. -/
theorem persistWrappedSessionKey
    (client : Client)
    {keyToWrap : CryptoKey}
    {wrapKey : WrapKey}
    (modePhase : ModePhase)
    (credentialId : CredentialId)
    {ok : Bool}
    (fails : client.keyStored client.page.oracle.storageOk keyToWrap wrapKey ok = false) :
    ∃ refused,
      client.persistWrappedSessionKey keyToWrap wrapKey modePhase credentialId ok =
          (refused, false) ∧
        Keeps client refused := by
  obtain ⟨reason, rfl | rfl, refused⟩ :=
    persistWrappedSessionKey_refused modePhase credentialId fails
  · exact ⟨_, refused, terminate client nofun⟩
  · exact ⟨_, refused, terminate client nofun⟩

/-- An upgrade whose key was wrapped stores its record and tells the peer. -/
theorem upgradeWrapped
    (client : Client)
    (index : Nat)
    (sessionKey : CryptoKey)
    (wrapKey : WrapKey)
    (credentialId : CredentialId)
    (ok : Bool)
    (fails : client.keyStored client.page.oracle.storageOk sessionKey wrapKey ok = false) :
    Keeps client (client.upgradeWrapped index sessionKey wrapKey credentialId ok) := by
  obtain ⟨refused, isRefused, keeps⟩ :=
    persistWrappedSessionKey
      { client with vars.upgrades := client.vars.upgrades.eraseIdx index } .soft credentialId fails
  simp only [Client.upgradeWrapped, isRefused]
  exact of_standing rfl keeps

/-- A rekey whose record was not stored ends the session. -/
theorem commitWrapped
    (client : Client)
    (newSessionKey : SessionKey)
    (wrapKey : WrapKey)
    (credentialId : CredentialId)
    (ok : Bool)
    (fails :
      client.keyStored client.page.oracle.storageOk
        { material := newSessionKey, extractable := true } wrapKey ok = false) :
    Keeps client (client.commitWrapped newSessionKey wrapKey credentialId ok) := by
  obtain ⟨refused, isRefused, keeps⟩ :=
    persistWrappedSessionKey client .hardened credentialId fails
  simp only [Client.commitWrapped, isRefused]
  exact keeps.finishHandler

/-- The answer to a `rekey_init` is sent, or the session ends. -/
theorem rekeyInitDerived
    (client : Client)
    (pair : Draw)
    (peerPub : PublicKey)
    (outcome : RekeyOutcome) :
    Keeps client (client.rekeyInitDerived pair peerPub outcome) := by
  unfold Client.rekeyInitDerived
  split
  · exact terminateHandler client nofun
  · exact terminateHandler client nofun
  · split
    · exact terminateHandler client nofun
    · exact .inl (sendModeFrame_standing _ _ _ _)

/-- A `rekey_ack` waits for its key, or ends the session. -/
theorem handleRekeyAck (client : Client) (active : ActiveContext) (peerPub : PublicKey) :
    Keeps client (client.handleRekeyAck active peerPub) := by
  unfold Client.handleRekeyAck
  split
  · exact terminateHandler client nofun
  · split
    · exact terminateHandler client nofun
    · exact refl client

/-- A derived key is committed at once only where nothing is to be wrapped. -/
theorem rekeyAckDerived
    (client : Client)
    (pair : Draw)
    (peerPub : PublicKey)
    (ok : Bool)
    (quiet :
      (ok && client.commitsAtOnce && (deriveRekeyedSessionKey pair peerPub).isSome) = false) :
    Keeps client (client.rekeyAckDerived pair peerPub ok) := by
  unfold Client.rekeyAckDerived
  split
  · exact terminateHandler client nofun
  · rename_i newSessionKey derives
    have isOk : ok = true := by
      cases ok with
      | true => rfl
      | false => cases derives
    rw [isOk] at derives quiet
    have waits : client.commitsAtOnce = false := by
      simpa [show deriveRekeyedSessionKey pair peerPub = some newSessionKey from derives]
        using quiet
    exact of_standing rfl
      (commitRekey _ newSessionKey waits)

/-- The peer's upgrade starts a rekey only where both sides have upgraded. -/
theorem handleModeUpgraded
    (client : Client)
    (quiet : (client.signals.sessionMode == .prf && client.rekeyStarts) = false) :
    Keeps client client.handleModeUpgraded := by
  unfold Client.handleModeUpgraded
  simp only
  split
  · rename_i isPrf
    have isPrf : client.signals.sessionMode = .prf := isPrf
    have idle : client.rekeyStarts = false := by simpa [isPrf] using quiet
    exact of_standing rfl
      (startRekeyIfInitiator _ .handler idle)
  · refine finishHandler (.inl ?_)
    rw [system_standing]
    rfl

/-- Payloads of the rekey protocol change no state unless they start a rekey. -/
theorem handleModePayload
    (client : Client)
    (kind : RelayKind)
    (payload : Plaintext)
    (quiet : client.startsRekey kind payload = false) :
    Keeps client (client.handleModePayload kind payload) := by
  unfold Client.handleModePayload
  split
  · exact (refl client).finishHandler
  · rename_i active hasContext
    split
    · split
      · rename_i decodes
        apply handleModeUpgraded
        simpa [startsRekey, decodes] using quiet
      · exact terminateHandler client (by simp)
    · split
      · rename_i peerPub decodes
        have notJoiner : active.role ≠ .joiner := by
          intro isJoiner
          simp [startsRekey, decodes, hasContext, isJoiner] at quiet
        simp only [Client.handleRekeyInit, ne_eq, notJoiner, not_false_eq_true, ↓reduceIte]
        exact terminateHandler client (by simp)
      · exact terminateHandler client (by simp)
    · split
      · exact handleRekeyAck client _ _
      · exact terminateHandler client (by simp)
    · split
      · exact (refl client).finishHandler
      · exact terminateHandler client (by simp)

/-! ### Frames -/

theorem modeFrameDecrypted
    (client : Client)
    (frame : RelayFrame)
    (mode : CounterMode)
    (state : ReceiveState)
    (quiet :
      ∀ payload counter,
        validateAndDecryptFrame state frame.kind frame.nonce frame.ciphertext mode =
            .ok payload counter →
          client.startsRekey frame.kind payload = false) :
    Keeps client (client.modeFrameDecrypted frame mode state) := by
  unfold Client.modeFrameDecrypted
  split
  · rename_i payload counter accepts
    simp only
    have accepted :
        ((client.updateActive fun context => { context with counterRecv := counter }).act
          (.accept state.sessionKey counter frame.kind payload)).standing = client.standing := by
      simp [Act.isExhaustion]
    split
    · exact finishHandler (.inl accepted)
    · refine of_standing accepted (handleModePayload _ _ _ ?_)
      rw [← quiet payload counter accepts]
      cases internal : client.vars.internal <;>
        simp [startsRekey, rekeyStarts, Client.act, Client.updateActive, internal,
          InternalState.mapContext, InternalState.context?]
  · exact terminateHandler client (by simp)

theorem chunkDecrypted
    (client : Client)
    (frame : RelayFrame)
    (mode : CounterMode)
    (state : ReceiveState) : Keeps client (client.chunkDecrypted frame mode state) := by
  unfold Client.chunkDecrypted
  split
  · rename_i recvState plaintext counter _
    simp only
    have synced :
        ((client.updateActive fun context =>
          { context with counterRecv := recvState.counterRecv }).act
            (.accept state.sessionKey counter .chunk plaintext)).standing = client.standing := by
      simp [Act.isExhaustion]
    split
    · split
      · exact (terminate_from synced (by decide)).finishHandler
      · exact finishHandler (.inl ((runFiles_standing _ _).trans synced))
    · exact (terminate_from synced (by decide)).finishHandler
  · exact terminateHandler client nofun

/-- An envelope resumes the session at most: `resume` and its ack do. -/
theorem handleEnvelope (client : Client) (envelope : PlaintextEnvelope) :
    Keeps client (client.handleEnvelope envelope) ∨
      Resumes client (client.handleEnvelope envelope) := by
  unfold Client.handleEnvelope
  split
  · exact .inl (finishHandler (.inl (by simp [Act.isExhaustion])))
  · split
    · exact .inl (terminateHandler client (by simp))
    · exact .inl (.inl (by simp))
  · split
    · rename_i id active resuming
      split
      · exact .inl (terminateHandler client (by simp))
      · refine .inr ⟨by simp [standing, resuming, InternalState.isResuming], ?_⟩
        rw [finishHandler_standing, transitionToActive_standing]
        rfl
    · exact .inl (terminateHandler client (by simp))
  · exact .inl (finishHandler (.inl (runFiles_standing _ _)))

/-- A message that was opened is an envelope, or ends the session. -/
theorem messageDecrypted
    (client : Client)
    (frame : RelayFrame)
    (mode : CounterMode)
    (state : ReceiveState)
    (mirror : Option MirrorId) :
    Keeps client (client.messageDecrypted frame mode state mirror) ∨
      Resumes client (client.messageDecrypted frame mode state mirror) := by
  have persisted :=
    decryptIncoming_store (mirror.map setCounterRecv)
      (fun other => other.standing = client.standing)
      (by
        intro persist member store counter same
        obtain ⟨held, -, rfl⟩ := Option.map_eq_some_iff.mp member
        exact (flushMirror_standing store held _).trans same)
      state frame.nonce frame.ciphertext mode rfl
  unfold Client.messageDecrypted
  generalize decryptIncoming (mirror.map setCounterRecv) client state frame.nonce
    frame.ciphertext mode = settled at persisted ⊢
  obtain ⟨stored, recvState, result⟩ := settled
  simp only at persisted ⊢
  split
  · exact .inl (finishHandler (.inl persisted))
  · split
    · rename_i envelope counter
      have accepted :
          ((stored.updateActive fun context =>
            { context with counterRecv := recvState.counterRecv }).act
              (.accept state.sessionKey counter .msg (.envelope envelope))).standing =
            client.standing := by
        simp [Act.isExhaustion, persisted]
      rcases handleEnvelope
          ((stored.updateActive fun context =>
            { context with counterRecv := recvState.counterRecv }).act
              (.accept state.sessionKey counter .msg (.envelope envelope))) envelope with
        keeps | ⟨isResuming, resumes⟩
      · exact .inl (of_standing accepted keeps)
      · rw [accepted] at isResuming resumes
        exact .inr ⟨isResuming, resumes⟩
    · have isOther : TerminateReason.relay (messageRefusalOf result) ≠ .reconnectExhausted := nofun
      exact .inl (terminate_from persisted isOther).finishHandler

theorem frameDecrypted
    (client : Client)
    (frame : RelayFrame)
    (mode : CounterMode)
    (state : ReceiveState)
    (mirror : Option MirrorId)
    (quiet :
      ∀ payload counter,
        validateAndDecryptFrame state frame.kind frame.nonce frame.ciphertext mode =
            .ok payload counter →
          client.startsRekey frame.kind payload = false) :
    Keeps client (client.frameDecrypted frame mode state mirror) ∨
      Resumes client (client.frameDecrypted frame mode state mirror) := by
  unfold Client.frameDecrypted
  split
  · exact messageDecrypted client frame mode state mirror
  · exact .inl (chunkDecrypted client frame mode state)
  · exact .inl (modeFrameDecrypted client frame mode state quiet)

/-- A relay frame waits for its turn, or is opened. -/
theorem handleRelay (client : Client) (frame : RelayFrame) :
    Keeps client (client.handleRelay frame) := by
  have withContext (active : ActiveContext) :
      Keeps client (client.handleRelayWith active frame) := by
    unfold handleRelayWith
    simp only
    split
    · exact finishHandler (.inl (updateActive_standing _ _))
    · exact .inl (updateActive_standing _ _)
  unfold Client.handleRelay
  split
  · exact terminateHandler client nofun
  · exact withContext _
  · exact withContext _

/-- The inbound chain takes up its next frame. -/
theorem runInbound (client : Client) : Keeps client client.runInbound := by
  unfold Client.runInbound
  split
  · exact .inl rfl
  · rename_i task rest _
    simp only
    split
    · exact finishHandler (.inl rfl)
    · cases task with
      | handshake ciphertext => exact of_standing rfl (handleHandshakeFrame _ ciphertext)
      | relay frame => exact of_standing rfl (handleRelay _ frame)

/-! ### Callers of settled sends -/

/-- A send's caller changes the state only where it waited for a resume ack or a rekey. -/
theorem resumeSend
    (client : Client)
    (continuation : SendCont)
    (sent : Bool)
    (quiet : client.wakesCaller continuation sent = false) :
    Keeps client (client.resumeSend continuation sent) := by
  cases continuation with
  | discard => exact refl client
  | text body =>
      simp only [Client.resumeSend]
      split
      · exact .inl (by simp [Act.isExhaustion])
      · exact refl client
  | resumeAck => cases quiet
  | modeUpgraded =>
      simp only [Client.resumeSend]
      split
      · rename_i isPrf
        apply startRekeyIfInitiator
        simpa [wakesCaller, isPrf] using quiet
      · exact refl client
  | rekeyAck newSessionKey =>
      simp only [Client.resumeSend]
      split
      · rename_i isSent
        apply commitRekey
        simpa [wakesCaller, isSent] using quiet
      · exact (refl client).finishHandler
  | handlerDone => exact (refl client).finishHandler
  | file continuation => exact .inl (runFiles_standing _ _)

/-! ### Server frames, the page and the user -/

theorem sendResumeProbe (client : Client) : Keeps client client.sendResumeProbe :=
  .inl (by simp only [Client.sendResumeProbe, sendEncoded_standing]; rfl)

/-- A peer that joins is sent the local half of the handshake, or is expected to resume. -/
theorem onPeerJoined (client : Client) : Keeps client client.onPeerJoined := by
  have removed :
      (client.act (.removeSystemMessage .waitingForPeer)).standing = client.standing := by
    simp [Act.isExhaustion]
  unfold Client.onPeerJoined
  simp only
  split
  · exact of_standing removed (sendLocalHandshake _)
  · split
    · exact .inl ((updateActive_standing _ _).trans removed)
    · exact .inl removed

theorem socketBuffered (client : Client) (amount : Nat) :
    Keeps client
      (client.updateSocket fun socket => { socket with bufferedAmount := amount }) := by
  refine .inl ?_
  cases isSocket : client.link.socket <;> simp [standing, Client.updateSocket, isSocket]

theorem send (client : Client) (body t : Text) : Keeps client (client.send body t) := by
  unfold Client.send
  split
  · exact .inl (sendEncoded_standing _ _ _)
  · exact terminate client nofun

theorem becameVisible (client : Client) : Keeps client client.becameVisible := by
  unfold Client.becameVisible
  split
  · exact refl client
  · split
    · exact refl client
    · split
      · exact refl client
      · split
        · exact refl client
        · exact terminate client nofun

theorem markHiding (client : Client) : Keeps client client.markHiding :=
  .inl (runPageHideListeners_standing _)

/-- A protocol error ends the session, for a reason of its own. -/
theorem onProtocolError (client : Client) (kind : ProtocolError) :
    Keeps client (client.onProtocolError kind) := by
  unfold Client.onProtocolError
  split
  · exact refl client
  · exact terminate client nofun

theorem upgradeRegistered (client : Client) (index : Nat) (credentialId : CredentialId) :
    Keeps client (client.upgradeRegistered index (.ok credentialId)) := by
  unfold Client.upgradeRegistered
  simp only
  split
  · exact .inl (by rw [act_standing]; simp [Act.isExhaustion]; rfl)
  · split
    · exact .inl rfl
    · exact .inl rfl

end Keeps

/-! ## Work that writes a state at its end -/

/-- What keeps the standing uses up no budget. -/
theorem Keeps.unexhausted
    {before after : Client}
    (keeps : Keeps before after) : before.standing.Unexhausted after.standing := by
  rcases keeps with same | ⟨-, unexhausted⟩
  · rw [same]
    exact .refl _
  · exact unexhausted

namespace Unexhausted

variable {client : Client}

theorem of_eq
    {after : Client}
    {standing : Standing}
    (isStanding : after.standing = standing)
    (unexhausted : client.standing.Unexhausted standing) :
    client.standing.Unexhausted after.standing :=
  isStanding ▸ unexhausted

theorem finishHandler
    {middle : Client}
    (unexhausted : client.standing.Unexhausted middle.standing) :
    client.standing.Unexhausted middle.finishHandler.standing :=
  of_eq (finishHandler_standing middle) unexhausted

/-- A rekey writes REKEYING. -/
theorem startRekeyIfInitiator (client : Client) (origin : RekeyOrigin) :
    client.standing.Unexhausted (client.startRekeyIfInitiator origin).standing := by
  unfold Client.startRekeyIfInitiator
  split
  · exact of_eq (rekeyCallerDone_standing _ _) (.refl _)
  · split
    · exact of_eq (rekeyCallerDone_standing _ _) (.refl _)
    · rename_i active _
      simp only
      generalize begunEq :
        ({ client with vars.rekeyInFlight := true }.setState .rekeying).cancelFilesForRekey = begun
      have begun_ : client.standing.Unexhausted begun.standing := by
        rw [← begunEq, cancelFilesForRekey_standing, setState_standing]
        exact .setState _ (.inr rfl)
      have marked := markRekeyInProgress_standing begun active
      generalize begun.markRekeyInProgress active = result at marked ⊢
      obtain ⟨after, stored⟩ := result
      simp only at marked
      have after_ : client.standing.Unexhausted after.standing := of_eq marked begun_
      cases stored with
      | false =>
          refine of_eq (rekeyCallerDone_standing _ _) ?_
          exact after_.trans (terminate_unexhausted after nofun)
      | true =>
          simp only
          split
          · exact of_eq (rekeyCallerDone_standing _ _) after_
          · cases origin with
            | upgrade => exact after_
            | handler => exact after_

/-- A completed rekey writes ACTIVE. -/
theorem completeRekey (client : Client) :
    client.standing.Unexhausted client.completeRekey.standing := by
  have isActive : client.completeRekey.standing = { client.standing with state := .active } := by
    simp only [Client.completeRekey, await_standing, sendModeFrame_standing, system_standing,
      setState_standing]
    rfl
  exact of_eq isActive (.setState _ (.inl rfl))

/-- A committed key writes ACTIVE, or waits for its record. -/
theorem commitRekey (client : Client) (newSessionKey : SessionKey) :
    client.standing.Unexhausted (client.commitRekey newSessionKey).standing := by
  unfold Client.commitRekey
  split
  · exact finishHandler (.refl _)
  · simp only
    split
    · exact of_eq (updateActive_standing _ _) (.refl _)
    · have keyed := updateActive_standing client fun context =>
        { context with
          sessionKey := { material := newSessionKey, extractable := false }
          counterCommitted := 0
          counterReserved := 0
          counterRecv := 0 }
      have completed := completeRekey
        (client.updateActive fun context =>
          { context with
            sessionKey := { material := newSessionKey, extractable := false }
            counterCommitted := 0
            counterReserved := 0
            counterRecv := 0 })
      rw [keyed] at completed
      exact completed

/-- Wrapping that fails ends the session for a reason of its own. -/
theorem persistWrappedSessionKey
    (client : Client)
    (keyToWrap : CryptoKey)
    (wrapKey : WrapKey)
    (modePhase : ModePhase)
    (credentialId : CredentialId)
    (ok : Bool) :
    client.standing.Unexhausted
      (client.persistWrappedSessionKey keyToWrap wrapKey modePhase credentialId ok).1.standing := by
  unfold Client.persistWrappedSessionKey
  split
  · exact terminate_unexhausted client nofun
  · split
    · exact terminate_unexhausted client nofun
    · rename_i wrapped _ _ active _
      simp only
      have written := writeRecord_standing client
        (wrappedRecord active wrapped modePhase credentialId)
      generalize client.writeRecord (wrappedRecord active wrapped modePhase credentialId) =
        result at written ⊢
      obtain ⟨stored, ok⟩ := result
      simp only at written
      cases ok with
      | false =>
          have ends := terminate_unexhausted stored
            (show TerminateReason.storageFail ≠ .reconnectExhausted from nofun)
          rw [written] at ends
          exact ends
      | true =>
          refine of_eq ((updateActive_standing _ _).trans written) (.refl _)

theorem upgradeWrapped
    (client : Client)
    (index : Nat)
    (sessionKey : CryptoKey)
    (wrapKey : WrapKey)
    (credentialId : CredentialId)
    (ok : Bool) :
    client.standing.Unexhausted
      (client.upgradeWrapped index sessionKey wrapKey credentialId ok).standing := by
  have persisted := persistWrappedSessionKey
    { client with vars.upgrades := client.vars.upgrades.eraseIdx index } sessionKey wrapKey .soft
    credentialId ok
  unfold Client.upgradeWrapped
  generalize { client with
    vars.upgrades := client.vars.upgrades.eraseIdx index }.persistWrappedSessionKey
      sessionKey wrapKey .soft credentialId ok = result at persisted ⊢
  obtain ⟨after, stored⟩ := result
  cases stored with
  | false => exact persisted
  | true =>
      simp only [sendModeFrame_standing, system_standing, setState_standing]
      exact persisted.trans (.setState _ (.inl rfl))

theorem commitWrapped
    (client : Client)
    (newSessionKey : SessionKey)
    (wrapKey : WrapKey)
    (credentialId : CredentialId)
    (ok : Bool) :
    client.standing.Unexhausted
      (client.commitWrapped newSessionKey wrapKey credentialId ok).standing := by
  have persisted := persistWrappedSessionKey client
    { material := newSessionKey, extractable := true } wrapKey .hardened credentialId ok
  unfold Client.commitWrapped
  generalize client.persistWrappedSessionKey { material := newSessionKey, extractable := true }
    wrapKey .hardened credentialId ok = result at persisted ⊢
  obtain ⟨after, stored⟩ := result
  cases stored with
  | false => exact finishHandler persisted
  | true => exact persisted.trans (completeRekey after)

theorem rekeyAckDerived
    (client : Client)
    (pair : Draw)
    (peerPub : PublicKey)
    (ok : Bool) :
    client.standing.Unexhausted (client.rekeyAckDerived pair peerPub ok).standing := by
  unfold Client.rekeyAckDerived
  split
  · exact finishHandler (terminate_unexhausted client nofun)
  · rename_i newSessionKey _
    exact commitRekey { client with vars.pendingRekeyPair := none } newSessionKey

/-- A `rekey_init` writes REKEYING. -/
theorem handleRekeyInit
    (client : Client)
    (active : ActiveContext)
    (peerPub : PublicKey) :
    client.standing.Unexhausted (client.handleRekeyInit active peerPub).standing := by
  unfold Client.handleRekeyInit
  split
  · exact finishHandler (terminate_unexhausted client nofun)
  · simp only
    generalize begunEq :
      ({ client with vars.rekeyInFlight := true }.setState .rekeying).cancelFilesForRekey = begun
    have begun_ : client.standing.Unexhausted begun.standing := by
      rw [← begunEq, cancelFilesForRekey_standing, setState_standing]
      exact .setState _ (.inr rfl)
    have marked := markRekeyInProgress_standing begun active
    generalize begun.markRekeyInProgress active = result at marked ⊢
    obtain ⟨after, stored⟩ := result
    simp only at marked
    have after_ : client.standing.Unexhausted after.standing := of_eq marked begun_
    cases stored with
    | false => exact finishHandler (after_.trans (terminate_unexhausted after nofun))
    | true => exact after_

/-- Payloads of the rekey protocol write ACTIVE or REKEYING at most. -/
theorem handleModePayload (client : Client) (kind : RelayKind) (payload : Plaintext) :
    client.standing.Unexhausted (client.handleModePayload kind payload).standing := by
  unfold Client.handleModePayload
  split
  · exact finishHandler (.refl _)
  · split
    · split
      · unfold handleModeUpgraded
        simp only
        split
        · exact startRekeyIfInitiator { client with signals.peerMode := .prf } .handler
        · exact finishHandler (of_eq (system_standing _ _) (.refl _))
      · exact finishHandler (terminate_unexhausted client (by simp))
    · split
      · exact handleRekeyInit client _ _
      · exact finishHandler (terminate_unexhausted client (by simp))
    · split
      · exact (Keeps.handleRekeyAck client _ _).unexhausted
      · exact finishHandler (terminate_unexhausted client (by simp))
    · split
      · exact finishHandler (.refl _)
      · exact finishHandler (terminate_unexhausted client (by simp))

theorem modeFrameDecrypted
    (client : Client)
    (frame : RelayFrame)
    (mode : CounterMode)
    (state : ReceiveState) :
    client.standing.Unexhausted (client.modeFrameDecrypted frame mode state).standing := by
  unfold Client.modeFrameDecrypted
  split
  · rename_i payload counter _
    simp only
    have accepted :
        ((client.updateActive fun context => { context with counterRecv := counter }).act
          (.accept state.sessionKey counter frame.kind payload)).standing = client.standing := by
      simp [Act.isExhaustion]
    split
    · exact finishHandler (of_eq accepted (.refl _))
    · have handled := handleModePayload
        ((client.updateActive fun context => { context with counterRecv := counter }).act
          (.accept state.sessionKey counter frame.kind payload)) frame.kind payload
      rw [accepted] at handled
      exact handled
  · exact finishHandler (terminate_unexhausted client (by simp))

/-- Callers write ACTIVE, after a resume ack or a rekey. -/
theorem resumeSend (client : Client) (continuation : SendCont) (sent : Bool) :
    client.standing.Unexhausted (client.resumeSend continuation sent).standing := by
  cases continuation with
  | resumeAck =>
      simp only [Client.resumeSend]
      split
      · exact finishHandler (.refl _)
      · refine finishHandler (of_eq (system_standing _ _) ?_)
        rw [setState_standing]
        exact .setState _ (.inl rfl)
  | modeUpgraded =>
      simp only [Client.resumeSend]
      split
      · exact startRekeyIfInitiator client .upgrade
      · exact .refl _
  | rekeyAck newSessionKey =>
      simp only [Client.resumeSend]
      split
      · exact commitRekey client newSessionKey
      · exact finishHandler (.refl _)
  | discard | text body | handlerDone | file continuation =>
      exact (Keeps.resumeSend client _ sent rfl).unexhausted

end Unexhausted

end Client

end Unseen
