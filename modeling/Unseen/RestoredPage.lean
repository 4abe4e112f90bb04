import Unseen.PeerReconnecting

namespace Unseen

/-!
# A page restored from the back/forward cache

The guard of a restored page shows the session as ended, but it does so from
outside: the session itself is not terminated, and whatever it had pending when
the page was frozen is still pending.  The restored page stays dead exactly in
the runs none of whose steps completes such pending work.
-/

namespace Client

/-! ## Pending work that brings a session back -/

/-- `handleHandshakeFrame` completes: the session starts. -/
def handshakeCompletes
    (client : Client)
    (ciphertext : HandshakeCiphertext)
    (pair : Draw)
    (ok : Bool) : Bool :=
  match unwrapPeerPublicKey ciphertext with
  | none => false
  | some peerPublicKeyRaw =>
      ok && (completeHandshake pair peerPublicKeyRaw).isSome && client.signals.myRole.isSome

/-- The envelope answers the resume probe of this page. -/
def answersProbe (client : Client) (envelope : PlaintextEnvelope) : Bool :=
  match envelope with
  | .resumeAck id =>
      client.vars.internal.isResuming && client.vars.pendingResumeId == some id
  | _ => false

/-- A queued send is not refused: its frame is encrypted. -/
def encryptsTask (client : Client) (task : SendTask) : Bool :=
  match client.link.socket, client.vars.internal.context? with
  | some socket, some active =>
      canAttemptSend socket.readyState socket.bufferedAmount == .ok &&
        match (client.allocateSendCounter active task.kind).2 with
        | none => false
        | some counter =>
            (encryptRelayFrame active.role active.sessionKey.material task.kind counter
              task.plaintext).isSome
  | _, _ => false

/-- The event opens a connection. -/
def opensConnection (client : Client) : Event → Bool
  | .claimDecided granted => granted && client.vars.stored.isNone
  | .resumeDecided .ok =>
      match client.vars.stored with
      | none => false
      | some record =>
          (unwrapSessionKey record.k (deriveWrapKey record.cid)
            (resumeKeyExtractable record.modePhase)).isSome
  | .socketFrame (.error code) =>
      code == .roomAlreadyExists && client.link.intentTried == .create
  | .reconnectTimer => true
  | _ => false

/-- The event encrypts the first queued send. -/
def encryptsNext (client : Client) : Event → Bool
  | .job =>
      match client.jobs, client.outbound.queue with
      | .outboundNext :: rest, task :: waiting =>
          { client with jobs := rest, outbound.queue := waiting }.encryptsTask task
      | _, _ => false
  | _ => false

/-- The event starts, resumes or suspends the session, beside what `wakes` lists. -/
def entersSession (client : Client) : Event → Bool
  | .retryResume =>
      client.signals.sessionState == .resumeLocked && client.vars.stored.isSome
  | .socketFrame .peerDisconnected =>
      client.vars.internal.isActive && client.signals.peerMode == .prf
  | .handshakeDerived ok =>
      match client.inbound.handler with
      | some (.handshake ciphertext pair) => client.handshakeCompletes ciphertext pair ok
      | _ => false
  | .decrypted =>
      match client.inbound.handler with
      | some (.decrypting frame mode state mirror) =>
          frame.kind == .msg &&
            match (decryptIncoming (mirror.map setCounterRecv) client state frame.nonce
                frame.ciphertext mode).2.2 with
            | .ok envelope _ => client.answersProbe envelope
            | _ => false
      | _ => false
  | _ => false

/-- The step completes pending work that brings the session back. -/
def revivedBy (client : Client) (input : Input) : Bool :=
  !client.vars.terminated &&
    (client.wakes input ||
      ({ client with out := [], page.oracle := input.oracle } : Client).opensConnection
        input.event ||
      ({ client with out := [], page.oracle := input.oracle } : Client).encryptsNext
        input.event ||
      ({ client with out := [], page.oracle := input.oracle } : Client).entersSession
        input.event)

/-! ## Segments of a page that was restored -/

/-- The session is not shown as under way, and the segment did nothing of a session. -/
structure Dormant (client : Client) : Prop where
  state : client.signals.sessionState.isLive = false
  out : ∀ action ∈ client.out, action.revives = false

/-- The segment did something that belongs to a session under way. -/
def Revived (client : Client) : Prop :=
  ∃ action ∈ client.out, action.revives = true

/-- The segment did something of a session exactly if the condition holds. -/
def Verdict (revives : Bool) (client : Client) : Prop :=
  if revives then Revived client else Dormant client

namespace Revived

variable {client : Client}

theorem subset
    {after : Client}
    (revived : Revived client)
    (grows : client.out ⊆ after.out) : Revived after := by
  obtain ⟨action, member, revives⟩ := revived
  exact ⟨action, grows member, revives⟩

theorem keep
    {after : Client}
    (revived : Revived client)
    (frame : StateFrame client after) : Revived after :=
  revived.subset frame.subset

theorem terminate
    (revived : Revived client)
    (reason : TerminateReason) : Revived (client.terminate reason) := by
  refine revived.subset ?_
  intro action member
  obtain ⟨begun, begunEq, -⟩ := (beginTermination_spec client reason).2.2.2.2
  obtain ⟨final, finalEq, -⟩ :=
    (finalizeTermination_spec (client.beginTermination reason)).2.2.2.2.2
  unfold Client.terminate
  split
  · exact member
  · simp only
    split <;> simp [Client.act, Client.setState, finalEq, begunEq, member]

theorem setState
    (client : Client)
    {state : SessionState}
    (isLive : state.isLive = true) : Revived (client.setState state) :=
  ⟨.setState state, by simp [Client.setState], isLive⟩

theorem openWith
    (client : Client)
    (intent : HelloIntent) : Revived (client.openWith intent) :=
  ⟨.openConnection (client.link.connectionGen + 1) intent, by simp [Client.openWith], rfl⟩

theorem finishHandler (revived : Revived client) : Revived client.finishHandler :=
  revived.keep (StateFrame.finishHandler client)

end Revived

namespace Dormant

variable {client : Client}

theorem keep
    {after : Client}
    (dormant : Dormant client)
    (frame : StateFrame client after) : Dormant after where
  state := by rw [frame.state]; exact dormant.state
  out := by
    obtain ⟨acts, outEq, quiet⟩ := frame.out
    intro action member
    rw [outEq] at member
    exact (List.mem_append.mp member).elim (dormant.out action) (quiet action)

theorem act
    (dormant : Dormant client)
    {action : Act}
    (quiet : action.revives = false) : Dormant (client.act action) :=
  dormant.keep (StateFrame.act client action quiet)

theorem setState
    (dormant : Dormant client)
    {state : SessionState}
    (notLive : state.isLive = false) : Dormant (client.setState state) where
  state := notLive
  out := by
    intro action member
    rcases List.mem_append.mp member with before | new
    · exact dormant.out action before
    · obtain rfl := List.mem_singleton.mp new
      exact notLive

theorem harmless
    {after : Client}
    (dormant : Dormant client)
    {acts : List Act}
    (outEq : after.out = client.out ++ acts)
    (quiet : ∀ action ∈ acts, action.resurrects = false)
    (notLive : after.signals.sessionState.isLive = false) : Dormant after where
  state := notLive
  out := by
    intro action member
    rw [outEq] at member
    rcases List.mem_append.mp member with before | new
    · exact dormant.out action before
    · have calm := quiet action new
      cases action with
      | setState state => cases state <;> simp_all [Act.resurrects, Act.revives,
          SessionState.isLive]
      | _ => first | rfl | cases calm

theorem terminate
    (dormant : Dormant client)
    (reason : TerminateReason) : Dormant (client.terminate reason) := by
  obtain ⟨-, -, -, sameState, begun, begunOut, begunSilent⟩ := beginTermination_spec client reason
  obtain ⟨-, -, -, -, finalState, final, finalOut, finalSilent⟩ :=
    finalizeTermination_spec (client.beginTermination reason)
  have ending : Dormant (client.beginTermination reason) :=
    dormant.harmless begunOut
      (fun action member => (Act.spec_of_isSilent (begunSilent action member)).1)
      (by rw [sameState]; exact dormant.state)
  unfold Client.terminate
  split
  · exact dormant
  · simp only
    split
    · have buffered : Dormant ((client.beginTermination reason).setState .fatalEnding) :=
        ending.setState rfl
      exact { buffered.act (show (Act.terminated reason).revives = false from rfl) with }
    · have finalized : Dormant (client.beginTermination reason).finalizeTermination := by
        refine ending.harmless finalOut ?_ (by rw [finalState]; rfl)
        intro action member
        simp only [List.mem_cons, List.mem_append, List.not_mem_nil, or_false] at member
        rcases member with rfl | inFinal | rfl
        · rfl
        · exact (Act.spec_of_isSilent (finalSilent action inFinal)).1
        · rfl
      exact finalized.act rfl

theorem finishHandler (dormant : Dormant client) : Dormant client.finishHandler :=
  dormant.keep (StateFrame.finishHandler client)

theorem files
    (dormant : Dormant client)
    (segment : Files → Files) : Dormant (client.runFiles segment) :=
  dormant.keep (runFiles_frame client segment).state

end Dormant

namespace Verdict

variable {client : Client}

theorem of_revived
    {revives : Bool}
    (isRevived : revives = true)
    (revived : Revived client) : Verdict revives client := by
  simpa [Verdict, isRevived] using revived

theorem of_dormant
    {revives : Bool}
    (isDormant : revives = false)
    (dormant : Dormant client) : Verdict revives client := by
  simpa [Verdict, isDormant] using dormant

theorem finishHandler
    {revives : Bool}
    (verdict : Verdict revives client) : Verdict revives client.finishHandler := by
  cases revives with
  | true => exact Revived.finishHandler verdict
  | false => exact Dormant.finishHandler verdict

/-- What the verdict says of the actions. -/
theorem iff
    {revives : Bool}
    (verdict : Verdict revives client) :
    (∀ action ∈ client.out, action.revives = false) ↔ revives = false := by
  cases revives with
  | false => exact iff_of_true (Dormant.out verdict) rfl
  | true =>
      refine iff_of_false ?_ (by simp)
      intro quiet
      obtain ⟨action, member, revives⟩ := verdict
      rw [quiet action member] at revives
      cases revives

end Verdict

/-! ### Events beside the inbound chain -/

namespace Dormant

variable {client : Client}

theorem sendLocalHandshake (dormant : Dormant client) : Dormant client.sendLocalHandshake := by
  unfold Client.sendLocalHandshake
  split
  · exact dormant
  · split
    · exact dormant.terminate _
    · split
      · have drawn : Dormant client.ensureEphemeral.1 := by
          unfold ensureEphemeral
          split
          · exact dormant
          · exact { dormant with }
        exact { drawn with }
      · exact dormant.terminate _

theorem handshakeWrapped
    (dormant : Dormant client)
    (ok : Bool) : Dormant (client.handshakeWrapped ok) := by
  unfold Client.handshakeWrapped
  split
  · rename_i gen pair _ _
    have settled : Dormant { client with handshake.handshakeSend := none } :=
      { dormant with }
    simp only
    split
    · exact settled
    · have sent := settled.keep (StateFrame.sendOn _ gen (.handshake (.wrapped pair)))
      split
      · exact sent.setState rfl
      · exact sent
  · exact dormant

theorem onPeerJoined (dormant : Dormant client) : Dormant client.onPeerJoined := by
  have removed := dormant.act (show (Act.removeSystemMessage .waitingForPeer).revives = false
    from rfl)
  unfold Client.onPeerJoined
  simp only
  split
  · exact removed.sendLocalHandshake
  · split
    · exact removed.keep (StateFrame.updateActive _ _)
    · exact removed

theorem socketOpened (dormant : Dormant client) : Dormant client.socketOpened := by
  unfold Client.socketOpened
  split
  · exact dormant
  · rename_i socket _
    have opened :
        Dormant { client with link.socket := some { socket with readyState := .opened } } :=
      { dormant with }
    simp only
    split
    · exact opened
    · exact opened.keep (StateFrame.sendOn _ _ _)

/-- Nothing is reconnected for a session that is not shown as under way. -/
theorem socketClosed
    (dormant : Dormant client)
    (kind : CloseKind) : Dormant (client.socketClosed kind) := by
  unfold Client.socketClosed
  split
  · exact dormant
  · rename_i socket _
    have closed :
        Dormant { client with link.socket := some { socket with readyState := .closed } } :=
      { dormant with }
    simp only
    split
    · exact closed
    · have told := closed.keep (tellFilesClosed_frame _).state
      split
      · rename_i retries
        have notLive := told.state
        unfold canRetryReconnect at retries
        generalize (Client.tellFilesClosed _).signals.sessionState = state at notLive retries
        cases state <;> simp_all [SessionState.isLive]
      · exact told.terminate _

theorem send
    (dormant : Dormant client)
    (body t : Text) : Dormant (client.send body t) := by
  unfold Client.send
  split
  · exact dormant.keep (StateFrame.sendEncoded _ _ _)
  · exact dormant.terminate _

theorem becameVisible (dormant : Dormant client) : Dormant client.becameVisible := by
  unfold Client.becameVisible
  split
  · exact dormant
  · split
    · exact dormant
    · split
      · exact dormant
      · split
        · exact dormant
        · exact dormant.terminate _

theorem markHiding (dormant : Dormant client) : Dormant client.markHiding := by
  have marked : Dormant { client with page.pageHiding := true } := { dormant with }
  exact marked.keep (runPageHideListeners_frame _).state

theorem pageHide
    (dormant : Dormant client)
    (persisted : Bool) : Dormant (client.pageHide persisted) := by
  unfold Client.pageHide
  simp only
  split
  · exact dormant.markHiding
  · exact dormant.markHiding.keep (StateFrame.closeConnection _)

theorem pageShow
    (dormant : Dormant client)
    (persisted : Bool) : Dormant (client.pageShow persisted) := by
  have shown : Dormant { client with page.pageHiding := false } := { dormant with }
  unfold Client.pageShow
  simp only
  split
  · unfold bfcacheGuard
    split
    · exact shown
    · exact (shown.act rfl).setState rfl
  · exact shown

theorem sendSettled
    (dormant : Dormant client)
    (flight : InFlight)
    (outcome : SendOutcome) : Dormant (client.sendSettled flight outcome) := by
  have settled : Dormant { client with outbound.sending := none } := { dormant with }
  unfold Client.sendSettled
  split
  · exact (settled.keep (StateFrame.sendOn _ _ _)).keep (StateFrame.settleSend _ _ _)
  · exact (settled.terminate _).keep (StateFrame.settleSend _ _ _)
  · exact (settled.terminate _).keep (StateFrame.settleSend _ _ _)

theorem rekeyCallerDone
    (dormant : Dormant client)
    (origin : RekeyOrigin) : Dormant (client.rekeyCallerDone origin) := by
  cases origin with
  | upgrade => exact dormant
  | handler => exact dormant.finishHandler

theorem rekeyKeygenDone
    (dormant : Dormant client)
    (origin : RekeyOrigin)
    (pair : Draw)
    (ok : Bool) : Dormant (client.rekeyKeygenDone origin pair ok) := by
  unfold Client.rekeyKeygenDone
  split
  · exact (dormant.terminate _).rekeyCallerDone origin
  · have pending : Dormant { client with vars.pendingRekeyPair := some pair } :=
      { dormant with }
    cases origin with
    | upgrade => exact pending.keep (StateFrame.sendModeFrame _ _ _ _)
    | handler =>
        have sent :=
          pending.keep
            (StateFrame.sendModeFrame _ .rekeyInit (.publicKey pair) .handlerDone)
        exact { sent with }

/-! ### Frame handlers that never bring a session back -/

theorem handleHandshakeFrame
    (dormant : Dormant client)
    (ciphertext : HandshakeCiphertext) : Dormant (client.handleHandshakeFrame ciphertext) := by
  unfold Client.handleHandshakeFrame
  split
  · have sent := dormant.sendLocalHandshake
    have ready : Dormant client.sendLocalHandshake.ensureEphemeral.1 := by
      unfold ensureEphemeral
      split
      · exact sent
      · exact { sent with }
    exact { ready with }
  · exact (dormant.terminate _).finishHandler

theorem handleRelay
    (dormant : Dormant client)
    (frame : RelayFrame) : Dormant (client.handleRelay frame) := by
  have taken : ∀ active, Dormant (client.handleRelayWith active frame) := by
    intro active
    have strict :=
      dormant.keep
        (StateFrame.updateActive client fun context =>
          { context with nextRecvMode := .strict })
    unfold Client.handleRelayWith
    simp only
    split
    · exact strict.finishHandler
    · exact { strict with }
  unfold Client.handleRelay
  split
  · exact (dormant.terminate _).finishHandler
  · exact taken _
  · exact taken _

theorem runInbound (dormant : Dormant client) : Dormant client.runInbound := by
  unfold Client.runInbound
  split
  · exact { dormant with }
  · rename_i task rest _
    have taken : Dormant { client with inbound.queue := rest } := { dormant with }
    simp only
    split
    · exact taken.finishHandler
    · split
      · exact taken.handleHandshakeFrame _
      · exact taken.handleRelay _

theorem chunkDecrypted
    (dormant : Dormant client)
    (frame : RelayFrame)
    (mode : CounterMode)
    (state : ReceiveState) : Dormant (client.chunkDecrypted frame mode state) := by
  unfold Client.chunkDecrypted
  split
  · rename_i recvState plaintext counter _
    have synced :=
      (dormant.keep
        (StateFrame.updateActive client fun context =>
          { context with counterRecv := recvState.counterRecv })).keep
        (StateFrame.act _ (.accept state.sessionKey counter .chunk plaintext) rfl)
    simp only
    split
    · split
      · exact (synced.terminate _).finishHandler
      · exact (synced.files _).finishHandler
    · exact (synced.terminate _).finishHandler
  · exact (dormant.terminate _).finishHandler

theorem handleRekeyAck
    (dormant : Dormant client)
    (active : ActiveContext)
    (peerPub : PublicKey) : Dormant (client.handleRekeyAck active peerPub) := by
  unfold Client.handleRekeyAck
  split
  · exact (dormant.terminate _).finishHandler
  · split
    · exact (dormant.terminate _).finishHandler
    · exact { dormant with }

theorem rekeyInitDerived
    (dormant : Dormant client)
    (pair : Draw)
    (peerPub : PublicKey)
    (outcome : RekeyOutcome) : Dormant (client.rekeyInitDerived pair peerPub outcome) := by
  unfold Client.rekeyInitDerived
  split
  · exact (dormant.terminate _).finishHandler
  · exact (dormant.terminate _).finishHandler
  · split
    · exact (dormant.terminate _).finishHandler
    · rename_i newSessionKey _
      have sent :=
        dormant.keep
          (StateFrame.sendModeFrame client .rekeyAck (.publicKey pair)
            (.rekeyAck newSessionKey))
      exact { sent with }

end Dormant

/-! ### Segments that can bring a session back -/

namespace Verdict

variable {client : Client}

theorem keep
    {revives : Bool}
    {after : Client}
    (verdict : Verdict revives client)
    (frame : StateFrame client after) : Verdict revives after := by
  cases revives with
  | true => exact Revived.keep verdict frame
  | false => exact Dormant.keep verdict frame

/-- Marking the record can only add that the record was written. -/
theorem markRekeyInProgress_frame (client : Client) (active : ActiveContext) :
    StateFrame client (client.markRekeyInProgress active).1 := by
  unfold Client.markRekeyInProgress
  split
  · exact StateFrame.refl client
  · exact StateFrame.flushMirror client _ _

theorem startRekeyIfInitiator
    (dormant : Dormant client)
    (origin : RekeyOrigin) :
    Verdict client.rekeyStarts (client.startRekeyIfInitiator origin) := by
  cases starts : client.rekeyStarts with
  | false =>
      rw [startRekey_idle starts]
      exact dormant.rekeyCallerDone origin
  | true =>
      simp only [rekeyStarts, Bool.and_eq_true, Bool.not_eq_true', Bool.or_eq_false_iff,
        beq_eq_false_iff_ne, Option.isSome_iff_exists] at starts
      obtain ⟨⟨⟨live, notInFlight⟩, notRekeying⟩, active, hasContext⟩ := starts
      have done :
          ∀ {after : Client}, Revived after → Revived (after.rekeyCallerDone origin) := by
        intro after revived
        cases origin with
        | upgrade => exact revived
        | handler => exact revived.finishHandler
      have begun :
          Revived
            ({ client with vars.rekeyInFlight := true }.setState
              .rekeying).cancelFilesForRekey :=
        (Revived.setState _ rfl).keep (cancelFilesForRekey_frame _).state
      have marked := begun.keep (markRekeyInProgress_frame _ active)
      unfold Client.startRekeyIfInitiator
      split
      · rename_i guard
        simp [live, notInFlight, notRekeying] at guard
      · rw [hasContext]
        simp only
        generalize
          ({ client with vars.rekeyInFlight := true }.setState
            .rekeying).cancelFilesForRekey.markRekeyInProgress active = result at marked
        obtain ⟨after, stored⟩ := result
        cases stored with
        | false => exact done (marked.terminate _)
        | true =>
            simp only
            split
            · exact done marked
            · cases origin with
              | upgrade => exact marked
              | handler => exact marked

theorem completeRekey (client : Client) : Revived client.completeRekey := by
  have hardened : Revived ({ client with vars.rekeyInFlight := false }.setState .active) :=
    Revived.setState _ rfl
  have told := hardened.keep (StateFrame.act _ (.systemMessage .sessionHardened) rfl)
  have sent := told.keep (StateFrame.sendModeFrame _ .rekeyDone emptyPayload .handlerDone)
  exact sent

theorem commitRekey
    (dormant : Dormant client)
    (live : client.vars.terminated = false)
    (newSessionKey : SessionKey) :
    Verdict client.commitsAtOnce (client.commitRekey newSessionKey) := by
  have keyed :=
    dormant.keep
      (StateFrame.updateActive client fun context =>
        { context with
          sessionKey := { material := newSessionKey, extractable := false }
          counterCommitted := 0
          counterReserved := 0
          counterRecv := 0 })
  have mirrors :
      (client.updateActive fun context =>
        { context with
          sessionKey := { material := newSessionKey, extractable := false }
          counterCommitted := 0
          counterReserved := 0
          counterRecv := 0 }).vars.internal.context?.bind ActiveContext.mirror =
        client.vars.internal.context?.bind ActiveContext.mirror := by
    cases internal : client.vars.internal <;>
      simp [Client.updateActive, internal, InternalState.mapContext, InternalState.context?]
  have wrapKey :
      (client.updateActive fun context =>
        { context with
          sessionKey := { material := newSessionKey, extractable := false }
          counterCommitted := 0
          counterReserved := 0
          counterRecv := 0 }).vars.currentWrapKey = client.vars.currentWrapKey := rfl
  have credential :
      (client.updateActive fun context =>
        { context with
          sessionKey := { material := newSessionKey, extractable := false }
          counterCommitted := 0
          counterReserved := 0
          counterRecv := 0 }).vars.credentialIdForCleanup =
        client.vars.credentialIdForCleanup := rfl
  simp only [Client.commitRekey, live, Bool.false_eq_true, ↓reduceIte, mirrors, wrapKey,
    credential, commitsAtOnce]
  cases client.vars.internal.context?.bind ActiveContext.mirror with
  | none => exact completeRekey _
  | some mirror =>
      cases client.vars.currentWrapKey with
      | none => exact completeRekey _
      | some wrapKey =>
          cases client.vars.credentialIdForCleanup with
          | none => exact completeRekey _
          | some credentialId => exact { keyed with }

/-- A stored key leaves the client with its new record. -/
theorem persistWrappedSessionKey_stored
    {keyToWrap : CryptoKey}
    {wrapKey : WrapKey}
    (modePhase : ModePhase)
    (credentialId : CredentialId)
    {ok : Bool}
    (stores :
      client.keyStored client.page.oracle.storageOk keyToWrap wrapKey ok = true) :
    (client.persistWrappedSessionKey keyToWrap wrapKey modePhase credentialId ok).2 =
      true := by
  simp only [keyStored, Bool.and_eq_true, Bool.not_eq_true', Option.isSome_iff_exists]
    at stores
  obtain ⟨⟨⟨isOk, wrapped, wraps⟩, active, hasContext⟩, live, storageOk⟩ := stores
  simp [Client.persistWrappedSessionKey, isOk, wraps, hasContext, writeRecord, live,
    storageOk]

theorem commitWrapped
    (dormant : Dormant client)
    (newSessionKey : SessionKey)
    (wrapKey : WrapKey)
    (credentialId : CredentialId)
    (ok : Bool) :
    Verdict
      (client.keyStored client.page.oracle.storageOk
        { material := newSessionKey, extractable := true } wrapKey ok)
      (client.commitWrapped newSessionKey wrapKey credentialId ok) := by
  cases stores :
      client.keyStored client.page.oracle.storageOk
        { material := newSessionKey, extractable := true } wrapKey ok with
  | false =>
      obtain ⟨reason, -, refused⟩ :=
        persistWrappedSessionKey_refused .hardened credentialId stores
      simp only [Client.commitWrapped, refused]
      exact (dormant.terminate _).finishHandler
  | true =>
      have persisted := persistWrappedSessionKey_stored .hardened credentialId stores
      unfold Client.commitWrapped
      generalize
        client.persistWrappedSessionKey { material := newSessionKey, extractable := true }
          wrapKey .hardened credentialId ok = result at persisted
      obtain ⟨after, stored⟩ := result
      subst persisted
      exact completeRekey after

theorem upgradeWrapped
    (dormant : Dormant client)
    (index : Nat)
    (sessionKey : CryptoKey)
    (wrapKey : WrapKey)
    (credentialId : CredentialId)
    (ok : Bool) :
    Verdict (client.keyStored client.page.oracle.storageOk sessionKey wrapKey ok)
      (client.upgradeWrapped index sessionKey wrapKey credentialId ok) := by
  have settled :
      Dormant { client with vars.upgrades := client.vars.upgrades.eraseIdx index } :=
    { dormant with }
  cases stores : client.keyStored client.page.oracle.storageOk sessionKey wrapKey ok with
  | false =>
      have fails :
          ({ client with vars.upgrades := client.vars.upgrades.eraseIdx index } :
            Client).keyStored client.page.oracle.storageOk sessionKey wrapKey ok = false :=
        stores
      obtain ⟨reason, -, refused⟩ := persistWrappedSessionKey_refused .soft credentialId fails
      simp only [Client.upgradeWrapped, refused]
      exact settled.terminate _
  | true =>
      have succeeds :
          ({ client with vars.upgrades := client.vars.upgrades.eraseIdx index } :
            Client).keyStored client.page.oracle.storageOk sessionKey wrapKey ok = true :=
        stores
      have persisted := persistWrappedSessionKey_stored .soft credentialId succeeds
      unfold Client.upgradeWrapped
      generalize
        Client.persistWrappedSessionKey
          { client with vars.upgrades := client.vars.upgrades.eraseIdx index }
          sessionKey wrapKey .soft credentialId ok = result at persisted
      obtain ⟨after, stored⟩ := result
      subst persisted
      have shown : Revived ({ after with signals.sessionMode := .prf }.setState .active) :=
        Revived.setState _ rfl
      have told := shown.keep (StateFrame.act _ (.systemMessage .modeUpgradedLocally) rfl)
      exact told.keep (StateFrame.sendModeFrame _ .modeUpgraded emptyPayload .modeUpgraded)

/-- The verdict under a condition that says the same. -/
theorem congr
    {stated shown : Bool}
    (same : stated = shown)
    (verdict : Verdict shown client) : Verdict stated client := by
  rw [same]
  exact verdict

theorem rekeyAckDerived
    (dormant : Dormant client)
    (live : client.vars.terminated = false)
    (pair : Draw)
    (peerPub : PublicKey)
    (ok : Bool) :
    Verdict (ok && client.commitsAtOnce && (deriveRekeyedSessionKey pair peerPub).isSome)
      (client.rekeyAckDerived pair peerPub ok) := by
  unfold Client.rekeyAckDerived
  split
  · rename_i underivable
    apply of_dormant
    · cases ok with
      | false => rfl
      | true =>
          have none : deriveRekeyedSessionKey pair peerPub = none := underivable
          simp [none]
    · exact (dormant.terminate _).finishHandler
  · rename_i newSessionKey derives
    have isOk : ok = true := by
      cases ok with
      | true => rfl
      | false => cases derives
    rw [isOk] at derives ⊢
    have derived : deriveRekeyedSessionKey pair peerPub = some newSessionKey := derives
    have answered : Dormant { client with vars.pendingRekeyPair := none } :=
      { dormant with }
    exact congr (by simp [derived, commitsAtOnce]) (commitRekey answered live newSessionKey)

theorem handleModeUpgraded (dormant : Dormant client) :
    Verdict (client.signals.sessionMode == .prf && client.rekeyStarts)
      client.handleModeUpgraded := by
  have upgraded : Dormant { client with signals.peerMode := .prf } := { dormant with }
  unfold Client.handleModeUpgraded
  simp only
  split
  · rename_i isPrf
    have isPrf : client.signals.sessionMode = .prf := isPrf
    exact congr (by rw [isPrf]; rfl) (startRekeyIfInitiator upgraded .handler)
  · rename_i notPrf
    have notPrf : client.signals.sessionMode ≠ .prf := notPrf
    exact of_dormant (by simp [notPrf])
      (upgraded.keep (StateFrame.act _ _ rfl)).finishHandler

theorem handleRekeyInit
    (dormant : Dormant client)
    (active : ActiveContext)
    (peerPub : PublicKey) :
    Verdict (active.role == .joiner) (client.handleRekeyInit active peerPub) := by
  unfold Client.handleRekeyInit
  split
  · rename_i notJoiner
    exact of_dormant (by simpa using notJoiner) (dormant.terminate _).finishHandler
  · rename_i isJoiner
    apply of_revived (by simpa using isJoiner)
    have begun :
        Revived
          ({ client with vars.rekeyInFlight := true }.setState
            .rekeying).cancelFilesForRekey :=
      (Revived.setState _ rfl).keep (cancelFilesForRekey_frame _).state
    have marked := begun.keep (markRekeyInProgress_frame _ active)
    simp only
    generalize
      ({ client with vars.rekeyInFlight := true }.setState
        .rekeying).cancelFilesForRekey.markRekeyInProgress active = result at marked
    obtain ⟨after, stored⟩ := result
    cases stored with
    | false => exact (marked.terminate _).finishHandler
    | true => exact marked

theorem handleModePayload
    (dormant : Dormant client)
    (kind : RelayKind)
    (payload : Plaintext) :
    Verdict (client.startsRekey kind payload) (client.handleModePayload kind payload) := by
  unfold Client.handleModePayload
  split
  · rename_i noContext
    refine of_dormant ?_ dormant.finishHandler
    cases kind <;> simp [startsRekey, rekeyStarts, noContext]
  · rename_i active hasContext
    split
    · split
      · rename_i decodes
        exact congr (by simp [startsRekey, decodes]) (handleModeUpgraded dormant)
      · rename_i malformed
        exact of_dormant (by simp [startsRekey, malformed])
          (dormant.terminate _).finishHandler
    · split
      · rename_i peerPub decodes
        exact congr (by simp [startsRekey, decodes, hasContext])
          (handleRekeyInit dormant active peerPub)
      · rename_i malformed
        exact of_dormant (by simp [startsRekey, malformed])
          (dormant.terminate _).finishHandler
    · refine of_dormant rfl ?_
      split
      · exact dormant.handleRekeyAck _ _
      · exact (dormant.terminate _).finishHandler
    · rename_i notUpgrade notInit notAck
      refine of_dormant (by cases kind <;> simp_all [startsRekey]) ?_
      split
      · exact dormant.finishHandler
      · exact (dormant.terminate _).finishHandler

theorem modeFrameDecrypted
    (dormant : Dormant client)
    (live : client.vars.terminated = false)
    (frame : RelayFrame)
    (mode : CounterMode)
    (state : ReceiveState) :
    Verdict
      (match validateAndDecryptFrame state frame.kind frame.nonce frame.ciphertext mode with
        | .ok payload _ => client.startsRekey frame.kind payload
        | _ => false)
      (client.modeFrameDecrypted frame mode state) := by
  unfold Client.modeFrameDecrypted
  cases validateAndDecryptFrame state frame.kind frame.nonce frame.ciphertext mode with
  | ok payload counter =>
      have accepted :=
        (dormant.keep
          (StateFrame.updateActive client fun context =>
            { context with counterRecv := counter })).keep
          (StateFrame.act _ (.accept state.sessionKey counter frame.kind payload) rfl)
      have liveStill :
          ((client.updateActive fun context =>
            { context with counterRecv := counter }).act
              (.accept state.sessionKey counter frame.kind payload)).vars.terminated =
            false := live
      simp only [liveStill, Bool.false_eq_true, ↓reduceIte]
      refine congr ?_ (handleModePayload accepted frame.kind payload)
      cases internal : client.vars.internal <;>
        simp [startsRekey, rekeyStarts, Client.act, Client.updateActive, internal,
          InternalState.mapContext, InternalState.context?]
  | _ => exact (dormant.terminate _).finishHandler

theorem handleEnvelope
    (dormant : Dormant client)
    (envelope : PlaintextEnvelope) :
    Verdict (client.answersProbe envelope) (client.handleEnvelope envelope) := by
  unfold Client.handleEnvelope
  split
  · exact of_dormant rfl (dormant.keep (StateFrame.act _ _ rfl)).finishHandler
  · refine of_dormant rfl ?_
    split
    · exact (dormant.terminate _).finishHandler
    · rename_i waiting
      have notLive := dormant.state
      rw [Decidable.not_not.mp waiting] at notLive
      cases notLive
  · rename_i id
    cases internal : client.vars.internal with
    | resuming active =>
        simp only
        split
        · rename_i other
          exact of_dormant (by simp [answersProbe, other])
            (dormant.terminate _).finishHandler
        · rename_i same
          apply of_revived (by simp [answersProbe, internal, InternalState.isResuming,
            Decidable.not_not.mp same])
          have entered :
              Revived
                ({ { client with vars.pendingResumeId := none } with
                    vars.internal := .active active }.setState .active) :=
            Revived.setState _ rfl
          have transitioned :
              Revived
                ({ client with vars.pendingResumeId := none }.transitionToActive active) :=
            entered
          exact transitioned.finishHandler
    | preActive =>
        exact of_dormant (by simp [answersProbe, internal, InternalState.isResuming])
          (dormant.terminate _).finishHandler
    | active active =>
        exact of_dormant (by simp [answersProbe, internal, InternalState.isResuming])
          (dormant.terminate _).finishHandler
  · refine of_dormant ?_ (dormant.files _).finishHandler
    cases envelope <;> simp_all [answersProbe]

theorem messageDecrypted
    (dormant : Dormant client)
    (live : client.vars.terminated = false)
    (frame : RelayFrame)
    (mode : CounterMode)
    (state : ReceiveState)
    (mirror : Option MirrorId) :
    Verdict
      (match (decryptIncoming (mirror.map setCounterRecv) client state frame.nonce
          frame.ciphertext mode).2.2 with
        | .ok envelope _ => client.answersProbe envelope
        | _ => false)
      (client.messageDecrypted frame mode state mirror) := by
  have persisted :=
    decryptIncoming_store (mirror.map setCounterRecv)
      (fun store => Dormant store ∧ store.vars = client.vars)
      (by
        intro persist member store counter holds
        obtain ⟨held, -, rfl⟩ := Option.map_eq_some_iff.mp member
        exact
          ⟨holds.1.keep (StateFrame.flushMirror store held _),
            (flushMirror_vars store held _).trans holds.2⟩)
      state frame.nonce frame.ciphertext mode ⟨dormant, rfl⟩
  unfold Client.messageDecrypted
  generalize
    decryptIncoming (mirror.map setCounterRecv) client state frame.nonce
      frame.ciphertext mode = decrypted at persisted
  obtain ⟨stored, recvState, result⟩ := decrypted
  obtain ⟨still, sameVars⟩ := persisted
  simp only at still sameVars ⊢
  rw [sameVars, live]
  simp only [Bool.false_eq_true, ↓reduceIte]
  cases result with
  | ok envelope counter =>
      have accepted :=
        (still.keep
          (StateFrame.updateActive stored fun context =>
            { context with counterRecv := recvState.counterRecv })).keep
          (StateFrame.act _ (.accept state.sessionKey counter .msg (.envelope envelope)) rfl)
      refine congr ?_ (handleEnvelope accepted envelope)
      cases envelope <;> simp [answersProbe, Client.act, Client.updateActive, sameVars]
  | _ => exact (still.terminate _).finishHandler

/-! ### Sends and microtasks -/

theorem runRelaySendTask
    (dormant : Dormant client)
    (live : client.vars.terminated = false)
    (task : SendTask) :
    Verdict (client.encryptsTask task) (client.runRelaySendTask task) := by
  have refused :
      ∀ {before : Client}, Dormant before →
        Dormant (before.settleSend task.continuation false) :=
    fun quiet => quiet.keep (StateFrame.settleSend _ _ _)
  unfold Client.runRelaySendTask
  simp only [live, Bool.false_eq_true, ↓reduceIte]
  cases hasSocket : client.link.socket with
  | none => exact of_dormant (by simp [encryptsTask, hasSocket]) (refused dormant)
  | some socket =>
      cases hasContext : client.vars.internal.context? with
      | none =>
          exact of_dormant (by simp [encryptsTask, hasSocket, hasContext]) (refused dormant)
      | some active =>
          simp only
          split
          · rename_i notSendable
            exact of_dormant (by simp [encryptsTask, hasSocket, hasContext, notSendable])
              (refused dormant)
          · rename_i sendable
            have allocated :=
              dormant.keep (StateFrame.allocateSendCounter client active task.kind)
            cases result : client.allocateSendCounter active task.kind with
            | mk after counter =>
                rw [result] at allocated
                cases counter with
                | none =>
                    exact of_dormant
                      (by simp [encryptsTask, hasSocket, hasContext, result])
                      (refused (allocated.terminate _))
                | some counter =>
                    simp only
                    split
                    · rename_i unencrypted
                      exact of_dormant
                        (by
                          simp [encryptsTask, hasSocket, hasContext, result, unencrypted])
                        (refused (allocated.terminate _))
                    · rename_i frame encrypted
                      refine of_revived
                        (by
                          simp [encryptsTask, hasSocket, hasContext, result, encrypted,
                            Decidable.not_not.mp sendable])
                        ⟨.encrypt active.sessionKey.material counter frame, ?_, rfl⟩
                      simp [Client.act]

theorem resumeSend
    (dormant : Dormant client)
    (live : client.vars.terminated = false)
    (continuation : SendCont)
    (sent : Bool) :
    Verdict (client.wakesCaller continuation sent)
      (client.resumeSend continuation sent) := by
  cases continuation with
  | discard => exact of_dormant rfl dormant
  | text body =>
      refine of_dormant rfl ?_
      simp only [Client.resumeSend]
      split
      · exact dormant.keep (StateFrame.act client _ rfl)
      · exact dormant
  | resumeAck =>
      apply of_revived rfl
      simp only [Client.resumeSend, live, Bool.false_eq_true, ↓reduceIte]
      have shown : Revived (client.setState .active) := Revived.setState client rfl
      exact (shown.keep (StateFrame.act _ (.systemMessage .peerReconnected) rfl)).finishHandler
  | modeUpgraded =>
      simp only [Client.resumeSend]
      split
      · rename_i isPrf
        exact congr (by simp [wakesCaller, isPrf]) (startRekeyIfInitiator dormant .upgrade)
      · rename_i notPrf
        exact of_dormant (by simp [wakesCaller, notPrf]) dormant
  | rekeyAck newSessionKey =>
      simp only [Client.resumeSend]
      split
      · rename_i isSent
        exact congr (by simp [wakesCaller, isSent]) (commitRekey dormant live newSessionKey)
      · rename_i notSent
        exact of_dormant (by simp [wakesCaller, notSent]) dormant.finishHandler
  | handlerDone => exact of_dormant rfl dormant.finishHandler
  | file continuation =>
      refine of_dormant rfl ?_
      exact dormant.files fun files => files.resume client.fileEnv continuation sent

theorem runJob
    (dormant : Dormant client)
    (live : client.vars.terminated = false)
    {input : Input}
    (isJob : input.event = .job) :
    Verdict (client.wakes input || client.encryptsNext input.event) client.runJob := by
  unfold Client.runJob
  split
  · rename_i noJob
    exact of_dormant (by simp [wakes, encryptsNext, isJob, noJob]) dormant
  · rename_i job rest jobsEq
    have taken : Dormant { client with jobs := rest } := { dormant with }
    cases job with
    | outboundNext =>
        simp only [Client.runOutbound]
        split
        · rename_i empty
          have empty : client.outbound.queue = [] := empty
          exact of_dormant (by simp [wakes, encryptsNext, isJob, jobsEq, empty])
            { taken with }
        · rename_i task waiting queued
          have queued : client.outbound.queue = task :: waiting := queued
          have dequeued :
              Dormant { client with jobs := rest, outbound.queue := waiting } :=
            { dormant with }
          refine congr ?_ (runRelaySendTask dequeued live task)
          simp only [wakes, encryptsNext, isJob, jobsEq, queued, Bool.false_or]
    | inboundNext =>
        exact of_dormant (by simp [wakes, encryptsNext, isJob, jobsEq]) taken.runInbound
    | settle continuation sent =>
        refine congr ?_ (resumeSend taken live continuation sent)
        simp only [wakes, encryptsNext, isJob, jobsEq, Bool.or_false]
        rfl

/-! ### Start-up, server frames and every event -/

theorem claimDecided
    (dormant : Dormant client)
    (granted : Bool) :
    Verdict (client.opensConnection (.claimDecided granted))
      (client.claimDecided granted) := by
  unfold Client.claimDecided
  cases granted with
  | false => exact of_dormant rfl { dormant.terminate .duplicateTab with }
  | true =>
      simp only [Bool.not_true, Bool.false_eq_true, ↓reduceIte]
      have held : Dormant { client with vars.claim := .held } := { dormant with }
      split
      · rename_i record stored
        have stored : client.vars.stored = some record := stored
        exact of_dormant (by simp [opensConnection, stored]) { held with }
      · rename_i fresh
        have fresh : client.vars.stored = none := fresh
        apply of_revived (by simp [opensConnection, fresh])
        exact Revived.openWith { client with vars.claim := .held } .create

theorem resumeDecided
    (dormant : Dormant client)
    (live : client.vars.terminated = false)
    (outcome : PasskeyResume) :
    Verdict (client.opensConnection (.resumeDecided outcome))
      (client.resumeDecided outcome) := by
  have settled :
      Dormant { client with vars.resumeAttempt := false, vars.returned := true } :=
    { dormant with }
  unfold Client.resumeDecided
  cases hasStored : client.vars.stored with
  | none =>
      refine of_dormant ?_ dormant
      cases outcome <;> simp [opensConnection, hasStored]
  | some record =>
      cases outcome with
      | getRejected =>
          refine of_dormant rfl ?_
          simp only
          split
          · exact settled
          · exact settled.setState rfl
      | noCredential => exact of_dormant rfl (settled.terminate _)
      | prfMissing => exact of_dormant rfl (settled.terminate _)
      | ok =>
          simp only
          split
          · rename_i sealed
            exact of_dormant (by simp [opensConnection, hasStored, sealed])
              (settled.terminate _)
          · rename_i resumedKey unwrapped
            apply of_revived (by simp [opensConnection, hasStored, unwrapped])
            split
            · rename_i ended
              exact absurd ended (by simp [live])
            · exact Revived.openWith _ .resume

theorem retryResume
    (dormant : Dormant client)
    (live : client.vars.terminated = false) :
    Verdict (client.entersSession .retryResume) client.retryResume := by
  unfold Client.retryResume
  split
  · rename_i guard
    refine of_dormant ?_ dormant
    cases hasStored : client.vars.stored <;>
      simp_all [entersSession]
  · rename_i passes
    apply of_revived
    · cases hasStored : client.vars.stored <;> simp_all [entersSession]
    · exact Revived.setState client rfl

theorem upgradeRegistered
    (dormant : Dormant client)
    (live : client.vars.terminated = false)
    (index : Nat)
    (outcome : RegisterOutcome)
    (oracle : Oracle) :
    Verdict (client.wakes { event := .upgradeRegistered index outcome, oracle })
      (client.upgradeRegistered index outcome) := by
  have settled :
      Dormant { client with vars.upgrades := client.vars.upgrades.eraseIdx index } :=
    { dormant with }
  have shown :
      Revived
        ({ client with
            vars.upgrades := client.vars.upgrades.eraseIdx index }.setState .active) :=
    Revived.setState _ rfl
  unfold Client.upgradeRegistered
  rw [if_neg (by simp [live])]
  cases outcome with
  | cancelled =>
      have told := shown.keep (StateFrame.act _ (.systemMessage .modeUpgradeDismissedByUser) rfl)
      exact of_revived rfl told
  | failed =>
      have told := shown.keep (StateFrame.act _ (.systemMessage .modeUpgradeFailed) rfl)
      exact of_revived rfl told
  | ok credentialId =>
      refine of_dormant rfl ?_
      simp only
      split
      · exact settled
      · exact { dormant with }

theorem handshakeDerived
    (dormant : Dormant client)
    (live : client.vars.terminated = false)
    (ciphertext : HandshakeCiphertext)
    (pair : Draw)
    (ok : Bool) :
    Verdict (client.handshakeCompletes ciphertext pair ok)
      (client.handshakeDerived ciphertext pair ok) := by
  unfold Client.handshakeDerived
  cases unwraps : unwrapPeerPublicKey ciphertext with
  | none =>
      exact of_dormant (by simp [handshakeCompletes, unwraps])
        (dormant.terminate _).finishHandler
  | some peerPublicKeyRaw =>
      simp only
      split
      · rename_i underivable
        refine of_dormant ?_ (dormant.terminate _).finishHandler
        cases ok with
        | false => simp [handshakeCompletes, unwraps]
        | true =>
            have none : completeHandshake pair peerPublicKeyRaw = none := underivable
            simp [handshakeCompletes, unwraps, none]
      · rename_i sessionKey derives
        have isOk : ok = true := by
          cases ok with
          | true => rfl
          | false => cases derives
        rw [isOk] at derives ⊢
        have derived : completeHandshake pair peerPublicKeyRaw = some sessionKey := derives
        have shown := dormant.keep (StateFrame.act client (.onSas (some sessionKey)) rfl)
        simp only [live, Bool.false_eq_true, ↓reduceIte]
        cases hasRole : client.signals.myRole with
        | none =>
            have noRole : (client.act (.onSas (some sessionKey))).signals.myRole = none :=
              hasRole
            rw [noRole]
            exact of_dormant (by simp [handshakeCompletes, unwraps, derived, hasRole])
              (shown.terminate _).finishHandler
        | some role =>
            have named :
                (client.act (.onSas (some sessionKey))).signals.myRole = some role :=
              hasRole
            rw [named]
            apply of_revived (by simp [handshakeCompletes, unwraps, derived, hasRole])
            have entered :
                ∀ active,
                  Revived
                    ((client.act (.onSas (some sessionKey))).transitionToActive active) := by
              intro active
              have state :
                  Revived
                    ({ client.act (.onSas (some sessionKey)) with
                        vars.internal := .active active }.setState .active) :=
                Revived.setState _ rfl
              exact state
            exact ((entered _).keep (StateFrame.act _ _ rfl)).finishHandler

theorem onPeerDisconnected (dormant : Dormant client) :
    Verdict (client.entersSession (.socketFrame .peerDisconnected))
      client.onPeerDisconnected := by
  unfold Client.onPeerDisconnected
  split
  · rename_i notActive
    exact of_dormant (by simp_all [entersSession]) (dormant.terminate _)
  · rename_i isActive
    split
    · rename_i notPrf
      exact of_dormant (by simp_all [entersSession]) (dormant.terminate _)
    · rename_i isPrf
      apply of_revived (by simp_all [entersSession])
      have shown : Revived (client.setState .peerReconnecting) := Revived.setState _ rfl
      exact (shown.keep (StateFrame.updateActive _ _)).keep (StateFrame.act _ _ rfl)

theorem handleServerFrame
    (dormant : Dormant client)
    (live : client.vars.terminated = false)
    (frame : ServerFrame) :
    Verdict
      (client.opensConnection (.socketFrame frame) ||
        client.entersSession (.socketFrame frame))
      (client.handleServerFrame frame) := by
  unfold Client.handleServerFrame
  simp only [live, Bool.false_eq_true, ↓reduceIte]
  cases frame with
  | ack role =>
      have named : Dormant { client with signals.myRole := some role } := { dormant with }
      refine of_dormant rfl ?_
      simp only
      split
      · have drawn :
            Dormant
              { client with
                signals.myRole := some role
                page.nextDraw := client.page.nextDraw + 1
                vars.pendingResumeId :=
                  some { device := client.page.device, serial := client.page.nextDraw } } :=
          { dormant with }
        have sent :=
          drawn.keep
            (StateFrame.sendEncoded _
              (.resume { device := client.page.device, serial := client.page.nextDraw })
              .discard)
        exact sent
      · split
        · exact (named.setState rfl).keep (StateFrame.act _ _ rfl)
        · exact named.sendLocalHandshake
  | peerJoined => exact of_dormant rfl dormant.onPeerJoined
  | handshake ciphertext =>
      exact of_dormant rfl (dormant.keep (StateFrame.enqueueInbound _ _))
  | relay relayFrame => exact of_dormant rfl (dormant.keep (StateFrame.enqueueInbound _ _))
  | peerDisconnected => exact onPeerDisconnected dormant
  | peerLeft => exact of_dormant rfl (dormant.terminate _)
  | error code =>
      simp only
      split
      · rename_i reopens
        apply of_revived (by simp [opensConnection, reopens])
        exact Revived.openWith _ .join
      · rename_i refused
        refine of_dormant ?_ (dormant.terminate _)
        simpa [opensConnection, entersSession] using refused

/-- Every event of a live page whose session is not shown as under way. -/
theorem handle
    (dormant : Dormant client)
    (live : client.vars.terminated = false)
    (armed : Armed client)
    {input : Input}
    (oracle : client.page.oracle = input.oracle)
    (isEnabled : client.enabled input)
    (notReload : input.event ≠ .reload) :
    Verdict
      (client.wakes input || client.opensConnection input.event ||
        client.encryptsNext input.event || client.entersSession input.event)
      (client.handle input.event) := by
  have files :
      ∀ segment (created : Bool),
        Dormant (if created then client.runFiles segment else client) := by
    intro segment created
    split
    · exact dormant.files segment
    · exact dormant
  obtain ⟨event, browser⟩ := input
  simp only at oracle
  cases event with
  | job =>
      refine congr ?_ (runJob dormant live (show ({ event := .job, oracle := browser } :
        Input).event = .job from rfl))
      simp [opensConnection, entersSession]
  | claimDecided granted =>
      refine congr ?_ (claimDecided dormant granted)
      simp [wakes, encryptsNext, entersSession]
  | resumeDecided outcome =>
      refine congr ?_ (resumeDecided dormant live outcome)
      simp [wakes, encryptsNext, entersSession]
  | send body t => exact of_dormant rfl (dormant.send body t)
  | sendFile file tid => exact of_dormant rfl (files _ _)
  | cancelTransfer => exact of_dormant rfl (dormant.keep (cancelTransfer_frame client).state)
  | acceptFileOffer => exact of_dormant rfl (files _ _)
  | declineFileOffer => exact of_dormant rfl (files _ _)
  | upgradeToPrf =>
      have notActive : client.signals.sessionState ≠ .active := by
        intro isActive
        have notLive := dormant.state
        rw [isActive] at notLive
        cases notLive
      refine of_dormant rfl ?_
      simp only [Client.handle, Client.upgradeToPrf, bne_iff_ne.mpr notActive, Bool.or_true,
        Bool.true_or, ↓reduceIte]
      exact dormant
  | retryResume =>
      refine congr ?_ (retryResume dormant live)
      simp [wakes, encryptsNext, opensConnection]
  | terminate reason => exact of_dormant rfl (dormant.terminate reason)
  | socketOpened => exact of_dormant rfl dormant.socketOpened
  | socketFrame frame =>
      refine congr ?_ (handleServerFrame dormant live frame)
      simp [wakes, encryptsNext]
  | socketClosing => exact of_dormant rfl { dormant with }
  | socketClosed kind => exact of_dormant rfl (dormant.socketClosed kind)
  | socketBuffered amount => exact of_dormant rfl { dormant with }
  | protocolError kind =>
      refine of_dormant rfl ?_
      simp only [Client.handle, Client.onProtocolError]
      split
      · exact dormant
      · exact dormant.terminate _
  | handshakeWrapped ok => exact of_dormant rfl (dormant.handshakeWrapped ok)
  | handshakeDerived ok =>
      obtain ⟨handler, running, stage⟩ :=
        Settled.awaiting (Bool.and_eq_true_iff.mp isEnabled).2
      cases handler with
      | handshake ciphertext pair =>
          simp only [Client.handle, running]
          refine congr ?_ (handshakeDerived dormant live ciphertext pair ok)
          simp [wakes, encryptsNext, opensConnection, entersSession, running]
      | _ => cases stage
  | decrypted =>
      obtain ⟨handler, running, stage⟩ :=
        Settled.awaiting (Bool.and_eq_true_iff.mp isEnabled).2
      cases handler with
      | decrypting frame mode state mirror =>
          simp only [Client.handle, running, frameDecrypted]
          cases isKind : frame.kind with
          | msg =>
              refine congr ?_ (messageDecrypted dormant live frame mode state mirror)
              simp only [wakes, encryptsNext, opensConnection, entersSession, running, isKind,
                startsRekey]
              split <;> simp
          | chunk =>
              refine of_dormant ?_ (dormant.chunkDecrypted frame mode state)
              simp only [wakes, encryptsNext, opensConnection, entersSession, running, isKind,
                startsRekey]
              split <;> rfl
          | _ =>
              have otherKind : (frame.kind == .msg) = false := by rw [isKind]; rfl
              refine congr ?_ (modeFrameDecrypted dormant live frame mode state)
              cases verdict : validateAndDecryptFrame state frame.kind frame.nonce
                frame.ciphertext mode <;>
                simp only [wakes, encryptsNext, opensConnection, entersSession, running,
                  otherKind, Bool.false_and, Bool.or_false, verdict]
      | _ => cases stage
  | upgradeRegistered index outcome =>
      refine congr ?_ (upgradeRegistered dormant live index outcome browser)
      simp [encryptsNext, opensConnection, entersSession]
  | upgradeWrapped index ok =>
      simp only [Client.handle]
      split
      · rename_i wrapping
        refine congr ?_ (upgradeWrapped dormant index _ _ _ ok)
        simp [wakes, encryptsNext, opensConnection, entersSession, wrapping, oracle]
      · rename_i notWrapping
        refine of_dormant ?_ dormant
        simp only [wakes, encryptsNext, opensConnection, entersSession, Bool.or_false]
  | upgradeKeygen index ok =>
      refine of_dormant rfl ?_
      simp only [Client.handle]
      split
      · have taken :
            Dormant { client with vars.upgrades := client.vars.upgrades.eraseIdx index } :=
          { dormant with }
        exact taken.rekeyKeygenDone .upgrade _ ok
      · exact dormant
  | rekeyKeygen ok =>
      refine of_dormant rfl ?_
      simp only [Client.handle]
      split
      · exact dormant.rekeyKeygenDone .handler _ ok
      · exact dormant
  | rekeyInitDerived outcome =>
      refine of_dormant rfl ?_
      simp only [Client.handle]
      split
      · exact dormant.rekeyInitDerived _ _ outcome
      · exact dormant
  | rekeyAckDerived ok =>
      obtain ⟨handler, running, stage⟩ :=
        Settled.awaiting (Bool.and_eq_true_iff.mp isEnabled).2
      cases handler with
      | rekeyAck pair peerPub =>
          simp only [Client.handle, running]
          refine congr ?_ (rekeyAckDerived dormant live pair peerPub ok)
          simp [wakes, encryptsNext, opensConnection, entersSession, running]
      | _ => cases stage
  | commitWrapped ok =>
      obtain ⟨handler, running, stage⟩ :=
        Settled.awaiting (Bool.and_eq_true_iff.mp isEnabled).2
      cases handler with
      | commitWrap newSessionKey wrapKey credentialId =>
          simp only [Client.handle, running]
          refine congr ?_ (commitWrapped dormant newSessionKey wrapKey credentialId ok)
          simp [wakes, encryptsNext, opensConnection, entersSession, running, oracle]
      | _ => cases stage
  | sendSettled outcome =>
      refine of_dormant rfl ?_
      simp only [Client.handle]
      split
      · exact dormant.sendSettled _ outcome
      · exact dormant
  | reconnectTimer =>
      apply of_revived rfl
      simp only [Client.handle, Client.reconnectTimerFired, live, Bool.false_eq_true,
        ↓reduceIte]
      split
      · exact Revived.openWith _ .resume
      · exact Revived.openWith _ .resume
  | fatalTimer =>
      have running : client.vars.fatalTimer ≠ none := by
        intro none
        simp [enabled, canOccur, isDue, none] at isEnabled
      have ended := armed running
      rw [live] at ended
      cases ended
  | file event =>
      refine of_dormant rfl ?_
      exact dormant.files fun files => files.handle client.fileEnv event
  | visible => exact of_dormant rfl dormant.becameVisible
  | beforeUnload => exact of_dormant rfl dormant.markHiding
  | pageHide persisted => exact of_dormant rfl (dormant.pageHide persisted)
  | pageShow persisted => exact of_dormant rfl (dormant.pageShow persisted)
  | elapse ms => exact of_dormant rfl { dormant with }
  | reload => exact absurd rfl notReload

end Verdict

/-! ## Whole runs -/

/-- The page is not reloaded and no pending work that brings the session back completes. -/
def unrevived (client : Client) (input : Input) : Prop :=
  client.sameLife input ∧ client.revivedBy input = false

instance (client : Client) (input : Input) : Decidable (client.unrevived input) :=
  inferInstanceAs (Decidable (client.sameLife input ∧ client.revivedBy input = false))

/-- A page whose session is not shown as under way. -/
structure Faded (client : Client) : Prop where
  phase : Phase client
  chain : Chain client
  notLive : client.signals.sessionState.isLive = false

namespace Faded

variable {client : Client}

/-- An ended session does nothing, a live one what the condition says. -/
theorem verdict
    (faded : Faded client)
    {input : Input}
    (isEnabled : machine.enabled client input)
    (same : client.sameLife input) :
    Verdict (client.revivedBy input) (machine.step client input) := by
  cases terminated : client.vars.terminated with
  | true =>
      have calm := step_calm faded.phase isEnabled same.notReload
      obtain ⟨live, quiet, outEq, -, quietOk, -, noLive⟩ := calm.split
      have outQuiet : (machine.step client input).out = quiet := by
        rw [show (machine.step client input).out = live ++ quiet from outEq,
          noLive terminated, List.nil_append]
      refine .of_dormant (by simp [revivedBy, terminated]) ?_
      refine { state := ?_, out := ?_ }
      · rcases state_of_terminated calm.phase (calm.stays terminated) with state | state <;>
          rw [show (machine.step client input).signals.sessionState = _ from state] <;> rfl
      · intro action member
        rw [outQuiet] at member
        have harmless := quietOk action member
        cases action with
        | setState state =>
            cases state <;> simp_all [Act.resurrects, Act.revives, SessionState.isLive]
        | _ => first | rfl | cases harmless
  | false =>
      have fresh : Dormant { client with out := [], page.oracle := input.oracle } :=
        { state := faded.notLive
          out := by simp }
      have armed : Armed { client with out := [], page.oracle := input.oracle } :=
        faded.chain.armed
      have handled :=
        Verdict.handle fresh terminated armed rfl (show Client.enabled _ input from isEnabled)
          same.notReload
      refine Verdict.congr ?_ handled
      simp only [revivedBy, terminated, Bool.not_false, Bool.true_and]
      rfl

/-- A step that brings nothing back leaves the page as it was shown. -/
theorem step
    (faded : Faded client)
    {input : Input}
    (isEnabled : machine.enabled client input)
    (same : client.sameLife input)
    (unrevived : client.revivedBy input = false) : Faded (machine.step client input) where
  phase := (step_calm faded.phase isEnabled same.notReload).phase
  chain := faded.chain.step isEnabled
  notLive := by
    have verdict := faded.verdict isEnabled same
    rw [unrevived] at verdict
    exact Dormant.state verdict

end Faded

/-- A run of such a page does nothing of a session exactly if no step revives it. -/
theorem run_of_faded
    {client : Client}
    (faded : Faded client)
    {inputs : List Input}
    (legal : machine.Legal sameLife client inputs) :
    ((∀ action ∈ machine.observations Client.out client inputs, action.revives = false) ∧
        (machine.run client inputs).signals.sessionState.isLive = false) ↔
      machine.Legal unrevived client inputs := by
  induction inputs generalizing client with
  | nil =>
      exact iff_of_true ⟨by simp [EventMachine.Machine.observations], faded.notLive⟩ trivial
  | cons input rest inductionHypothesis =>
      obtain ⟨isEnabled, same, legalRest⟩ := legal
      have now := (faded.verdict isEnabled same).iff
      simp only [EventMachine.Machine.observations, EventMachine.Machine.run,
        EventMachine.Machine.Legal, List.mem_append, or_imp, forall_and]
      constructor
      · rintro ⟨⟨quietNow, quietLater⟩, notLive⟩
        have unrevived := now.mp quietNow
        exact
          ⟨isEnabled, ⟨same, unrevived⟩,
            (inductionHypothesis (faded.step isEnabled same unrevived) legalRest).mp
              ⟨quietLater, notLive⟩⟩
      · rintro ⟨-, ⟨-, unrevived⟩, unrevivedRest⟩
        obtain ⟨quietLater, notLive⟩ :=
          (inductionHypothesis (faded.step isEnabled same unrevived) legalRest).mpr
            unrevivedRest
        exact ⟨⟨now.mpr unrevived, quietLater⟩, notLive⟩

/--
After a restore from the back/forward cache the client opens no connection, encrypts
nothing and enters no live state exactly in the runs none of whose steps completes
work that brings the session back.
-/
theorem restored_session_stays_dead_iff
    {before : Client}
    (reachable : machine.Reachable Booted EventMachine.Machine.anyStep before)
    {restore : Input}
    (isEnabled : machine.enabled before restore)
    (restores : restore.event = .pageShow true)
    {inputs : List Input}
    (legal : machine.Legal sameLife (machine.step before restore) inputs) :
    ((∀ action ∈ machine.observations Client.out (machine.step before restore) inputs,
          action.revives = false) ∧
        (machine.run (machine.step before restore)
          inputs).signals.sessionState.isLive = false) ↔
      machine.Legal unrevived (machine.step before restore) inputs := by
  have notReload : restore.event ≠ .reload := by
    rw [restores]
    simp
  have phase := (step_calm (phase_of_reachable reachable) isEnabled notReload).phase
  have chain := (Chain.of_reachable reachable).step isEnabled
  refine run_of_faded ⟨phase, chain, ?_⟩ legal
  change (Client.handle _ restore.event).signals.sessionState.isLive = false
  rw [restores]
  simp only [Client.handle, pageShow, ↓reduceIte, bfcacheGuard]
  split
  · rename_i ended
    rcases ended with idle | terminated
    · rw [idle]
      rfl
    · rw [terminated]
      rfl
  · rfl

/-- A page frozen in ACTIVE whose socket was closed while it was frozen. -/
def frozenPage : Client :=
  machine.run freshPage
    (establish peerPublicKey ++ [plain (.pageHide true), plain .socketClosing])

/-- Restoring a page whose socket is closing does not bring its session back. -/
theorem restored_session_stays_dead_socket_closing :
    (machine.run (machine.step frozenPage (plain (.pageShow true)))
        [plain (.elapse 5000), plain (.socketClosed .clean)]).signals.sessionState.isLive =
      false :=
  ((restored_session_stays_dead_iff
    (EventMachine.Machine.Reachable.run (.start ⟨0, 0, 0, none, id, rfl⟩)
      (by decide +kernel))
    (by decide +kernel) rfl (by decide +kernel)).mpr (by decide +kernel)).2

/-- A stored session that lost its connection and waits for the reconnect timer. -/
def reconnectingPage : Client :=
  machine.run freshPage
    (establish peerPublicKey ++ upgradeAlone 7 ++
      [plain (.socketClosed .abnormal), plain (.pageHide true)])

/-- The reconnect timer of a restored page opens a connection. -/
theorem reconnect_timer_revives_restored_page :
    ¬∀ before restore inputs,
        machine.Reachable Booted EventMachine.Machine.anyStep before →
        machine.enabled before restore →
        restore.event = .pageShow true →
        before.signals.sessionState ≠ .terminated →
        machine.Legal sameLife (machine.step before restore) inputs →
        ∀ action ∈
            machine.observations Client.out (machine.step before restore) inputs,
          action.revives = false := by
  intro claimed
  have quiet :=
    claimed reconnectingPage (plain (.pageShow true))
      [plain (.elapse 60000), plain .reconnectTimer]
      (EventMachine.Machine.Reachable.run (.start ⟨0, 0, 0, none, id, rfl⟩)
        (by decide +kernel))
      (by decide +kernel) rfl (by decide +kernel) (by decide +kernel)
  revert quiet
  decide +kernel

end Client

end Unseen
