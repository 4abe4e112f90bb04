import Unseen.Machine
import Unseen.Session

namespace Unseen

/-!
# What a client does on each event

Each definition is a synchronous segment of the session code: it runs from an
event, a timer or a settled await up to the next await.  A segment that awaits
records what it awaits in the state; the continuation is the definition named
after the function it belongs to.

Consecutive awaits of pure cryptography, with nothing read or written between
them, are one await.
-/

namespace Client

/-! ## Connections -/

/-- `openWith` -/
def openWith (client : Client) (intent : HelloIntent) : Client :=
  { client with
    link.intentTried := intent
    link.connectionGen := client.link.connectionGen + 1
    link.socket :=
      some
        { gen := client.link.connectionGen + 1
          readyState := .connecting
          bufferedAmount := 0 }
    out := client.out ++ [.openConnection (client.link.connectionGen + 1) intent] }

/-- `reopenAsJoiner` -/
def reopenAsJoiner (client : Client) : Client :=
  (client.closeConnection.setState .connecting).openWith .join

/-- `connection.send` on a captured connection; a closed one drops the frame. -/
def sendOn (client : Client) (gen : Nat) (frame : ClientFrame) : Client :=
  match client.link.socket with
  | none => client
  | some socket =>
      if socket.gen = gen ∧ socket.readyState = .opened then
        client.act (.wire gen frame)
      else
        client

/-- `canRetryReconnect` -/
def canRetryReconnect (client : Client) : Bool :=
  if client.signals.sessionMode ≠ .prf then
    false
  else if client.vars.internal.context?.isNone then
    false
  else
    match client.signals.sessionState with
    | .active => true
    | .peerReconnecting => true
    | .reconnecting => true
    | .resuming => true
    | _ => false

/-- `scheduleReconnect` -/
def scheduleReconnect (client : Client) : Client :=
  let wasReconnecting :=
    client.signals.sessionState = .reconnecting ∨ client.signals.sessionState = .resuming
  let episode :=
    if wasReconnecting then
      client
    else
      { client with link.reconnectStartMs := client.page.now, link.reconnectAttempt := 0 }
  match nextReconnectDelayMs episode.link.reconnectAttempt
      (episode.page.now - episode.link.reconnectStartMs) with
  | none => episode.terminate .reconnectExhausted
  | some delay =>
      { episode.setState .reconnecting with
        link.reconnectTimer := some (episode.page.now + delay) }

/-- The callback of the reconnect timer. -/
def reconnectTimerFired (client : Client) : Client :=
  let fired := { client with link.reconnectTimer := none }
  if fired.vars.terminated then
    fired
  else
    let counted := { fired with link.reconnectAttempt := fired.link.reconnectAttempt + 1 }
    match counted.vars.internal with
    | .active active =>
        { counted with
          vars.internal :=
            .resuming { active with nextRecvMode := .firstGapAllowed } }.openWith .resume
    | _ => counted.openWith .resume

/-- The callback of the timer that ends the FATAL_ENDING buffer. -/
def fatalTimerFired (client : Client) : Client :=
  { client with vars.fatalTimer := none }.finalizeTermination

/-- `transitionToActive`; it creates the file machines once. -/
def transitionToActive (client : Client) (active : ActiveContext) : Client :=
  let entered := { client with vars.internal := .active active }.setState .active
  { entered with
    link.reconnectAttempt := 0
    link.reconnectStartMs := 0
    link.reconnectTimer := none
    files := { entered.files with senderCreated := true, receiverCreated := true } }

/-! ## The inbound queue -/

/-- A handler returned: the next queued frame starts in a microtask. -/
def finishHandler (client : Client) : Client :=
  let idle := { client with inbound.handler := none }
  if idle.inbound.queue.isEmpty then
    { idle with inbound.busy := false }
  else
    idle.schedule .inboundNext

/-- The running handler awaits something. -/
def await (client : Client) (handler : Handler) : Client :=
  { client with inbound.handler := some handler }

/-- `enqueueInbound` -/
def enqueueInbound (client : Client) (task : InboundTask) : Client :=
  let queued := { client with inbound.queue := client.inbound.queue ++ [task] }
  if client.inbound.busy then
    queued
  else
    { queued with inbound.busy := true }.schedule .inboundNext

/-! ## Handshake -/

/-- `ephemeralPromise ??= generateLocalHandshake()` -/
def ensureEphemeral (client : Client) : Client × Draw :=
  match client.handshake.ephemeral with
  | some pair => (client, pair)
  | none =>
      let (drawn, pair) := client.draw
      ({ drawn with handshake.ephemeral := some pair }, pair)

/-- `sendLocalHandshake` up to its first await. -/
def sendLocalHandshake (client : Client) : Client :=
  if client.handshake.localHandshakeSent then
    client
  else if client.vars.terminated then
    client.terminate .handshakeUnexpected
  else
    match client.link.socket, client.vars.internal with
    | some socket, .preActive =>
        { client.ensureEphemeral.1 with
          handshake.localHandshakeSent := true
          handshake.handshakeSend := some socket.gen }
    | _, _ => client.terminate .handshakeUnexpected

/-- `sendLocalHandshake` after the public key was wrapped. -/
def handshakeWrapped (client : Client) (ok : Bool) : Client :=
  match client.handshake.handshakeSend, client.handshake.ephemeral with
  | some gen, some pair =>
      let settled := { client with handshake.handshakeSend := none }
      if !ok || settled.vars.terminated then
        settled
      else
        let sent := settled.sendOn gen (.handshake (.wrapped pair))
        if sent.signals.sessionState = .connecting ∨
            sent.signals.sessionState = .waitingForPeer then
          sent.setState .handshaking
        else
          sent
  | _, _ => client

/-- `handleHandshakeFrame` up to its first await. -/
def handleHandshakeFrame (client : Client) (ciphertext : HandshakeCiphertext) : Client :=
  match client.vars.internal with
  | .preActive =>
      let (ready, pair) := client.sendLocalHandshake.ensureEphemeral
      ready.await (.handshake ciphertext pair)
  | _ => (client.terminate .handshakeUnexpected).finishHandler

/-- `handleHandshakeFrame` after the peer's key was unwrapped and used. -/
def handshakeDerived
    (client : Client)
    (ciphertext : HandshakeCiphertext)
    (pair : Draw)
    (ok : Bool) : Client :=
  match unwrapPeerPublicKey ciphertext with
  | none => (client.terminate .handshakeDecryptFailed).finishHandler
  | some peerPublicKeyRaw =>
      match if ok then completeHandshake pair peerPublicKeyRaw else none with
      | none => (client.terminate .handshakeInvariantFailed).finishHandler
      | some sessionKey =>
          if client.vars.terminated then
            client.finishHandler
          else
            let shown := client.act (.onSas (some sessionKey))
            match shown.signals.myRole with
            | none => (shown.terminate .roleMissing).finishHandler
            | some role =>
                ((shown.transitionToActive
                  { role
                    sessionKey := { material := sessionKey, extractable := true }
                    mirror := none
                    sasBytes := some sessionKey
                    counterCommitted := 0
                    counterReserved := 0
                    counterRecv := 0
                    nextRecvMode := .strict }).system .sessionStarted).finishHandler

/-! ## Upgrade and rekey -/

/-- The record `persistWrappedSessionKey` writes. -/
def wrappedRecord
    (active : ActiveContext)
    (wrapped : WrappedKey)
    (modePhase : ModePhase)
    (credentialId : CredentialId) : StoredSession where
  r := encodeRole active.role
  k := wrapped
  s := active.counterReserved
  n := active.counterRecv
  cid := credentialId
  sas := active.sasBytes
  modePhase := some modePhase
  rekeyInProgress := false

/-- `persistWrappedSessionKey` after the key was wrapped, or could not be. -/
def persistWrappedSessionKey
    (client : Client)
    (keyToWrap : CryptoKey)
    (wrapKey : WrapKey)
    (modePhase : ModePhase)
    (credentialId : CredentialId)
    (ok : Bool) : Client × Bool :=
  match if ok then wrapSessionKey keyToWrap wrapKey else none with
  | none => (client.terminate .sessionKeyWrapFailed, false)
  | some wrapped =>
      match client.vars.internal.context? with
      | none => (client.terminate .storageFail, false)
      | some active =>
          let record := wrappedRecord active wrapped modePhase credentialId
          match client.writeRecord record with
          | (refused, false) => (refused.terminate .storageFail, false)
          | (written, true) =>
              let (mirrored, mirror) := written.mirrorStoredSession record
              (mirrored.updateActive fun context =>
                { context with mirror := some mirror }, true)

/-- `cancelActive('session_rekey')` on both file machines. -/
def cancelFilesForRekey (client : Client) : Client :=
  let senderDone :=
    if client.files.senderCreated then
      client.runFiles fun files => files.cancelActiveAsSender .sessionRekey
    else
      client
  if senderDone.files.receiverCreated then
    senderDone.runFiles fun files => files.cancelActiveAsReceiver .sessionRekey
  else
    senderDone

/-- `active.mirror?.setRekeyInProgress()`; false when it throws. -/
def markRekeyInProgress (client : Client) (active : ActiveContext) : Client × Bool :=
  match active.mirror with
  | none => (client, true)
  | some mirror => client.setRekeyInProgress mirror

/-- What follows `startRekeyIfInitiator` in its caller: nothing. -/
def rekeyCallerDone (client : Client) : RekeyOrigin → Client
  | .upgrade => client
  | .handler => client.finishHandler

/-- `startRekeyIfInitiator` up to its first await. -/
def startRekeyIfInitiator (client : Client) (origin : RekeyOrigin) : Client :=
  if client.vars.terminated || client.vars.rekeyInFlight ||
      client.signals.sessionState = .rekeying then
    client.rekeyCallerDone origin
  else
    match client.vars.internal.context? with
    | none => client.rekeyCallerDone origin
    | some active =>
        let begun :=
          ({ client with vars.rekeyInFlight := true }.setState .rekeying).cancelFilesForRekey
        match begun.markRekeyInProgress active with
        | (refused, false) => (refused.terminate .storageFail).rekeyCallerDone origin
        | (marked, true) =>
            if active.role ≠ .initiator then
              marked.rekeyCallerDone origin
            else
              let (drawn, pair) := marked.draw
              match origin with
              | .upgrade =>
                  { drawn with
                    vars.upgrades := drawn.vars.upgrades ++ [.rekeyKeygen pair] }
              | .handler => drawn.await (.rekeyKeygen pair)

/-- `startRekeyIfInitiator` after the key pair was generated. -/
def rekeyKeygenDone
    (client : Client)
    (origin : RekeyOrigin)
    (pair : Draw)
    (ok : Bool) : Client :=
  if !ok then
    (client.terminate .rekeyKeygenFailed).rekeyCallerDone origin
  else
    let pending := { client with vars.pendingRekeyPair := some pair }
    match origin with
    | .upgrade => pending.sendModeFrame .rekeyInit (.publicKey pair) .discard
    | .handler =>
        (pending.sendModeFrame .rekeyInit (.publicKey pair) .handlerDone).await .sending

/-- `commitRekey` from the persisted key on. -/
def completeRekey (client : Client) : Client :=
  (((({ client with vars.rekeyInFlight := false }.setState .active).system
    .sessionHardened).sendModeFrame .rekeyDone emptyPayload .handlerDone).await .sending)

/-- `commitRekey` up to its first await. -/
def commitRekey (client : Client) (newSessionKey : SessionKey) : Client :=
  if client.vars.terminated then
    client.finishHandler
  else
    let keyed :=
      client.updateActive fun context =>
        { context with
          sessionKey := { material := newSessionKey, extractable := false }
          counterCommitted := 0
          counterReserved := 0
          counterRecv := 0 }
    match keyed.vars.internal.context?.bind ActiveContext.mirror, keyed.vars.currentWrapKey,
        keyed.vars.credentialIdForCleanup with
    | some _, some wrapKey, some credentialId =>
        keyed.await (.commitWrap newSessionKey wrapKey credentialId)
    | _, _, _ => keyed.completeRekey

/-- `commitRekey` after the new key was wrapped. -/
def commitWrapped
    (client : Client)
    (newSessionKey : SessionKey)
    (wrapKey : WrapKey)
    (credentialId : CredentialId)
    (ok : Bool) : Client :=
  match client.persistWrappedSessionKey
      { material := newSessionKey, extractable := true } wrapKey .hardened
      credentialId ok with
  | (persisted, true) => persisted.completeRekey
  | (refused, false) => refused.finishHandler

/-- `handleRekeyInit` up to its first await. -/
def handleRekeyInit
    (client : Client)
    (active : ActiveContext)
    (peerPub : PublicKey) : Client :=
  if active.role ≠ .joiner then
    (client.terminate .rekeyInitUnexpectedRole).finishHandler
  else
    let begun :=
      ({ client with vars.rekeyInFlight := true }.setState .rekeying).cancelFilesForRekey
    match begun.markRekeyInProgress active with
    | (refused, false) => (refused.terminate .storageFail).finishHandler
    | (marked, true) =>
        let (drawn, pair) := marked.draw
        drawn.await (.rekeyInit pair peerPub)

/-- Outcome of generating a key pair and deriving the rekeyed session key. -/
inductive RekeyOutcome where
  | ok
  | keygenFailed
  | deriveFailed
  deriving DecidableEq, Repr

/-- `handleRekeyInit` after the new key was derived. -/
def rekeyInitDerived
    (client : Client)
    (pair : Draw)
    (peerPub : PublicKey)
    (outcome : RekeyOutcome) : Client :=
  match outcome with
  | .keygenFailed => (client.terminate .rekeyKeygenFailed).finishHandler
  | .deriveFailed => (client.terminate .rekeyDeriveFailed).finishHandler
  | .ok =>
      match deriveRekeyedSessionKey pair peerPub with
      | none => (client.terminate .rekeyDeriveFailed).finishHandler
      | some newSessionKey =>
          (client.sendModeFrame .rekeyAck (.publicKey pair)
            (.rekeyAck newSessionKey)).await .sending

/-- `handleRekeyAck` up to its first await. -/
def handleRekeyAck
    (client : Client)
    (active : ActiveContext)
    (peerPub : PublicKey) : Client :=
  if active.role ≠ .initiator then
    (client.terminate .rekeyAckUnexpectedRole).finishHandler
  else
    match client.vars.pendingRekeyPair with
    | none => (client.terminate .rekeyAckNoPending).finishHandler
    | some pair => client.await (.rekeyAck pair peerPub)

/-- `handleRekeyAck` after the new key was derived. -/
def rekeyAckDerived
    (client : Client)
    (pair : Draw)
    (peerPub : PublicKey)
    (ok : Bool) : Client :=
  match if ok then deriveRekeyedSessionKey pair peerPub else none with
  | none => (client.terminate .rekeyDeriveFailed).finishHandler
  | some newSessionKey =>
      { client with vars.pendingRekeyPair := none }.commitRekey newSessionKey

/-- `handleModeUpgraded` -/
def handleModeUpgraded (client : Client) : Client :=
  let upgraded := { client with signals.peerMode := .prf }
  if upgraded.signals.sessionMode = .prf then
    upgraded.startRekeyIfInitiator .handler
  else
    (upgraded.system .modeUpgradeInvited).finishHandler

/-- `upgradeToPrf` up to the passkey dialog. -/
def upgradeToPrf (client : Client) : Client :=
  if client.vars.terminated || client.signals.sessionMode != .ram ||
      client.signals.sessionState != .active || !client.vars.internal.isActive then
    client
  else
    { client.setState .upgradingLocal with
      vars.upgrades := client.vars.upgrades ++ [.registering] }

/-- `RegisterOutcome` -/
inductive RegisterOutcome where
  | ok (credentialId : CredentialId)
  | cancelled
  | failed
  deriving DecidableEq, Repr

/-- `upgradeToPrf` after the passkey dialog. -/
def upgradeRegistered
    (client : Client)
    (index : Nat)
    (outcome : RegisterOutcome) : Client :=
  let settled := { client with vars.upgrades := client.vars.upgrades.eraseIdx index }
  if client.vars.terminated then
    match outcome with
    | .ok credentialId => settled.act (.signalCredentialUnknown credentialId)
    | _ => settled
  else
    match outcome with
    | .cancelled => (settled.setState .active).system .modeUpgradeDismissedByUser
    | .failed => (settled.setState .active).system .modeUpgradeFailed
    | .ok credentialId =>
        match client.vars.internal.context? with
        | none => settled
        | some active =>
            { client with
              vars.credentialIdForCleanup := some credentialId
              vars.currentWrapKey := some (deriveWrapKey credentialId)
              vars.upgrades :=
                client.vars.upgrades.set index
                  (.wrapping active.sessionKey (deriveWrapKey credentialId)
                    credentialId) }

/-- `upgradeToPrf` after the session key was wrapped. -/
def upgradeWrapped
    (client : Client)
    (index : Nat)
    (sessionKey : CryptoKey)
    (wrapKey : WrapKey)
    (credentialId : CredentialId)
    (ok : Bool) : Client :=
  match { client with
      vars.upgrades := client.vars.upgrades.eraseIdx index }.persistWrappedSessionKey
        sessionKey wrapKey .soft credentialId ok with
  | (refused, false) => refused
  | (persisted, true) =>
      (({ persisted with signals.sessionMode := .prf }.setState .active).system
        .modeUpgradedLocally).sendModeFrame .modeUpgraded emptyPayload .modeUpgraded

/-! ## Relay frames -/

/-- `handleRelay` up to its first await. -/
def handleRelayWith
    (client : Client)
    (active : ActiveContext)
    (frame : RelayFrame) : Client :=
  let taken := client.updateActive fun context => { context with nextRecvMode := .strict }
  -- without a file receiver there is nothing to call: the chunk is skipped
  if frame.kind = .chunk ∧ taken.files.receiverCreated = false then
    taken.finishHandler
  else
    taken.await
      (.decrypting frame active.nextRecvMode active.receiveState active.mirror)

/-- `handleRelay` -/
def handleRelay (client : Client) (frame : RelayFrame) : Client :=
  match client.vars.internal with
  | .preActive => (client.terminate .relayBeforeActive).finishHandler
  | .resuming active => client.handleRelayWith active frame
  | .active active => client.handleRelayWith active frame

/-- The received envelope, once its frame was accepted. -/
def handleEnvelope (client : Client) (envelope : PlaintextEnvelope) : Client :=
  match envelope with
  | .msg body _ => (client.act (.chatMessage false body)).finishHandler
  | .resume id =>
      if client.signals.sessionState ≠ .peerReconnecting then
        (client.terminate .resumeUnexpected).finishHandler
      else
        (client.sendEncoded (.resumeAck id) .resumeAck).await .sending
  | .resumeAck id =>
      match client.vars.internal with
      | .resuming active =>
          if client.vars.pendingResumeId ≠ some id then
            (client.terminate .resumeAckIdMismatch).finishHandler
          else
            ({ client with
                vars.pendingResumeId := none }.transitionToActive active).finishHandler
      | _ => (client.terminate .resumeAckUnexpected).finishHandler
  | other =>
      (client.runFiles fun files =>
        files.dispatchFileEnvelope client.fileEnv other).finishHandler

/-- The status of a refused frame. -/
def refusalOf : RelayFrameResult → FrameRefusal
  | .invalidDirection => .invalidDirection
  | .invalidReserved => .invalidReserved
  | .counterGap => .counterGap
  | _ => .decryptFailed

/-- The status of a refused message. -/
def messageRefusalOf : ReceiveResult → FrameRefusal
  | .invalidDirection => .invalidDirection
  | .invalidReserved => .invalidReserved
  | .counterGap => .counterGap
  | .decryptFailed => .decryptFailed
  | _ => .malformedEnvelope

/-- `handleRelayActive` after decryption. -/
def messageDecrypted
    (client : Client)
    (frame : RelayFrame)
    (mode : CounterMode)
    (state : ReceiveState)
    (mirror : Option MirrorId) : Client :=
  match decryptIncoming (mirror.map setCounterRecv) client state frame.nonce
      frame.ciphertext mode with
  | (stored, recvState, result) =>
      if stored.vars.terminated then
        stored.finishHandler
      else
        match result with
        | .ok envelope counter =>
            ((stored.updateActive fun context =>
                { context with counterRecv := recvState.counterRecv }).act
              (.accept state.sessionKey counter .msg (.envelope envelope))).handleEnvelope
                envelope
        | refused =>
            (stored.terminate (.relay (messageRefusalOf refused))).finishHandler

/-- `dispatchChunkFrame` after decryption; a throw terminates in `handleRelay`. -/
def chunkDecrypted
    (client : Client)
    (frame : RelayFrame)
    (mode : CounterMode)
    (state : ReceiveState) : Client :=
  match decryptChunkFrame state frame.nonce frame.ciphertext mode with
  | (recvState, .ok plaintext counter) =>
      let synced :=
        (client.updateActive fun context =>
          { context with counterRecv := recvState.counterRecv }).act
            (.accept state.sessionKey counter .chunk plaintext)
      match plaintext with
      | .bytes content =>
          match Files.parseChunkPlaintext content with
          | none => (synced.terminate .relayMalformedChunk).finishHandler
          | some parsed =>
              (synced.runFiles fun files =>
                files.receiveChunk synced.fileEnv parsed).finishHandler
      | _ => (synced.terminate .relayMalformedChunk).finishHandler
  | (_, refused) => (client.terminate (.relay (refusalOf refused))).finishHandler

/-- The payload of an accepted mode frame, by kind. -/
def handleModePayload
    (client : Client)
    (kind : RelayKind)
    (payload : Plaintext) : Client :=
  match client.vars.internal.context? with
  | none => client.finishHandler
  | some active =>
      match kind with
      | .modeUpgraded =>
          if decodeModeUpgradedPayload payload then
            client.handleModeUpgraded
          else
            (client.terminate .modeUpgradedInvalidPayload).finishHandler
      | .rekeyInit =>
          match decodeRekeyPubkeyPayload payload with
          | some peerPub => client.handleRekeyInit active peerPub
          | none => (client.terminate .rekeyInitInvalidPayload).finishHandler
      | .rekeyAck =>
          match decodeRekeyPubkeyPayload payload with
          | some peerPub => client.handleRekeyAck active peerPub
          | none => (client.terminate .rekeyAckInvalidPayload).finishHandler
      | _ =>
          if decodeRekeyDonePayload payload then
            client.finishHandler
          else
            (client.terminate .rekeyDoneInvalidPayload).finishHandler

/-- `handleRelay` after `decryptModeFrame`. -/
def modeFrameDecrypted
    (client : Client)
    (frame : RelayFrame)
    (mode : CounterMode)
    (state : ReceiveState) : Client :=
  match validateAndDecryptFrame state frame.kind frame.nonce frame.ciphertext mode with
  | .ok payload counter =>
      let accepted :=
        (client.updateActive fun context => { context with counterRecv := counter }).act
          (.accept state.sessionKey counter frame.kind payload)
      if accepted.vars.terminated then
        accepted.finishHandler
      else
        accepted.handleModePayload frame.kind payload
  | refused => (client.terminate (.modeFrame (refusalOf refused))).finishHandler

/-- The frame handler after decryption. -/
def frameDecrypted
    (client : Client)
    (frame : RelayFrame)
    (mode : CounterMode)
    (state : ReceiveState)
    (mirror : Option MirrorId) : Client :=
  match frame.kind with
  | .msg => client.messageDecrypted frame mode state mirror
  | .chunk => client.chunkDecrypted frame mode state
  | _ => client.modeFrameDecrypted frame mode state

/-- `runInbound` -/
def runInbound (client : Client) : Client :=
  match client.inbound.queue with
  | [] => { client with inbound.busy := false }
  | task :: rest =>
      let taken := { client with inbound.queue := rest }
      if taken.vars.terminated then
        taken.finishHandler
      else
        match task with
        | .handshake ciphertext => taken.handleHandshakeFrame ciphertext
        | .relay frame => taken.handleRelay frame

/-! ## The outbound serializer -/

/-- A send settled: the next one starts before the caller is resumed. -/
def settleSend (client : Client) (continuation : SendCont) (sent : Bool) : Client :=
  let next :=
    if client.outbound.queue.isEmpty then
      { client with outbound.busy := false }
    else
      client.schedule .outboundNext
  next.schedule (.settle continuation sent)

/-- `runRelaySendTask` up to the encryption. -/
def runRelaySendTask (client : Client) (task : SendTask) : Client :=
  if client.vars.terminated then
    client.settleSend task.continuation false
  else
    match client.link.socket, client.vars.internal.context? with
    | some socket, some active =>
        if canAttemptSend socket.readyState socket.bufferedAmount ≠ .ok then
          client.settleSend task.continuation false
        else
          match client.allocateSendCounter active task.kind with
          | (refused, none) =>
              (refused.terminate task.encryptFailReason).settleSend task.continuation
                false
          | (allocated, some counter) =>
              match encryptRelayFrame active.role active.sessionKey.material task.kind
                  counter task.plaintext with
              | none =>
                  (allocated.terminate task.encryptFailReason).settleSend
                    task.continuation false
              | some frame =>
                  { allocated.act
                      (.encrypt active.sessionKey.material counter frame) with
                    outbound.sending := some { task, frame, gen := socket.gen } }
    | _, _ => client.settleSend task.continuation false

/-- The serializer starts the first queued send. -/
def runOutbound (client : Client) : Client :=
  match client.outbound.queue with
  | [] => { client with outbound.busy := false }
  | task :: rest => { client with outbound.queue := rest }.runRelaySendTask task

/-- How an encrypting send ends. -/
inductive SendOutcome where
  | sent
  | encryptFailed
  | sendThrew
  deriving DecidableEq, Repr

/-- `runRelaySendTask` after the encryption. -/
def sendSettled (client : Client) (flight : InFlight) (outcome : SendOutcome) : Client :=
  let settled := { client with outbound.sending := none }
  match outcome with
  | .sent =>
      (settled.sendOn flight.gen (.relay flight.frame)).settleSend
        flight.task.continuation true
  | .encryptFailed =>
      (settled.terminate flight.task.encryptFailReason).settleSend
        flight.task.continuation false
  | .sendThrew =>
      (settled.terminate .sendFailed).settleSend flight.task.continuation false

/-- The awaiting caller of a settled send. -/
def resumeSend (client : Client) (continuation : SendCont) (sent : Bool) : Client :=
  match continuation with
  | .discard => client
  | .text body => if sent then client.act (.chatMessage true body) else client
  | .resumeAck =>
      if client.vars.terminated then
        client.finishHandler
      else
        ((client.setState .active).system .peerReconnected).finishHandler
  | .modeUpgraded =>
      if client.signals.peerMode = .prf then client.startRekeyIfInitiator .upgrade else client
  | .rekeyAck newSessionKey =>
      if sent then client.commitRekey newSessionKey else client.finishHandler
  | .handlerDone => client.finishHandler
  | .file fileContinuation =>
      client.runFiles fun files => files.resume client.fileEnv fileContinuation sent

/-- Run the first microtask. -/
def runJob (client : Client) : Client :=
  match client.jobs with
  | [] => client
  | job :: rest =>
      let taken := { client with jobs := rest }
      match job with
      | .outboundNext => taken.runOutbound
      | .inboundNext => taken.runInbound
      | .settle continuation sent => taken.resumeSend continuation sent

/-! ## Server frames and the socket -/

/-- `sendResumeProbe` -/
def sendResumeProbe (client : Client) : Client :=
  let (drawn, id) := client.draw
  { drawn with vars.pendingResumeId := some id }.sendEncoded (.resume id) .discard

/-- `onPeerDisconnected` -/
def onPeerDisconnected (client : Client) : Client :=
  if !client.vars.internal.isActive then
    client.terminate .peerGone
  else if client.signals.peerMode ≠ .prf then
    client.terminate .peerGone
  else
    ((client.setState .peerReconnecting).updateActive fun context =>
      { context with nextRecvMode := .firstGapAllowed }).system .peerDisconnected

/-- `onPeerJoined` -/
def onPeerJoined (client : Client) : Client :=
  let removed := client.act (.removeSystemMessage .waitingForPeer)
  match removed.vars.internal with
  | .preActive => removed.sendLocalHandshake
  | _ =>
      if removed.signals.sessionState = .peerReconnecting then
        removed.updateActive fun context =>
          { context with nextRecvMode := .firstGapAllowed }
      else
        removed

/-- `handleServerFrame` -/
def handleServerFrame (client : Client) (frame : ServerFrame) : Client :=
  if client.vars.terminated then
    client
  else
    match frame with
    | .ack role =>
        let named := { client with signals.myRole := some role }
        if named.vars.internal.isResuming then
          named.sendResumeProbe
        else if role = .initiator then
          (named.setState .waitingForPeer).system .waitingForPeer
        else
          named.sendLocalHandshake
    | .peerJoined => client.onPeerJoined
    | .handshake ciphertext => client.enqueueInbound (.handshake ciphertext)
    | .relay relayFrame => client.enqueueInbound (.relay relayFrame)
    | .peerDisconnected => client.onPeerDisconnected
    | .peerLeft => client.terminate .peerGone
    | .error code =>
        if code = .roomAlreadyExists ∧ client.link.intentTried = .create then
          client.reopenAsJoiner
        else
          client.terminate (.serverError code)

/-- The socket opened: say what is wanted of the room. -/
def socketOpened (client : Client) : Client :=
  match client.link.socket with
  | none => client
  | some socket =>
      let opened := { client with link.socket := some { socket with readyState := .opened } }
      if opened.vars.terminated then
        opened
      else
        opened.sendOn socket.gen (.hello opened.link.intentTried)

/-- The close listeners of the file machines. -/
def tellFilesClosed (client : Client) : Client :=
  let senderTold :=
    if client.files.senderCreated then
      client.runFiles Files.senderOnWsClose
    else
      client
  if senderTold.files.receiverCreated then
    senderTold.runFiles Files.receiverOnWsClose
  else
    senderTold

/-- `onClose` -/
def socketClosed (client : Client) (kind : CloseKind) : Client :=
  match client.link.socket with
  | none => client
  | some socket =>
      let closed := { client with link.socket := some { socket with readyState := .closed } }
      if closed.vars.terminated || closed.page.pageHiding then
        closed
      else
        let told := closed.tellFilesClosed
        if told.canRetryReconnect then
          told.scheduleReconnect
        else
          told.terminate (.wsClose kind)

/-- `onProtocolError` -/
def onProtocolError (client : Client) (kind : ProtocolError) : Client :=
  if client.page.pageHiding then client else client.terminate (.protocol kind)

/-- Change the socket's state without an event of the page. -/
def updateSocket (client : Client) (change : Socket → Socket) : Client :=
  { client with link.socket := client.link.socket.map change }

/-! ## Start-up, resume and page lifecycle -/

/-- `startSession` up to the claim of the room, on a page that just loaded. -/
def boot
    (device nextDraw now : Nat)
    (storage : Option StoredSession)
    (normalizeNfc : Text → Text) : Client :=
  let marked :=
    match storage with
    | some record => record.rekeyInProgress
    | none => false
  let stored := if marked then none else storage
  { page :=
      { device
        nextDraw
        now
        pageHiding := false
        oracle := .allOk }
    store :=
      { storage := stored
        mirrors := [] }
    signals :=
      { sessionState := if stored.isNone then .connecting else .resuming
        sessionMode := if stored.isNone then .ram else .prf
        peerMode :=
          if stored.bind StoredSession.modePhase = some ModePhase.hardened then .prf else .ram
        myRole := none }
    vars :=
      { stored
        claim := .requested
        returned := false
        resumeAttempt := false
        internal := .preActive
        credentialIdForCleanup := none
        currentWrapKey := none
        terminated := false
        fatalTimer := none
        pendingResumeId := none
        rekeyInFlight := false
        pendingRekeyPair := none
        upgrades := [] }
    link :=
      { intentTried := if stored.isNone then .create else .resume
        connectionGen := 0
        socket := none
        reconnectTimer := none
        reconnectAttempt := 0
        reconnectStartMs := 0 }
    handshake :=
      { ephemeral := none
        localHandshakeSent := false
        handshakeSend := none }
    inbound := { queue := [], handler := none, busy := false }
    outbound := { queue := [], sending := none, busy := false }
    jobs := []
    files := Files.initial normalizeNfc
    out :=
      (if marked then [.clearRecord] else []) ++
        [.clearMessages, .setState (if stored.isNone then .connecting else .resuming)] }

/-- The page is reloaded: only the stored record survives, and its clock starts anew. -/
def reload (client : Client) : Client :=
  boot client.page.device client.page.nextDraw 0 client.store.storage
    client.files.normalizeNfc

/-- `startSession` after the claim of the room was decided. -/
def claimDecided (client : Client) (granted : Bool) : Client :=
  if !granted then
    { client.terminate .duplicateTab with vars.returned := true }
  else
    let held := { client with vars.claim := .held }
    match held.vars.stored with
    | some _ => { held with vars.resumeAttempt := true }
    | none => { held.openWith .create with vars.returned := true }

/-- Outcome of the passkey assertion of a resume. -/
inductive PasskeyResume where
  | ok
  | getRejected
  | noCredential
  | prfMissing
  deriving DecidableEq, Repr

/-- `attemptResume` from the unwrapped session key on. -/
def resumeWith
    (client : Client)
    (storedRecord : StoredSession)
    (resumedKey : CryptoKey) : Client :=
  let restored :=
    ({ client with
        vars.currentWrapKey := some (deriveWrapKey storedRecord.cid)
        signals.myRole := some (decodeRole storedRecord.r)
        vars.credentialIdForCleanup := some storedRecord.cid }.act
      (.onSas storedRecord.sas)).mirrorStoredSession storedRecord
  { restored.1 with
    vars.internal :=
      .resuming
        { role := decodeRole storedRecord.r
          sessionKey := resumedKey
          mirror := some restored.2
          sasBytes := storedRecord.sas
          counterCommitted := storedRecord.s
          counterReserved := storedRecord.s
          counterRecv := storedRecord.n
          nextRecvMode := .firstGapAllowed } }.openWith .resume

/-- `attemptResume` after `resumeSessionKey` settled. -/
def resumeDecided (client : Client) (outcome : PasskeyResume) : Client :=
  match client.vars.stored with
  | none => client
  | some storedRecord =>
      let settled := { client with vars.resumeAttempt := false, vars.returned := true }
      match outcome with
      | .getRejected =>
          if settled.vars.terminated then
            settled
          else
            settled.setState .resumeLocked
      | .noCredential => settled.terminate .passkeyResumeNoCredential
      | .prfMissing => settled.terminate .passkeyResumePrfMissing
      | .ok =>
          match unwrapSessionKey storedRecord.k (deriveWrapKey storedRecord.cid)
              (resumeKeyExtractable storedRecord.modePhase) with
          | none => settled.terminate .passkeyResumeUnwrapFailed
          | some resumedKey =>
              if settled.vars.terminated then
                settled.act (.signalCredentialUnknown storedRecord.cid)
              else
                settled.resumeWith storedRecord resumedKey

/-- `retryResume` -/
def retryResume (client : Client) : Client :=
  if client.vars.terminated || client.signals.sessionState != .resumeLocked ||
      client.vars.stored.isNone then
    client
  else
    { client.setState .resuming with vars.resumeAttempt := true }

/-- `sendFromActive` -/
def send (client : Client) (body t : Text) : Client :=
  if client.vars.internal.isActive then
    client.sendEncoded (.msg body t) (.text body)
  else
    client.terminate .sendBeforeActive

/-- The visibility handler, when the page becomes visible. -/
def becameVisible (client : Client) : Client :=
  if client.vars.terminated then
    client
  else if client.signals.sessionState ≠ .active ∧
      client.signals.sessionState ≠ .peerReconnecting then
    client
  else
    match client.link.socket with
    | none => client
    | some socket =>
        if socket.readyState = .opened then client
        else client.terminate .wsDeadOnVisibilityWake

/-- The page-hide listeners of the file machines. -/
def runPageHideListeners (client : Client) : Client :=
  let senderDone :=
    if client.files.senderCreated then
      client.runFiles fun files => files.senderPageHide client.fileEnv
    else
      client
  if senderDone.files.receiverCreated then
    senderDone.runFiles Files.receiverPageHide
  else
    senderDone

/-- `markHiding` -/
def markHiding (client : Client) : Client :=
  { client with page.pageHiding := true }.runPageHideListeners

/-- The page is being hidden; a session that ended no longer listens. -/
def pageHide (client : Client) (persisted : Bool) : Client :=
  let hidden := client.markHiding
  if hidden.vars.terminated || persisted then hidden else hidden.closeConnection

/-- `installBFCacheGuard` on a restored page. -/
def bfcacheGuard (client : Client) : Client :=
  if client.signals.sessionState = .idle ∨ client.signals.sessionState = .terminated then
    client
  else
    (client.act .clearMessages).setState .terminated

/-- The page is shown. -/
def pageShow (client : Client) (persisted : Bool) : Client :=
  let shown := { client with page.pageHiding := false }
  if persisted then shown.bfcacheGuard else shown

/-- `cancelTransfer` -/
def cancelTransfer (client : Client) : Client :=
  let senderDone :=
    if client.files.senderCreated then
      client.runFiles fun files => files.cancelActiveAsSender .userAborted
    else
      client
  if senderDone.files.receiverCreated then
    senderDone.runFiles fun files => files.cancelActiveAsReceiver .userAborted
  else
    senderDone

/-! ## Events -/

/-- What can happen to a client. -/
inductive Event where
  | job
  | claimDecided (granted : Bool)
  | resumeDecided (outcome : PasskeyResume)
  | send (body t : Text)
  | sendFile (file : LocalFile) (tid : Text)
  | cancelTransfer
  | acceptFileOffer
  | declineFileOffer
  | upgradeToPrf
  | retryResume
  | terminate (reason : TerminateReason)
  | socketOpened
  | socketFrame (frame : ServerFrame)
  | socketClosing
  | socketClosed (kind : CloseKind)
  | socketBuffered (amount : Nat)
  | protocolError (kind : ProtocolError)
  | handshakeWrapped (ok : Bool)
  | handshakeDerived (ok : Bool)
  | decrypted
  | upgradeRegistered (index : Nat) (outcome : RegisterOutcome)
  | upgradeWrapped (index : Nat) (ok : Bool)
  | upgradeKeygen (index : Nat) (ok : Bool)
  | rekeyKeygen (ok : Bool)
  | rekeyInitDerived (outcome : RekeyOutcome)
  | rekeyAckDerived (ok : Bool)
  | commitWrapped (ok : Bool)
  | sendSettled (outcome : SendOutcome)
  | reconnectTimer
  | fatalTimer
  | file (event : Files.Event)
  | visible
  | beforeUnload
  | pageHide (persisted : Bool)
  | pageShow (persisted : Bool)
  | elapse (ms : Nat)
  | reload

/-- An event together with the outcomes of the browser calls it leads to. -/
structure Input where
  event : Event
  oracle : Oracle

/-- The socket, if there is one, is in one of the given states. -/
def socketIn (client : Client) (states : List ReadyState) : Bool :=
  match client.link.socket with
  | some socket => states.contains socket.readyState
  | none => false

/-- A timer that is armed and due. -/
def isDue (client : Client) (timer : Option Nat) : Bool :=
  match timer with
  | some due => due ≤ client.page.now
  | none => false

/-- The running handler awaits what the given stage awaits. -/
def handlerAt (client : Client) (stage : HandlerStage) : Bool :=
  client.inbound.handler.map Handler.stage == some stage

/-- The upgrade at an index awaits what the given stage awaits. -/
def upgradeAt (client : Client) (index : Nat) (stage : UpgradeStage) : Bool :=
  (client.vars.upgrades[index]?).map Upgrade.stage == some stage

/-- The events that can occur; nothing is handled before all microtasks ran. -/
def canOccur (client : Client) (event : Event) : Bool :=
  match event with
  | .job => !client.jobs.isEmpty
  | event =>
      client.jobs.isEmpty &&
        match event with
        | .claimDecided _ => client.vars.claim == .requested
        | .resumeDecided _ => client.vars.resumeAttempt
        | .send _ _ => client.vars.returned
        | .sendFile _ _ => client.vars.returned
        | .cancelTransfer => client.vars.returned
        | .acceptFileOffer => client.vars.returned
        | .declineFileOffer => client.vars.returned
        | .upgradeToPrf => client.vars.returned
        | .retryResume => client.vars.returned
        | .terminate _ => client.vars.returned
        | .socketOpened => client.socketIn [.connecting]
        | .socketFrame _ => client.socketIn [.opened]
        | .socketClosing => client.socketIn [.connecting, .opened]
        | .socketClosed _ => client.socketIn [.connecting, .opened, .closing]
        | .socketBuffered _ => client.socketIn [.opened]
        | .protocolError _ => client.socketIn [.opened]
        | .handshakeWrapped _ => client.handshake.handshakeSend.isSome
        | .handshakeDerived _ => client.handlerAt .handshake
        | .decrypted => client.handlerAt .decrypting
        | .upgradeRegistered index _ => client.upgradeAt index .registering
        | .upgradeWrapped index _ => client.upgradeAt index .wrapping
        | .upgradeKeygen index _ => client.upgradeAt index .rekeyKeygen
        | .rekeyKeygen _ => client.handlerAt .rekeyKeygen
        | .rekeyInitDerived _ => client.handlerAt .rekeyInit
        | .rekeyAckDerived _ => client.handlerAt .rekeyAck
        | .commitWrapped _ => client.handlerAt .commitWrap
        | .sendSettled _ => client.outbound.sending.isSome
        | .reconnectTimer => client.isDue client.link.reconnectTimer
        | .fatalTimer => client.isDue client.vars.fatalTimer
        | _ => true

/-- The event of an input can occur. -/
def enabled (client : Client) (input : Input) : Prop :=
  client.canOccur input.event = true

instance (client : Client) (input : Input) : Decidable (client.enabled input) :=
  inferInstanceAs (Decidable (client.canOccur input.event = true))

/-- Handle one event. -/
def handle (client : Client) (event : Event) : Client :=
  match event with
  | .job => client.runJob
  | .claimDecided granted => client.claimDecided granted
  | .resumeDecided outcome => client.resumeDecided outcome
  | .send body t => client.send body t
  | .sendFile file tid =>
      if client.files.senderCreated then
        client.runFiles fun files => files.startTransfer client.fileEnv file tid
      else
        client
  | .cancelTransfer => client.cancelTransfer
  | .acceptFileOffer =>
      if client.files.receiverCreated then
        client.runFiles fun files => files.acceptOffer client.fileEnv
      else
        client
  | .declineFileOffer =>
      if client.files.receiverCreated then
        client.runFiles Files.declineOffer
      else
        client
  | .upgradeToPrf => client.upgradeToPrf
  | .retryResume => client.retryResume
  | .terminate reason => client.terminate reason
  | .socketOpened => client.socketOpened
  | .socketFrame frame => client.handleServerFrame frame
  | .socketClosing =>
      client.updateSocket fun socket => { socket with readyState := .closing }
  | .socketClosed kind => client.socketClosed kind
  | .socketBuffered amount =>
      client.updateSocket fun socket => { socket with bufferedAmount := amount }
  | .protocolError kind => client.onProtocolError kind
  | .handshakeWrapped ok => client.handshakeWrapped ok
  | .handshakeDerived ok =>
      match client.inbound.handler with
      | some (.handshake ciphertext pair) => client.handshakeDerived ciphertext pair ok
      | _ => client
  | .decrypted =>
      match client.inbound.handler with
      | some (.decrypting frame mode state mirror) =>
          client.frameDecrypted frame mode state mirror
      | _ => client
  | .upgradeRegistered index outcome => client.upgradeRegistered index outcome
  | .upgradeWrapped index ok =>
      match client.vars.upgrades[index]? with
      | some (.wrapping sessionKey wrapKey credentialId) =>
          client.upgradeWrapped index sessionKey wrapKey credentialId ok
      | _ => client
  | .upgradeKeygen index ok =>
      match client.vars.upgrades[index]? with
      | some (.rekeyKeygen pair) =>
          { client with
            vars.upgrades := client.vars.upgrades.eraseIdx index }.rekeyKeygenDone
              .upgrade pair ok
      | _ => client
  | .rekeyKeygen ok =>
      match client.inbound.handler with
      | some (.rekeyKeygen pair) => client.rekeyKeygenDone .handler pair ok
      | _ => client
  | .rekeyInitDerived outcome =>
      match client.inbound.handler with
      | some (.rekeyInit pair peerPub) => client.rekeyInitDerived pair peerPub outcome
      | _ => client
  | .rekeyAckDerived ok =>
      match client.inbound.handler with
      | some (.rekeyAck pair peerPub) => client.rekeyAckDerived pair peerPub ok
      | _ => client
  | .commitWrapped ok =>
      match client.inbound.handler with
      | some (.commitWrap newSessionKey wrapKey credentialId) =>
          client.commitWrapped newSessionKey wrapKey credentialId ok
      | _ => client
  | .sendSettled outcome =>
      match client.outbound.sending with
      | some flight => client.sendSettled flight outcome
      | none => client
  | .reconnectTimer => client.reconnectTimerFired
  | .fatalTimer => client.fatalTimerFired
  | .file event => client.runFiles fun files => files.handle client.fileEnv event
  | .visible => client.becameVisible
  | .beforeUnload => client.markHiding
  | .pageHide persisted => client.pageHide persisted
  | .pageShow persisted => client.pageShow persisted
  | .elapse ms => { client with page.now := client.page.now + ms }
  | .reload => client.reload

/-- One step: the actions of the step before are forgotten. -/
def step (client : Client) (input : Input) : Client :=
  { client with out := [], page.oracle := input.oracle }.handle input.event

/-- The client as an event machine. -/
def machine : EventMachine.Machine Client Input where
  enabled := enabled
  step := step

instance (client : Client) (input : Input) :
    Decidable (machine.enabled client input) :=
  inferInstanceAs (Decidable (client.enabled input))

/-- A page that just loaded, with any stored record. -/
def Booted (client : Client) : Prop :=
  ∃ device nextDraw now storage normalizeNfc,
    client = boot device nextDraw now storage normalizeNfc

/-! ## Scenarios -/

/-- An event during which every browser call succeeds. -/
def plain (event : Event) : Input where
  event := event
  oracle := .allOk

/-- A page of device 0 that was opened for a new room. -/
def freshPage : Client :=
  boot 0 0 0 none id

/-- The initiator's page from its load to ACTIVE, with the peer's public key. -/
def establish (peerPublicKey : PublicKey) : List Input :=
  [ plain (.claimDecided true),
    plain .socketOpened,
    plain (.socketFrame (.ack .initiator)),
    plain (.socketFrame .peerJoined),
    plain (.handshakeWrapped true),
    plain (.socketFrame (.handshake (.wrapped peerPublicKey))),
    plain .job,
    plain (.handshakeDerived true) ]

/-- The first public key of device 1. -/
def peerPublicKey : PublicKey where
  device := 1
  serial := 0

/-- The session key of `freshPage` and the peer's first public key. -/
def establishedKey : SessionKey :=
  .handshake { device := 0, serial := 0 } peerPublicKey

/-- Registering a passkey and wrapping the session key, up to the notice. -/
def upgradeAlone (credentialId : CredentialId) : List Input :=
  [ plain .upgradeToPrf,
    plain (.upgradeRegistered 0 (.ok credentialId)),
    plain (.upgradeWrapped 0 true),
    plain .job,
    plain (.sendSettled .sent),
    plain .job ]

/-- The page is reloaded and resumes its stored session, up to the resume probe. -/
def reloadAndProbe : List Input :=
  [ plain .reload,
    plain (.claimDecided true),
    plain (.resumeDecided .ok),
    plain .socketOpened,
    plain (.socketFrame (.ack .initiator)),
    plain .job,
    plain (.sendSettled .sent),
    plain .job ]

end Client

end Unseen
