import Unseen.Receive
import Unseen.SessionStore
import Unseen.FileTransfer

namespace Unseen

/-!
# The state of one client

A client is one page of the chat application: the variables that
`startSession` closes over, the page signals it writes, the stored record and
the work it has pending.  Everything asynchronous is explicit: a handler that
awaits something, a passkey dialog, a queued or encrypting send and an armed
timer are parts of the state, and so are the microtasks that have to run before
the next event is handled.

This module holds the state and the small operations on it that the handlers
of the session are composed of.
-/

/-! ## Signals and reasons -/

/-- `sessionState` -/
inductive SessionState where
  | idle
  | connecting
  | resuming
  | resumeLocked
  | waitingForPeer
  | handshaking
  | active
  | upgradingLocal
  | rekeying
  | peerReconnecting
  | reconnecting
  | fatalEnding
  | terminated
  deriving DecidableEq, Repr

/-- Whether a party keeps its session key in memory only or wrapped by a passkey. -/
inductive SessionMode where
  | ram
  | prf
  deriving DecidableEq, Repr

/-- How a connection ended. -/
inductive CloseKind where
  | clean
  | abnormal
  | error
  deriving DecidableEq, Repr

/-- What made an incoming message unusable. -/
inductive ProtocolError where
  | invalidWireTypeText
  | invalidWireTypeNotArraybuffer
  | invalidFrame
  deriving DecidableEq, Repr

/-- Why a received frame was refused. -/
inductive FrameRefusal where
  | invalidDirection
  | invalidReserved
  | counterGap
  | decryptFailed
  | malformedEnvelope
  deriving DecidableEq, Repr

/-- The argument of `terminate`. -/
inductive TerminateReason where
  | userPanic
  | duplicateTab
  | viewDisconnected
  | userEndedResume
  | reconnectExhausted
  | wsDeadOnVisibilityWake
  | sendBeforeActive
  | handshakeUnexpected
  | handshakeDecryptFailed
  | handshakeInvariantFailed
  | roleMissing
  | relay (refusal : FrameRefusal)
  | relayMalformedChunk
  | relayBeforeActive
  | modeFrame (refusal : FrameRefusal)
  | resumeUnexpected
  | resumeAckUnexpected
  | resumeAckIdMismatch
  | modeUpgradedInvalidPayload
  | rekeyInitInvalidPayload
  | rekeyAckInvalidPayload
  | rekeyDoneInvalidPayload
  | peerGone
  | sessionKeyWrapFailed
  | storageFail
  | rekeyKeygenFailed
  | rekeyInitUnexpectedRole
  | rekeyDeriveFailed
  | rekeyAckUnexpectedRole
  | rekeyAckNoPending
  | encryptFailed
  | chunkEncryptFailed
  | modeFrameEncryptFailed
  | sendFailed
  | serverError (code : ErrorCode)
  | wsClose (kind : CloseKind)
  | protocol (kind : ProtocolError)
  | passkeyResumeNoCredential
  | passkeyResumePrfMissing
  | passkeyResumeUnwrapFailed
  deriving DecidableEq

/-! ## Session contexts -/

/-- Identity of a mirror of the stored record, in order of creation. -/
abbrev MirrorId := Nat

/-- `ActiveContext` -/
structure ActiveContext where
  role : Role
  sessionKey : CryptoKey
  mirror : Option MirrorId
  sasBytes : Option Sas
  counterCommitted : Nat
  counterReserved : Nat
  counterRecv : Nat
  nextRecvMode : CounterMode

/-- `InternalState`; a page creates at most one active context. -/
inductive InternalState where
  | preActive
  | resuming (active : ActiveContext)
  | active (active : ActiveContext)

namespace InternalState

/-- The active context, once there is one. -/
def context? : InternalState → Option ActiveContext
  | .preActive => none
  | .resuming context => some context
  | .active context => some context

/-- Change the active context in place. -/
def mapContext (change : ActiveContext → ActiveContext) : InternalState → InternalState
  | .preActive => .preActive
  | .resuming context => .resuming (change context)
  | .active context => .active (change context)

/-- `internal.kind === 'active'` -/
def isActive : InternalState → Bool
  | .active _ => true
  | _ => false

/-- `internal.kind === 'resuming'` -/
def isResuming : InternalState → Bool
  | .resuming _ => true
  | _ => false

@[simp]
theorem context?_mapContext
    (change : ActiveContext → ActiveContext)
    (internal : InternalState) :
    (internal.mapContext change).context? = internal.context?.map change := by
  cases internal <;> rfl

@[simp]
theorem isActive_mapContext
    (change : ActiveContext → ActiveContext)
    (internal : InternalState) :
    (internal.mapContext change).isActive = internal.isActive := by
  cases internal <;> rfl

@[simp]
theorem isResuming_mapContext
    (change : ActiveContext → ActiveContext)
    (internal : InternalState) :
    (internal.mapContext change).isResuming = internal.isResuming := by
  cases internal <;> rfl

end InternalState

/-- What the receive functions read of an active context. -/
def ActiveContext.receiveState (active : ActiveContext) : ReceiveState where
  counterRecv := active.counterRecv
  role := active.role
  sessionKey := active.sessionKey.material

/-- What the counter allocator reads of an active context. -/
def ActiveContext.sendState (active : ActiveContext) : SendState where
  counterCommitted := active.counterCommitted
  counterReserved := active.counterReserved
  role := active.role
  sessionKey := active.sessionKey.material

/-! ## Pending work -/

/-- A WebSocket; `gen` is the value of `connectionGen` it was opened with. -/
structure Socket where
  gen : Nat
  readyState : ReadyState
  bufferedAmount : Nat

/-- Progress of claiming the room against other tabs. -/
inductive ClaimStage where
  | requested
  | held
  | released
  deriving DecidableEq, Repr

/-- An `upgradeToPrf` call and what it awaits. -/
inductive Upgrade where
  /-- the passkey dialog -/
  | registering
  /-- the wrapping of the session key -/
  | wrapping (sessionKey : CryptoKey) (wrapKey : WrapKey) (credentialId : CredentialId)
  /-- the key pair of the rekey it starts -/
  | rekeyKeygen (pair : Draw)

/-- What an `upgradeToPrf` call awaits. -/
inductive UpgradeStage where
  | registering
  | wrapping
  | rekeyKeygen
  deriving DecidableEq, Repr

/-- What an `upgradeToPrf` call awaits. -/
def Upgrade.stage : Upgrade → UpgradeStage
  | .registering => .registering
  | .wrapping _ _ _ => .wrapping
  | .rekeyKeygen _ => .rekeyKeygen

/-- Who called `startRekeyIfInitiator`. -/
inductive RekeyOrigin where
  | upgrade
  | handler
  deriving DecidableEq, Repr

/-- What runs when a relay send has settled. -/
inductive SendCont where
  | discard
  | text (body : Text)
  | resumeAck
  | modeUpgraded
  | rekeyAck (newSessionKey : SessionKey)
  | handlerDone
  | file (continuation : FileCont)

/-- A relay send in the serializer's queue. -/
structure SendTask where
  kind : RelayKind
  plaintext : Plaintext
  encryptFailReason : TerminateReason
  continuation : SendCont

/-- The relay send whose encryption is awaited. -/
structure InFlight where
  task : SendTask
  frame : RelayFrame
  gen : Nat

/-- A frame waiting for the frames before it to be handled. -/
inductive InboundTask where
  | handshake (ciphertext : HandshakeCiphertext)
  | relay (frame : RelayFrame)

/-- The frame handler that is running and what it awaits. -/
inductive Handler where
  /-- unwrapping the peer's public key and deriving the session key -/
  | handshake (ciphertext : HandshakeCiphertext) (pair : Draw)
  /-- decryption, with what was read before it began -/
  | decrypting
      (frame : RelayFrame)
      (mode : CounterMode)
      (state : ReceiveState)
      (mirror : Option MirrorId)
  /-- the key pair of the rekey this side starts -/
  | rekeyKeygen (pair : Draw)
  /-- key pair and derivation in answer to a rekey_init -/
  | rekeyInit (pair : Draw) (peerPub : PublicKey)
  /-- derivation in answer to a rekey_ack -/
  | rekeyAck (pair : Draw) (peerPub : PublicKey)
  /-- wrapping the new session key -/
  | commitWrap
      (newSessionKey : SessionKey)
      (wrapKey : WrapKey)
      (credentialId : CredentialId)
  /-- a queued send -/
  | sending

/-- What a running handler awaits. -/
inductive HandlerStage where
  | handshake
  | decrypting
  | rekeyKeygen
  | rekeyInit
  | rekeyAck
  | commitWrap
  | sending
  deriving DecidableEq, Repr

/-- What a running handler awaits. -/
def Handler.stage : Handler → HandlerStage
  | .handshake _ _ => .handshake
  | .decrypting _ _ _ _ => .decrypting
  | .rekeyKeygen _ => .rekeyKeygen
  | .rekeyInit _ _ => .rekeyInit
  | .rekeyAck _ _ => .rekeyAck
  | .commitWrap _ _ _ => .commitWrap
  | .sending => .sending

/-- A microtask. -/
inductive Job where
  | outboundNext
  | inboundNext
  | settle (continuation : SendCont) (sent : Bool)

/-! ## Observable actions -/

/--
What a client does to its surroundings; `terminated` marks the return of a
`terminate` call that ended the session.
-/
inductive Act where
  | setState (state : SessionState)
  | openConnection (gen : Nat) (intent : HelloIntent)
  | closeConnection (gen : Nat)
  | wire (gen : Nat) (frame : ClientFrame)
  | encrypt (key : SessionKey) (counter : Nat) (frame : RelayFrame)
  | accept (key : SessionKey) (counter : Nat) (kind : RelayKind) (plaintext : Plaintext)
  | writeRecord (record : StoredSession)
  | clearRecord
  | systemMessage (event : SystemEventKind)
  | removeSystemMessage (event : SystemEventKind)
  | chatMessage (outgoing : Bool) (body : Text)
  | clearMessages
  | onSas (sas : Option Sas)
  | signalCredentialUnknown (credentialId : CredentialId)
  | file (effect : FileEffect)
  | terminated (reason : TerminateReason)

/-- Outcomes of the browser calls a synchronous segment makes. -/
structure Oracle where
  storageOk : Bool
  spawnOk : Bool
  streamOk : Bool
  postOk : Bool

/-- Every browser call succeeds. -/
def Oracle.allOk : Oracle where
  storageOk := true
  spawnOk := true
  streamOk := true
  postOk := true

/-- What outlives the session variables within one page, and what a reload keeps. -/
structure Page where
  device : Nat
  nextDraw : Nat
  now : Nat
  pageHiding : Bool
  oracle : Oracle

/-- The stored record of the room and the mirrors made of it. -/
structure Store where
  storage : Option StoredSession
  mirrors : List StoredSession

/-- The page signals of the session. -/
structure Signals where
  sessionState : SessionState
  sessionMode : SessionMode
  peerMode : SessionMode
  myRole : Option Role

/-- Variables of `startSession` that belong to no other group. -/
structure Vars where
  stored : Option StoredSession
  claim : ClaimStage
  returned : Bool
  resumeAttempt : Bool
  internal : InternalState
  credentialIdForCleanup : Option CredentialId
  currentWrapKey : Option WrapKey
  terminated : Bool
  fatalTimer : Option Nat
  pendingResumeId : Option Draw
  rekeyInFlight : Bool
  pendingRekeyPair : Option Draw
  upgrades : List Upgrade

/-- The current connection and the reconnect timer. -/
structure Link where
  intentTried : HelloIntent
  connectionGen : Nat
  socket : Option Socket
  reconnectTimer : Option Nat
  reconnectAttempt : Nat
  reconnectStartMs : Nat

/-- The local half of the handshake. -/
structure HandshakeVars where
  ephemeral : Option Draw
  localHandshakeSent : Bool
  handshakeSend : Option Nat

/-- Frames waiting to be handled and the handler that is running. -/
structure Inbound where
  queue : List InboundTask
  handler : Option Handler
  busy : Bool

/-- Sends waiting in the serializer and the one that is encrypting. -/
structure Outbound where
  queue : List SendTask
  sending : Option InFlight
  busy : Bool

/-- One client. -/
structure Client where
  page : Page
  store : Store
  signals : Signals
  vars : Vars
  link : Link
  handshake : HandshakeVars
  inbound : Inbound
  outbound : Outbound
  jobs : List Job
  files : Files
  out : List Act

namespace Client

/-! ## Elementary operations -/

/-- Record an observable action. -/
def act (client : Client) (action : Act) : Client :=
  { client with out := client.out ++ [action] }

/-- `sessionState.value = state` -/
def setState (client : Client) (state : SessionState) : Client :=
  { client with
    signals.sessionState := state
    out := client.out ++ [.setState state] }

/-- `appendSystemMessage` -/
def system (client : Client) (event : SystemEventKind) : Client :=
  client.act (.systemMessage event)

/-- Schedule a microtask. -/
def schedule (client : Client) (job : Job) : Client :=
  { client with jobs := client.jobs ++ [job] }

/-- Draw a value from the random source. -/
def draw (client : Client) : Client × Draw :=
  ({ client with page.nextDraw := client.page.nextDraw + 1 },
    { device := client.page.device, serial := client.page.nextDraw })

/-- Change the active context in place. -/
def updateActive (client : Client) (change : ActiveContext → ActiveContext) : Client :=
  { client with vars.internal := client.vars.internal.mapContext change }

/-- What a segment of the file machines reads of the client. -/
def fileEnv (client : Client) : FileEnv where
  ws := client.link.socket.map fun socket => (socket.readyState, socket.bufferedAmount)
  now := client.page.now
  spawnOk := client.page.oracle.spawnOk
  streamOk := client.page.oracle.streamOk
  postOk := client.page.oracle.postOk

/-! ## The stored record -/

/-- `writeRecord`; false when it throws. -/
def writeRecord (client : Client) (record : StoredSession) : Client × Bool :=
  if client.vars.terminated then
    (client, false)
  else if client.page.oracle.storageOk then
    ({ client with
        store.storage := some record
        out := client.out ++ [.writeRecord record] },
      true)
  else
    (client, false)

/-- Change the record a mirror holds, then rewrite the stored one. -/
def flushMirror
    (client : Client)
    (mirror : MirrorId)
    (change : StoredSession → StoredSession) : Client × Bool :=
  let changed := { client with store.mirrors := client.store.mirrors.modify mirror change }
  match changed.store.mirrors[mirror]? with
  | some record => changed.writeRecord record
  | none => (changed, false)

/-- `persistCounterReserved` of a mirror. -/
def setCounterSend (mirror : MirrorId) : PersistCounter Client :=
  fun client counter =>
    client.flushMirror mirror fun record => record.withCounterSend counter

/-- `persistCounterRecv` of a mirror. -/
def setCounterRecv (mirror : MirrorId) : PersistCounter Client :=
  fun client counter =>
    client.flushMirror mirror fun record => record.withCounterRecv counter

/-- `setRekeyInProgress` of a mirror. -/
def setRekeyInProgress (client : Client) (mirror : MirrorId) : Client × Bool :=
  client.flushMirror mirror StoredSession.withRekeyInProgress

/-- `clearStoredSession` -/
def clearStoredSession (client : Client) : Client :=
  { client with
    store.storage := none
    out := client.out ++ [.clearRecord] }

/-- `mirrorStoredSession` -/
def mirrorStoredSession (client : Client) (initial : StoredSession) : Client × MirrorId :=
  ({ client with store.mirrors := client.store.mirrors ++ [initial] },
    client.store.mirrors.length)

/-! ## Sending -/

/-- `allocateSendCounter`; the counter is `none` when persisting threw. -/
def allocateSendCounter
    (client : Client)
    (active : ActiveContext)
    (kind : RelayKind) : Client × Option Nat :=
  match allocateCounter (active.mirror.map setCounterSend) client active.sendState kind with
  | (stored, sendState, counter) =>
      (stored.updateActive fun context =>
        { context with
          counterCommitted := sendState.counterCommitted
          counterReserved := sendState.counterReserved },
        counter)

/-- `enqueueRelaySend`: the serializer starts an idle queue in a microtask. -/
def enqueueRelaySend (client : Client) (task : SendTask) : Client :=
  let queued := { client with outbound.queue := client.outbound.queue ++ [task] }
  if client.outbound.busy then
    queued
  else
    { queued with outbound.busy := true }.schedule .outboundNext

/-- `sendEncoded`; a rejected encoding sends nothing and resumes nobody. -/
def sendEncoded
    (client : Client)
    (envelope : PlaintextEnvelope)
    (continuation : SendCont) : Client :=
  match encodeEnvelope envelope with
  | none => client
  | some plaintext =>
      client.enqueueRelaySend
        { kind := .msg
          plaintext
          encryptFailReason := .encryptFailed
          continuation }

/-- `sendModeFrame` -/
def sendModeFrame
    (client : Client)
    (kind : RelayKind)
    (payload : Plaintext)
    (continuation : SendCont) : Client :=
  client.enqueueRelaySend
    { kind
      plaintext := payload
      encryptFailReason := .modeFrameEncryptFailed
      continuation }

/-! ## The file machines -/

/-- Carry out one effect the file machines asked for. -/
def applyFileEffect (client : Client) (effect : FileEffect) : Client :=
  match effect with
  | .sendEnvelope envelope continuation =>
      if client.vars.internal.isActive then
        client.sendEncoded envelope (.file continuation)
      else
        client.schedule (.settle (.file continuation) false)
  | .sendChunk plaintext continuation =>
      if client.vars.internal.isActive then
        client.enqueueRelaySend
          { kind := .chunk
            plaintext := .bytes plaintext
            encryptFailReason := .chunkEncryptFailed
            continuation := .file continuation }
      else
        client.schedule (.settle (.file continuation) false)
  | .appendSystemEvent event => client.system event
  | other => client.act (.file other)

/-- Run a segment of the file machines and carry out what it asks for. -/
def runFiles (client : Client) (segment : Files → Files) : Client :=
  let files := segment client.files
  files.effects.foldl applyFileEffect
    { client with files := { files with effects := [] } }

/-! ## Termination -/

/-- `FATAL_BUFFER_MS` -/
def fatalBufferMs : Nat := 3000

/-- `INSTANT_TERMINATION_REASONS` -/
def isInstantTermination : TerminateReason → Bool
  | .userPanic => true
  | .duplicateTab => true
  | _ => false

/-- `ACTIVE_OR_RECONNECTING_STATES` -/
def isActiveOrReconnecting : SessionState → Bool
  | .active => true
  | .peerReconnecting => true
  | .reconnecting => true
  | _ => false

/-- `clearReconnectTimer` -/
def clearReconnectTimer (client : Client) : Client :=
  { client with link.reconnectTimer := none }

/-- `connection.close(1000)` on the current connection. -/
def closeConnection (client : Client) : Client :=
  match client.link.socket with
  | none => client
  | some socket =>
      { client with
        link.socket :=
          some
            { socket with
              readyState :=
                if socket.readyState = .closed then .closed else .closing }
        out := client.out ++ [.closeConnection socket.gen] }

/-- `signalCredentialUnknown`, when a credential was registered or used. -/
def signalCredential (client : Client) : Client :=
  match client.vars.credentialIdForCleanup with
  | some credentialId => client.act (.signalCredentialUnknown credentialId)
  | none => client

/-- Shut down the file machines that were created. -/
def shutdownFiles (client : Client) : Client :=
  let senderDown :=
    if client.files.senderCreated then client.runFiles Files.senderShutdown else client
  if senderDown.files.receiverCreated then
    senderDown.runFiles Files.receiverShutdown
  else
    senderDown

/-- `finalizeTermination` -/
def finalizeTermination (client : Client) : Client :=
  let cleared :=
    (client.setState .terminated).shutdownFiles.signalCredential.clearStoredSession
  { cleared with
    vars.claim := .released
    vars.currentWrapKey := none
    vars.internal := .preActive
    files := cleared.files.resetFileStateOnTerminate }

/-- `terminate` up to the choice between an immediate and a buffered end. -/
def beginTermination (client : Client) (reason : TerminateReason) : Client :=
  ({ client with vars.terminated := true }.system
    (if reason = TerminateReason.duplicateTab then .duplicateTabBlocked
      else .sessionEnded)).clearReconnectTimer.closeConnection

/-- `terminate` -/
def terminate (client : Client) (reason : TerminateReason) : Client :=
  if client.vars.terminated then
    client
  else
    let ended := client.beginTermination reason
    if !isInstantTermination reason &&
        isActiveOrReconnecting ended.signals.sessionState then
      { ended.setState .fatalEnding with
        vars.fatalTimer := some (ended.page.now + fatalBufferMs) }.act
        (.terminated reason)
    else
      ended.finalizeTermination.act (.terminated reason)

end Client

end Unseen
