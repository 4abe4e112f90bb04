import Unseen.Filename
import Unseen.Hex
import Unseen.Send

namespace Unseen

/-!
# The file sender and the file receiver

Both machines share the page's transfer signals and run in synchronous
segments: a segment handles one call, message or timer up to the next await.
What a segment asks of its surroundings (envelopes and chunks to send, worker
messages, log entries) is collected in `effects`, in order, and carried out by
the session.  What happens after an await is an explicit continuation.

The percentage of sent bytes is left out: it only decides how often the view is
told about an object it already holds.
-/

/-- Events the message log shows as system messages. -/
inductive SystemEventKind where
  | waitingForPeer
  | sessionStarted
  | peerDisconnected
  | peerReconnected
  | sessionEnded
  | duplicateTabBlocked
  | modeDowngradedToRam
  | modeUpgradedLocally
  | peerModeUpgraded
  | modeUpgradeInvited
  | modeUpgradeDismissedByUser
  | modeUpgradeFailed
  | sessionHardened
  | fileTransferCancelled
  | fileTransferFailed
  | filePeerUnavailable
  | fileSessionCapReached
  deriving DecidableEq, Repr

/-- Identity of a worker, a timer or an offer object, in order of creation. -/
abbrev Serial := Nat

/-- A file the user picked, as far as the sender's state machine reads it. -/
structure LocalFile where
  name : Text
  size : Nat

/-! ## Timeouts and limits -/

/-- `OFFERED_TIMEOUT_MS` -/
def offeredTimeoutMs : Nat := 60000

/-- `VERIFYING_TIMEOUT_MS` -/
def verifyingTimeoutMs : Nat := 30000

/-- `OUTGOING_BUFFER_SOFT_CAP` -/
def outgoingBufferSoftCap : Nat := 192 * 1024

/-- `BACKPRESSURE_POLL_MS` -/
def backpressurePollMs : Nat := 50

/-- `INITIAL_CREDIT` -/
def initialCredit : Nat := 4

/-- `RECV_INITIAL_CREDIT` -/
def recvInitialCredit : Int := 4

/-- `RECV_PENDING_HARD_CAP_CHUNKS` -/
def recvPendingHardCapChunks : Nat := 32

/-- `OFFER_PENDING_TIMEOUT_MS` -/
def offerPendingTimeoutMs : Nat := 60000

/-- `RECV_STALL_TIMEOUT_MS` -/
def recvStallTimeoutMs : Nat := 30000

/-- `PROGRESS_MIN_INTERVAL_MS` -/
def progressMinIntervalMs : Nat := 1000

/-- `PROGRESS_MIN_BYTES` -/
def progressMinBytes : Nat := 1048576

/-- `TID_BYTES` -/
def tidBytes : Nat := 8

/-- `CHUNK_HEADER_BYTES` -/
def chunkHeaderBytes : Nat := 12

/-! ## Shared state -/

/-- `TransferState` -/
inductive TransferState where
  | offered (tid name : Text) (size : Nat) (file : LocalFile)
  | sending (tid name : Text) (size sentBytes : Nat) (worker : Serial)
  | verifying (tid name : Text) (size : Nat)

/-- Transfer id of an outgoing transfer. -/
def TransferState.tid : TransferState → Text
  | .offered tid _ _ _ => tid
  | .sending tid _ _ _ _ => tid
  | .verifying tid _ _ => tid

/-- A chunk waiting in a queue. -/
structure PendingChunk where
  seq : Nat
  data : Bytes

/-- An offer shown to the user; the source compares these by identity. -/
structure PendingOffer where
  ref : Serial
  tid : Text
  name : Text
  size : Nat

/-- The receiving phase of an incoming transfer. -/
structure ReceivingState where
  tid : Text
  name : Text
  size : Nat
  expectedSize : Nat
  nextExpectedSeq : Nat
  networkReceivedBytes : Nat
  bytesWritten : Nat
  receiveCredit : Int
  pendingChunkQueue : List PendingChunk
  senderSha256 : Option Text
  finalizeRequested : Bool
  worker : Serial

/-- `IncomingState` -/
inductive IncomingState where
  | offerPending (offer : PendingOffer)
  | receiving (state : ReceivingState)

/-- Transfer id of an incoming transfer. -/
def IncomingState.tid : IncomingState → Text
  | .offerPending offer => offer.tid
  | .receiving state => state.tid

/-- Where the content of a finished transfer lives. -/
inductive AttachmentRecord where
  | opfs (name : Text) (size : Nat)
  | sender (senderFile : LocalFile) (name : Text) (size : Nat)

/-! ## Effects and continuations -/

/-- What runs when a send that the file machines asked for has settled. -/
inductive FileCont where
  | discard
  | offerSent (tid : Text)
  | chunkSent (worker : Serial) (tid : Text) (dataLength : Nat)
  | acceptSent (offer : PendingOffer) (worker : Serial)

/-- Messages to the send worker. -/
inductive SendWorkerIn where
  | init (tid : Text) (initialCredit : Nat)
  | pull
  | abort

/-- Messages to the receive worker. -/
inductive ReceiveWorkerIn where
  | init (tidHex : Text) (expectedSize : Nat)
  | chunk (seq : Nat) (data : Bytes)
  | finalize
  | abort

/-- What a segment of the file machines asks of its surroundings. -/
inductive FileEffect where
  | sendEnvelope (envelope : PlaintextEnvelope) (continuation : FileCont)
  | sendChunk (plaintext : Bytes) (continuation : FileCont)
  | appendSystemEvent (event : SystemEventKind)
  | appendFileMessage (tid : Text) (outgoing : Bool)
  | postToSendWorker (worker : Serial) (message : SendWorkerIn)
  | postToReceiveWorker (worker : Serial) (message : ReceiveWorkerIn)
  | terminateWorker (worker : Serial)
  | cleanupOpfs (tid : Text)

/-- What a file timer does when it fires. -/
inductive FileTimerKind where
  | offered (tid : Text)
  | verifying (tid name : Text) (size : Nat)
  | offerPending (tid : Text)
  | receiveStall (tid : Text)
  | sendLoopPoll (worker : Serial) (tid : Text)

/-- An armed timer. -/
structure FileTimer where
  id : Serial
  due : Nat
  kind : FileTimerKind

/-- A send worker whose start-up is awaited. -/
structure SenderInit where
  worker : Serial
  tid : Text
  name : Text
  size : Nat

/-- A receive worker whose start-up is awaited. -/
structure ReceiverInit where
  offer : PendingOffer
  worker : Serial

/-- Local variables of the file sender. -/
structure SenderState where
  pendingSendQueue : List PendingChunk
  activeWorker : Option Serial
  sendLoopRunning : Bool
  workerFinalReceived : Bool
  pendingSha256Hex : Option Text
  senderFileRef : Option LocalFile
  inits : List SenderInit

/-- Local variables of the file receiver. -/
structure ReceiverState where
  sessionCapEventFired : Bool
  lastProgressAt : Nat
  lastProgressBytes : Nat
  acceptInFlight : Bool
  lastReceiveNotifyPercent : Option Nat
  offerPendingTimer : Option Serial
  receiveStallTimer : Option Serial
  accepting : Option ReceiverInit
  cleanups : List Text

/-- The transfer signals of the page and both machines. -/
structure Files where
  normalizeNfc : Text → Text
  fileTransferSupported : Bool
  fileTransferReady : Bool
  currentOpaqueDir : Bool
  transferActive : Option TransferState
  incomingActive : Option IncomingState
  attachmentMap : List (Text × AttachmentRecord)
  sessionReceivedBytes : Nat
  senderCreated : Bool
  receiverCreated : Bool
  sender : SenderState
  receiver : ReceiverState
  timers : List FileTimer
  nextSerial : Serial
  effects : List FileEffect

/-- What a segment reads of the socket, the clock and the browser. -/
structure FileEnv where
  ws : Option (ReadyState × Nat)
  now : Nat
  spawnOk : Bool
  streamOk : Bool
  postOk : Bool

namespace Files

/-- Locals of a sender that has no transfer. -/
def idleSender : SenderState where
  pendingSendQueue := []
  activeWorker := none
  sendLoopRunning := false
  workerFinalReceived := false
  pendingSha256Hex := none
  senderFileRef := none
  inits := []

/-- Locals of a receiver that has just been created. -/
def idleReceiver : ReceiverState where
  sessionCapEventFired := false
  lastProgressAt := 0
  lastProgressBytes := 0
  acceptInFlight := false
  lastReceiveNotifyPercent := none
  offerPendingTimer := none
  receiveStallTimer := none
  accepting := none
  cleanups := []

/-- The transfer signals when the page loads. -/
def initial (normalizeNfc : Text → Text) : Files where
  normalizeNfc := normalizeNfc
  fileTransferSupported := true
  fileTransferReady := false
  currentOpaqueDir := false
  transferActive := none
  incomingActive := none
  attachmentMap := []
  sessionReceivedBytes := 0
  senderCreated := false
  receiverCreated := false
  sender := idleSender
  receiver := idleReceiver
  timers := []
  nextSerial := 0
  effects := []

/-- Ask the surroundings for one effect. -/
def emit (files : Files) (effect : FileEffect) : Files :=
  { files with effects := files.effects ++ [effect] }

/-- Arm a timer. -/
def arm (files : Files) (due : Nat) (kind : FileTimerKind) : Files :=
  { files with
    timers := files.timers ++ [{ id := files.nextSerial, due, kind }]
    nextSerial := files.nextSerial + 1 }

/-- Disarm a timer; disarming one that has fired does nothing. -/
def disarm (files : Files) (id : Serial) : Files :=
  { files with timers := files.timers.filter (fun timer => timer.id != id) }

/-! ## File sender -/

/-- `resetLocal`; start-ups that are awaited keep being awaited. -/
def resetLocal (files : Files) : Files :=
  { files with sender := { idleSender with inits := files.sender.inits } }

/-- `currentActiveTid` -/
def currentActiveTid (files : Files) : Option Text :=
  files.transferActive.map TransferState.tid

/-- `finishWithEvent`; the worker defaults to the active one. -/
def finishWithEvent
    (files : Files)
    (event : SystemEventKind)
    (worker : Option Serial) : Files :=
  let asked :=
    match worker <|> files.sender.activeWorker with
    | some target => files.emit (.postToSendWorker target .abort)
    | none => files
  ({ asked with transferActive := none }.resetLocal).emit (.appendSystemEvent event)

/-- `sendCancel` of the sender. -/
def sendCancelAsSender
    (files : Files)
    (tid : Text)
    (reason : FileCancelReason) : Files :=
  files.emit (.sendEnvelope (.fileCancel tid .sender reason) .discard)

/-- `handleWorkerFatal` -/
def handleWorkerFatal (files : Files) (worker : Serial) : Files :=
  match files.transferActive with
  | none => files
  | some current =>
      if files.sender.activeWorker ≠ some worker then
        files
      else
        (files.sendCancelAsSender current.tid .userAborted).finishWithEvent
          .fileTransferFailed (some worker)

/-- `isStillSendingFor` -/
def isStillSendingFor (files : Files) (tid : Text) : Bool :=
  match files.transferActive with
  | some (.sending current _ _ _ _) => current == tid
  | _ => false

/-- `advanceSentBytes` -/
def advanceSentBytes (files : Files) (tid : Text) (dataLength : Nat) : Files :=
  match files.transferActive with
  | some (.sending current name size sentBytes worker) =>
      if current = tid then
        { files with
          transferActive :=
            some (.sending current name size (sentBytes + dataLength) worker) }
      else
        files
  | _ => files

/-- `attachmentMap.set` -/
def setAttachment
    (files : Files)
    (tid : Text)
    (record : AttachmentRecord) : Files :=
  { files with
    attachmentMap :=
      files.attachmentMap.filter (fun entry => entry.1 != tid) ++ [(tid, record)] }

/-- `finalizeVerifyingAsSuccess` -/
def finalizeVerifyingAsSuccess
    (files : Files)
    (tid name : Text)
    (size : Nat) : Files :=
  match files.transferActive with
  | some (.verifying current _ _) =>
      if current = tid then
        let done := { files with transferActive := none }.resetLocal
        match files.sender.senderFileRef with
        | some senderFile => done.setAttachment tid (.sender senderFile name size)
        | none => done
      else
        files
  | _ => files

/-- `beginVerifyingPhase` -/
def beginVerifyingPhase
    (files : Files)
    (env : FileEnv)
    (tid name : Text)
    (size : Nat) : Files :=
  let armed := files.arm (env.now + verifyingTimeoutMs) (.verifying tid name size)
  { armed with transferActive := some (.verifying tid name size) }

/-- `finalizeSendAfterDrain` -/
def finalizeSendAfterDrain
    (files : Files)
    (env : FileEnv)
    (worker : Serial)
    (tid sha256Hex : Text) : Files :=
  match files.transferActive with
  | some (.sending current name size _ _) =>
      if current = tid then
        let sent :=
          (files.emit (.sendEnvelope (.fileComplete tid sha256Hex) .discard)).emit
            (.postToSendWorker worker .abort)
        let drained :=
          { sent with
            sender :=
              { sent.sender with
                activeWorker := none
                workerFinalReceived := false
                pendingSha256Hex := none } }
        drained.beginVerifyingPhase env tid name size
      else
        files
  | _ => files

/-- The `finally` block of `runSendLoop`. -/
def endSendLoop (files : Files) : Files :=
  { files with sender := { files.sender with sendLoopRunning := false } }

/-- `await sleep(BACKPRESSURE_POLL_MS)` in the send loop. -/
def sleepInSendLoop
    (files : Files)
    (env : FileEnv)
    (worker : Serial)
    (tid : Text) : Files :=
  files.arm (env.now + backpressurePollMs) (.sendLoopPoll worker tid)

/-- One turn of the `while` loop of `runSendLoop`, up to its next await. -/
def sendLoopTurn
    (files : Files)
    (env : FileEnv)
    (worker : Serial)
    (tid : Text) : Files :=
  if !files.isStillSendingFor tid then
    files.endSendLoop
  else
    match env.ws with
    | some (.opened, bufferedAmount) =>
        if bufferedAmount > outgoingBufferSoftCap then
          files.sleepInSendLoop env worker tid
        else
          match files.sender.pendingSendQueue with
          | next :: rest =>
              { files with sender := { files.sender with pendingSendQueue := rest } }.emit
                (.sendChunk next.data
                  (.chunkSent worker tid (next.data.length - chunkHeaderBytes)))
          | [] =>
              match files.sender.workerFinalReceived, files.sender.pendingSha256Hex with
              | true, some sha256Hex =>
                  (files.finalizeSendAfterDrain env worker tid sha256Hex).endSendLoop
              | _, _ => files.sleepInSendLoop env worker tid
    | _ =>
        ((files.sendCancelAsSender tid .userAborted).finishWithEvent
          .fileTransferFailed (some worker)).endSendLoop

/-- `runSendLoop` up to its first await. -/
def runSendLoop
    (files : Files)
    (env : FileEnv)
    (worker : Serial)
    (tid : Text) : Files :=
  { files with
    sender := { files.sender with sendLoopRunning := true } }.sendLoopTurn env worker tid

/-- The send loop after `encryptAndSendChunk` settled. -/
def chunkSent
    (files : Files)
    (env : FileEnv)
    (worker : Serial)
    (tid : Text)
    (dataLength : Nat)
    (sent : Bool) : Files :=
  if !sent then
    (files.finishWithEvent .fileTransferFailed (some worker)).endSendLoop
  else if files.sender.workerFinalReceived then
    (files.advanceSentBytes tid dataLength).sendLoopTurn env worker tid
  else if env.postOk then
    ((files.emit (.postToSendWorker worker .pull)).advanceSentBytes
      tid dataLength).sendLoopTurn env worker tid
  else
    ((files.sendCancelAsSender tid .userAborted).finishWithEvent
      .fileTransferFailed (some worker)).endSendLoop

/-- Messages of the send worker. -/
inductive SendWorkerOut where
  | ready
  | plaintextChunk (seq : Nat) (data : Bytes)
  | final (sha256Hex : Text)
  | fatal
  | closed

/-- `onWorkerFinal` -/
def onWorkerFinal (files : Files) (sha256Hex : Text) (worker : Serial) : Files :=
  match files.transferActive with
  | some (.sending _ _ _ _ _) =>
      if files.sender.activeWorker = some worker then
        { files with
          sender :=
            { files.sender with
              workerFinalReceived := true
              pendingSha256Hex := some sha256Hex } }
      else
        files
  | _ => files

/-- `handleWorkerMessage` of the sender. -/
def handleSendWorkerMessage
    (files : Files)
    (message : SendWorkerOut)
    (worker : Serial) : Files :=
  if files.sender.activeWorker ≠ some worker then
    files
  else
    match message with
    | .plaintextChunk seq data =>
        { files with
          sender :=
            { files.sender with
              pendingSendQueue := files.sender.pendingSendQueue ++ [{ seq, data }] } }
    | .final sha256Hex => files.onWorkerFinal sha256Hex worker
    | .fatal => files.handleWorkerFatal worker
    | .ready => files
    | .closed => files

/-- `initialiseWorker` up to the await of the worker's start-up. -/
def initialiseWorker
    (files : Files)
    (env : FileEnv)
    (tid name : Text)
    (size : Nat) : Files :=
  if !env.spawnOk then
    files.finishWithEvent .fileTransferFailed none
  else
    let worker := files.nextSerial
    let spawned :=
      { files with
        nextSerial := files.nextSerial + 1
        sender := { files.sender with activeWorker := some worker } }
    if !env.streamOk || !env.postOk then
      spawned.finishWithEvent .fileTransferFailed (some worker)
    else
      { spawned with
        sender :=
          { spawned.sender with
            inits := spawned.sender.inits ++ [SenderInit.mk worker tid name size] } }.emit
        (.postToSendWorker worker (.init tid initialCredit))

/-- `onFileAcceptReceived` up to its first await. -/
def onFileAcceptReceived (files : Files) (env : FileEnv) (tid : Text) : Files :=
  match files.transferActive with
  | some (.offered current name size _) =>
      if current = tid then files.initialiseWorker env tid name size else files
  | _ => files

/-- `onFileAcceptReceived` after `workerReady` resolved. -/
def senderWorkerReady
    (files : Files)
    (env : FileEnv)
    (init : SenderInit)
    (ready : Bool) : Files :=
  if !ready then
    if files.sender.activeWorker = some init.worker then
      (files.sendCancelAsSender init.tid .userAborted).finishWithEvent
        .fileTransferFailed (some init.worker)
    else
      files
  else
    match files.transferActive with
    | some (.offered current _ _ _) =>
        if current = init.tid then
          let started :=
            { files with
              transferActive :=
                some (.sending init.tid init.name init.size 0 init.worker) }
          if started.sender.sendLoopRunning then
            started
          else
            started.runSendLoop env init.worker init.tid
        else
          files.emit (.postToSendWorker init.worker .abort)
    | _ => files.emit (.postToSendWorker init.worker .abort)

/-- `dispatchFromReceiver` -/
def dispatchFromReceiver
    (files : Files)
    (env : FileEnv)
    (envelope : PlaintextEnvelope) : Files :=
  match files.transferActive with
  | none => files
  | some current =>
      match envelope with
      | .fileAccept tid =>
          if tid = current.tid then files.onFileAcceptReceived env tid else files
      | .fileDecline tid reason =>
          if tid = current.tid then
            files.finishWithEvent
              (if reason = .unsupported then .filePeerUnavailable
                else .fileTransferCancelled)
              none
          else
            files
      | .fileCompleteAck tid =>
          if tid = current.tid then
            match current with
            | .verifying currentTid name size =>
                files.finalizeVerifyingAsSuccess currentTid name size
            | _ => files
          else
            files
      | .fileCancel tid side reason =>
          if tid = current.tid ∧ side = .receiver then
            files.finishWithEvent
              (if reason = .integrityFailure then .fileTransferFailed
                else .fileTransferCancelled)
              none
          else
            files
      | _ => files

/-- `cancelActive` of the sender. -/
def cancelActiveAsSender (files : Files) (reason : FileCancelReason) : Files :=
  match files.transferActive with
  | none => files
  | some current =>
      (files.sendCancelAsSender current.tid reason).finishWithEvent
        .fileTransferCancelled none

/-- `startTransfer` up to its first await; `tid` is the generated id. -/
def startTransfer
    (files : Files)
    (env : FileEnv)
    (file : LocalFile)
    (tid : Text) : Files :=
  if files.transferActive.isSome || files.incomingActive.isSome then
    files
  else if file.size = 0 ∨ file.size > maxFileSizeBytes then
    files.emit (.appendSystemEvent .fileTransferFailed)
  else
    match sanitizeFilename files.normalizeNfc file.name with
    | none => files.emit (.appendSystemEvent .fileTransferFailed)
    | some sanitised =>
        let armed := files.arm (env.now + offeredTimeoutMs) (.offered tid)
        let offered :=
          { armed with
            transferActive := some (.offered tid sanitised file.size file)
            sender := { armed.sender with senderFileRef := some file } }
        (offered.emit (.appendFileMessage tid true)).emit
          (.sendEnvelope (.fileOffer tid sanitised file.size) (.offerSent tid))

/-- `startTransfer` after the offer was sent or refused. -/
def offerSent (files : Files) (tid : Text) (sent : Bool) : Files :=
  if !sent ∧ files.currentActiveTid = some tid then
    { files with transferActive := none }.resetLocal
  else
    files

/-- The callback of `installOfferedTimeout`. -/
def offeredTimeout (files : Files) (tid : Text) : Files :=
  match files.transferActive with
  | some (.offered current _ _ _) =>
      if current = tid then
        ({ files.sendCancelAsSender tid .userAborted with
          transferActive := none }.resetLocal).emit
            (.appendSystemEvent .fileTransferCancelled)
      else
        files
  | _ => files

/-- `activeWorker.terminate()`, when there is one. -/
def terminateActiveWorker (files : Files) : Files :=
  match files.sender.activeWorker with
  | some worker => files.emit (.terminateWorker worker)
  | none => files

/-- The sender's page-hide listener. -/
def senderPageHide (files : Files) (env : FileEnv) : Files :=
  match files.transferActive with
  | none => files
  | some current =>
      let cancelled :=
        match env.ws with
        | some (.opened, _) => files.sendCancelAsSender current.tid .userAborted
        | _ => files
      { cancelled.terminateActiveWorker with transferActive := none }.resetLocal

/-- `onWsClose` of the sender. -/
def senderOnWsClose (files : Files) : Files :=
  match files.transferActive with
  | none => files
  | some (.offered _ _ _ _) => files
  | some _ =>
      ({ files.terminateActiveWorker with transferActive := none }.resetLocal).emit
        (.appendSystemEvent .fileTransferFailed)

/-- `shutdown` of the sender. -/
def senderShutdown (files : Files) : Files :=
  { files.terminateActiveWorker with
    transferActive := none
    senderCreated := false }.resetLocal

/-! ## File receiver -/

/-- `clearOfferTimer` -/
def clearOfferTimer (files : Files) : Files :=
  match files.receiver.offerPendingTimer with
  | none => files
  | some id =>
      { files.disarm id with
        receiver := { files.receiver with offerPendingTimer := none } }

/-- `clearStallTimer` -/
def clearStallTimer (files : Files) : Files :=
  match files.receiver.receiveStallTimer with
  | none => files
  | some id =>
      { files.disarm id with
        receiver := { files.receiver with receiveStallTimer := none } }

/-- `resetTransferLocals` -/
def resetTransferLocals (files : Files) : Files :=
  { files with
    receiver :=
      { files.receiver with
        lastProgressAt := 0
        lastProgressBytes := 0
        lastReceiveNotifyPercent := none } }.clearOfferTimer.clearStallTimer

/-- `getReceivingState` -/
def getReceivingState (files : Files) : Option ReceivingState :=
  match files.incomingActive with
  | some (.receiving state) => some state
  | _ => none

/-- `finishTransfer` -/
def finishTransfer (files : Files) (event : SystemEventKind) : Files :=
  ({ files with incomingActive := none }.resetTransferLocals).emit
    (.appendSystemEvent event)

/-- `sendCancel` of the receiver. -/
def sendCancelAsReceiver
    (files : Files)
    (tid : Text)
    (reason : FileCancelReason) : Files :=
  files.emit (.sendEnvelope (.fileCancel tid .receiver reason) .discard)

/-- `integrityFailureAbort` -/
def integrityFailureAbort (files : Files) (state : ReceivingState) : Files :=
  (((files.sendCancelAsReceiver state.tid .integrityFailure).emit
    (.postToReceiveWorker state.worker .abort)).emit
      (.cleanupOpfs state.tid)).finishTransfer .fileTransferFailed

/-- `sendDecline` -/
def sendDecline (files : Files) (tid : Text) (reason : FileDeclineReason) : Files :=
  files.emit (.sendEnvelope (.fileDecline tid reason) .discard)

/-- `declineAndReset` -/
def declineAndReset (files : Files) (tid : Text) (worker : Option Serial) : Files :=
  let stopped :=
    match worker with
    | some running => files.emit (.terminateWorker running)
    | none => files
  { stopped.sendDecline tid .unsupported with
    incomingActive := none }.resetTransferLocals

/-- Verdict of `evaluatePreAccept`. -/
inductive PreAccept where
  | decline (reason : FileDeclineReason)
  | accept (sanitisedName : Text)

/-- `evaluatePreAccept`; it may report once that the session cap is reached. -/
def evaluatePreAccept
    (files : Files)
    (tid name : Text)
    (size : Nat) : Files × PreAccept :=
  if size > maxFileSizeBytes then
    (files, .decline .tooLarge)
  else if size = 0 then
    (files, .decline .unsupported)
  else
    match sanitizeFilename files.normalizeNfc name with
    | none => (files, .decline .unsupported)
    | some sanitisedName =>
        if files.transferActive.isSome || files.incomingActive.isSome then
          (files, .decline .unsupported)
        else if files.attachmentMap.any (fun entry => entry.1 == tid) then
          (files, .decline .unsupported)
        else if files.sessionReceivedBytes + size > sessionReceiveCapBytes then
          if files.receiver.sessionCapEventFired then
            (files, .decline .unsupported)
          else
            ({ files with
                receiver :=
                  { files.receiver with sessionCapEventFired := true } }.emit
                (.appendSystemEvent .fileSessionCapReached),
              .decline .unsupported)
        else if !files.fileTransferSupported then
          (files, .decline .unsupported)
        else if !files.fileTransferReady then
          (files, .decline .unsupported)
        else
          (files, .accept sanitisedName)

/-- `installOfferTimeout` -/
def installOfferTimeout (files : Files) (env : FileEnv) (tid : Text) : Files :=
  let cleared := files.clearOfferTimer
  let armed := cleared.arm (env.now + offerPendingTimeoutMs) (.offerPending tid)
  { armed with
    receiver :=
      { armed.receiver with offerPendingTimer := some cleared.nextSerial } }

/-- The callback of `installOfferTimeout`. -/
def offerPendingTimeout (files : Files) (tid : Text) : Files :=
  let fired :=
    { files with receiver := { files.receiver with offerPendingTimer := none } }
  match fired.incomingActive with
  | some (.offerPending offer) =>
      if offer.tid = tid then
        ({ fired with incomingActive := none }.resetTransferLocals).emit
          (.appendSystemEvent .fileTransferCancelled)
      else
        fired
  | _ => fired

/-- `dispatchOffer` -/
def dispatchOffer
    (files : Files)
    (env : FileEnv)
    (tid name : Text)
    (size : Nat) : Files :=
  match files.evaluatePreAccept tid name size with
  | (evaluated, .decline reason) => evaluated.sendDecline tid reason
  | (evaluated, .accept sanitisedName) =>
      let shown :=
        { evaluated with
          incomingActive :=
            some (.offerPending
              { ref := evaluated.nextSerial, tid, name := sanitisedName, size })
          nextSerial := evaluated.nextSerial + 1 }
      (shown.emit (.appendFileMessage tid false)).installOfferTimeout env tid

/-- `maybeFinalize`: whether the worker is to be finalized now. -/
def shouldFinalize (state : ReceivingState) : Bool :=
  !state.finalizeRequested && state.senderSha256.isSome &&
    state.pendingChunkQueue.isEmpty && state.expectedSize ≤ state.bytesWritten

/-- `maybeFinalize` on a transfer that is not stored in the signal. -/
def maybeFinalize (files : Files) (state : ReceivingState) : Files × ReceivingState :=
  if shouldFinalize state then
    (files.emit (.postToReceiveWorker state.worker .finalize),
      { state with finalizeRequested := true })
  else
    (files, state)

/-- `maybeSendProgress` -/
def maybeSendProgress (files : Files) (env : FileEnv) (state : ReceivingState) : Files :=
  if env.now - files.receiver.lastProgressAt < progressMinIntervalMs then
    files
  else if (state.bytesWritten : Int) - files.receiver.lastProgressBytes <
      progressMinBytes then
    files
  else
    { files with
      receiver :=
        { files.receiver with
          lastProgressAt := env.now
          lastProgressBytes := state.bytesWritten } }.emit
      (.sendEnvelope (.fileProgress state.tid state.bytesWritten) .discard)

/-- Percentage `notifyReceiveProgress` compares, of the exact quotient: where the source
rounds a quotient of doubles, it can be one less.  It decides only when the user is told. -/
def receivePercent (state : ReceivingState) : Nat :=
  if state.expectedSize = 0 then 100 else state.bytesWritten * 100 / state.expectedSize

/--
`notifyReceiveProgress`: a changed percentage stores a copy of the transfer in
the signal, whatever the signal held; otherwise the object the signal already
holds has been updated in place.
-/
def notifyReceiveProgress (files : Files) (state : ReceivingState) : Files :=
  let percent := receivePercent state
  if files.receiver.lastReceiveNotifyPercent = some percent then
    if files.incomingActive.isSome then
      { files with incomingActive := some (.receiving state) }
    else
      files
  else
    { files with
      receiver := { files.receiver with lastReceiveNotifyPercent := some percent }
      incomingActive := some (.receiving state) }

/-- `postChunkToWorker` -/
def postChunkToWorker
    (files : Files)
    (env : FileEnv)
    (state : ReceivingState)
    (seq : Nat)
    (data : Bytes) : Files × ReceivingState :=
  if env.postOk then
    (files.emit (.postToReceiveWorker state.worker (.chunk seq data)),
      { state with receiveCredit := state.receiveCredit - 1 })
  else
    (files.integrityFailureAbort state, state)

/-- `handleWorkerWritten` -/
def handleWorkerWritten
    (files : Files)
    (env : FileEnv)
    (state : ReceivingState)
    (bytes : Nat) : Files :=
  let counted :=
    { state with
      bytesWritten := state.bytesWritten + bytes
      receiveCredit := state.receiveCredit + 1 }
  let (posted, afterPost) :=
    match counted.pendingChunkQueue with
    | next :: rest =>
        files.postChunkToWorker env { counted with pendingChunkQueue := rest }
          next.seq next.data
    | [] => (files, counted)
  let (finalized, afterFinalize) :=
    (posted.maybeSendProgress env afterPost).maybeFinalize afterPost
  finalized.notifyReceiveProgress afterFinalize

/-- Messages of the receive worker. -/
inductive ReceiveWorkerOut where
  | ready
  | written (seq bytes : Nat)
  | shortWrite (written expected : Nat)
  | done (sha256Hex : Text) (bytesWritten fileSize : Nat)
  | fatal
  | closed

/-- `handleWorkerDone` up to its first await. -/
def handleWorkerDone
    (files : Files)
    (state : ReceivingState)
    (sha256Hex : Text)
    (bytesWritten fileSize : Nat) : Files :=
  if state.senderSha256 = some sha256Hex ∧ bytesWritten = state.expectedSize ∧
      fileSize = state.expectedSize then
    let kept := files.setAttachment state.tid (.opfs state.name state.expectedSize)
    ({ kept with
        sessionReceivedBytes := kept.sessionReceivedBytes + state.expectedSize
        incomingActive := none }.resetTransferLocals).emit
      (.sendEnvelope (.fileCompleteAck state.tid) .discard)
  else
    let cancelled :=
      (files.sendCancelAsReceiver state.tid .integrityFailure).emit
        (.cleanupOpfs state.tid)
    { cancelled with
      receiver :=
        { cancelled.receiver with
          cleanups := cancelled.receiver.cleanups ++ [state.tid] } }

/-- `handleWorkerDone` after `cleanupOpfs` resolved. -/
def workerDoneCleanedUp (files : Files) (tid : Text) : Files :=
  if tid ∈ files.receiver.cleanups then
    { files with
      receiver :=
        { files.receiver with
          cleanups := files.receiver.cleanups.erase tid } }.finishTransfer
      .fileTransferFailed
  else
    files

/-- `handleWorkerMessage` of the receiver. -/
def handleReceiveWorkerMessage
    (files : Files)
    (env : FileEnv)
    (message : ReceiveWorkerOut)
    (worker : Serial) : Files :=
  match files.getReceivingState with
  | none => files
  | some state =>
      if state.worker ≠ worker then
        files
      else
        match message with
        | .ready => files
        | .closed => files
        | .written _ bytes => files.handleWorkerWritten env state bytes
        | .done sha256Hex bytesWritten fileSize =>
            files.handleWorkerDone state sha256Hex bytesWritten fileSize
        | .shortWrite _ _ => files.integrityFailureAbort state
        | .fatal => files.integrityFailureAbort state

/-- The `finally` block of `acceptOffer`. -/
def endAccept (files : Files) : Files :=
  { files with receiver := { files.receiver with acceptInFlight := false } }

/-- `runAcceptOffer` up to the await of the worker's start-up. -/
def runAcceptOffer (files : Files) (env : FileEnv) (offer : PendingOffer) : Files :=
  if !files.currentOpaqueDir then
    (files.declineAndReset offer.tid none).endAccept
  else if !env.spawnOk then
    (files.declineAndReset offer.tid none).endAccept
  else
    let worker := files.nextSerial
    let spawned := { files with nextSerial := files.nextSerial + 1 }
    if !env.postOk then
      (spawned.declineAndReset offer.tid (some worker)).endAccept
    else
      { spawned with
        receiver :=
          { spawned.receiver with accepting := some { offer, worker } } }.emit
        (.postToReceiveWorker worker (.init offer.tid offer.size))

/-- `acceptOffer` -/
def acceptOffer (files : Files) (env : FileEnv) : Files :=
  match files.incomingActive with
  | some (.offerPending offer) =>
      if files.receiver.acceptInFlight then
        files
      else
        { files with
          receiver :=
            { files.receiver with acceptInFlight := true } }.runAcceptOffer env offer
  | _ => files

/-- `incomingActive.value === state` for an offer object. -/
def isCurrentOffer (files : Files) (offer : PendingOffer) : Bool :=
  match files.incomingActive with
  | some (.offerPending current) => current.ref == offer.ref
  | _ => false

/-- Drop a worker whose offer is no longer the current one. -/
def abandonAccept (files : Files) (offer : PendingOffer) (worker : Serial) : Files :=
  ((files.emit (.terminateWorker worker)).emit (.cleanupOpfs offer.tid)).endAccept

/-- `runAcceptOffer` after `workerReady` resolved. -/
def receiverWorkerReady
    (files : Files)
    (init : ReceiverInit)
    (ready : Bool) : Files :=
  if !files.isCurrentOffer init.offer then
    files.abandonAccept init.offer init.worker
  else if !ready then
    (files.declineAndReset init.offer.tid (some init.worker)).endAccept
  else
    files.clearOfferTimer.emit
      (.sendEnvelope (.fileAccept init.offer.tid)
        (.acceptSent init.offer init.worker))

/-- `runAcceptOffer` after the acceptance was sent or refused. -/
def acceptSent
    (files : Files)
    (env : FileEnv)
    (offer : PendingOffer)
    (worker : Serial)
    (sent : Bool) : Files :=
  if !files.isCurrentOffer offer then
    files.abandonAccept offer worker
  else if !sent then
    ((files.emit (.terminateWorker worker)).installOfferTimeout env offer.tid).endAccept
  else
    let receiving :=
      { files with
        incomingActive :=
          some (.receiving
            { tid := offer.tid
              name := offer.name
              size := offer.size
              expectedSize := offer.size
              nextExpectedSeq := 0
              networkReceivedBytes := 0
              bytesWritten := 0
              receiveCredit := recvInitialCredit
              pendingChunkQueue := []
              senderSha256 := none
              finalizeRequested := false
              worker }) }
    let armed :=
      receiving.arm (env.now + recvStallTimeoutMs) (.receiveStall offer.tid)
    { armed with
      receiver :=
        { armed.receiver with
          receiveStallTimer := some receiving.nextSerial } }.endAccept

/-- The callback of the stall timer. -/
def receiveStallTimeout (files : Files) (tid : Text) : Files :=
  let fired :=
    { files with receiver := { files.receiver with receiveStallTimer := none } }
  match fired.getReceivingState with
  | none => fired
  | some current =>
      if current.tid = tid ∧ current.nextExpectedSeq = 0 then
        fired.integrityFailureAbort current
      else
        fired

/-- `declineOffer` -/
def declineOffer (files : Files) : Files :=
  match files.incomingActive with
  | some (.offerPending offer) =>
      (files.sendDecline offer.tid .userRejected).finishTransfer
        .fileTransferCancelled
  | _ => files

/-- `cancelActive` of the receiver. -/
def cancelActiveAsReceiver (files : Files) (reason : FileCancelReason) : Files :=
  match files.incomingActive with
  | none => files
  | some (.offerPending _) => files.declineOffer
  | some (.receiving state) =>
      (((files.sendCancelAsReceiver state.tid reason).emit
        (.postToReceiveWorker state.worker .abort)).emit
          (.cleanupOpfs state.tid)).finishTransfer .fileTransferCancelled

/-- Header and data of a chunk. -/
structure ParsedChunk where
  tidHex : Text
  seq : Nat
  data : Bytes

/-- `parseChunkPlaintext` -/
def parseChunkPlaintext (plaintext : Bytes) : Option ParsedChunk :=
  if plaintext.length < chunkHeaderBytes then
    none
  else
    some
      { tidHex := hexEncode (plaintext.take tidBytes)
        seq := fromLittleEndian ((plaintext.drop tidBytes).take 4)
        data := plaintext.drop chunkHeaderBytes }

/-- `computeTotalChunks` -/
def computeTotalChunks (expectedSize : Nat) : Nat :=
  (expectedSize + chunkDataMaxBytes - 1) / chunkDataMaxBytes

/-- `expectedChunkLen` -/
def expectedChunkLen (expectedSize seq totalChunks : Nat) : Nat :=
  if seq + 1 < totalChunks then
    chunkDataMaxBytes
  else
    expectedSize - chunkDataMaxBytes * (totalChunks - 1)

/-- `dispatchChunkFrame` from the parsed chunk on. -/
def receiveChunk (files : Files) (env : FileEnv) (parsed : ParsedChunk) : Files :=
  match files.getReceivingState with
  | none => files
  | some active =>
      if parsed.tidHex ≠ active.tid then
        files
      else
        let totalChunks := computeTotalChunks active.expectedSize
        if parsed.seq ≠ active.nextExpectedSeq ∨ totalChunks ≤ parsed.seq ∨
            parsed.data.length ≠
              expectedChunkLen active.expectedSize parsed.seq totalChunks then
          files.integrityFailureAbort active
        else if recvPendingHardCapChunks ≤ active.pendingChunkQueue.length then
          files.integrityFailureAbort active
        else
          let cleared := if parsed.seq = 0 then files.clearStallTimer else files
          let counted :=
            { active with
              nextExpectedSeq := active.nextExpectedSeq + 1
              networkReceivedBytes :=
                active.networkReceivedBytes + parsed.data.length }
          if 0 < counted.receiveCredit then
            if env.postOk then
              { cleared.emit
                  (.postToReceiveWorker counted.worker
                    (.chunk parsed.seq parsed.data)) with
                incomingActive :=
                  some (.receiving
                    { counted with receiveCredit := counted.receiveCredit - 1 }) }
            else
              cleared.integrityFailureAbort counted
          else
            { cleared with
              incomingActive :=
                some (.receiving
                  { counted with
                    pendingChunkQueue :=
                      counted.pendingChunkQueue ++
                        [{ seq := parsed.seq, data := parsed.data }] }) }

/-- `dispatchComplete` -/
def dispatchComplete (files : Files) (tid senderSha256 : Text) : Files :=
  match files.getReceivingState with
  | none => files
  | some state =>
      if state.tid ≠ tid then
        files
      else if state.networkReceivedBytes < state.expectedSize then
        files.integrityFailureAbort state
      else
        let (finalized, afterFinalize) :=
          files.maybeFinalize { state with senderSha256 := some senderSha256 }
        { finalized with incomingActive := some (.receiving afterFinalize) }

/-- `dispatchCancel` -/
def dispatchCancel
    (files : Files)
    (tid : Text)
    (side : FileCancelSide)
    (reason : FileCancelReason) : Files :=
  if side ≠ .sender then
    files
  else
    match files.incomingActive with
    | none => files
    | some state =>
        if state.tid ≠ tid then
          files
        else
          let event :=
            if reason = .integrityFailure then SystemEventKind.fileTransferFailed
            else .fileTransferCancelled
          match state with
          | .offerPending _ => files.finishTransfer event
          | .receiving active =>
              ((files.emit (.postToReceiveWorker active.worker .abort)).emit
                (.cleanupOpfs active.tid)).finishTransfer event

/-- The receiver's page-hide listener. -/
def receiverPageHide (files : Files) : Files :=
  match files.incomingActive with
  | none => files
  | some (.offerPending _) => { files with incomingActive := none }.resetTransferLocals
  | some (.receiving state) =>
      { (files.sendCancelAsReceiver state.tid .userAborted).emit
          (.terminateWorker state.worker) with
        incomingActive := none }.resetTransferLocals

/-- `onWsClose` of the receiver. -/
def receiverOnWsClose (files : Files) : Files :=
  match files.incomingActive with
  | some (.receiving state) =>
      ({ files.emit (.terminateWorker state.worker) with
          incomingActive := none }.resetTransferLocals).emit
        (.appendSystemEvent .fileTransferFailed)
  | _ => files

/-- `shutdown` of the receiver. -/
def receiverShutdown (files : Files) : Files :=
  let stopped :=
    match files.incomingActive with
    | some (.receiving state) => files.emit (.terminateWorker state.worker)
    | _ => files
  { stopped with incomingActive := none, receiverCreated := false }.resetTransferLocals

/-! ## Both machines -/

/-- `resetFileStateOnTerminate` -/
def resetFileStateOnTerminate (files : Files) : Files :=
  { files with
    transferActive := none
    incomingActive := none
    attachmentMap := []
    sessionReceivedBytes := 0
    currentOpaqueDir := false }

/-- `routeFileCancel` -/
def routeFileCancel
    (files : Files)
    (env : FileEnv)
    (tid : Text)
    (side : FileCancelSide)
    (reason : FileCancelReason) : Files :=
  if files.currentActiveTid = some tid then
    if files.senderCreated then
      files.dispatchFromReceiver env (.fileCancel tid side reason)
    else
      files
  else if files.incomingActive.map IncomingState.tid = some tid ∧
      files.receiverCreated then
    files.dispatchCancel tid side reason
  else
    files

/-- `dispatchFileEnvelope` -/
def dispatchFileEnvelope
    (files : Files)
    (env : FileEnv)
    (envelope : PlaintextEnvelope) : Files :=
  match envelope with
  | .fileOffer tid name size =>
      if files.receiverCreated then files.dispatchOffer env tid name size else files
  | .fileComplete tid senderSha256 =>
      if files.receiverCreated then files.dispatchComplete tid senderSha256 else files
  | .fileCancel tid side reason => files.routeFileCancel env tid side reason
  | _ =>
      if files.senderCreated then files.dispatchFromReceiver env envelope else files

/-- The continuation of a settled send. -/
def resume
    (files : Files)
    (env : FileEnv)
    (continuation : FileCont)
    (sent : Bool) : Files :=
  match continuation with
  | .discard => files
  | .offerSent tid => files.offerSent tid sent
  | .chunkSent worker tid dataLength => files.chunkSent env worker tid dataLength sent
  | .acceptSent offer worker => files.acceptSent env offer worker sent

/-- A message, failure or start-up timeout of a worker, an armed timer, or the
outcome of preparing the transfer directory. -/
inductive Event where
  | sendWorkerMessage (worker : Serial) (message : SendWorkerOut)
  | sendWorkerError (worker : Serial)
  | sendWorkerReadyTimeout (worker : Serial)
  | receiveWorkerMessage (worker : Serial) (message : ReceiveWorkerOut)
  | receiveWorkerError (worker : Serial)
  | receiveWorkerReadyTimeout (worker : Serial)
  | cleanedUp (tid : Text)
  | timer (id : Serial)
  | initialised (supported enabled : Bool)

/-- Resume the send start-ups that await a worker. -/
def settleSenderInit
    (files : Files)
    (env : FileEnv)
    (worker : Serial)
    (ready : Bool) : Files :=
  match files.sender.inits.find? (fun init => init.worker == worker) with
  | none => files
  | some init =>
      { files with
        sender :=
          { files.sender with
            inits := files.sender.inits.filter (fun other => other.worker != worker) }
        }.senderWorkerReady env init ready

/-- Resume the acceptance that awaits a worker. -/
def settleReceiverInit (files : Files) (worker : Serial) (ready : Bool) : Files :=
  match files.receiver.accepting with
  | none => files
  | some init =>
      if init.worker = worker then
        { files with
          receiver :=
            { files.receiver with accepting := none } }.receiverWorkerReady init ready
      else
        files

/-- The callback of a timer. -/
def fireTimer (files : Files) (env : FileEnv) (kind : FileTimerKind) : Files :=
  match kind with
  | .offered tid => files.offeredTimeout tid
  | .verifying tid name size => files.finalizeVerifyingAsSuccess tid name size
  | .offerPending tid => files.offerPendingTimeout tid
  | .receiveStall tid => files.receiveStallTimeout tid
  | .sendLoopPoll worker tid => files.sendLoopTurn env worker tid

/-- Handle one event of the workers, the timers or the page. -/
def handle (files : Files) (env : FileEnv) (event : Event) : Files :=
  match event with
  | .sendWorkerMessage worker message =>
      let handled := files.handleSendWorkerMessage message worker
      match message with
      | .ready => handled.settleSenderInit env worker true
      | .fatal => handled.settleSenderInit env worker false
      | _ => handled
  | .sendWorkerError worker =>
      (files.handleWorkerFatal worker).settleSenderInit env worker false
  | .sendWorkerReadyTimeout worker => files.settleSenderInit env worker false
  | .receiveWorkerMessage worker message =>
      let handled := files.handleReceiveWorkerMessage env message worker
      match message with
      | .ready => handled.settleReceiverInit worker true
      | .fatal => handled.settleReceiverInit worker false
      | _ => handled
  | .receiveWorkerError worker =>
      let handled :=
        match files.getReceivingState with
        | some current =>
            if current.worker = worker then files.integrityFailureAbort current
            else files
        | none => files
      handled.settleReceiverInit worker false
  | .receiveWorkerReadyTimeout worker => files.settleReceiverInit worker false
  | .cleanedUp tid => files.workerDoneCleanedUp tid
  | .timer id =>
      match files.timers.find? (fun timer => timer.id == id) with
      | none => files
      | some timer =>
          if timer.due ≤ env.now then
            (files.disarm id).fireTimer env timer.kind
          else
            files
  | .initialised supported enabled =>
      { files with
        fileTransferSupported := supported
        fileTransferReady := supported && enabled
        currentOpaqueDir := files.currentOpaqueDir || (supported && enabled) }

end Files

end Unseen
