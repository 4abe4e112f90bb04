import Unseen.FileTransfer
import Unseen.Machine

namespace Unseen

deriving instance DecidableEq for LocalFile
deriving instance DecidableEq for AttachmentRecord

/-!
# The file machines of a page

The file sender and the file receiver as an open system.  A step is one
synchronous segment: a call of the user or of the session, an envelope or a
chunk of the peer, a message of a worker, a timer, or the settling of a send
that was asked for before.  Calls come in any order and with any content, and
every send settles at any later time, as sent or as refused.
-/

/-- A send that was asked for and has not settled. -/
inductive PendingSend where
  | envelope (content : PlaintextEnvelope) (continuation : FileCont)
  | chunk (plaintext : Bytes) (continuation : FileCont)

def PendingSend.continuation : PendingSend → FileCont
  | .envelope _ continuation => continuation
  | .chunk _ continuation => continuation

def FileEffect.send? : FileEffect → Option PendingSend
  | .sendEnvelope content continuation => some (.envelope content continuation)
  | .sendChunk plaintext continuation => some (.chunk plaintext continuation)
  | _ => none

/-- What starts a segment. -/
inductive FileCall where
  | startTransfer (file : LocalFile) (tid : Text)
  | envelope (content : PlaintextEnvelope)
  | chunk (parsed : Files.ParsedChunk)
  | acceptOffer
  | declineOffer
  | cancelSender (reason : FileCancelReason)
  | cancelReceiver (reason : FileCancelReason)
  | settled (index : Nat) (sent : Bool)
  | senderSocketClosed
  | receiverSocketClosed
  | senderPageHide
  | receiverPageHide
  | senderShutdown
  | receiverShutdown
  | resetOnTerminate
  | event (event : Files.Event)

structure FileInput where
  call : FileCall
  env : FileEnv

/-- What happened to incoming transfers, for the record. -/
inductive FileNote where
  | accepted (offer : PendingOffer)
  | started (offer : PendingOffer) (worker : Serial)
  | arrived (chunk : Files.ParsedChunk)
  | announced (tid sha256 : Text)
  | posted (worker : Serial) (message : ReceiveWorkerIn)

/-- `history` is a history variable that no function reads. -/
structure FilePage where
  files : Files
  pending : List PendingSend
  out : List FileEffect
  history : List FileNote

namespace FilePage

/-- The segment that a call runs. -/
def segment (page : FilePage) (env : FileEnv) (call : FileCall) : Files :=
  let files := page.files
  match call with
  | .startTransfer file tid =>
      if files.senderCreated then files.startTransfer env file tid else files
  | .envelope content => files.dispatchFileEnvelope env content
  | .chunk parsed => if files.receiverCreated then files.receiveChunk env parsed else files
  | .acceptOffer => if files.receiverCreated then files.acceptOffer env else files
  | .declineOffer => if files.receiverCreated then files.declineOffer else files
  | .cancelSender reason =>
      if files.senderCreated then files.cancelActiveAsSender reason else files
  | .cancelReceiver reason =>
      if files.receiverCreated then files.cancelActiveAsReceiver reason else files
  | .settled index sent =>
      match page.pending[index]? with
      | none => files
      | some send => files.resume env send.continuation sent
  | .senderSocketClosed => if files.senderCreated then files.senderOnWsClose else files
  | .receiverSocketClosed => if files.receiverCreated then files.receiverOnWsClose else files
  | .senderPageHide => if files.senderCreated then files.senderPageHide env else files
  | .receiverPageHide => if files.receiverCreated then files.receiverPageHide else files
  | .senderShutdown => if files.senderCreated then files.senderShutdown else files
  | .receiverShutdown => if files.receiverCreated then files.receiverShutdown else files
  | .resetOnTerminate => files.resetFileStateOnTerminate
  | .event event => files.handle env event

/-- The sends that are still pending once the call was taken up. -/
def untilCall (page : FilePage) : FileCall → List PendingSend
  | .settled index _ => page.pending.eraseIdx index
  | _ => page.pending

/-- What the call itself tells about incoming transfers. -/
def callNotes (files : Files) : FileCall → List FileNote
  | .acceptOffer =>
      match files.incomingActive with
      | some (.offerPending offer) => [.accepted offer]
      | _ => []
  | .chunk parsed =>
      match files.receiverCreated, files.getReceivingState with
      | true, some state => if parsed.tidHex = state.tid then [.arrived parsed] else []
      | _, _ => []
  | .envelope (.fileComplete tid sha256) => [.announced tid sha256]
  | _ => []

/-- The offer shown before is received now. -/
def startNotes (before after : Files) : List FileNote :=
  match before.incomingActive, after.incomingActive with
  | some (.offerPending offer), some (.receiving state) => [.started offer state.worker]
  | _, _ => []

def effectNote : FileEffect → Option FileNote
  | .postToReceiveWorker worker message => some (.posted worker message)
  | _ => none

def step (page : FilePage) (input : FileInput) : FilePage :=
  let files := page.segment input.env input.call
  { files := { files with effects := [] }
    pending := page.untilCall input.call ++ files.effects.filterMap FileEffect.send?
    out := files.effects
    history :=
      page.history ++ callNotes page.files input.call ++ startNotes page.files files ++
        files.effects.filterMap effectNote }

/-- Only a pending send settles. -/
def enabled (page : FilePage) (input : FileInput) : Prop :=
  match input.call with
  | .settled index _ => index < page.pending.length
  | _ => True

instance (page : FilePage) : (input : FileInput) → Decidable (page.enabled input)
  | ⟨.settled index _, _⟩ => inferInstanceAs (Decidable (index < page.pending.length))
  | ⟨.startTransfer _ _, _⟩ | ⟨.envelope _, _⟩ | ⟨.chunk _, _⟩ | ⟨.acceptOffer, _⟩
  | ⟨.declineOffer, _⟩ | ⟨.cancelSender _, _⟩ | ⟨.cancelReceiver _, _⟩
  | ⟨.senderSocketClosed, _⟩ | ⟨.receiverSocketClosed, _⟩ | ⟨.senderPageHide, _⟩
  | ⟨.receiverPageHide, _⟩ | ⟨.senderShutdown, _⟩ | ⟨.receiverShutdown, _⟩
  | ⟨.resetOnTerminate, _⟩ | ⟨.event _, _⟩ => inferInstanceAs (Decidable True)

/-- The file machines, one segment a step. -/
def machine : EventMachine.Machine FilePage FileInput where
  enabled := enabled
  step := step

instance (page : FilePage) (input : FileInput) : Decidable (machine.enabled page input) :=
  inferInstanceAs (Decidable (page.enabled input))

/-- Both machines have just been created. -/
def Created (page : FilePage) : Prop :=
  ∃ normalizeNfc supported ready opaqueDir,
    page =
      { files :=
          { Files.initial normalizeNfc with
            senderCreated := true
            receiverCreated := true
            fileTransferSupported := supported
            fileTransferReady := ready
            currentOpaqueDir := opaqueDir }
        pending := []
        out := []
        history := [] }

/-! ## A sample page -/

namespace Sample

def newPage : FilePage where
  files :=
    { Files.initial id with
      senderCreated := true
      receiverCreated := true
      fileTransferSupported := true
      fileTransferReady := true
      currentOpaqueDir := true }
  pending := []
  out := []
  history := []

theorem created_newPage : Created newPage :=
  ⟨id, true, true, true, rfl⟩

/-- The call on an open connection, with workers that start. -/
def call (call : FileCall) : FileInput where
  call := call
  env := { ws := some (.opened, 0), now := 0, spawnOk := true, streamOk := true, postOk := true }

def transferId : Text := List.replicate 16 0x61

def file : LocalFile := { name := [0x66], size := 1 }

end Sample

end FilePage

/-! ## Segments of the file sender -/

namespace Files

/-- A failure of a receive worker ends at most the transfer it works on. -/
theorem handle_receiveWorkerError (files : Files) (env : FileEnv) (worker : Serial) :
    ∃ aborted : Files,
      (aborted = files ∨ ∃ state, aborted = files.integrityFailureAbort state) ∧
        files.handle env (.receiveWorkerError worker) =
          aborted.settleReceiverInit worker false := by
  refine ⟨_, ?_, rfl⟩
  split
  · split
    · exact .inr ⟨_, rfl⟩
    · exact .inl rfl
  · exact .inl rfl

/-- An effect that the file receiver asks for and the sender never does. -/
def IsReceiverEffect : FileEffect → Prop
  | .postToReceiveWorker .. => True
  | .sendEnvelope _ (.acceptSent ..) => True
  | .sendChunk _ (.acceptSent ..) => True
  | .sendEnvelope (.fileCompleteAck _) _ => True
  | .sendEnvelope (.fileProgress ..) _ => True
  | _ => False

/-- What a segment of the sender leaves alone. -/
structure SenderFrame (before after : Files) : Prop where
  incomingActive : after.incomingActive = before.incomingActive
  receiver : after.receiver = before.receiver
  sessionReceivedBytes : after.sessionReceivedBytes = before.sessionReceivedBytes
  nextSerial : before.nextSerial ≤ after.nextSerial
  effects : ∃ asked, after.effects = before.effects ++ asked ∧
    ∀ effect ∈ asked, ¬ IsReceiverEffect effect
  attachments : after.attachmentMap = before.attachmentMap

namespace SenderFrame

variable {files middle after : Files}

theorem refl : SenderFrame files files where
  incomingActive := rfl
  receiver := rfl
  sessionReceivedBytes := rfl
  nextSerial := Nat.le_refl _
  effects := ⟨[], (List.append_nil _).symm, by simp⟩
  attachments := rfl

theorem trans (first : SenderFrame files middle) (second : SenderFrame middle after) :
    SenderFrame files after where
  incomingActive := second.incomingActive.trans first.incomingActive
  receiver := second.receiver.trans first.receiver
  sessionReceivedBytes := second.sessionReceivedBytes.trans first.sessionReceivedBytes
  nextSerial := Nat.le_trans first.nextSerial second.nextSerial
  effects := by
    obtain ⟨earlier, isMiddle, ownEarlier⟩ := first.effects
    obtain ⟨later, isAfter, ownLater⟩ := second.effects
    refine ⟨earlier ++ later, by rw [isAfter, isMiddle, List.append_assoc], ?_⟩
    intro effect isEffect
    rcases List.mem_append.mp isEffect with isEarlier | isLater
    · exact ownEarlier effect isEarlier
    · exact ownLater effect isLater
  attachments := second.attachments.trans first.attachments

/-- The sender changes its own variables and the transfer it sends. -/
theorem of_own
    (transferActive : Option TransferState)
    (sender : SenderState)
    (created : Bool) :
    SenderFrame files
      { files with transferActive, sender, senderCreated := created } :=
  { refl with }

theorem emit {effect : FileEffect} (own : ¬ IsReceiverEffect effect) :
    SenderFrame files (files.emit effect) where
  incomingActive := rfl
  receiver := rfl
  sessionReceivedBytes := rfl
  nextSerial := Nat.le_refl _
  effects := by
    refine ⟨[effect], rfl, ?_⟩
    intro other isEffect
    rw [List.mem_singleton] at isEffect
    rw [isEffect]
    exact own
  attachments := rfl

theorem arm (due : Nat) (kind : FileTimerKind) : SenderFrame files (files.arm due kind) :=
  { refl with nextSerial := Nat.le_succ _ }

theorem finishWithEvent (event : SystemEventKind) (worker : Option Serial) :
    SenderFrame files (files.finishWithEvent event worker) := by
  unfold Files.finishWithEvent
  dsimp only
  split
  · exact ((emit id).trans (of_own none _ _)).trans (emit id)
  · exact (of_own none _ _).trans (emit id)

theorem sendCancelAsSender (tid : Text) (reason : FileCancelReason) :
    SenderFrame files (files.sendCancelAsSender tid reason) :=
  emit id

/-- A cancellation told to the peer. -/
theorem cancelled (tid : Text) (reason : FileCancelReason) (event : SystemEventKind)
    (worker : Option Serial) :
    SenderFrame files ((files.sendCancelAsSender tid reason).finishWithEvent event worker) :=
  (sendCancelAsSender tid reason).trans (finishWithEvent event worker)

theorem handleWorkerFatal (worker : Serial) :
    SenderFrame files (files.handleWorkerFatal worker) := by
  unfold Files.handleWorkerFatal
  split
  · exact refl
  · split
    · exact refl
    · exact cancelled _ _ _ _

theorem advanceSentBytes (tid : Text) (dataLength : Nat) :
    SenderFrame files (files.advanceSentBytes tid dataLength) := by
  unfold Files.advanceSentBytes
  split
  · split
    · exact of_own _ _ _
    · exact refl
  · exact refl

theorem finalizeSendAfterDrain (env : FileEnv) (worker : Serial) (tid sha256Hex : Text) :
    SenderFrame files (files.finalizeSendAfterDrain env worker tid sha256Hex) := by
  unfold Files.finalizeSendAfterDrain
  split
  · split
    · have sent : SenderFrame files
          ((files.emit (.sendEnvelope (.fileComplete tid sha256Hex) .discard)).emit
            (.postToSendWorker worker .abort)) :=
        (emit id).trans (emit id)
      exact ((sent.trans (of_own _ _ _)).trans (arm _ _)).trans (of_own _ _ _)
    · exact refl
  · exact refl

theorem endSendLoop : SenderFrame files files.endSendLoop :=
  of_own _ _ _

theorem sleepInSendLoop (env : FileEnv) (worker : Serial) (tid : Text) :
    SenderFrame files (files.sleepInSendLoop env worker tid) :=
  arm _ _

theorem sendLoopTurn (env : FileEnv) (worker : Serial) (tid : Text) :
    SenderFrame files (files.sendLoopTurn env worker tid) := by
  unfold Files.sendLoopTurn
  split
  · exact endSendLoop
  · split
    · split
      · exact sleepInSendLoop env worker tid
      · split
        · exact (of_own _ _ _).trans (emit id)
        · split
          · exact (finalizeSendAfterDrain env worker tid _).trans endSendLoop
          · exact sleepInSendLoop env worker tid
    · exact (cancelled _ _ _ _).trans endSendLoop

theorem runSendLoop (env : FileEnv) (worker : Serial) (tid : Text) :
    SenderFrame files (files.runSendLoop env worker tid) :=
  (of_own _ _ _).trans (sendLoopTurn env worker tid)

theorem chunkSent
    (env : FileEnv)
    (worker : Serial)
    (tid : Text)
    (dataLength : Nat)
    (sent : Bool) :
    SenderFrame files (files.chunkSent env worker tid dataLength sent) := by
  unfold Files.chunkSent
  split
  · exact (finishWithEvent _ _).trans endSendLoop
  · split
    · exact (advanceSentBytes _ _).trans (sendLoopTurn _ _ _)
    · split
      · exact ((emit id).trans (advanceSentBytes _ _)).trans (sendLoopTurn _ _ _)
      · exact (cancelled _ _ _ _).trans endSendLoop

theorem handleSendWorkerMessage (message : SendWorkerOut) (worker : Serial) :
    SenderFrame files (files.handleSendWorkerMessage message worker) := by
  unfold Files.handleSendWorkerMessage
  split
  · exact refl
  · cases message with
    | plaintextChunk => exact of_own _ _ _
    | final =>
        change SenderFrame files (files.onWorkerFinal _ worker)
        unfold onWorkerFinal
        split
        · split
          · exact of_own _ _ _
          · exact refl
        · exact refl
    | fatal => exact handleWorkerFatal worker
    | ready | closed => exact refl

theorem initialiseWorker (env : FileEnv) (tid name : Text) (size : Nat) :
    SenderFrame files (files.initialiseWorker env tid name size) := by
  unfold Files.initialiseWorker
  split
  · exact finishWithEvent _ _
  · have spawned : SenderFrame files
        { files with
          nextSerial := files.nextSerial + 1
          sender := { files.sender with activeWorker := some files.nextSerial } } :=
      { refl with nextSerial := Nat.le_succ _ }
    dsimp only
    split
    · exact spawned.trans (finishWithEvent _ _)
    · exact (spawned.trans (of_own _ _ _)).trans (emit id)

theorem onFileAcceptReceived (env : FileEnv) (tid : Text) :
    SenderFrame files (files.onFileAcceptReceived env tid) := by
  unfold Files.onFileAcceptReceived
  split
  · split
    · exact initialiseWorker _ _ _ _
    · exact refl
  · exact refl

theorem senderWorkerReady (env : FileEnv) (init : SenderInit) (ready : Bool) :
    SenderFrame files (files.senderWorkerReady env init ready) := by
  unfold Files.senderWorkerReady
  split
  · split
    · exact cancelled _ _ _ _
    · exact refl
  · split
    · split
      · dsimp only
        split
        · exact of_own _ _ _
        · exact (of_own _ _ _).trans (runSendLoop _ _ _)
      · exact emit id
    · exact emit id

theorem settleSenderInit (env : FileEnv) (worker : Serial) (ready : Bool) :
    SenderFrame files (files.settleSenderInit env worker ready) := by
  unfold Files.settleSenderInit
  split
  · exact refl
  · exact (of_own _ _ _).trans (senderWorkerReady _ _ _)

theorem cancelActiveAsSender (reason : FileCancelReason) :
    SenderFrame files (files.cancelActiveAsSender reason) := by
  unfold Files.cancelActiveAsSender
  split
  · exact refl
  · exact cancelled _ _ _ _

theorem startTransfer (env : FileEnv) (file : LocalFile) (tid : Text) :
    SenderFrame files (files.startTransfer env file tid) := by
  unfold Files.startTransfer
  split
  · exact refl
  · split
    · exact emit id
    · split
      · exact emit id
      · exact (((arm _ _).trans (of_own _ _ _)).trans (emit id)).trans (emit id)

theorem offerSent (tid : Text) (sent : Bool) :
    SenderFrame files (files.offerSent tid sent) := by
  unfold Files.offerSent
  split
  · exact of_own none _ _
  · exact refl

theorem offeredTimeout (tid : Text) : SenderFrame files (files.offeredTimeout tid) := by
  unfold Files.offeredTimeout
  split
  · split
    · exact ((sendCancelAsSender _ _).trans (of_own none _ _)).trans (emit id)
    · exact refl
  · exact refl

theorem terminateActiveWorker : SenderFrame files files.terminateActiveWorker := by
  unfold Files.terminateActiveWorker
  split
  · exact emit id
  · exact refl

theorem senderPageHide (env : FileEnv) : SenderFrame files (files.senderPageHide env) := by
  unfold Files.senderPageHide
  split
  · exact refl
  · dsimp only
    split
    · exact ((sendCancelAsSender _ _).trans terminateActiveWorker).trans (of_own none _ _)
    · exact terminateActiveWorker.trans (of_own none _ _)

theorem senderOnWsClose : SenderFrame files files.senderOnWsClose := by
  unfold Files.senderOnWsClose
  split
  · exact refl
  · exact refl
  · exact (terminateActiveWorker.trans (of_own none _ _)).trans (emit id)

theorem senderShutdown : SenderFrame files files.senderShutdown :=
  terminateActiveWorker.trans (of_own none _ false)

end SenderFrame

end Files

end Unseen
