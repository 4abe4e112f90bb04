import Unseen.FilePage

namespace Unseen

/-!
# Success of sent files

The sender keeps a reference to a sent file as an attachment when the transfer
succeeded.  The receiver's acknowledgement is one way to get there.  The other
one is the timer of the verifying phase: it counts an acknowledgement that
never came as a success, and so hides a `file_complete` that was refused.
-/

namespace Files

/-- What a segment of the receiver leaves alone of the sender. -/
structure ReceiverFrame (before after : Files) : Prop where
  transferActive : after.transferActive = before.transferActive
  sender : after.sender = before.sender
  nextSerial : before.nextSerial ≤ after.nextSerial
  attachments : ∀ {tid file name size},
    (tid, AttachmentRecord.sender file name size) ∈ after.attachmentMap →
      (tid, AttachmentRecord.sender file name size) ∈ before.attachmentMap

namespace ReceiverFrame

variable {files middle after : Files}

theorem refl : ReceiverFrame files files where
  transferActive := rfl
  sender := rfl
  nextSerial := Nat.le_refl _
  attachments := id

theorem trans (first : ReceiverFrame files middle) (second : ReceiverFrame middle after) :
    ReceiverFrame files after where
  transferActive := second.transferActive.trans first.transferActive
  sender := second.sender.trans first.sender
  nextSerial := Nat.le_trans first.nextSerial second.nextSerial
  attachments := first.attachments ∘ second.attachments

/-- The receiver changes its own variables and the transfer it receives, and may start a
worker or arm a timer. -/
theorem of_spawning
    (incomingActive : Option IncomingState)
    (receiver : ReceiverState)
    (sessionReceivedBytes : Nat)
    (created : Bool)
    (timers : List FileTimer)
    (effects : List FileEffect)
    {nextSerial : Serial}
    (later : files.nextSerial ≤ nextSerial) :
    ReceiverFrame files
      { files with
        incomingActive, receiver, sessionReceivedBytes, receiverCreated := created, timers
        nextSerial, effects } where
  transferActive := rfl
  sender := rfl
  nextSerial := later
  attachments := id

theorem of_own
    (incomingActive : Option IncomingState)
    (receiver : ReceiverState)
    (sessionReceivedBytes : Nat)
    (created : Bool)
    (timers : List FileTimer)
    (effects : List FileEffect) :
    ReceiverFrame files
      { files with
        incomingActive, receiver, sessionReceivedBytes, receiverCreated := created, timers
        effects } :=
  of_spawning _ _ _ _ _ _ (Nat.le_refl _)

theorem emit (effect : FileEffect) : ReceiverFrame files (files.emit effect) :=
  of_own _ _ _ _ _ _

theorem clearOfferTimer : ReceiverFrame files files.clearOfferTimer := by
  unfold Files.clearOfferTimer
  split <;> exact of_own _ _ _ _ _ _

theorem clearStallTimer : ReceiverFrame files files.clearStallTimer := by
  unfold Files.clearStallTimer
  split <;> exact of_own _ _ _ _ _ _

theorem resetTransferLocals : ReceiverFrame files files.resetTransferLocals :=
  (trans (of_own _ _ _ _ _ _) clearOfferTimer).trans clearStallTimer

/-- The incoming transfer ends. -/
theorem ended : ReceiverFrame files { files with incomingActive := none }.resetTransferLocals :=
  (of_own _ _ _ _ _ _).trans resetTransferLocals

theorem finishTransfer (event : SystemEventKind) :
    ReceiverFrame files (files.finishTransfer event) :=
  ended.trans (emit _)

theorem integrityFailureAbort (state : ReceivingState) :
    ReceiverFrame files (files.integrityFailureAbort state) :=
  (((emit _).trans (emit _)).trans (emit _)).trans (finishTransfer _)

theorem declineAndReset (tid : Text) (worker : Option Serial) :
    ReceiverFrame files (files.declineAndReset tid worker) := by
  unfold Files.declineAndReset
  dsimp only
  split
  · exact ((emit _).trans (emit _)).trans ended
  · exact (emit _).trans ended

theorem installOfferTimeout (env : FileEnv) (tid : Text) :
    ReceiverFrame files (files.installOfferTimeout env tid) :=
  clearOfferTimer.trans (of_spawning _ _ _ _ _ _ (Nat.le_succ _))

theorem offerPendingTimeout (tid : Text) :
    ReceiverFrame files (files.offerPendingTimeout tid) := by
  unfold Files.offerPendingTimeout
  dsimp only
  split
  · split
    · exact ((of_own _ _ _ _ _ _).trans resetTransferLocals).trans (emit _)
    · exact of_own _ _ _ _ _ _
  · exact of_own _ _ _ _ _ _

theorem evaluatePreAccept (tid name : Text) (size : Nat) :
    ReceiverFrame files (files.evaluatePreAccept tid name size).1 := by
  unfold Files.evaluatePreAccept
  split
  · exact refl
  · split
    · exact refl
    · split
      · exact refl
      · split
        · exact refl
        · split
          · exact refl
          · split
            · split
              · exact refl
              · exact of_own _ _ _ _ _ _
            · split
              · exact refl
              · split <;> exact refl

theorem dispatchOffer (env : FileEnv) (tid name : Text) (size : Nat) :
    ReceiverFrame files (files.dispatchOffer env tid name size) := by
  have evaluates : ReceiverFrame files (files.evaluatePreAccept tid name size).1 :=
    evaluatePreAccept tid name size
  unfold Files.dispatchOffer
  split
  next evaluated reason isVerdict =>
    rw [isVerdict] at evaluates
    exact evaluates.trans (emit _)
  next evaluated sanitisedName isVerdict =>
    rw [isVerdict] at evaluates
    exact ((evaluates.trans (of_spawning _ _ _ _ _ _ (Nat.le_succ _))).trans (emit _)).trans
      (installOfferTimeout _ _)

theorem maybeFinalize (state : ReceivingState) :
    ReceiverFrame files (files.maybeFinalize state).1 := by
  unfold Files.maybeFinalize
  split
  · exact emit _
  · exact refl

theorem maybeSendProgress (env : FileEnv) (state : ReceivingState) :
    ReceiverFrame files (files.maybeSendProgress env state) := by
  unfold Files.maybeSendProgress
  split
  · exact refl
  · split
    · exact refl
    · exact of_own _ _ _ _ _ _

theorem notifyReceiveProgress (state : ReceivingState) :
    ReceiverFrame files (files.notifyReceiveProgress state) := by
  unfold Files.notifyReceiveProgress
  dsimp only
  split
  · split
    · exact of_own _ _ _ _ _ _
    · exact refl
  · exact of_own _ _ _ _ _ _

theorem postChunkToWorker (env : FileEnv) (state : ReceivingState) (seq : Nat) (data : Bytes) :
    ReceiverFrame files (files.postChunkToWorker env state seq data).1 := by
  unfold Files.postChunkToWorker
  split
  · exact emit _
  · exact integrityFailureAbort _

theorem handleWorkerWritten (env : FileEnv) (state : ReceivingState) (bytes : Nat) :
    ReceiverFrame files (files.handleWorkerWritten env state bytes) := by
  unfold Files.handleWorkerWritten
  dsimp only
  split
  · exact (((postChunkToWorker _ _ _ _).trans (maybeSendProgress _ _)).trans
      (maybeFinalize _)).trans (notifyReceiveProgress _)
  · exact ((maybeSendProgress _ _).trans (maybeFinalize _)).trans (notifyReceiveProgress _)

/-- An attachment from the OPFS replaces at most an entry of its own id. -/
theorem setAttachment (tid name : Text) (size : Nat) :
    ReceiverFrame files (files.setAttachment tid (.opfs name size)) where
  transferActive := rfl
  sender := rfl
  nextSerial := Nat.le_refl _
  attachments := by
    intro other file otherName otherSize isEntry
    rcases List.mem_append.mp isEntry with kept | new
    · exact (List.mem_filter.mp kept).1
    · simp at new

theorem handleWorkerDone
    (state : ReceivingState)
    (sha256Hex : Text)
    (bytesWritten fileSize : Nat) :
    ReceiverFrame files (files.handleWorkerDone state sha256Hex bytesWritten fileSize) := by
  unfold Files.handleWorkerDone
  split
  · exact (((setAttachment _ _ _).trans (of_own _ _ _ _ _ _)).trans resetTransferLocals).trans
      (emit _)
  · exact ((emit _).trans (emit _)).trans (of_own _ _ _ _ _ _)

theorem workerDoneCleanedUp (tid : Text) :
    ReceiverFrame files (files.workerDoneCleanedUp tid) := by
  unfold Files.workerDoneCleanedUp
  split
  · exact (of_own _ _ _ _ _ _).trans (finishTransfer _)
  · exact refl

theorem handleReceiveWorkerMessage
    (env : FileEnv)
    (message : ReceiveWorkerOut)
    (worker : Serial) :
    ReceiverFrame files (files.handleReceiveWorkerMessage env message worker) := by
  unfold Files.handleReceiveWorkerMessage
  split
  · exact refl
  · split
    · exact refl
    · split
      · exact refl
      · exact refl
      · exact handleWorkerWritten _ _ _
      · exact handleWorkerDone _ _ _ _
      · exact integrityFailureAbort _
      · exact integrityFailureAbort _

theorem endAccept : ReceiverFrame files files.endAccept :=
  of_own _ _ _ _ _ _

theorem runAcceptOffer (env : FileEnv) (offer : PendingOffer) :
    ReceiverFrame files (files.runAcceptOffer env offer) := by
  unfold Files.runAcceptOffer
  split
  · exact (declineAndReset _ _).trans endAccept
  · split
    · exact (declineAndReset _ _).trans endAccept
    · dsimp only
      split
      · exact ((of_spawning _ _ _ _ _ _ (Nat.le_succ _)).trans (declineAndReset _ _)).trans endAccept
      · exact (of_spawning _ _ _ _ _ _ (Nat.le_succ _)).trans (emit _)

theorem acceptOffer (env : FileEnv) : ReceiverFrame files (files.acceptOffer env) := by
  unfold Files.acceptOffer
  split
  · split
    · exact refl
    · exact (of_own _ _ _ _ _ _).trans (runAcceptOffer _ _)
  · exact refl

theorem abandonAccept (offer : PendingOffer) (worker : Serial) :
    ReceiverFrame files (files.abandonAccept offer worker) :=
  ((emit _).trans (emit _)).trans endAccept

theorem receiverWorkerReady (init : ReceiverInit) (ready : Bool) :
    ReceiverFrame files (files.receiverWorkerReady init ready) := by
  unfold Files.receiverWorkerReady
  split
  · exact abandonAccept _ _
  · split
    · exact (declineAndReset _ _).trans endAccept
    · exact clearOfferTimer.trans (emit _)

theorem settleReceiverInit (worker : Serial) (ready : Bool) :
    ReceiverFrame files (files.settleReceiverInit worker ready) := by
  unfold Files.settleReceiverInit
  split
  · exact refl
  · split
    · exact (of_own _ _ _ _ _ _).trans (receiverWorkerReady _ _)
    · exact refl

theorem acceptSent (env : FileEnv) (offer : PendingOffer) (worker : Serial) (sent : Bool) :
    ReceiverFrame files (files.acceptSent env offer worker sent) := by
  unfold Files.acceptSent
  split
  · exact abandonAccept _ _
  · split
    · exact ((emit _).trans (installOfferTimeout _ _)).trans endAccept
    · exact of_spawning _ _ _ _ _ _ (Nat.le_succ _)

theorem receiveStallTimeout (tid : Text) :
    ReceiverFrame files (files.receiveStallTimeout tid) := by
  unfold Files.receiveStallTimeout
  dsimp only
  split
  · exact of_own _ _ _ _ _ _
  · split
    · exact (of_own _ _ _ _ _ _).trans (integrityFailureAbort _)
    · exact of_own _ _ _ _ _ _

theorem declineOffer : ReceiverFrame files files.declineOffer := by
  unfold Files.declineOffer
  split
  · exact (emit _).trans (finishTransfer _)
  · exact refl

theorem cancelActiveAsReceiver (reason : FileCancelReason) :
    ReceiverFrame files (files.cancelActiveAsReceiver reason) := by
  unfold Files.cancelActiveAsReceiver
  split
  · exact refl
  · exact declineOffer
  · exact (((emit _).trans (emit _)).trans (emit _)).trans (finishTransfer _)

theorem receiveChunk (env : FileEnv) (parsed : ParsedChunk) :
    ReceiverFrame files (files.receiveChunk env parsed) := by
  unfold Files.receiveChunk
  split
  · exact refl
  next active _ =>
    split
    · exact refl
    · dsimp only
      have cleared : ReceiverFrame files
          (if parsed.seq = 0 then files.clearStallTimer else files) := by
        split
        · exact clearStallTimer
        · exact refl
      generalize (if parsed.seq = 0 then files.clearStallTimer else files) = clearedFiles
        at cleared
      split
      · exact integrityFailureAbort _
      · split
        · exact integrityFailureAbort _
        · split
          · split
            · exact cleared.trans (of_own _ _ _ _ _ _)
            · exact cleared.trans (integrityFailureAbort _)
          · exact cleared.trans (of_own _ _ _ _ _ _)

theorem dispatchComplete (tid sha256 : Text) :
    ReceiverFrame files (files.dispatchComplete tid sha256) := by
  unfold Files.dispatchComplete
  split
  · exact refl
  · split
    · exact refl
    · split
      · exact integrityFailureAbort _
      · exact (maybeFinalize _).trans (of_own _ _ _ _ _ _)

theorem dispatchCancel (tid : Text) (side : FileCancelSide) (reason : FileCancelReason) :
    ReceiverFrame files (files.dispatchCancel tid side reason) := by
  unfold Files.dispatchCancel
  split
  · exact refl
  · split
    · exact refl
    · split
      · exact refl
      · dsimp only
        split
        · exact finishTransfer _
        · exact ((emit _).trans (emit _)).trans (finishTransfer _)

theorem receiverPageHide : ReceiverFrame files files.receiverPageHide := by
  unfold Files.receiverPageHide
  split
  · exact refl
  · exact ended
  · exact ((emit _).trans (emit _)).trans ended

theorem receiverOnWsClose : ReceiverFrame files files.receiverOnWsClose := by
  unfold Files.receiverOnWsClose
  split
  · exact ((emit _).trans ended).trans (emit _)
  · exact refl

theorem receiverShutdown : ReceiverFrame files files.receiverShutdown := by
  unfold Files.receiverShutdown
  dsimp only
  split
  · exact ((emit _).trans (of_own _ _ _ _ _ _)).trans resetTransferLocals
  · exact (of_own _ _ _ _ _ _).trans resetTransferLocals

end ReceiverFrame

/-! ## Where attachments of sent files come from -/

/-- The files that a page keeps for a transfer it sent. -/
def KeepsSent (files : Files) (tid : Text) : Prop :=
  ∃ file name size, (tid, AttachmentRecord.sender file name size) ∈ files.attachmentMap

/-- The transfer is in its verifying phase. -/
def Verifying (files : Files) (tid : Text) : Prop :=
  ∃ name size, files.transferActive = some (.verifying tid name size)

variable {files after : Files} {tid other : Text}

theorem SenderFrame.keepsSent
    (frame : SenderFrame files after)
    (keeps : after.KeepsSent tid) :
    files.KeepsSent tid := by
  obtain ⟨file, name, size, isEntry⟩ := keeps
  exact ⟨file, name, size, frame.attachments ▸ isEntry⟩

theorem ReceiverFrame.keepsSent
    (frame : ReceiverFrame files after)
    (keeps : after.KeepsSent tid) :
    files.KeepsSent tid := by
  obtain ⟨file, name, size, isEntry⟩ := keeps
  exact ⟨file, name, size, frame.attachments isEntry⟩

/-- A call of a machine that may not have been created. -/
theorem keepsSent_of_created
    {created : Bool}
    (keeps : (if created then after else files).KeepsSent tid)
    (called : after.KeepsSent tid → files.KeepsSent tid) :
    files.KeepsSent tid := by
  cases created with
  | true => exact called keeps
  | false => exact keeps

/-- `finalizeVerifyingAsSuccess` ends exactly a transfer that is verifying. -/
theorem finalizeVerifyingAsSuccess_of_verifying
    {name : Text}
    {size : Nat}
    (verifying : files.Verifying tid) :
    (files.finalizeVerifyingAsSuccess tid name size).transferActive = none ∧
      (files.finalizeVerifyingAsSuccess tid name size).effects = files.effects := by
  obtain ⟨currentName, currentSize, isActive⟩ := verifying
  unfold finalizeVerifyingAsSuccess
  rw [isActive]
  dsimp only
  rw [if_pos rfl]
  cases files.sender.senderFileRef with
  | none => exact ⟨rfl, rfl⟩
  | some => exact ⟨rfl, rfl⟩

theorem finalizeVerifyingAsSuccess_of_not_verifying
    {name : Text}
    {size : Nat}
    (notVerifying : ¬ files.Verifying tid) :
    files.finalizeVerifyingAsSuccess tid name size = files := by
  unfold finalizeVerifyingAsSuccess
  split
  next current currentName currentSize isActive =>
    have different : current ≠ tid := by
      rintro rfl
      exact notVerifying ⟨currentName, currentSize, isActive⟩
    rw [if_neg different]
  next => rfl

/-- It registers nothing but the transfer that was verifying. -/
theorem finalizeVerifyingAsSuccess_keepsSent
    {name : Text}
    {size : Nat}
    (keeps : (files.finalizeVerifyingAsSuccess tid name size).KeepsSent other) :
    files.KeepsSent other ∨ other = tid ∧ files.Verifying tid := by
  by_cases verifying : files.Verifying tid
  · obtain ⟨currentName, currentSize, isActive⟩ := verifying
    unfold finalizeVerifyingAsSuccess at keeps
    rw [isActive] at keeps
    dsimp only at keeps
    rw [if_pos rfl] at keeps
    obtain ⟨file, entryName, entrySize, isEntry⟩ := keeps
    cases isFile : files.sender.senderFileRef with
    | none =>
        rw [isFile] at isEntry
        exact .inl ⟨file, entryName, entrySize, isEntry⟩
    | some senderFile =>
        rw [isFile] at isEntry
        rcases List.mem_append.mp isEntry with kept | new
        · exact .inl ⟨file, entryName, entrySize, (List.mem_filter.mp kept).1⟩
        · rw [List.mem_singleton, Prod.mk.injEq] at new
          exact .inr ⟨new.1, currentName, currentSize, isActive⟩
  · rw [finalizeVerifyingAsSuccess_of_not_verifying verifying] at keeps
    exact .inl keeps

/-- An envelope of the peer registers a sent file only as the acknowledgement
of a transfer that is verifying. -/
theorem dispatchFromReceiver_keepsSent
    {env : FileEnv}
    {envelope : PlaintextEnvelope}
    (keeps : (files.dispatchFromReceiver env envelope).KeepsSent tid) :
    files.KeepsSent tid ∨ envelope = .fileCompleteAck tid ∧ files.Verifying tid := by
  unfold dispatchFromReceiver at keeps
  split at keeps
  · exact .inl keeps
  next current isActive =>
    split at keeps
    · split at keeps
      · exact .inl ((SenderFrame.onFileAcceptReceived _ _).keepsSent keeps)
      · exact .inl keeps
    · split at keeps
      · exact .inl ((SenderFrame.finishWithEvent _ _).keepsSent keeps)
      · exact .inl keeps
    next acked =>
      split at keeps
      next isCurrent =>
        split at keeps
        next currentTid name size =>
          rcases finalizeVerifyingAsSuccess_keepsSent keeps with before | ⟨rfl, verifying⟩
          · exact .inl before
          · exact .inr ⟨congrArg _ isCurrent, verifying⟩
        next => exact .inl keeps
      next => exact .inl keeps
    · split at keeps
      · exact .inl ((SenderFrame.finishWithEvent _ _).keepsSent keeps)
      · exact .inl keeps
    · exact .inl keeps

theorem routeFileCancel_keepsSent
    {env : FileEnv}
    {cancelled : Text}
    {side : FileCancelSide}
    {reason : FileCancelReason}
    (keeps : (files.routeFileCancel env cancelled side reason).KeepsSent tid) :
    files.KeepsSent tid := by
  unfold routeFileCancel at keeps
  split at keeps
  · split at keeps
    · rcases dispatchFromReceiver_keepsSent keeps with before | ⟨isAck, _⟩
      · exact before
      · cases isAck
    · exact keeps
  · split at keeps
    · exact (ReceiverFrame.dispatchCancel _ _ _).keepsSent keeps
    · exact keeps

theorem dispatchFileEnvelope_keepsSent
    {env : FileEnv}
    {envelope : PlaintextEnvelope}
    (keeps : (files.dispatchFileEnvelope env envelope).KeepsSent tid) :
    files.KeepsSent tid ∨ envelope = .fileCompleteAck tid ∧ files.Verifying tid := by
  unfold dispatchFileEnvelope at keeps
  split at keeps
  · split at keeps
    · exact .inl ((ReceiverFrame.dispatchOffer _ _ _ _).keepsSent keeps)
    · exact .inl keeps
  · split at keeps
    · exact .inl ((ReceiverFrame.dispatchComplete _ _).keepsSent keeps)
    · exact .inl keeps
  · exact .inl (routeFileCancel_keepsSent keeps)
  · split at keeps
    · exact dispatchFromReceiver_keepsSent keeps
    · exact .inl keeps

theorem resume_keepsSent
    {env : FileEnv}
    {continuation : FileCont}
    {sent : Bool}
    (keeps : (files.resume env continuation sent).KeepsSent tid) :
    files.KeepsSent tid := by
  cases continuation with
  | discard => exact keeps
  | offerSent => exact (SenderFrame.offerSent _ _).keepsSent keeps
  | chunkSent => exact (SenderFrame.chunkSent _ _ _ _ _).keepsSent keeps
  | acceptSent => exact (ReceiverFrame.acceptSent _ _ _ _).keepsSent keeps

/-- The timer of the verifying phase fires while its transfer is verifying. -/
def VerifyingTimesOut (files : Files) (env : FileEnv) (tid : Text) : Event → Prop
  | .timer id =>
      (∃ timer name size, files.timers.find? (fun timer => timer.id == id) = some timer ∧
        timer.due ≤ env.now ∧ timer.kind = .verifying tid name size) ∧ files.Verifying tid
  | _ => False

theorem fireTimer_keepsSent
    {env : FileEnv}
    {kind : FileTimerKind}
    (keeps : (files.fireTimer env kind).KeepsSent tid) :
    files.KeepsSent tid ∨ (∃ name size, kind = .verifying tid name size) ∧
      files.Verifying tid := by
  cases kind with
  | offered => exact .inl ((SenderFrame.offeredTimeout _).keepsSent keeps)
  | verifying timed name size =>
      rcases finalizeVerifyingAsSuccess_keepsSent keeps with before | ⟨rfl, verifying⟩
      · exact .inl before
      · exact .inr ⟨⟨name, size, rfl⟩, verifying⟩
  | offerPending => exact .inl ((ReceiverFrame.offerPendingTimeout _).keepsSent keeps)
  | receiveStall => exact .inl ((ReceiverFrame.receiveStallTimeout _).keepsSent keeps)
  | sendLoopPoll => exact .inl ((SenderFrame.sendLoopTurn _ _ _).keepsSent keeps)

theorem handle_keepsSent
    {env : FileEnv}
    {event : Event}
    (keeps : (files.handle env event).KeepsSent tid) :
    files.KeepsSent tid ∨ files.VerifyingTimesOut env tid event := by
  cases event with
  | sendWorkerMessage worker message =>
      left
      have handles : SenderFrame files (files.handleSendWorkerMessage message worker) :=
        SenderFrame.handleSendWorkerMessage message worker
      cases message with
      | ready | fatal =>
          exact (handles.trans (SenderFrame.settleSenderInit _ _ _)).keepsSent keeps
      | plaintextChunk | final | closed => exact handles.keepsSent keeps
  | sendWorkerError worker =>
      exact .inl (((SenderFrame.handleWorkerFatal _).trans
        (SenderFrame.settleSenderInit _ _ _)).keepsSent keeps)
  | sendWorkerReadyTimeout worker =>
      exact .inl ((SenderFrame.settleSenderInit _ _ _).keepsSent keeps)
  | receiveWorkerMessage worker message =>
      left
      have handles : ReceiverFrame files (files.handleReceiveWorkerMessage env message worker) :=
        ReceiverFrame.handleReceiveWorkerMessage env message worker
      cases message with
      | ready | fatal =>
          exact (handles.trans (ReceiverFrame.settleReceiverInit _ _)).keepsSent keeps
      | written | shortWrite | done | closed => exact handles.keepsSent keeps
  | receiveWorkerError worker =>
      left
      obtain ⟨aborted, isAborted, isHandled⟩ := handle_receiveWorkerError files env worker
      rw [isHandled] at keeps
      have handles : ReceiverFrame files aborted := by
        rcases isAborted with rfl | ⟨state, rfl⟩
        · exact ReceiverFrame.refl
        · exact ReceiverFrame.integrityFailureAbort state
      exact (handles.trans (ReceiverFrame.settleReceiverInit _ _)).keepsSent keeps
  | receiveWorkerReadyTimeout worker =>
      exact .inl ((ReceiverFrame.settleReceiverInit _ _).keepsSent keeps)
  | cleanedUp => exact .inl ((ReceiverFrame.workerDoneCleanedUp _).keepsSent keeps)
  | timer id =>
      unfold handle at keeps
      dsimp only at keeps
      split at keeps
      · exact .inl keeps
      next timer isTimer =>
        split at keeps
        next isDue =>
          rcases fireTimer_keepsSent keeps with before | ⟨⟨name, size, isKind⟩, verifying⟩
          · exact .inl before
          · exact .inr ⟨⟨timer, name, size, isTimer, isDue, isKind⟩, verifying⟩
        next => exact .inl keeps
  | initialised => exact .inl keeps

end Files

/-! ## Steps of the page -/

namespace FilePage

variable {page : FilePage} {input : FileInput} {tid : Text}

/-- The step fires the timer of the verifying phase of a transfer in it. -/
def TimesOut (page : FilePage) (input : FileInput) (tid : Text) : Prop :=
  match input.call with
  | .event event => page.files.VerifyingTimesOut input.env tid event
  | _ => False

/-- The step refuses the `file_complete` of a transfer that is verifying. -/
def RefusesComplete (page : FilePage) (input : FileInput) (tid : Text) : Prop :=
  match input.call with
  | .settled index false =>
      (∃ sha256, page.pending[index]? = some (.envelope (.fileComplete tid sha256) .discard)) ∧
        page.files.Verifying tid
  | _ => False

/-- The transfer that was sent has ended, as a failure. -/
def SendFailed (page : FilePage) : Prop :=
  page.files.transferActive = none ∧
    FileEffect.appendSystemEvent .fileTransferFailed ∈ page.out

theorem step_keepsSent (keeps : (page.step input).files.KeepsSent tid) :
    page.files.KeepsSent tid ∨
      input.call = .envelope (.fileCompleteAck tid) ∧ page.files.Verifying tid ∨
      page.TimesOut input tid := by
  have segmentKeeps : (page.segment input.env input.call).KeepsSent tid := keeps
  obtain ⟨call, env⟩ := input
  dsimp only at segmentKeeps
  unfold segment at segmentKeeps
  dsimp only at segmentKeeps
  cases call with
  | envelope content =>
      rcases Files.dispatchFileEnvelope_keepsSent segmentKeeps with before | ⟨isAck, verifying⟩
      · exact .inl before
      · exact .inr (.inl ⟨congrArg _ isAck, verifying⟩)
  | event event =>
      rcases Files.handle_keepsSent segmentKeeps with before | timesOut
      · exact .inl before
      · exact .inr (.inr timesOut)
  | settled index sent =>
      left
      dsimp only at segmentKeeps
      split at segmentKeeps
      · exact segmentKeeps
      · exact Files.resume_keepsSent segmentKeeps
  | resetOnTerminate =>
      obtain ⟨_, _, _, isEntry⟩ := segmentKeeps
      cases isEntry
  | startTransfer =>
      exact .inl (Files.keepsSent_of_created segmentKeeps
        (Files.SenderFrame.startTransfer _ _ _).keepsSent)
  | cancelSender =>
      exact .inl (Files.keepsSent_of_created segmentKeeps
        (Files.SenderFrame.cancelActiveAsSender _).keepsSent)
  | senderSocketClosed =>
      exact .inl (Files.keepsSent_of_created segmentKeeps
        Files.SenderFrame.senderOnWsClose.keepsSent)
  | senderPageHide =>
      exact .inl (Files.keepsSent_of_created segmentKeeps
        (Files.SenderFrame.senderPageHide _).keepsSent)
  | senderShutdown =>
      exact .inl (Files.keepsSent_of_created segmentKeeps
        Files.SenderFrame.senderShutdown.keepsSent)
  | chunk =>
      exact .inl (Files.keepsSent_of_created segmentKeeps
        (Files.ReceiverFrame.receiveChunk _ _).keepsSent)
  | acceptOffer =>
      exact .inl (Files.keepsSent_of_created segmentKeeps
        (Files.ReceiverFrame.acceptOffer _).keepsSent)
  | declineOffer =>
      exact .inl (Files.keepsSent_of_created segmentKeeps
        Files.ReceiverFrame.declineOffer.keepsSent)
  | cancelReceiver =>
      exact .inl (Files.keepsSent_of_created segmentKeeps
        (Files.ReceiverFrame.cancelActiveAsReceiver _).keepsSent)
  | receiverSocketClosed =>
      exact .inl (Files.keepsSent_of_created segmentKeeps
        Files.ReceiverFrame.receiverOnWsClose.keepsSent)
  | receiverPageHide =>
      exact .inl (Files.keepsSent_of_created segmentKeeps
        Files.ReceiverFrame.receiverPageHide.keepsSent)
  | receiverShutdown =>
      exact .inl (Files.keepsSent_of_created segmentKeeps
        Files.ReceiverFrame.receiverShutdown.keepsSent)

/-! ## Success means acknowledgement -/

/-- The step neither times out a verification nor refuses a `file_complete`. -/
def Answered (page : FilePage) (input : FileInput) : Prop :=
  ∀ tid, ¬ page.TimesOut input tid ∧ ¬ page.RefusesComplete input tid

/-- What success and failure of a sent file should mean in one step. -/
structure HonestStep (page : FilePage) (input : FileInput) : Prop where
  acknowledged : ∀ tid, (page.step input).files.KeepsSent tid → ¬ page.files.KeepsSent tid →
    input.call = .envelope (.fileCompleteAck tid) ∧ page.files.Verifying tid
  timedOut : ∀ tid, page.TimesOut input tid → (page.step input).SendFailed
  refused : ∀ tid, page.RefusesComplete input tid → (page.step input).SendFailed

/-- A verification that times out ends the transfer, but not as a failure. -/
theorem not_sendFailed_of_timesOut
    (quiet : page.files.effects = [])
    (timesOut : page.TimesOut input tid) :
    ¬ (page.step input).SendFailed := by
  obtain ⟨call, env⟩ := input
  cases call with
  | event event =>
      cases event with
      | timer id =>
          obtain ⟨⟨timer, name, size, isTimer, isDue, isKind⟩, verifying⟩ := timesOut
          have fires :
              page.segment env (.event (.timer id)) =
                (page.files.disarm id).finalizeVerifyingAsSuccess tid name size := by
            change page.files.handle env (.timer id) = _
            unfold Files.handle
            dsimp only
            rw [isTimer]
            dsimp only
            rw [if_pos isDue, isKind]
            rfl
          have stillVerifying : (page.files.disarm id).Verifying tid := verifying
          have effects : (page.segment env (.event (.timer id))).effects = [] := by
            rw [fires, (Files.finalizeVerifyingAsSuccess_of_verifying stillVerifying).2]
            exact quiet
          rintro ⟨_, failed⟩
          have isOut : FileEffect.appendSystemEvent .fileTransferFailed ∈
              (page.segment env (.event (.timer id))).effects := failed
          rw [effects] at isOut
          cases isOut
      | _ => cases timesOut
  | _ => cases timesOut

/-- A refused `file_complete` leaves the transfer verifying. -/
theorem not_sendFailed_of_refusesComplete (refuses : page.RefusesComplete input tid) :
    ¬ (page.step input).SendFailed := by
  obtain ⟨call, env⟩ := input
  cases call with
  | settled index sent =>
      cases sent with
      | false =>
          obtain ⟨⟨sha256, isPending⟩, name, size, isActive⟩ := refuses
          have stays : page.segment env (.settled index false) = page.files := by
            unfold segment
            dsimp only
            rw [isPending]
            rfl
          rintro ⟨ended, _⟩
          have isNone : (page.segment env (.settled index false)).transferActive = none := ended
          rw [stays, isActive] at isNone
          cases isNone
      | true => cases refuses
  | _ => cases refuses

theorem honestStep_iff (quiet : page.files.effects = []) :
    page.HonestStep input ↔ page.Answered input := by
  constructor
  · intro honest tid
    constructor
    · intro timesOut
      exact not_sendFailed_of_timesOut quiet timesOut (honest.timedOut tid timesOut)
    · intro refuses
      exact not_sendFailed_of_refusesComplete refuses (honest.refused tid refuses)
  · intro answered
    constructor
    · intro tid keeps keptNot
      rcases step_keepsSent keeps with before | acked | timesOut
      · exact absurd before keptNot
      · exact acked
      · exact absurd timesOut (answered tid).1
    · intro tid timesOut
      exact absurd timesOut (answered tid).1
    · intro tid refuses
      exact absurd refuses (answered tid).2

theorem quiet_of_reachable
    {allowed : FilePage → FileInput → Prop}
    (reachable : machine.Reachable Created allowed page) :
    page.files.effects = [] := by
  cases reachable with
  | start created =>
      obtain ⟨_, _, _, _, rfl⟩ := created
      rfl
  | next => rfl

/-- Every attachment of a sent file goes back to an acknowledgement. -/
theorem acknowledged_of_run
    {inputs : List FileInput}
    (legal : machine.Legal Answered page inputs)
    (keeps : (machine.run page inputs).files.KeepsSent tid) :
    page.files.KeepsSent tid ∨
      ∃ earlier input later, inputs = earlier ++ input :: later ∧
        input.call = .envelope (.fileCompleteAck tid) ∧
        (machine.run page earlier).files.Verifying tid := by
  induction inputs generalizing page with
  | nil => exact .inl keeps
  | cons input rest inductionHypothesis =>
      obtain ⟨_, answered, legalRest⟩ := legal
      rcases inductionHypothesis legalRest keeps with
        keepsNext | ⟨earlier, acked, later, isRest, isAck, verifying⟩
      · rcases step_keepsSent keepsNext with before | ⟨isAck, verifying⟩ | timesOut
        · exact .inl before
        · exact .inr ⟨[], input, rest, rfl, isAck, verifying⟩
        · exact absurd timesOut (answered tid).1
      · exact .inr ⟨input :: earlier, acked, later, by rw [isRest]; rfl, isAck, verifying⟩

/--
In every run in which no verification times out and no `file_complete` is
refused, the attachment of a sent file is registered only by the receiver's
acknowledgement of that transfer while it is verifying.  A step of any run
keeps to this, and ends a timed out or refused transfer as a failure, exactly
if it is neither of the two.
-/
theorem sent_file_acknowledged_unless_timed_out (page : FilePage) :
    (∀ inputs, Created page → machine.Legal Answered page inputs →
      (∀ tid, (machine.run page inputs).files.KeepsSent tid →
        ∃ earlier input later, inputs = earlier ++ input :: later ∧
          input.call = .envelope (.fileCompleteAck tid) ∧
          (machine.run page earlier).files.Verifying tid) ∧
      ∀ earlier input later, inputs = earlier ++ input :: later →
        (machine.run page earlier).HonestStep input) ∧
    ∀ input, machine.Reachable Created EventMachine.Machine.anyStep page →
      machine.enabled page input → (page.HonestStep input ↔ page.Answered input) := by
  constructor
  · intro inputs created legal
    constructor
    · intro tid keeps
      refine (acknowledged_of_run legal keeps).resolve_left ?_
      obtain ⟨_, _, _, _, rfl⟩ := created
      rintro ⟨_, _, _, isEntry⟩
      cases isEntry
    · rintro earlier input later rfl
      obtain ⟨legalEarlier, _, answered, _⟩ := EventMachine.Machine.legal_append.mp legal
      have reachable : machine.Reachable Created Answered (machine.run page earlier) :=
        .run (.start created) legalEarlier
      exact (honestStep_iff (quiet_of_reachable reachable)).mpr answered
  · intro input reachable _
    exact honestStep_iff (quiet_of_reachable reachable)

/-- A file of one byte is offered, accepted, sent and completed. -/
def Sample.sending : List FileInput :=
  [ Sample.call (.startTransfer Sample.file Sample.transferId),
    Sample.call (.settled 0 true),
    Sample.call (.envelope (.fileAccept Sample.transferId)),
    Sample.call (.event (.sendWorkerMessage 1 (.plaintextChunk 0 (List.replicate 13 0)))),
    Sample.call (.event (.sendWorkerMessage 1 .ready)),
    Sample.call (.event (.sendWorkerMessage 1 (.final []))),
    Sample.call (.settled 0 true) ]

/-- The receiver acknowledges the file. -/
theorem sent_file_acknowledged_in_sample :
    ∃ earlier input later,
      Sample.sending ++ [Sample.call (.envelope (.fileCompleteAck Sample.transferId))] =
          earlier ++ input :: later ∧
        input.call = .envelope (.fileCompleteAck Sample.transferId) ∧
        (machine.run Sample.newPage earlier).files.Verifying Sample.transferId :=
  ((sent_file_acknowledged_unless_timed_out Sample.newPage).1
    (Sample.sending ++ [Sample.call (.envelope (.fileCompleteAck Sample.transferId))])
    Sample.created_newPage
    ⟨trivial, fun _ => ⟨id, id⟩, by decide +kernel, fun _ => ⟨id, id⟩, trivial,
      fun _ => ⟨id, id⟩, trivial, fun _ => ⟨id, id⟩, trivial, fun _ => ⟨id, id⟩, trivial,
      fun _ => ⟨id, id⟩, by decide +kernel, fun _ => ⟨id, id⟩, trivial, fun _ => ⟨id, id⟩,
      trivial⟩).1
    Sample.transferId ⟨Sample.file, Sample.file.name, 1, by decide +kernel⟩

/-- The page once the verification of the file has been due for long. -/
def Sample.verificationDue : FileInput where
  call := .event (.timer 2)
  env := { ws := some (.opened, 0), now := 60000, spawnOk := true, streamOk := true, postOk := true }

/-- A verification that times out registers the file without any acknowledgement. -/
theorem timed_out_verification_counts_as_success :
    ¬ ∀ page inputs, Created page →
        machine.Legal EventMachine.Machine.anyStep page inputs →
        ∀ tid, (machine.run page inputs).files.KeepsSent tid →
          ∃ input ∈ inputs, input.call = .envelope (.fileCompleteAck tid) := by
  intro claimed
  obtain ⟨input, isInput, isAck⟩ :=
    claimed Sample.newPage (Sample.sending ++ [Sample.verificationDue]) Sample.created_newPage
      (by decide +kernel) Sample.transferId
      ⟨Sample.file, Sample.file.name, 1, by decide +kernel⟩
  simp only [Sample.sending, Sample.verificationDue, List.cons_append, List.nil_append,
    List.mem_cons, List.not_mem_nil, or_false] at isInput
  rcases isInput with rfl | rfl | rfl | rfl | rfl | rfl | rfl | rfl <;> cases isAck

end FilePage

end Unseen
