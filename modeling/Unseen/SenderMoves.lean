import Mathlib.Logic.Relation
import Unseen.SentFiles

namespace Unseen

/-!
# What the sender does to its transfer

Every segment of the file sender is a sequence of a few kinds of moves, each
described by what it means for the transfer that is sent, for the active worker
and for the start-ups that are awaited.  What all moves preserve, every segment
of the sender preserves.

A segment of a page is one of the sender or one of the receiver.  The offer of a
file and the reset of both transfers are described on their own.
-/

namespace Files

/-! ## What the sender does -/

/-- The bytes counted apart, the same transfer. -/
inductive SameTransfer : Option TransferState → Option TransferState → Prop where
  | same (transfer : Option TransferState) : SameTransfer transfer transfer
  | counted (tid name : Text) (size sentBytes counted : Nat) (worker : Serial) :
      SameTransfer (some (.sending tid name size sentBytes worker))
        (some (.sending tid name size counted worker))

/-- What one thing the sender does means for its transfer and its workers, in a segment
that takes up an acceptance or none.  Strict changes start no worker for a transfer that
awaits one. -/
inductive SenderChange (strict : Prop) (taken : Option Text) (before after : Files) :
    Prop where
  | stays :
      SameTransfer before.transferActive after.transferActive →
      after.sender.activeWorker = before.sender.activeWorker →
      after.sender.inits = before.sender.inits →
      SenderChange strict taken before after
  | ends :
      after.transferActive = none →
      after.sender.inits.Sublist before.sender.inits →
      SenderChange strict taken before after
  | verifies (tid name verified : Text) (size sentBytes verifiedSize : Nat) (worker : Serial) :
      before.transferActive = some (.sending tid name size sentBytes worker) →
      after.transferActive = some (.verifying tid verified verifiedSize) →
      after.sender.inits = before.sender.inits →
      SenderChange strict taken before after
  | accepts (tid name : Text) (size : Nat) (file : LocalFile) :
      taken = some tid →
      before.transferActive = some (.offered tid name size file) →
      after.transferActive = before.transferActive →
      after.sender.activeWorker = some before.nextSerial →
      after.sender.inits = before.sender.inits ++ [⟨before.nextSerial, tid, name, size⟩] →
      before.nextSerial < after.nextSerial →
      (strict → ∀ init ∈ before.sender.inits, init.tid ≠ tid) →
      SenderChange strict taken before after
  | starts (init : SenderInit) (name : Text) (size : Nat) (file : LocalFile) :
      init ∈ before.sender.inits →
      before.transferActive = some (.offered init.tid name size file) →
      after.transferActive = some (.sending init.tid init.name init.size 0 init.worker) →
      after.sender.activeWorker = before.sender.activeWorker →
      after.sender.inits.Sublist before.sender.inits →
      SenderChange strict taken before after
  | drops (init : SenderInit) :
      init ∈ before.sender.inits →
      (∀ name size file, before.transferActive = some (.offered init.tid name size file) →
        before.sender.activeWorker ≠ some init.worker) →
      after.transferActive = before.transferActive →
      after.sender.activeWorker = before.sender.activeWorker →
      after.sender.inits = before.sender.inits.filter (fun other => other.worker != init.worker) →
      SenderChange strict taken before after

/-- One thing the sender does. -/
structure SenderMove (strict : Prop) (taken : Option Text) (before after : Files) :
    Prop where
  nextSerial : before.nextSerial ≤ after.nextSerial
  incomingActive : after.incomingActive = before.incomingActive
  change : SenderChange strict taken before after

/-- Any number of things the sender does. -/
def SenderMoves (strict : Prop) (taken : Option Text) : Files → Files → Prop :=
  Relation.ReflTransGen (SenderMove strict taken)

/-- No acceptance comes while the transfer awaits its worker. -/
def AcceptsOnce (files : Files) (envelope : PlaintextEnvelope) : Prop :=
  ∀ tid name size file, envelope = .fileAccept tid →
    files.transferActive = some (.offered tid name size file) →
      ∀ init ∈ files.sender.inits, init.tid ≠ tid

/-- The transfer whose acceptance the sender takes up. -/
def takenUp (files : Files) (envelope : PlaintextEnvelope) : Option Text :=
  match envelope, files.transferActive with
  | .fileAccept tid, some (.offered current _ _ _) =>
      if files.senderCreated = true ∧ tid = current then some tid else none
  | _, _ => none

variable {strict : Prop} {taken : Option Text} {files middle after : Files}

theorem SenderFrame.move
    (frame : SenderFrame files after)
    (change : SenderChange strict taken files after) :
    SenderMoves strict taken files after :=
  Relation.ReflTransGen.single ⟨frame.nextSerial, frame.incomingActive, change⟩

/-- The sender ends its transfer. -/
theorem SenderFrame.ends
    (frame : SenderFrame files after)
    (isNone : after.transferActive = none)
    (inits : after.sender.inits = files.sender.inits) :
    SenderMoves strict taken files after :=
  frame.move (.ends isNone (inits ▸ List.Sublist.refl _))

/-- The sender leaves its transfer and its workers alone. -/
theorem SenderFrame.stays
    (frame : SenderFrame files after)
    (transferActive : after.transferActive = files.transferActive)
    (activeWorker : after.sender.activeWorker = files.sender.activeWorker)
    (inits : after.sender.inits = files.sender.inits) :
    SenderMoves strict taken files after :=
  frame.move (.stays (transferActive ▸ .same _) activeWorker inits)

namespace SenderMoves

theorem refl : SenderMoves strict taken files files :=
  Relation.ReflTransGen.refl

theorem trans
    (first : SenderMoves strict taken files middle)
    (second : SenderMoves strict taken middle after) :
    SenderMoves strict taken files after :=
  Relation.ReflTransGen.trans first second

theorem finishWithEvent_inits (event : SystemEventKind) (worker : Option Serial) :
    (files.finishWithEvent event worker).transferActive = none ∧
      (files.finishWithEvent event worker).sender.inits = files.sender.inits := by
  unfold Files.finishWithEvent
  dsimp only
  split <;> exact ⟨rfl, rfl⟩

theorem finishWithEvent (event : SystemEventKind) (worker : Option Serial) :
    SenderMoves strict taken files (files.finishWithEvent event worker) :=
  (SenderFrame.finishWithEvent event worker).ends (finishWithEvent_inits event worker).1
    (finishWithEvent_inits event worker).2

/-- A cancellation told to the peer. -/
theorem cancelled (tid : Text) (reason : FileCancelReason) (event : SystemEventKind)
    (worker : Option Serial) :
    SenderMoves strict taken files
      ((files.sendCancelAsSender tid reason).finishWithEvent event worker) :=
  (SenderFrame.cancelled tid reason event worker).ends (finishWithEvent_inits event worker).1
    (finishWithEvent_inits event worker).2

theorem handleWorkerFatal (worker : Serial) :
    SenderMoves strict taken files (files.handleWorkerFatal worker) := by
  unfold Files.handleWorkerFatal
  split
  · exact refl
  · split
    · exact refl
    · exact cancelled _ _ _ _

theorem advanceSentBytes (tid : Text) (dataLength : Nat) :
    SenderMoves strict taken files (files.advanceSentBytes tid dataLength) := by
  unfold Files.advanceSentBytes
  split
  next isActive =>
    split
    · refine (SenderFrame.of_own _ _ _).move (.stays ?_ rfl rfl)
      rw [isActive]
      exact .counted _ _ _ _ _ _
    · exact refl
  · exact refl

theorem finalizeSendAfterDrain (env : FileEnv) (worker : Serial) (tid sha256Hex : Text) :
    SenderMoves strict taken files (files.finalizeSendAfterDrain env worker tid sha256Hex) := by
  unfold Files.finalizeSendAfterDrain
  split
  next isActive =>
    split
    next isCurrent =>
      subst isCurrent
      refine Relation.ReflTransGen.single ⟨Nat.le_succ _, rfl, ?_⟩
      exact .verifies _ _ _ _ _ _ _ isActive rfl rfl
    next => exact refl
  next => exact refl

theorem endSendLoop : SenderMoves strict taken files files.endSendLoop :=
  SenderFrame.endSendLoop.stays rfl rfl rfl

theorem sleepInSendLoop (env : FileEnv) (worker : Serial) (tid : Text) :
    SenderMoves strict taken files (files.sleepInSendLoop env worker tid) :=
  (SenderFrame.sleepInSendLoop env worker tid).stays rfl rfl rfl

theorem sendLoopTurn (env : FileEnv) (worker : Serial) (tid : Text) :
    SenderMoves strict taken files (files.sendLoopTurn env worker tid) := by
  unfold Files.sendLoopTurn
  split
  · exact endSendLoop
  · split
    · split
      · exact sleepInSendLoop env worker tid
      · split
        · exact ((SenderFrame.of_own _ _ _).trans (SenderFrame.emit id)).stays rfl rfl rfl
        · split
          · exact (finalizeSendAfterDrain env worker tid _).trans endSendLoop
          · exact sleepInSendLoop env worker tid
    · exact (cancelled _ _ _ _).trans endSendLoop

theorem runSendLoop (env : FileEnv) (worker : Serial) (tid : Text) :
    SenderMoves strict taken files (files.runSendLoop env worker tid) := by
  have looping : SenderMoves strict taken files
      { files with sender := { files.sender with sendLoopRunning := true } } :=
    (SenderFrame.of_own _ _ _).stays rfl rfl rfl
  exact looping.trans (sendLoopTurn env worker tid)

theorem chunkSent
    (env : FileEnv)
    (worker : Serial)
    (tid : Text)
    (dataLength : Nat)
    (sent : Bool) :
    SenderMoves strict taken files (files.chunkSent env worker tid dataLength sent) := by
  unfold Files.chunkSent
  split
  · exact (finishWithEvent _ _).trans endSendLoop
  · split
    · exact (advanceSentBytes _ _).trans (sendLoopTurn _ _ _)
    · split
      · have pulled : SenderMoves strict taken files (files.emit (.postToSendWorker worker .pull)) :=
          (SenderFrame.emit id).stays rfl rfl rfl
        exact (pulled.trans (advanceSentBytes _ _)).trans (sendLoopTurn _ _ _)
      · exact (cancelled _ _ _ _).trans endSendLoop

theorem handleSendWorkerMessage (message : SendWorkerOut) (worker : Serial) :
    SenderMoves strict taken files (files.handleSendWorkerMessage message worker) := by
  unfold Files.handleSendWorkerMessage
  split
  · exact refl
  · cases message with
    | plaintextChunk => exact (SenderFrame.of_own _ _ _).stays rfl rfl rfl
    | final =>
        change SenderMoves strict taken files (files.onWorkerFinal _ worker)
        unfold onWorkerFinal
        split
        · split
          · exact (SenderFrame.of_own _ _ _).stays rfl rfl rfl
          · exact refl
        · exact refl
    | fatal => exact handleWorkerFatal worker
    | ready | closed => exact refl

/-- An acceptance starts a worker, or ends the transfer. -/
theorem onFileAcceptReceived
    (env : FileEnv)
    (tid : Text)
    (isTaken : ∀ name size file, files.transferActive = some (.offered tid name size file) →
      taken = some tid)
    (once : strict → ∀ name size file,
      files.transferActive = some (.offered tid name size file) →
        ∀ init ∈ files.sender.inits, init.tid ≠ tid) :
    SenderMoves strict taken files (files.onFileAcceptReceived env tid) := by
  unfold Files.onFileAcceptReceived
  split
  next current name size file isActive =>
    split
    next isCurrent =>
      subst isCurrent
      unfold Files.initialiseWorker
      split
      · exact finishWithEvent _ _
      · have spawned : SenderFrame files
            { files with
              nextSerial := files.nextSerial + 1
              sender := { files.sender with activeWorker := some files.nextSerial } } :=
          { SenderFrame.refl with nextSerial := Nat.le_succ _ }
        dsimp only
        split
        · exact (spawned.trans (SenderFrame.finishWithEvent _ _)).ends
            (finishWithEvent_inits _ _).1 (finishWithEvent_inits _ _).2
        · refine Relation.ReflTransGen.single ⟨Nat.le_succ _, rfl, ?_⟩
          exact .accepts _ _ _ _ (isTaken _ _ _ isActive) isActive rfl rfl rfl (Nat.lt_succ_self _)
            fun isStrict => once isStrict name size file isActive
    next => exact refl
  next => exact refl

/-- A start-up that is settled starts the transfer, ends it or is dropped. -/
theorem settleSenderInit (env : FileEnv) (worker : Serial) (ready : Bool) :
    SenderMoves strict taken files (files.settleSenderInit env worker ready) := by
  unfold Files.settleSenderInit
  split
  · exact refl
  next init isFound =>
    have isInit : init ∈ files.sender.inits := List.mem_of_find?_eq_some isFound
    have isWorker : init.worker = worker := by
      have found := List.find?_some isFound
      exact beq_iff_eq.mp found
    subst isWorker
    have settled : SenderFrame files
        { files with
          sender :=
            { files.sender with
              inits := files.sender.inits.filter (fun other => other.worker != init.worker) } } :=
      SenderFrame.of_own _ _ _
    have dropped :
        (∀ name size file, files.transferActive = some (.offered init.tid name size file) →
          files.sender.activeWorker ≠ some init.worker) →
        SenderMoves strict taken files
          { files with
            sender :=
              { files.sender with
                inits := files.sender.inits.filter (fun other => other.worker != init.worker) } } :=
      fun isOver => settled.move (.drops init isInit isOver rfl rfl rfl)
    have aborts : ∀ {files : Files}, SenderMoves strict taken files
        (files.emit (.postToSendWorker init.worker .abort)) :=
      (SenderFrame.emit id).stays rfl rfl rfl
    unfold Files.senderWorkerReady
    split
    · split
      · refine (settled.trans (SenderFrame.cancelled _ _ _ _)).move (.ends ?_ ?_)
        · exact (finishWithEvent_inits _ _).1
        · rw [(finishWithEvent_inits _ _).2]
          exact List.filter_sublist
      next isOver => exact dropped fun _ _ _ _ => isOver
    · split
      next current _ _ _ isActive =>
        split
        next isCurrent =>
          subst isCurrent
          have starts : SenderMoves strict taken files
              { files with
                transferActive :=
                  some (.sending init.tid init.name init.size 0 init.worker)
                sender :=
                  { files.sender with
                    inits :=
                      files.sender.inits.filter (fun other => other.worker != init.worker) } } :=
            (SenderFrame.of_own _ _ _).move
              (.starts init _ _ _ isInit isActive rfl rfl List.filter_sublist)
          dsimp only
          split
          · exact starts
          · exact starts.trans (runSendLoop _ _ _)
        next isOther =>
          refine (dropped ?_).trans aborts
          intro name size file isOffered
          have same : some (TransferState.offered current _ _ _) = _ := isActive.symm.trans isOffered
          injection same with same
          injection same with sameTid
          exact absurd sameTid isOther
      next isOther =>
        refine (dropped ?_).trans aborts
        intro name size file isOffered
        exact absurd isOffered (isOther _ _ _ _)

theorem cancelActiveAsSender (reason : FileCancelReason) :
    SenderMoves strict taken files (files.cancelActiveAsSender reason) := by
  unfold Files.cancelActiveAsSender
  split
  · exact refl
  · exact cancelled _ _ _ _

theorem offerSent (tid : Text) (sent : Bool) :
    SenderMoves strict taken files (files.offerSent tid sent) := by
  unfold Files.offerSent
  split
  · exact (SenderFrame.of_own none _ _).ends rfl rfl
  · exact refl

theorem offeredTimeout (tid : Text) :
    SenderMoves strict taken files (files.offeredTimeout tid) := by
  unfold Files.offeredTimeout
  split
  · split
    · exact Relation.ReflTransGen.single
        ⟨Nat.le_refl _, rfl, .ends rfl (List.Sublist.refl _)⟩
    · exact refl
  · exact refl

theorem terminateActiveWorker : SenderMoves strict taken files files.terminateActiveWorker := by
  unfold Files.terminateActiveWorker
  split
  · exact (SenderFrame.emit id).stays rfl rfl rfl
  · exact refl

/-- The transfer ends and the locals are reset. -/
theorem reset :
    SenderMoves strict taken files { files with transferActive := none }.resetLocal :=
  (SenderFrame.of_own none _ _).ends rfl rfl

theorem senderPageHide (env : FileEnv) :
    SenderMoves strict taken files (files.senderPageHide env) := by
  unfold Files.senderPageHide
  split
  · exact refl
  · dsimp only
    split
    · exact (((SenderFrame.sendCancelAsSender _ _).stays rfl rfl rfl).trans
        terminateActiveWorker).trans reset
    · exact terminateActiveWorker.trans reset

theorem senderOnWsClose : SenderMoves strict taken files files.senderOnWsClose := by
  unfold Files.senderOnWsClose
  split
  · exact refl
  · exact refl
  · exact (terminateActiveWorker.trans reset).trans ((SenderFrame.emit id).stays rfl rfl rfl)

theorem senderShutdown : SenderMoves strict taken files files.senderShutdown :=
  terminateActiveWorker.trans ((SenderFrame.of_own none _ false).ends rfl rfl)

/-- An acknowledged transfer ends; its attachment is the receiver's business too. -/
theorem finalizeVerifyingAsSuccess (tid name : Text) (size : Nat) :
    SenderMoves strict taken files (files.finalizeVerifyingAsSuccess tid name size) := by
  unfold Files.finalizeVerifyingAsSuccess
  split
  · split
    · refine Relation.ReflTransGen.single ?_
      dsimp only
      split
      · exact ⟨Nat.le_refl _, rfl, .ends rfl (List.Sublist.refl _)⟩
      · exact ⟨Nat.le_refl _, rfl, .ends rfl (List.Sublist.refl _)⟩
    · exact refl
  · exact refl

theorem dispatchFromReceiver
    (env : FileEnv)
    (envelope : PlaintextEnvelope)
    (isTaken : ∀ tid name size file, envelope = .fileAccept tid →
      files.transferActive = some (.offered tid name size file) → taken = some tid)
    (once : strict → files.AcceptsOnce envelope) :
    SenderMoves strict taken files (files.dispatchFromReceiver env envelope) := by
  unfold Files.dispatchFromReceiver
  split
  · exact refl
  · split
    · split
      · exact onFileAcceptReceived _ _ (fun name size file => isTaken _ name size file rfl)
          fun isStrict name size file => once isStrict _ name size file rfl
      · exact refl
    · split
      · exact finishWithEvent _ _
      · exact refl
    · split
      · split
        · exact finalizeVerifyingAsSuccess _ _ _
        · exact refl
      · exact refl
    · split
      · exact finishWithEvent _ _
      · exact refl
    · exact refl

end SenderMoves

/-! ## Segments of one machine -/

/-- A segment of the sender or of the receiver. -/
def OneSided (strict : Prop) (taken : Option Text) (before after : Files) : Prop :=
  SenderMoves strict taken before after ∨ ReceiverFrame before after

theorem OneSided.of_created
    {created : Bool}
    (called : OneSided strict taken files after) :
    OneSided strict taken files (if created then after else files) := by
  cases created with
  | true => exact called
  | false => exact .inr .refl

/-- What the offer of a file changes. -/
structure Offers (tid : Text) (before after : Files) : Prop where
  noOutgoing : before.transferActive = none
  noIncoming : before.incomingActive = none
  offered : ∃ name size file, after.transferActive = some (.offered tid name size file)
  incomingActive : after.incomingActive = none
  inits : after.sender.inits = before.sender.inits
  nextSerial : before.nextSerial ≤ after.nextSerial

/-- A file is offered only while the page has no transfer. -/
theorem startTransfer_cases (env : FileEnv) (file : LocalFile) (tid : Text) :
    Offers tid files (files.startTransfer env file tid) ∨
      OneSided strict taken files (files.startTransfer env file tid) := by
  unfold Files.startTransfer
  split
  · exact .inr (.inr .refl)
  next isFree =>
    simp only [Bool.or_eq_true, Option.isSome_iff_ne_none, ne_eq, not_or, not_not] at isFree
    split
    · exact .inr (.inl ((SenderFrame.emit id).stays rfl rfl rfl))
    · split
      · exact .inr (.inl ((SenderFrame.emit id).stays rfl rfl rfl))
      next sanitised _ =>
        exact .inl ⟨isFree.1, isFree.2, ⟨sanitised, file.size, file, rfl⟩, isFree.2, rfl,
          Nat.le_succ _⟩

theorem oneSided_routeFileCancel
    (env : FileEnv)
    (tid : Text)
    (side : FileCancelSide)
    (reason : FileCancelReason) :
    OneSided strict taken files (files.routeFileCancel env tid side reason) := by
  unfold routeFileCancel
  split
  · refine .of_created (.inl (SenderMoves.dispatchFromReceiver _ _ ?_ ?_))
    · intro _ _ _ _ isAccept
      cases isAccept
    · intro _ _ _ _ _ isAccept
      cases isAccept
  · split
    · exact .inr (ReceiverFrame.dispatchCancel _ _ _)
    · exact .inr .refl

theorem oneSided_dispatchFileEnvelope
    (env : FileEnv)
    (envelope : PlaintextEnvelope)
    (once : strict → files.AcceptsOnce envelope) :
    OneSided strict (files.takenUp envelope) files (files.dispatchFileEnvelope env envelope) := by
  unfold dispatchFileEnvelope
  split
  · exact .of_created (.inr (ReceiverFrame.dispatchOffer _ _ _ _))
  · exact .of_created (.inr (ReceiverFrame.dispatchComplete _ _))
  · exact oneSided_routeFileCancel _ _ _ _
  · cases isCreated : files.senderCreated with
    | false => exact .inr .refl
    | true =>
        refine .inl (SenderMoves.dispatchFromReceiver _ _ ?_ once)
        rintro tid name size file rfl isActive
        simp only [takenUp, isActive, isCreated, and_self, if_true]

theorem oneSided_resume (env : FileEnv) (continuation : FileCont) (sent : Bool) :
    OneSided strict taken files (files.resume env continuation sent) := by
  cases continuation with
  | discard => exact .inr .refl
  | offerSent => exact .inl (SenderMoves.offerSent _ _)
  | chunkSent => exact .inl (SenderMoves.chunkSent _ _ _ _ _)
  | acceptSent => exact .inr (ReceiverFrame.acceptSent _ _ _ _)

theorem oneSided_fireTimer (env : FileEnv) (kind : FileTimerKind) :
    OneSided strict taken files (files.fireTimer env kind) := by
  cases kind with
  | offered => exact .inl (SenderMoves.offeredTimeout _)
  | verifying => exact .inl (SenderMoves.finalizeVerifyingAsSuccess _ _ _)
  | offerPending => exact .inr (ReceiverFrame.offerPendingTimeout _)
  | receiveStall => exact .inr (ReceiverFrame.receiveStallTimeout _)
  | sendLoopPoll => exact .inl (SenderMoves.sendLoopTurn _ _ _)

/-- Disarming a timer is nobody's business. -/
theorem OneSided.disarmed
    {id : Serial}
    (fires : OneSided strict taken (files.disarm id) after) :
    OneSided strict taken files after := by
  rcases fires with moves | frame
  · have disarms : SenderMoves strict taken files (files.disarm id) :=
      Relation.ReflTransGen.single ⟨Nat.le_refl _, rfl, .stays (.same _) rfl rfl⟩
    exact .inl (disarms.trans moves)
  · exact .inr (ReceiverFrame.trans (ReceiverFrame.of_own _ _ _ _ _ _) frame)

theorem oneSided_handle (env : FileEnv) (event : Event) :
    OneSided strict taken files (files.handle env event) := by
  cases event with
  | sendWorkerMessage worker message =>
      left
      have handles : SenderMoves strict taken files (files.handleSendWorkerMessage message worker) :=
        SenderMoves.handleSendWorkerMessage message worker
      cases message with
      | ready | fatal => exact handles.trans (SenderMoves.settleSenderInit _ _ _)
      | plaintextChunk | final | closed => exact handles
  | sendWorkerError worker =>
      exact .inl ((SenderMoves.handleWorkerFatal _).trans (SenderMoves.settleSenderInit _ _ _))
  | sendWorkerReadyTimeout worker => exact .inl (SenderMoves.settleSenderInit _ _ _)
  | receiveWorkerMessage worker message =>
      right
      have handles : ReceiverFrame files (files.handleReceiveWorkerMessage env message worker) :=
        ReceiverFrame.handleReceiveWorkerMessage env message worker
      cases message with
      | ready | fatal => exact handles.trans (ReceiverFrame.settleReceiverInit _ _)
      | written | shortWrite | done | closed => exact handles
  | receiveWorkerError worker =>
      right
      obtain ⟨aborted, isAborted, isHandled⟩ := handle_receiveWorkerError files env worker
      rw [isHandled]
      have handles : ReceiverFrame files aborted := by
        rcases isAborted with rfl | ⟨state, rfl⟩
        · exact ReceiverFrame.refl
        · exact ReceiverFrame.integrityFailureAbort state
      exact handles.trans (ReceiverFrame.settleReceiverInit _ _)
  | receiveWorkerReadyTimeout worker => exact .inr (ReceiverFrame.settleReceiverInit _ _)
  | cleanedUp => exact .inr (ReceiverFrame.workerDoneCleanedUp _)
  | timer id =>
      unfold handle
      dsimp only
      split
      · exact .inr .refl
      · split
        · exact (oneSided_fireTimer env _).disarmed
        · exact .inr .refl
  | initialised =>
      exact .inl (Relation.ReflTransGen.single ⟨Nat.le_refl _, rfl, .stays (.same _) rfl rfl⟩)

/-! ## What the sender's moves preserve -/

theorem SameTransfer.of_sending
    {before : Option TransferState}
    {tid name : Text}
    {size sentBytes : Nat}
    {worker : Serial}
    (same : SameTransfer before (some (.sending tid name size sentBytes worker))) :
    ∃ counted, before = some (.sending tid name size counted worker) := by
  cases same with
  | same => exact ⟨_, rfl⟩
  | counted => exact ⟨_, rfl⟩

theorem SameTransfer.of_offered
    {before : Option TransferState}
    {tid name : Text}
    {size : Nat}
    {file : LocalFile}
    (same : SameTransfer before (some (.offered tid name size file))) :
    before = some (.offered tid name size file) := by
  cases same with
  | same => rfl

/-- The sender never turns to another transfer. -/
theorem SenderMove.tid
    (move : SenderMove strict taken files after)
    {transfer : TransferState}
    (isActive : after.transferActive = some transfer) :
    ∃ earlier, files.transferActive = some earlier ∧ earlier.tid = transfer.tid := by
  cases move.change with
  | stays same =>
      rw [isActive] at same
      generalize isEarlier : files.transferActive = earlier at same
      cases same with
      | same => exact ⟨transfer, rfl, rfl⟩
      | counted => exact ⟨_, rfl, rfl⟩
  | ends isNone =>
      rw [isNone] at isActive
      cases isActive
  | verifies _ _ _ _ _ _ _ before isVerifying =>
      rw [isVerifying] at isActive
      cases isActive
      exact ⟨_, before, rfl⟩
  | accepts _ _ _ _ _ before same => exact ⟨transfer, same ▸ isActive, rfl⟩
  | starts init _ _ _ _ before isSending =>
      rw [isSending] at isActive
      cases isActive
      exact ⟨_, before, rfl⟩
  | drops _ _ _ same => exact ⟨transfer, same ▸ isActive, rfl⟩

theorem SenderMoves.tid
    (moves : SenderMoves strict taken files after)
    {transfer : TransferState}
    (isActive : after.transferActive = some transfer) :
    ∃ earlier, files.transferActive = some earlier ∧ earlier.tid = transfer.tid := by
  induction moves generalizing transfer with
  | refl => exact ⟨transfer, isActive, rfl⟩
  | tail _ move ih =>
      obtain ⟨middle, isMiddle, sameTid⟩ := move.tid isActive
      obtain ⟨earlier, isEarlier, alsoSame⟩ := ih isMiddle
      exact ⟨earlier, isEarlier, alsoSame.trans sameTid⟩

theorem SenderMoves.incomingActive (moves : SenderMoves strict taken files after) :
    after.incomingActive = files.incomingActive := by
  induction moves with
  | refl => rfl
  | tail _ move ih => exact move.incomingActive.trans ih

theorem SenderMoves.nextSerial (moves : SenderMoves strict taken files after) :
    files.nextSerial ≤ after.nextSerial := by
  induction moves with
  | refl => exact Nat.le_refl _
  | tail _ move ih => exact Nat.le_trans ih move.nextSerial

/-- Start-ups begin only when an acceptance is taken up. -/
theorem SenderMoves.inits
    (moves : SenderMoves strict taken files after)
    {init : SenderInit}
    (isInit : init ∈ after.sender.inits) :
    init ∈ files.sender.inits ∨ taken = some init.tid := by
  induction moves with
  | refl => exact .inl isInit
  | tail _ move ih =>
      cases move.change with
      | stays _ _ same => exact ih (same ▸ isInit)
      | ends _ fewer => exact ih (fewer.subset isInit)
      | verifies _ _ _ _ _ _ _ _ _ same => exact ih (same ▸ isInit)
      | accepts _ _ _ _ isTaken _ _ _ more =>
          rw [more] at isInit
          rcases List.mem_append.mp isInit with isEarlier | isNew
          · exact ih isEarlier
          · rw [List.mem_singleton.mp isNew]
            exact .inr isTaken
      | starts _ _ _ _ _ _ _ _ fewer => exact ih (fewer.subset isInit)
      | drops _ _ _ _ _ fewer =>
          rw [fewer] at isInit
          exact ih (List.mem_filter.mp isInit).1

end Files

namespace FilePage

variable {strict : Prop} {page : FilePage} {input : FileInput}

/-- The transfer whose acceptance the step takes up. -/
def takenUp (page : FilePage) (input : FileInput) : Option Text :=
  match input.call with
  | .envelope content => page.files.takenUp content
  | _ => none

/-- The step takes up no second acceptance while a worker is started. -/
def AcceptsOnce (page : FilePage) (input : FileInput) : Prop :=
  ∀ content, input.call = .envelope content → page.files.AcceptsOnce content

/-- A segment is one of the sender or of the receiver, but for the offer of a file and
for the reset that ends both transfers. -/
inductive SegmentKind (strict : Prop) (page : FilePage) (input : FileInput) : Prop where
  | oneSided :
      Files.OneSided strict (page.takenUp input) page.files
        (page.segment input.env input.call) →
      SegmentKind strict page input
  | offers (file : LocalFile) (tid : Text) :
      input.call = .startTransfer file tid →
      Files.Offers tid page.files (page.segment input.env input.call) →
      SegmentKind strict page input
  | reset :
      page.segment input.env input.call = page.files.resetFileStateOnTerminate →
      SegmentKind strict page input

theorem segmentKind
    (page : FilePage)
    (input : FileInput)
    (once : strict → page.AcceptsOnce input) :
    SegmentKind strict page input := by
  obtain ⟨call, env⟩ := input
  cases call with
  | envelope content =>
      exact .oneSided (Files.oneSided_dispatchFileEnvelope _ _ fun isStrict =>
        once isStrict content rfl)
  | event event => exact .oneSided (Files.oneSided_handle _ _)
  | settled index sent =>
      refine .oneSided ?_
      unfold segment
      dsimp only
      split
      · exact .inr .refl
      · exact Files.oneSided_resume _ _ _
  | resetOnTerminate => exact .reset rfl
  | startTransfer file tid =>
      cases isCreated : page.files.senderCreated with
      | false =>
          refine .oneSided (.inr ?_)
          unfold segment
          dsimp only
          rw [isCreated]
          exact .refl
      | true =>
          have isSegment : page.segment env (.startTransfer file tid) =
              page.files.startTransfer env file tid := by
            unfold segment
            dsimp only
            rw [isCreated]
            rfl
          rcases Files.startTransfer_cases env file tid with offers | oneSided
          · refine .offers file tid rfl ?_
            rw [isSegment]
            exact offers
          · refine .oneSided ?_
            rw [isSegment]
            exact oneSided
  | cancelSender => exact .oneSided (.of_created (.inl (Files.SenderMoves.cancelActiveAsSender _)))
  | senderSocketClosed => exact .oneSided (.of_created (.inl Files.SenderMoves.senderOnWsClose))
  | senderPageHide => exact .oneSided (.of_created (.inl (Files.SenderMoves.senderPageHide _)))
  | senderShutdown => exact .oneSided (.of_created (.inl Files.SenderMoves.senderShutdown))
  | chunk => exact .oneSided (.of_created (.inr (Files.ReceiverFrame.receiveChunk _ _)))
  | acceptOffer => exact .oneSided (.of_created (.inr (Files.ReceiverFrame.acceptOffer _)))
  | declineOffer => exact .oneSided (.of_created (.inr Files.ReceiverFrame.declineOffer))
  | cancelReceiver =>
      exact .oneSided (.of_created (.inr (Files.ReceiverFrame.cancelActiveAsReceiver _)))
  | receiverSocketClosed =>
      exact .oneSided (.of_created (.inr Files.ReceiverFrame.receiverOnWsClose))
  | receiverPageHide => exact .oneSided (.of_created (.inr Files.ReceiverFrame.receiverPageHide))
  | receiverShutdown => exact .oneSided (.of_created (.inr Files.ReceiverFrame.receiverShutdown))

end FilePage

end Unseen
