import Mathlib.Data.List.Nodup
import Unseen.History
import Unseen.SenderMoves

namespace Unseen

deriving instance DecidableEq for TransferState

/-!
# The worker of a sent file

A transfer is sent by one worker: it is started when the peer accepts the
offer, and the chunks it produces are taken as long as the transfer is in its
sending phase.

The acceptance is taken up while the offer is shown, and the phase changes only
once the worker has started.  A second acceptance in between starts a second
worker and makes it the active one; the transfer then names the first worker,
whose chunks are dropped.
-/

namespace Files

variable {taken : Option Text} {files after : Files}

/-! ## The active worker -/

/-- The worker of a transfer is the active one, both while it is started and while the
transfer is sent. -/
structure WorkerOrder (files : Files) : Prop where
  sending : ∀ {tid name size sentBytes worker},
    files.transferActive = some (.sending tid name size sentBytes worker) →
      files.sender.activeWorker = some worker
  starting : ∀ {tid name size file},
    files.transferActive = some (.offered tid name size file) →
      ∀ init ∈ files.sender.inits, init.tid = tid →
        files.sender.activeWorker = some init.worker
  serials : ∀ init ∈ files.sender.inits, init.worker < files.nextSerial
  distinct : (files.sender.inits.map SenderInit.worker).Nodup

theorem WorkerOrder.move
    (order : files.WorkerOrder)
    (move : SenderMove True taken files after) :
    after.WorkerOrder := by
  have fewerSerials : after.sender.inits.Sublist files.sender.inits →
      (∀ init ∈ after.sender.inits, init.worker < after.nextSerial) ∧
        (after.sender.inits.map SenderInit.worker).Nodup := fun fewer =>
    ⟨fun init isInit =>
      Nat.lt_of_lt_of_le (order.serials init (fewer.subset isInit)) move.nextSerial,
      order.distinct.sublist (fewer.map _)⟩
  cases move.change with
  | stays same activeWorker inits =>
      obtain ⟨serials, distinct⟩ := fewerSerials (inits ▸ List.Sublist.refl _)
      refine ⟨?_, ?_, serials, distinct⟩
      · intro tid name size sentBytes worker isSending
        rw [isSending] at same
        obtain ⟨counted, before⟩ := same.of_sending
        rw [activeWorker]
        exact order.sending before
      · intro tid name size file isOffered
        rw [isOffered] at same
        rw [activeWorker, inits]
        exact order.starting same.of_offered
  | ends isNone fewer =>
      obtain ⟨serials, distinct⟩ := fewerSerials fewer
      refine ⟨?_, ?_, serials, distinct⟩
      · intro tid name size sentBytes worker isSending
        rw [isNone] at isSending
        cases isSending
      · intro tid name size file isOffered
        rw [isNone] at isOffered
        cases isOffered
  | verifies _ _ _ _ _ _ _ _ isVerifying inits =>
      obtain ⟨serials, distinct⟩ := fewerSerials (inits ▸ List.Sublist.refl _)
      refine ⟨?_, ?_, serials, distinct⟩
      · intro tid name size sentBytes worker isSending
        rw [isVerifying] at isSending
        cases isSending
      · intro tid name size file isOffered
        rw [isVerifying] at isOffered
        cases isOffered
  | accepts tid name size file _ before same activeWorker inits later once =>
      rw [before] at same
      refine ⟨?_, ?_, ?_, ?_⟩
      · intro _ _ _ _ _ isSending
        rw [same] at isSending
        cases isSending
      · intro _ _ _ _ isOffered init isInit isTid
        rw [same] at isOffered
        cases isOffered
        rw [inits] at isInit
        rcases List.mem_append.mp isInit with isEarlier | isNew
        · exact absurd isTid (once trivial init isEarlier)
        · rw [activeWorker, List.mem_singleton.mp isNew]
      · intro init isInit
        rw [inits] at isInit
        rcases List.mem_append.mp isInit with isEarlier | isNew
        · exact Nat.lt_trans (order.serials init isEarlier) later
        · rw [List.mem_singleton.mp isNew]
          exact later
      · rw [inits, List.map_append, List.nodup_append]
        refine ⟨order.distinct, List.nodup_singleton _, ?_⟩
        intro worker isWorker other isOther sameWorker
        obtain ⟨init, isInit, rfl⟩ := List.mem_map.mp isWorker
        rw [List.map_singleton, List.mem_singleton] at isOther
        rw [isOther] at sameWorker
        exact absurd sameWorker (Nat.ne_of_lt (order.serials init isInit))
  | starts init _ _ _ isInit before isSending activeWorker fewer =>
      obtain ⟨serials, distinct⟩ := fewerSerials fewer
      refine ⟨?_, ?_, serials, distinct⟩
      · intro _ _ _ _ _ alsoSending
        rw [isSending] at alsoSending
        cases alsoSending
        rw [activeWorker]
        exact order.starting before init isInit rfl
      · intro _ _ _ _ isOffered
        rw [isSending] at isOffered
        cases isOffered
  | drops init isInit _ same activeWorker inits =>
      have fewer : after.sender.inits.Sublist files.sender.inits := by
        rw [inits]
        exact List.filter_sublist
      obtain ⟨serials, distinct⟩ := fewerSerials fewer
      refine ⟨?_, ?_, serials, distinct⟩
      · intro _ _ _ _ _ isSending
        rw [activeWorker]
        exact order.sending (same ▸ isSending)
      · intro _ _ _ _ isOffered other isOther
        rw [activeWorker]
        exact order.starting (same ▸ isOffered) other (fewer.subset isOther)

/-- An offer whose acceptance was taken up awaits its worker. -/
def Awaits (files : Files) (accepted : List Text) : Prop :=
  ∀ tid name size file, files.transferActive = some (.offered tid name size file) →
    tid ∈ accepted → ∃ init ∈ files.sender.inits, init.tid = tid

theorem Awaits.move
    {accepted : List Text}
    (awaits : files.Awaits accepted)
    (order : files.WorkerOrder)
    (move : SenderMove True taken files after) :
    after.Awaits accepted := by
  intro tid name size file isOffered isAccepted
  cases move.change with
  | stays same _ inits =>
      rw [isOffered] at same
      rw [inits]
      exact awaits tid name size file same.of_offered isAccepted
  | ends isNone =>
      rw [isNone] at isOffered
      cases isOffered
  | verifies _ _ _ _ _ _ _ _ isVerifying =>
      rw [isVerifying] at isOffered
      cases isOffered
  | accepts _ _ _ _ _ _ same _ inits =>
      obtain ⟨init, isInit, isTid⟩ := awaits tid name size file (same ▸ isOffered) isAccepted
      rw [inits]
      exact ⟨init, List.mem_append_left _ isInit, isTid⟩
  | starts _ _ _ _ _ _ isSending =>
      rw [isSending] at isOffered
      cases isOffered
  | drops dropped isDropped isOver same activeWorker inits =>
      rw [same] at isOffered
      obtain ⟨init, isInit, rfl⟩ := awaits tid name size file isOffered isAccepted
      have isOther : init.worker ≠ dropped.worker := by
        intro sameWorker
        obtain rfl := List.inj_on_of_nodup_map order.distinct isInit isDropped sameWorker
        exact isOver name size file isOffered (order.starting isOffered init isInit rfl)
      rw [inits]
      exact ⟨init, List.mem_filter.mpr ⟨isInit, bne_iff_ne.mpr isOther⟩, rfl⟩

theorem SenderMoves.inOrder
    {accepted : List Text}
    (moves : SenderMoves True taken files after)
    (order : files.WorkerOrder)
    (awaits : files.Awaits accepted) :
    after.WorkerOrder ∧ after.Awaits accepted := by
  induction moves with
  | refl => exact ⟨order, awaits⟩
  | tail _ move ih => exact ⟨ih.1.move move, ih.2.move ih.1 move⟩

theorem ReceiverFrame.workerOrder
    (frame : ReceiverFrame files after)
    (order : files.WorkerOrder) :
    after.WorkerOrder where
  sending isSending := by
    rw [frame.sender]
    exact order.sending (frame.transferActive ▸ isSending)
  starting isOffered := by
    rw [frame.sender]
    exact order.starting (frame.transferActive ▸ isOffered)
  serials init isInit := by
    rw [frame.sender] at isInit
    exact Nat.lt_of_lt_of_le (order.serials init isInit) frame.nextSerial
  distinct := by
    rw [frame.sender]
    exact order.distinct

theorem ReceiverFrame.awaits
    {accepted : List Text}
    (frame : ReceiverFrame files after)
    (awaits : files.Awaits accepted) :
    after.Awaits accepted := by
  intro tid name size file isOffered
  rw [frame.sender]
  exact awaits tid name size file (frame.transferActive ▸ isOffered)

end Files

namespace FilePage

variable {page : FilePage} {input : FileInput}

/-! ## What is known of the transfers sent -/

/-- The ids generated so far, and those of the acceptances taken up, in order. -/
structure SendLog where
  generated : List Text
  takenUp : List Text
  deriving DecidableEq, Repr

/-- The id that the step generates for an offer. -/
def generated (page : FilePage) (input : FileInput) : Option Text :=
  match input.call, page.files.transferActive, (page.step input).files.transferActive with
  | .startTransfer _ tid, none, some _ => some tid
  | _, _, _ => none

def SendLog.record (log : SendLog) (page : FilePage) (input : FileInput) : SendLog where
  generated := log.generated ++ (page.generated input).toList
  takenUp := log.takenUp ++ (page.takenUp input).toList

/-- A generated id is new. -/
def FreshIds (remembered : FilePage × SendLog) (input : FileInput) : Prop :=
  ∀ file tid, input.call = .startTransfer file tid → tid ∉ remembered.2.generated

/-- Generated ids are new, and no acceptance comes while a worker is started. -/
structure SendsOnce (remembered : FilePage × SendLog) (input : FileInput) : Prop where
  fresh : FreshIds remembered input
  accepts : remembered.1.AcceptsOnce input

/-- What holds of the transfers sent between any two segments. -/
structure SendOrder (page : FilePage) (log : SendLog) : Prop where
  workers : page.files.WorkerOrder
  awaits : page.files.Awaits log.takenUp
  current : ∀ transfer, page.files.transferActive = some transfer →
    transfer.tid ∈ log.generated
  known : ∀ tid ∈ log.takenUp, tid ∈ log.generated
  started : ∀ init ∈ page.files.sender.inits, init.tid ∈ log.takenUp
  once : log.takenUp.Nodup

/-- An acceptance is taken up while its transfer is offered, and its worker is initialised. -/
theorem segment_of_takenUp
    {tid : Text}
    (isTaken : page.takenUp input = some tid) :
    ∃ name size file, page.files.transferActive = some (.offered tid name size file) ∧
      input.call = .envelope (.fileAccept tid) ∧
      page.segment input.env input.call =
        page.files.initialiseWorker input.env tid name size := by
  obtain ⟨call, env⟩ := input
  cases call with
  | envelope content =>
      change page.files.takenUp content = some tid at isTaken
      unfold Files.takenUp at isTaken
      split at isTaken
      next accepted current name size file isActive =>
        split at isTaken
        next isCurrent =>
          obtain rfl := Option.some.inj isTaken
          obtain ⟨isCreated, rfl⟩ := isCurrent
          refine ⟨name, size, file, isActive, rfl, ?_⟩
          change page.files.dispatchFileEnvelope env (.fileAccept accepted) = _
          simp only [Files.dispatchFileEnvelope, isCreated, if_true,
            Files.dispatchFromReceiver, isActive, TransferState.tid,
            Files.onFileAcceptReceived]
        next => cases isTaken
      next => cases isTaken
  | _ => cases isTaken

/-- An acceptance that is taken up starts a worker, or ends the transfer. -/
theorem takenUp_spec
    {tid : Text}
    (isTaken : page.takenUp input = some tid) :
    (∃ name size file, page.files.transferActive = some (.offered tid name size file)) ∧
      input.call = .envelope (.fileAccept tid) ∧
      ((page.segment input.env input.call).transferActive = none ∨
        ∃ init ∈ (page.segment input.env input.call).sender.inits, init.tid = tid) := by
  obtain ⟨name, size, file, isActive, isCall, isSegment⟩ := segment_of_takenUp isTaken
  refine ⟨⟨name, size, file, isActive⟩, isCall, ?_⟩
  rw [isSegment]
  unfold Files.initialiseWorker
  split
  · exact .inl (Files.SenderMoves.finishWithEvent_inits _ _).1
  · dsimp only
    split
    · exact .inl (Files.SenderMoves.finishWithEvent_inits _ _).1
    · exact .inr ⟨_, List.mem_append_right _ (List.mem_singleton_self _), rfl⟩

/-- What a segment that offers no file keeps of the transfer sent. -/
structure Continues (page : FilePage) (log : SendLog) (input : FileInput) : Prop where
  workers : (page.segment input.env input.call).WorkerOrder
  awaits : (page.segment input.env input.call).Awaits log.takenUp
  current : ∀ transfer, (page.segment input.env input.call).transferActive = some transfer →
    ∃ earlier, page.files.transferActive = some earlier ∧ earlier.tid = transfer.tid
  inits : ∀ init ∈ (page.segment input.env input.call).sender.inits,
    init ∈ page.files.sender.inits ∨ page.takenUp input = some init.tid

theorem SendOrder.continues
    {log : SendLog}
    (order : page.SendOrder log)
    (once : page.AcceptsOnce input) :
    page.Continues log input ∨
      ∃ file tid, input.call = .startTransfer file tid ∧
        Files.Offers tid page.files (page.segment input.env input.call) := by
  have kind : SegmentKind True page input := page.segmentKind input fun _ => once
  cases kind with
  | oneSided oneSided =>
      left
      rcases oneSided with moves | frame
      · obtain ⟨workers, awaits⟩ := moves.inOrder order.workers order.awaits
        exact ⟨workers, awaits, fun _ => moves.tid, fun _ => moves.inits⟩
      · refine ⟨frame.workerOrder order.workers, frame.awaits order.awaits, ?_, ?_⟩
        · intro transfer isActive
          exact ⟨transfer, frame.transferActive ▸ isActive, rfl⟩
        · intro init isInit
          rw [frame.sender] at isInit
          exact .inl isInit
  | offers file tid isCall offers => exact .inr ⟨file, tid, isCall, offers⟩
  | reset isReset =>
      left
      refine ⟨?_, ?_, ?_, ?_⟩
      · rw [isReset]
        refine ⟨?_, ?_, order.workers.serials, order.workers.distinct⟩
        · intro _ _ _ _ _ isSending
          cases isSending
        · intro _ _ _ _ isOffered
          cases isOffered
      · rw [isReset]
        intro _ _ _ _ isOffered
        cases isOffered
      · intro transfer isActive
        rw [isReset] at isActive
        cases isActive
      · intro init isInit
        rw [isReset] at isInit
        exact .inl isInit

/-- An acceptance is taken up for the first time. -/
theorem SendOrder.takenUp_new
    {log : SendLog}
    {tid : Text}
    (order : page.SendOrder log)
    (once : page.AcceptsOnce input)
    (isTaken : page.takenUp input = some tid) :
    tid ∉ log.takenUp := by
  intro isEarlier
  obtain ⟨⟨name, size, file, isOffered⟩, isCall, _⟩ := takenUp_spec isTaken
  obtain ⟨init, isInit, isTid⟩ := order.awaits tid name size file isOffered isEarlier
  exact once _ isCall tid name size file rfl isOffered init isInit isTid

theorem SendOrder.step
    {log : SendLog}
    (order : page.SendOrder log)
    (allowed : SendsOnce (page, log) input) :
    (page.step input).SendOrder (log.record page input) := by
  rcases order.continues allowed.accepts with continues | ⟨file, tid, isCall, offers⟩
  · obtain ⟨workers, awaits, current, inits⟩ := continues
    refine ⟨⟨workers.sending, workers.starting, workers.serials, workers.distinct⟩,
      ?_, ?_, ?_, ?_, ?_⟩
    · intro tid name size file isOffered isAccepted
      rcases List.mem_append.mp isAccepted with isEarlier | isNew
      · exact awaits tid name size file isOffered isEarlier
      · rw [Option.mem_toList] at isNew
        rcases (takenUp_spec isNew).2.2 with ended | starts
        · exact absurd (ended.symm.trans isOffered) (by simp)
        · exact starts
    · intro transfer isActive
      obtain ⟨earlier, isEarlier, sameTid⟩ := current transfer isActive
      rw [← sameTid]
      exact List.mem_append_left _ (order.current earlier isEarlier)
    · intro tid isAccepted
      rcases List.mem_append.mp isAccepted with isEarlier | isNew
      · exact List.mem_append_left _ (order.known tid isEarlier)
      · rw [Option.mem_toList] at isNew
        obtain ⟨⟨name, size, file, isOffered⟩, _⟩ := takenUp_spec isNew
        exact List.mem_append_left _ (order.current _ isOffered)
    · intro init isInit
      rcases inits init isInit with isEarlier | isNew
      · exact List.mem_append_left _ (order.started init isEarlier)
      · exact List.mem_append_right _ (Option.mem_toList.mpr isNew)
    · change (log.takenUp ++ (page.takenUp input).toList).Nodup
      cases isTaken : page.takenUp input with
      | none =>
          rw [Option.toList_none, List.append_nil]
          exact order.once
      | some tid =>
          rw [Option.toList_some, List.nodup_append]
          refine ⟨order.once, List.nodup_singleton _, ?_⟩
          intro other isOther last isLast
          rw [List.mem_singleton.mp isLast]
          rintro rfl
          exact order.takenUp_new allowed.accepts isTaken isOther
  · have isFresh := allowed.fresh file tid isCall
    obtain ⟨noOutgoing, _, ⟨name, size, sent, isOffered⟩, _, inits, nextSerial⟩ := offers
    have notTaken : page.takenUp input = none := by
      rw [takenUp, isCall]
    have isGenerated : page.generated input = some tid := by
      have isActive : (page.step input).files.transferActive = some _ := isOffered
      rw [generated, isCall, noOutgoing, isActive]
    have sameTaken : (log.record page input).takenUp = log.takenUp := by
      rw [SendLog.record, notTaken]
      exact List.append_nil _
    have isAwaited : ∀ init ∈ (page.step input).files.sender.inits, init.tid ∈ log.takenUp := by
      intro init isInit
      exact order.started init (inits ▸ isInit)
    refine ⟨?_, ?_, ?_, ?_, ?_, ?_⟩
    · refine ⟨?_, ?_, ?_, ?_⟩
      · intro _ _ _ _ _ isSending
        exact absurd (isOffered.symm.trans isSending) (by simp)
      · intro other _ _ _ alsoOffered init isInit isTid
        have same := isOffered.symm.trans alsoOffered
        injection same with same
        injection same with sameTid
        have isKnown := order.known init.tid (isAwaited init isInit)
        rw [isTid, ← sameTid] at isKnown
        exact absurd isKnown isFresh
      · intro init isInit
        exact Nat.lt_of_lt_of_le (order.workers.serials init (inits ▸ isInit)) nextSerial
      · have distinct := order.workers.distinct
        rw [← inits] at distinct
        exact distinct
    · intro other _ _ _ alsoOffered isAccepted
      rw [sameTaken] at isAccepted
      have same := isOffered.symm.trans alsoOffered
      injection same with same
      injection same with sameTid
      exact absurd (order.known other isAccepted) (sameTid ▸ isFresh)
    · intro transfer isActive
      have same := isOffered.symm.trans isActive
      injection same with same
      rw [← same]
      refine List.mem_append_right _ ?_
      rw [isGenerated]
      exact List.mem_singleton_self _
    · intro other isAccepted
      rw [sameTaken] at isAccepted
      exact List.mem_append_left _ (order.known other isAccepted)
    · intro init isInit
      rw [sameTaken]
      exact isAwaited init isInit
    · rw [sameTaken]
      exact order.once

/-! ## One worker for each transfer -/

/-- The page and what is known of the transfers it sent. -/
def sendMachine : EventMachine.Machine (FilePage × SendLog) FileInput :=
  machine.remember SendLog.record

/-- Both machines have just been created, and nothing was sent. -/
def Unsent (remembered : FilePage × SendLog) : Prop :=
  Created remembered.1 ∧ remembered.2 = ⟨[], []⟩

theorem sendOrder_of_created (created : Created page) : page.SendOrder ⟨[], []⟩ := by
  obtain ⟨_, _, _, _, rfl⟩ := created
  refine ⟨⟨?_, ?_, ?_, List.nodup_nil⟩, ?_, ?_, ?_, ?_, List.nodup_nil⟩
  · intro _ _ _ _ _ isSending
    cases isSending
  · intro _ _ _ _ isOffered
    cases isOffered
  · intro init isInit
    cases isInit
  · intro _ _ _ _ isOffered
    cases isOffered
  · intro transfer isActive
    cases isActive
  · intro tid isAccepted
    cases isAccepted
  · intro init isInit
    cases isInit

theorem sendOrder_of_reachable
    {remembered : FilePage × SendLog}
    (reachable : sendMachine.Reachable Unsent SendsOnce remembered) :
    remembered.1.SendOrder remembered.2 := by
  induction reachable with
  | start unsent =>
      rw [unsent.2]
      exact sendOrder_of_created unsent.1
  | next _ _ allowed ih => exact ih.step allowed

/-- An acceptance that is not taken up does nothing. -/
theorem segment_of_not_takenUp
    {tid : Text}
    {env : FileEnv}
    (notTaken : page.takenUp ⟨.envelope (.fileAccept tid), env⟩ = none) :
    page.segment env (.envelope (.fileAccept tid)) = page.files := by
  change page.files.dispatchFileEnvelope env (.fileAccept tid) = _
  simp only [takenUp, Files.takenUp] at notTaken
  simp only [Files.dispatchFileEnvelope, Files.dispatchFromReceiver, Files.onFileAcceptReceived]
  cases isCreated : page.files.senderCreated with
  | false => rfl
  | true =>
      cases isActive : page.files.transferActive with
      | none => rfl
      | some current =>
          cases current with
          | offered current name size file =>
              simp only [isActive, isCreated, true_and] at notTaken
              split at notTaken
              next => cases notTaken
              next isOther => simp [TransferState.tid, isOther]
          | sending | verifying => simp

/-- What the sender should do with the acceptance of its transfer and with its worker. -/
structure SendsByOneWorker (page : FilePage) (log : SendLog) : Prop where
  once : log.takenUp.Nodup
  startedBy : ∀ input, page.AcceptsOnce input →
    ∀ init ∈ (page.step input).files.sender.inits,
      init ∈ page.files.sender.inits ∨ page.takenUp input = some init.tid
  active : ∀ tid name size sentBytes worker,
    page.files.transferActive = some (.sending tid name size sentBytes worker) →
      page.files.sender.activeWorker = some worker
  chunks : ∀ tid name size sentBytes worker env seq data,
    page.files.transferActive = some (.sending tid name size sentBytes worker) →
      (page.step ⟨.event (.sendWorkerMessage worker (.plaintextChunk seq data)), env⟩).files =
        { page.files with
          sender :=
            { page.files.sender with
              pendingSendQueue := page.files.sender.pendingSendQueue ++ [{ seq, data }] }
          effects := [] }
  final : ∀ tid name size sentBytes worker env sha256,
    page.files.transferActive = some (.sending tid name size sentBytes worker) →
      (page.step ⟨.event (.sendWorkerMessage worker (.final sha256)), env⟩).files =
        { page.files with
          sender :=
            { page.files.sender with
              workerFinalReceived := true
              pendingSha256Hex := some sha256 }
          effects := [] }
  again : ∀ tid env, tid ∈ log.takenUp →
    page.AcceptsOnce ⟨.envelope (.fileAccept tid), env⟩ →
      (page.step ⟨.envelope (.fileAccept tid), env⟩).files = { page.files with effects := [] }

/--
In every run in which generated ids are new and no acceptance comes while the
transfer awaits its worker, an acceptance is taken up once for each transfer,
the worker of a transfer being sent is the active one, its chunks and its digest
are taken, and a second acceptance does nothing.
-/
theorem sends_by_one_worker
    {remembered : FilePage × SendLog}
    (reachable : sendMachine.Reachable Unsent SendsOnce remembered) :
    remembered.1.SendsByOneWorker remembered.2 := by
  obtain ⟨page, log⟩ := remembered
  have order : page.SendOrder log := sendOrder_of_reachable reachable
  refine ⟨order.once, ?_, ?_, ?_, ?_, ?_⟩
  · intro input once init isInit
    rcases order.continues once with continues | ⟨file, tid, isCall, offers⟩
    · exact continues.inits init isInit
    · exact .inl (offers.inits ▸ isInit)
  · intro tid name size sentBytes worker isSending
    exact order.workers.sending isSending
  · intro tid name size sentBytes worker env seq data isSending
    have isActive := order.workers.sending isSending
    simp [step, segment, Files.handle, Files.handleSendWorkerMessage, isActive]
  · intro tid name size sentBytes worker env sha256 isSending
    dsimp only at isSending
    have isActive := order.workers.sending isSending
    simp [step, segment, Files.handle, Files.handleSendWorkerMessage, Files.onWorkerFinal,
      isActive, isSending]
  · intro tid env isAccepted once
    have notTaken : page.takenUp ⟨.envelope (.fileAccept tid), env⟩ = none := by
      cases isTaken : page.takenUp ⟨.envelope (.fileAccept tid), env⟩ with
      | none => rfl
      | some other =>
          have isCall := (takenUp_spec isTaken).2.1
          injection isCall with isCall
          injection isCall with isTid
          exact absurd (isTid ▸ isAccepted) (order.takenUp_new once isTaken)
    change { page.segment env (.envelope (.fileAccept tid)) with effects := [] } = _
    rw [segment_of_not_takenUp notTaken]

/-! ## An acceptance repeated -/

/-- No acceptance can be repeated while no worker is started. -/
theorem acceptsOnce_of_idle (idle : page.files.sender.inits = []) : page.AcceptsOnce input := by
  intro _ _ _ _ _ _ _ _ init isInit
  rw [idle] at isInit
  cases isInit

/-- Only acceptances can be repeated. -/
theorem acceptsOnce_of_event {event : Files.Event} {env : FileEnv} :
    page.AcceptsOnce ⟨.event event, env⟩ := by
  intro _ isCall
  cases isCall

/-- A file is offered and accepted, and its worker starts. -/
def Sample.startUp : List FileInput :=
  [ Sample.call (.startTransfer Sample.file Sample.transferId),
    Sample.call (.envelope (.fileAccept Sample.transferId)),
    Sample.call (.event (.sendWorkerMessage 1 .ready)) ]

/-- The worker that started is the active one. -/
theorem sends_by_one_worker_in_sample :
    (sendMachine.run (Sample.newPage, ⟨[], []⟩) Sample.startUp).1.files.sender.activeWorker =
      some 1 := by
  have reachable : sendMachine.Reachable Unsent SendsOnce
      (sendMachine.run (Sample.newPage, ⟨[], []⟩) Sample.startUp) := by
    refine .run (.start ⟨Sample.created_newPage, rfl⟩) ⟨trivial, ⟨?_, ?_⟩, trivial, ⟨?_, ?_⟩,
      trivial, ⟨?_, ?_⟩, trivial⟩
    · intro _ _ _ isGenerated
      cases isGenerated
    · exact acceptsOnce_of_idle rfl
    · intro _ _ isCall
      cases isCall
    · exact acceptsOnce_of_idle (by decide +kernel)
    · intro _ _ isCall
      cases isCall
    · exact acceptsOnce_of_event
  exact (sends_by_one_worker reachable).active Sample.transferId Sample.file.name 1 0 1
    (by decide +kernel)

/-- The acceptance comes twice before the worker has started. -/
def Sample.acceptedTwice : List FileInput :=
  [ Sample.call (.startTransfer Sample.file Sample.transferId),
    Sample.call (.envelope (.fileAccept Sample.transferId)),
    Sample.call (.envelope (.fileAccept Sample.transferId)),
    Sample.call (.event (.sendWorkerMessage 1 .ready)) ]

/-- A second acceptance starts a second worker, whose chunks are taken in place of those of
the worker that the transfer names. -/
theorem second_acceptance_starts_second_worker :
    ¬ ∀ remembered, sendMachine.Reachable Unsent FreshIds remembered →
      remembered.1.SendsByOneWorker remembered.2 := by
  intro claimed
  have reachable : sendMachine.Reachable Unsent FreshIds
      (sendMachine.run (Sample.newPage, ⟨[], []⟩) Sample.acceptedTwice) := by
    refine .run (.start ⟨Sample.created_newPage, rfl⟩)
      ⟨trivial, ?_, trivial, ?_, trivial, ?_, trivial, ?_, trivial⟩
    · intro _ _ _ isGenerated
      cases isGenerated
    all_goals
      intro _ _ isCall
      cases isCall
  have isActive := (claimed _ reachable).active Sample.transferId Sample.file.name 1 0 1
    (by decide +kernel)
  revert isActive
  decide +kernel

end FilePage

end Unseen
