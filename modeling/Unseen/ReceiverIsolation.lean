import Unseen.ReceiverMoves

namespace Unseen

/-!
# Incoming transfers and what they leave behind

The receiver keeps one transfer at a time.  An acceptance that is being sent, a
worker that starts or still reports, and the removal of a file can outlive the
transfer they belong to; the timers cannot, for they are disarmed with it.

The acceptance and the worker's reports compare the offer or the worker first.
Two things do not.  The report of a written chunk goes on with a transfer that
was aborted because the next chunk could not be posted, and stores it again.
The removal of the file of a corrupt transfer ends whatever transfer is active.
-/

namespace Files

variable {files middle after : Files}

/-! ## What holds of the incoming transfer -/

theorem shown_of_isCurrentOffer
    {offer : PendingOffer}
    (isCurrent : files.isCurrentOffer offer = true) :
    ∃ current, files.incomingActive = some (.offerPending current) ∧
      current.ref = offer.ref := by
  unfold isCurrentOffer at isCurrent
  split at isCurrent
  next current isShown => exact ⟨current, isShown, beq_iff_eq.mp isCurrent⟩
  next => cases isCurrent

/-- What holds of the incoming transfer whose offer has the serial `current`. -/
structure Incoming (current : Option Serial) (files : Files) : Prop where
  vacant : files.incomingActive = none ↔ current = none
  shown : ∀ offer, files.incomingActive = some (.offerPending offer) → current = some offer.ref
  receiving : ∀ state ref, files.incomingActive = some (.receiving state) →
    current = some ref → ref < state.worker
  bound : ∀ ref, current = some ref → ref < files.nextSerial
  accepting : ∀ init, files.receiver.accepting = some init → init.offer.ref < init.worker
  acceptances : ∀ init ∈ files.acceptances, init.offer.ref < init.worker
  armed : files.Armed
  offerTimer : ∀ id, files.receiver.offerPendingTimer = some id →
    ∃ ref, current = some ref ∧ ref < id
  stallTimer : ∀ id, files.receiver.receiveStallTimer = some id →
    ∃ ref, current = some ref ∧ ref < id
  noStall : (∀ state, files.incomingActive ≠ some (.receiving state)) →
    files.receiver.receiveStallTimer = none

namespace Incoming

variable {current : Option Serial}

theorem starting
    (holds : Incoming current files)
    {init : ReceiverInit}
    (starting : files.Starting init) : init.offer.ref < init.worker := by
  rcases starting with isAwaited | ⟨isShown, isNew⟩
  · exact holds.accepting init isAwaited
  · exact Nat.lt_of_lt_of_le (holds.bound _ (holds.shown _ isShown)) isNew

theorem acceptances_of_core
    (holds : Incoming current files)
    (core : ReceiverCore files after) :
    ∀ init ∈ after.acceptances, init.offer.ref < init.worker :=
  fun init isAsked =>
    (core.acceptances init isAsked).elim (holds.acceptances init) holds.starting

theorem busy
    (holds : Incoming current files)
    (busy : files.incomingActive ≠ none) : ∃ ref, current = some ref :=
  Option.ne_none_iff_exists'.mp fun isNone => busy (holds.vacant.mpr isNone)

/-- The transfer goes on. -/
theorem proceeds
    (holds : Incoming current files)
    (proceeds : Proceeds files after) : Incoming current after where
  vacant := proceeds.incoming.eq_none.trans holds.vacant
  shown offer isShown := holds.shown offer (proceeds.incoming.offer isShown)
  receiving state ref isReceiving isCurrent := by
    rcases proceeds.incoming.receiving isReceiving with ⟨earlier, isEarlier, sameWorker⟩
    rw [sameWorker]
    exact holds.receiving earlier ref isEarlier isCurrent
  bound ref isCurrent := Nat.lt_of_lt_of_le (holds.bound ref isCurrent) proceeds.nextSerial
  accepting init isAwaited := holds.starting (proceeds.accepting init isAwaited)
  acceptances := holds.acceptances_of_core proceeds.toReceiverCore
  armed := proceeds.armed holds.armed
  offerTimer id isHeld := by
    rcases proceeds.offerTimer id isHeld with isEarlier | ⟨busy, isNew⟩
    · exact holds.offerTimer id isEarlier
    · obtain ⟨ref, isCurrent⟩ := holds.busy busy
      exact ⟨ref, isCurrent, Nat.lt_of_lt_of_le (holds.bound ref isCurrent) isNew⟩
  stallTimer id isHeld := holds.stallTimer id (proceeds.stallTimer id isHeld)
  noStall notReceiving := by
    have noTimer := holds.noStall fun state isReceiving => by
      obtain ⟨next, isNext⟩ := proceeds.incoming.still_receiving isReceiving
      exact notReceiving next isNext
    rw [Option.eq_none_iff_forall_ne_some]
    intro id isHeld
    have isEarlier := proceeds.stallTimer id isHeld
    rw [noTimer] at isEarlier
    cases isEarlier

/-- The transfer ends. -/
theorem finishes
    (holds : Incoming current files)
    (ends : Finishes files after) : Incoming none after where
  vacant := iff_of_true ends.ended rfl
  shown offer isShown := by
    rw [ends.ended] at isShown
    cases isShown
  receiving _ _ _ isCurrent := by cases isCurrent
  bound _ isCurrent := by cases isCurrent
  accepting init isAwaited := holds.starting (ends.accepting init isAwaited)
  acceptances := holds.acceptances_of_core ends.toReceiverCore
  armed := ends.armed holds.armed
  offerTimer id isHeld := by
    rw [ends.offerTimer] at isHeld
    cases isHeld
  stallTimer id isHeld := by
    rw [ends.stallTimer] at isHeld
    cases isHeld
  noStall _ := ends.stallTimer

/-- An offer is shown. -/
theorem withOffer
    (holds : Incoming none files)
    {offer : PendingOffer}
    (isNext : offer.ref = files.nextSerial) :
    Incoming (some offer.ref) (files.withOffer offer) where
  vacant := iff_of_false (Option.some_ne_none _) (Option.some_ne_none _)
  shown other isShown := by cases isShown; rfl
  receiving _ _ isReceiving := by cases isReceiving
  bound ref isCurrent := by
    obtain rfl := Option.some.inj isCurrent
    rw [isNext]
    exact Nat.lt_succ_self _
  accepting := holds.accepting
  acceptances := holds.acceptances
  armed := holds.armed
  offerTimer id isHeld := by
    obtain ⟨_, isCurrent, _⟩ := holds.offerTimer id isHeld
    cases isCurrent
  stallTimer id isHeld := by
    obtain ⟨_, isCurrent, _⟩ := holds.stallTimer id isHeld
    cases isCurrent
  noStall _ := by
    refine holds.noStall fun state isReceiving => ?_
    rw [holds.vacant.mpr rfl] at isReceiving
    cases isReceiving

/-- The transfer of the offer shown starts. -/
theorem receives
    (holds : Incoming current files)
    {offer : PendingOffer}
    {worker : Serial}
    (isShown : files.incomingActive = some (.offerPending offer))
    (isLater : offer.ref < worker)
    (receives : Receives worker files after) : Incoming current after where
  vacant := by
    obtain ⟨state, isReceiving, _⟩ := receives.receiving
    rw [isReceiving, holds.shown offer isShown]
    exact iff_of_false (Option.some_ne_none _) (Option.some_ne_none _)
  shown other isOther := by
    obtain ⟨state, isReceiving, _⟩ := receives.receiving
    rw [isReceiving] at isOther
    cases isOther
  receiving state ref isState isCurrent := by
    obtain ⟨received, isReceiving, sameWorker⟩ := receives.receiving
    rw [isReceiving] at isState
    cases isState
    rw [holds.shown offer isShown] at isCurrent
    obtain rfl := Option.some.inj isCurrent
    rw [sameWorker]
    exact isLater
  bound ref isCurrent := Nat.lt_of_lt_of_le (holds.bound ref isCurrent) receives.nextSerial
  accepting init isAwaited := holds.accepting init (receives.accepting ▸ isAwaited)
  acceptances init isAsked := holds.acceptances init (receives.acceptances ▸ isAsked)
  armed := by
    refine receives.armed (holds.noStall fun state isReceiving => ?_) holds.armed
    rw [isShown] at isReceiving
    cases isReceiving
  offerTimer id isHeld := holds.offerTimer id (receives.offerTimer ▸ isHeld)
  stallTimer id isHeld := by
    have isCurrent := holds.shown offer isShown
    exact ⟨offer.ref, isCurrent,
      Nat.lt_of_lt_of_le (holds.bound _ isCurrent) (receives.stallTimer id isHeld)⟩
  noStall notReceiving := by
    obtain ⟨state, isReceiving, _⟩ := receives.receiving
    exact absurd isReceiving (notReceiving state)

/-- A chunk of the transfer was written. -/
theorem counts
    (holds : Incoming current files)
    {state : ReceivingState}
    (isActive : files.incomingActive = some (.receiving state))
    (counts : Counts state files after) : Incoming current after where
  vacant := by
    obtain ⟨next, isNext, _⟩ := counts.incoming
    have isVacant := holds.vacant
    rw [isActive] at isVacant
    rw [isNext]
    exact iff_of_false (Option.some_ne_none _) fun isNone =>
      Option.some_ne_none _ (isVacant.mpr isNone)
  shown offer isShown := by
    obtain ⟨next, isNext, _⟩ := counts.incoming
    rw [isNext] at isShown
    cases isShown
  receiving other ref isOther isCurrent := by
    obtain ⟨next, isNext, sameWorker, _⟩ := counts.incoming
    rw [isNext] at isOther
    cases isOther
    rw [sameWorker]
    exact holds.receiving state ref isActive isCurrent
  bound ref isCurrent := counts.nextSerial ▸ holds.bound ref isCurrent
  accepting init isAwaited := holds.accepting init (counts.accepting ▸ isAwaited)
  acceptances init isAsked := holds.acceptances init (counts.acceptances ▸ isAsked)
  armed := counts.armed holds.armed
  offerTimer id isHeld := holds.offerTimer id (counts.offerTimer ▸ isHeld)
  stallTimer id isHeld := holds.stallTimer id (counts.stallTimer ▸ isHeld)
  noStall notReceiving := by
    obtain ⟨next, isNext, _⟩ := counts.incoming
    exact absurd isNext (notReceiving next)

end Incoming

/-! ## What an ended transfer leaves behind -/

/-- Nothing of the transfer that is received now is touched, and no progress is told. -/
structure SparesIncoming (before after : Files) : Prop where
  incomingActive : after.incomingActive = before.incomingActive
  offerTimer : after.receiver.offerPendingTimer = before.receiver.offerPendingTimer
  stallTimer : after.receiver.receiveStallTimer = before.receiver.receiveStallTimer
  timers : after.timers = before.timers
  lastProgressAt : after.receiver.lastProgressAt = before.receiver.lastProgressAt
  lastProgressBytes : after.receiver.lastProgressBytes = before.receiver.lastProgressBytes
  lastPercent : after.receiver.lastReceiveNotifyPercent =
    before.receiver.lastReceiveNotifyPercent
  told : after.told = before.told
  reported : after.reported = before.reported

namespace SparesIncoming

theorem refl : SparesIncoming files files :=
  ⟨rfl, rfl, rfl, rfl, rfl, rfl, rfl, rfl, rfl⟩

theorem abandonAccept (offer : PendingOffer) (worker : Serial) :
    SparesIncoming files (files.abandonAccept offer worker) := by
  refine { SparesIncoming.refl with told := told_abandonAccept offer worker, reported := ?_ }
  change ((files.emit _).emit _).reported = files.reported
  rw [reported_emit, reported_emit]
  exact (List.append_nil _).trans (List.append_nil _)

/-- A worker that started for an offer that is gone. -/
theorem settleReceiverInit
    {worker : Serial}
    (gone : ∀ init, files.receiver.accepting = some init → init.worker = worker →
      files.isCurrentOffer init.offer = false)
    (ready : Bool) : SparesIncoming files (files.settleReceiverInit worker ready) := by
  unfold Files.settleReceiverInit
  split
  · exact refl
  next init isInit =>
    split
    next isWorker =>
      have isGone := gone init isInit isWorker
      have taken : SparesIncoming files
          { files with receiver := { files.receiver with accepting := none } } :=
        { refl with }
      have stillGone :
          { files with
            receiver := { files.receiver with accepting := none } }.isCurrentOffer init.offer =
              false :=
        isGone
      unfold Files.receiverWorkerReady
      rw [stillGone]
      exact { abandonAccept init.offer init.worker with }
    next => exact refl

end SparesIncoming

end Files

namespace FilePage

variable {page : FilePage} {input : FileInput}

/-! ## What is known of the incoming transfers -/

/-- The serial of the offer whose transfer is received now, those of the offers shown so far,
of the transfers that have ended and of the transfers whose files are being removed, and the
events told with the offers they were told of. -/
structure ReceiverLog where
  current : Option Serial
  offers : List Serial
  ended : List Serial
  cleanups : List Serial
  told : List (Serial × SystemEventKind)
  deriving DecidableEq, Repr

namespace ReceiverLog

/-- The transfer whose file was removed under an id. -/
def cleanupOf (log : ReceiverLog) (page : FilePage) (tid : Text) : Option Serial :=
  if tid ∈ page.files.receiver.cleanups then
    log.cleanups[page.files.receiver.cleanups.idxOf tid]?
  else
    none

/-- The incoming transfer that the events of a step are told of, if the step is one of the
receiver: the one whose acceptance was sent or whose file was removed, or else the one that
is received now. -/
def subject (log : ReceiverLog) (page : FilePage) (input : FileInput) : Option Serial :=
  match input.call with
  | .settled index _ => page.pending[index]?.bind fun send => send.continuation.incoming?
  | .event (.cleanedUp tid) => log.cleanupOf page tid
  | .event (.receiveWorkerMessage _ _) | .event (.receiveWorkerError _)
  | .event (.receiveWorkerReadyTimeout _) => log.current
  | .event (.timer id) =>
      match page.files.timers.find? fun timer => timer.id == id with
      | some timer => if timer.kind.outgoing?.isSome then none else log.current
      | none => none
  | .envelope (.fileComplete _ _) => log.current
  | .envelope (.fileCancel tid _ _) =>
      if page.files.currentActiveTid = some tid then none else log.current
  | .chunk _ | .acceptOffer | .declineOffer | .cancelReceiver _ | .receiverSocketClosed
  | .receiverPageHide | .receiverShutdown => log.current
  | _ => none

/-- The offer whose transfer an incoming transfer is.  A worker is started for the offer
shown: the last one before it. -/
def currentAfter (log : ReceiverLog) : Option IncomingState → Option Serial
  | none => none
  | some (.offerPending offer) => some offer.ref
  | some (.receiving state) => (log.offers.filter fun ref => ref < state.worker).getLast?

/-- The offers shown so far once the incoming transfer is the given one. -/
def offersAfter (log : ReceiverLog) : Option IncomingState → List Serial
  | some (.offerPending offer) =>
      if log.current = some offer.ref then log.offers else log.offers ++ [offer.ref]
  | _ => log.offers

def record (log : ReceiverLog) (page : FilePage) (input : FileInput) : ReceiverLog where
  current := log.currentAfter (page.step input).files.incomingActive
  offers := log.offersAfter (page.step input).files.incomingActive
  ended :=
    if log.currentAfter (page.step input).files.incomingActive = log.current then log.ended
    else log.ended ++ log.current.toList
  cleanups :=
    match input.call with
    | .event (.cleanedUp tid) =>
        if tid ∈ page.files.receiver.cleanups then
          log.cleanups.eraseIdx (page.files.receiver.cleanups.idxOf tid)
        else
          log.cleanups
    | _ =>
        if page.files.receiver.cleanups.length <
            (page.step input).files.receiver.cleanups.length then
          log.cleanups ++ log.current.toList
        else
          log.cleanups
  told :=
    log.told ++ (log.subject page input).toList.flatMap fun ref =>
      ((page.step input).out.filterMap FileEffect.event?).map fun event => (ref, event)

/-- The events told of a transfer. -/
def eventsOf (log : ReceiverLog) (ref : Serial) : List SystemEventKind :=
  (log.told.filter fun told => told.1 == ref).map Prod.snd

/-- Serials are given in order: what is older than the offer of the transfer that is
received now was made for an earlier one. -/
def Predates (log : ReceiverLog) (serial : Serial) : Prop :=
  ∀ ref, log.current = some ref → serial < ref

/-- The step comes from an acceptance, a worker, a timer or the removal of a file of a
transfer that has ended. Where steps end in turn, a removal resolves within its own
transfer, so none is left over. -/
def FromEarlier (log : ReceiverLog) (page : FilePage) (input : FileInput) : Prop :=
  match input.call with
  | .settled index _ =>
      ∃ send ref, page.pending[index]? = some send ∧
        send.continuation.incoming? = some ref ∧ log.current ≠ some ref
  | .event (.receiveWorkerMessage worker _) => log.Predates worker
  | .event (.receiveWorkerError worker) => log.Predates worker
  | .event (.receiveWorkerReadyTimeout worker) => log.Predates worker
  | .event (.timer id) =>
      ∃ timer, page.files.timers.find? (fun timer => timer.id == id) = some timer ∧
        timer.kind.outgoing? = none ∧ log.Predates id
  | .event (.cleanedUp tid) =>
      ∃ ref, log.cleanupOf page tid = some ref ∧ log.current ≠ some ref
  | _ => False

end ReceiverLog

/-- The page and what is known of its incoming transfers. -/
def receiverMachine : EventMachine.Machine (FilePage × ReceiverLog) FileInput :=
  machine.remember ReceiverLog.record

/-- Both machines have just been created, and nothing was received. -/
def NothingReceived (remembered : FilePage × ReceiverLog) : Prop :=
  Created remembered.1 ∧ remembered.2 = ⟨none, [], [], [], []⟩

/-- The page is reset after the receiver was shut down. -/
def ResetInTurn (remembered : FilePage × ReceiverLog) (input : FileInput) : Prop :=
  input.call = .resetOnTerminate → remembered.1.files.incomingActive = none

/-- The next chunk can be posted when one was written, and the file of a corrupt transfer is
removed while the transfer is still the one that is received. -/
structure EndsInTurn (remembered : FilePage × ReceiverLog) (input : FileInput) : Prop where
  reset : ResetInTurn remembered input
  posts : ∀ seq bytes state,
    remembered.1.files.incomingActive = some (.receiving state) →
      input.call = .event (.receiveWorkerMessage state.worker (.written seq bytes)) →
        state.pendingChunkQueue ≠ [] → input.env.postOk = true
  cleans : ∀ tid, input.call = .event (.cleanedUp tid) →
    tid ∈ remembered.1.files.receiver.cleanups →
      remembered.2.cleanupOf remembered.1 tid = remembered.2.current

/-! ## What one step does -/

/-- What holds of the incoming transfers between any two segments. -/
structure ReceiverSound (page : FilePage) (log : ReceiverLog) : Prop
    extends Files.Incoming log.current page.files where
  effects : page.files.effects = []
  pending : ∀ send ∈ page.pending, ∀ offer worker,
    send.continuation = .acceptSent offer worker → offer.ref < worker
  latest : ∀ ref, log.current = some ref → log.offers.getLast? = some ref
  cleanups : log.cleanups.length = page.files.receiver.cleanups.length
  once : ∀ ref, (log.eventsOf ref).length ≤ 1
  ended : ∀ ref ∈ log.ended, ref < page.files.nextSerial ∧ log.current ≠ some ref
  past : ∀ ref, log.eventsOf ref ≠ [] → ref ∈ log.ended

namespace ReceiverSound

variable {log : ReceiverLog}

/-- The offer shown is the one the log names. -/
theorem isCurrentOffer
    (sound : page.ReceiverSound log)
    {offer : PendingOffer}
    (isCurrent : page.files.isCurrentOffer offer = true) : log.current = some offer.ref := by
  obtain ⟨current, isShown, sameRef⟩ := Files.shown_of_isCurrentOffer isCurrent
  rw [sound.shown current isShown, sameRef]

/-- A worker older than the offer is not the worker of the transfer. -/
theorem ne_worker
    (sound : page.ReceiverSound log)
    {worker : Serial}
    {state : ReceivingState}
    (earlier : log.Predates worker)
    (isActive : page.files.incomingActive = some (.receiving state)) : state.worker ≠ worker := by
  intro sameWorker
  cases isCurrent : log.current with
  | none =>
      rw [sound.vacant.mpr isCurrent] at isActive
      cases isActive
  | some ref =>
      have late := sound.receiving state ref isActive isCurrent
      rw [sameWorker] at late
      exact Nat.lt_asymm late (earlier ref isCurrent)

theorem handleReceiveWorkerMessage
    (sound : page.ReceiverSound log)
    {worker : Serial}
    (earlier : log.Predates worker)
    (env : FileEnv)
    (message : Files.ReceiveWorkerOut) :
    page.files.handleReceiveWorkerMessage env message worker = page.files := by
  unfold Files.handleReceiveWorkerMessage
  split
  · rfl
  next state isReceiving =>
    exact if_pos (sound.ne_worker earlier (Files.incomingActive_of_getReceivingState isReceiving))

theorem settleReceiverInit
    (sound : page.ReceiverSound log)
    {worker : Serial}
    (earlier : log.Predates worker)
    (ready : Bool) :
    Files.SparesIncoming page.files (page.files.settleReceiverInit worker ready) := by
  refine .settleReceiverInit ?_ ready
  rintro init isInit rfl
  rw [Bool.eq_false_iff]
  intro isCurrent
  have late := sound.accepting init isInit
  exact Nat.lt_asymm late (earlier init.offer.ref (sound.isCurrentOffer isCurrent))

/-- No timer of the receiver outlives its transfer. -/
theorem not_predates
    (sound : page.ReceiverSound log)
    {timer : FileTimer}
    (isArmed : timer ∈ page.files.timers)
    (isIncoming : timer.kind.outgoing? = none) : ¬log.Predates timer.id := by
  intro earlier
  cases isKind : timer.kind with
  | offerPending tid =>
      obtain ⟨ref, isCurrent, late⟩ :=
        sound.offerTimer timer.id (sound.armed.offer timer isArmed tid isKind)
      exact Nat.lt_asymm late (earlier ref isCurrent)
  | receiveStall tid =>
      obtain ⟨ref, isCurrent, late⟩ :=
        sound.stallTimer timer.id (sound.armed.stall timer isArmed tid isKind)
      exact Nat.lt_asymm late (earlier ref isCurrent)
  | offered tid =>
      rw [isKind] at isIncoming
      cases isIncoming
  | verifying tid name size =>
      rw [isKind] at isIncoming
      cases isIncoming
  | sendLoopPoll worker tid =>
      rw [isKind] at isIncoming
      cases isIncoming

/-- What comes from a transfer that has ended leaves the transfer received now alone. -/
theorem spares
    (sound : page.ReceiverSound log)
    (allowed : EndsInTurn (page, log) input)
    (fromEarlier : log.FromEarlier page input) :
    Files.SparesIncoming page.files (page.segment input.env input.call) := by
  obtain ⟨call, env⟩ := input
  cases call with
  | settled index sent =>
      obtain ⟨send, ref, isSend, isIncoming, notCurrent⟩ := fromEarlier
      have isSegment : page.segment env (.settled index sent) =
          page.files.resume env send.continuation sent := by
        simp only [segment, isSend]
      dsimp only
      rw [isSegment]
      cases isContinuation : send.continuation with
      | acceptSent offer worker =>
          rw [isContinuation] at isIncoming
          obtain rfl := Option.some.inj isIncoming
          have isGone : page.files.isCurrentOffer offer = false :=
            Bool.eq_false_iff.mpr fun isCurrent => notCurrent (sound.isCurrentOffer isCurrent)
          change Files.SparesIncoming page.files (page.files.acceptSent env offer worker sent)
          unfold Files.acceptSent
          rw [isGone]
          exact .abandonAccept offer worker
      | discard =>
          rw [isContinuation] at isIncoming
          cases isIncoming
      | offerSent offered =>
          rw [isContinuation] at isIncoming
          cases isIncoming
      | chunkSent worker sending dataLength =>
          rw [isContinuation] at isIncoming
          cases isIncoming
  | event event =>
      cases event with
      | receiveWorkerMessage worker message =>
          have earlier : log.Predates worker := fromEarlier
          have handled := sound.handleReceiveWorkerMessage earlier env message
          cases message with
          | ready =>
              change Files.SparesIncoming page.files
                ((page.files.handleReceiveWorkerMessage env .ready worker).settleReceiverInit
                  worker true)
              rw [handled]
              exact sound.settleReceiverInit earlier true
          | fatal =>
              change Files.SparesIncoming page.files
                ((page.files.handleReceiveWorkerMessage env .fatal worker).settleReceiverInit
                  worker false)
              rw [handled]
              exact sound.settleReceiverInit earlier false
          | written seq bytes =>
              change Files.SparesIncoming page.files
                (page.files.handleReceiveWorkerMessage env (.written seq bytes) worker)
              rw [handled]
              exact .refl
          | shortWrite written expected =>
              change Files.SparesIncoming page.files
                (page.files.handleReceiveWorkerMessage env (.shortWrite written expected) worker)
              rw [handled]
              exact .refl
          | done sha256Hex bytesWritten fileSize =>
              change Files.SparesIncoming page.files
                (page.files.handleReceiveWorkerMessage env
                  (.done sha256Hex bytesWritten fileSize) worker)
              rw [handled]
              exact .refl
          | closed =>
              change Files.SparesIncoming page.files
                (page.files.handleReceiveWorkerMessage env .closed worker)
              rw [handled]
              exact .refl
      | receiveWorkerError worker =>
          have earlier : log.Predates worker := fromEarlier
          have handled : page.files.handle env (.receiveWorkerError worker) =
              page.files.settleReceiverInit worker false := by
            unfold Files.handle
            dsimp only
            split
            next current isReceiving =>
              have isActive := Files.incomingActive_of_getReceivingState isReceiving
              rw [if_neg (sound.ne_worker earlier isActive)]
            next => rfl
          change Files.SparesIncoming page.files (page.files.handle env (.receiveWorkerError worker))
          rw [handled]
          exact sound.settleReceiverInit earlier false
      | receiveWorkerReadyTimeout worker => exact sound.settleReceiverInit fromEarlier false
      | timer id =>
          obtain ⟨timer, isFound, isIncoming, earlier⟩ := fromEarlier
          have isId := List.find?_some isFound
          obtain rfl := beq_iff_eq.mp isId
          exact absurd earlier
            (sound.not_predates (List.mem_of_find?_eq_some isFound) isIncoming)
      | cleanedUp tid =>
          obtain ⟨ref, isCleanup, notCurrent⟩ := fromEarlier
          have isListed : tid ∈ page.files.receiver.cleanups := by
            by_contra notListed
            rw [ReceiverLog.cleanupOf, if_neg notListed] at isCleanup
            cases isCleanup
          have isCurrent := allowed.cleans tid rfl isListed
          rw [isCleanup] at isCurrent
          exact absurd isCurrent.symm notCurrent
      | _ => cases fromEarlier
  | _ => cases fromEarlier

end ReceiverSound

/-- What a step does to the incoming transfer, when it tells its events of `subject`. -/
inductive ReceiverOutcome (log : ReceiverLog) (page : FilePage) (input : FileInput)
    (after : Files) : Prop where
  | acts :
      Files.ReceiverAct page.files after →
      (∀ ref, log.subject page input = some ref →
        log.current = some ref ∨ after.told = page.files.told) →
      (∀ tid, input.call ≠ .event (.cleanedUp tid)) →
      ReceiverOutcome log page input after
  | aside :
      Files.Proceeds page.files after →
      log.subject page input = none →
      (∀ tid, input.call ≠ .event (.cleanedUp tid)) →
      ReceiverOutcome log page input after
  | counts (state : ReceivingState) :
      page.files.incomingActive = some (.receiving state) →
      Files.Counts state page.files after →
      (∀ tid, input.call ≠ .event (.cleanedUp tid)) →
      ReceiverOutcome log page input after
  | starts (offer : PendingOffer) :
      offer.ref = page.files.nextSerial →
      page.files.incomingActive = none →
      Files.ReceiverAct (page.files.withOffer offer) after →
      log.subject page input = none →
      (∀ tid, input.call ≠ .event (.cleanedUp tid)) →
      ReceiverOutcome log page input after
  | receives (send : PendingSend) (offer : PendingOffer) (worker : Serial) :
      send ∈ page.pending →
      send.continuation = .acceptSent offer worker →
      page.files.isCurrentOffer offer = true →
      Files.Receives worker page.files after →
      (∀ tid, input.call ≠ .event (.cleanedUp tid)) →
      ReceiverOutcome log page input after
  | removes (middle : Files) (state : ReceivingState) :
      page.files.incomingActive = some (.receiving state) →
      Files.Proceeds page.files middle →
      middle.told = page.files.told →
      after =
        { middle with
          receiver :=
            { middle.receiver with
              cleanups := middle.receiver.cleanups ++ [state.tid] } } →
      (∀ tid, input.call ≠ .event (.cleanedUp tid)) →
      ReceiverOutcome log page input after
  | removed (tid : Text) :
      input.call = .event (.cleanedUp tid) →
      after = page.files.workerDoneCleanedUp tid →
      ReceiverOutcome log page input after

namespace ReceiverOutcome

variable {log : ReceiverLog} {after : Files}

theorem of_created
    {created : Bool}
    (isSubject : log.subject page input = log.current)
    (notCleanedUp : ∀ tid, input.call ≠ .event (.cleanedUp tid))
    (called : Files.ReceiverAct page.files after) :
    ReceiverOutcome log page input (if created then after else page.files) :=
  .acts (.of_created called) (fun _ isRef => .inl (isSubject ▸ isRef)) notCleanedUp

end ReceiverOutcome

section ReceiveWorkerMessage

variable {log : ReceiverLog} {env : FileEnv} {worker : Serial} {message : Files.ReceiveWorkerOut}

theorem outcome_of_act_worker {after : Files} (act : Files.ReceiverAct page.files after) :
    ReceiverOutcome log page ⟨.event (.receiveWorkerMessage worker message), env⟩ after :=
  .acts act (fun _ isRef => .inl isRef) (by simp)

/-- A report that the transfer does not wait for. -/
theorem outcome_of_unheard
    (handled : page.files.handleReceiveWorkerMessage env message worker = page.files) :
    ReceiverOutcome log page ⟨.event (.receiveWorkerMessage worker message), env⟩
      (page.files.handle env (.receiveWorkerMessage worker message)) := by
  refine outcome_of_act_worker ?_
  cases message with
  | ready =>
      change Files.ReceiverAct page.files
        ((page.files.handleReceiveWorkerMessage env .ready worker).settleReceiverInit worker true)
      rw [handled]
      exact .settleReceiverInit worker true
  | fatal =>
      change Files.ReceiverAct page.files
        ((page.files.handleReceiveWorkerMessage env .fatal worker).settleReceiverInit worker
          false)
      rw [handled]
      exact .settleReceiverInit worker false
  | written seq bytes =>
      change Files.ReceiverAct page.files
        (page.files.handleReceiveWorkerMessage env (.written seq bytes) worker)
      rw [handled]
      exact .refl
  | shortWrite written expected =>
      change Files.ReceiverAct page.files
        (page.files.handleReceiveWorkerMessage env (.shortWrite written expected) worker)
      rw [handled]
      exact .refl
  | done sha256Hex bytesWritten fileSize =>
      change Files.ReceiverAct page.files
        (page.files.handleReceiveWorkerMessage env (.done sha256Hex bytesWritten fileSize) worker)
      rw [handled]
      exact .refl
  | closed =>
      change Files.ReceiverAct page.files
        (page.files.handleReceiveWorkerMessage env .closed worker)
      rw [handled]
      exact .refl

/-- The worker has written the whole file. -/
theorem outcome_handleWorkerDone
    {state : ReceivingState}
    (isActive : page.files.incomingActive = some (.receiving state))
    (sha256Hex : Text)
    (bytesWritten fileSize : Nat) :
    ReceiverOutcome log page ⟨.event (.receiveWorkerMessage worker message), env⟩
      (page.files.handleWorkerDone state sha256Hex bytesWritten fileSize) := by
  unfold Files.handleWorkerDone
  split
  · exact outcome_of_act_worker (.completed _ _ _)
  · refine .removes
      ((page.files.sendCancelAsReceiver state.tid .integrityFailure).emit
        (.cleanupOpfs state.tid))
      state isActive ((Files.Proceeds.emit rfl rfl).trans (.emit rfl rfl)) ?_ rfl (by simp)
    change ((page.files.emit _).emit _).told = _
    rw [Files.told_emit, Files.told_emit]
    exact (List.append_nil _).trans (List.append_nil _)

/-- The report of a receive worker. -/
theorem outcome_receiveWorkerMessage
    (allowed : EndsInTurn (page, log) ⟨.event (.receiveWorkerMessage worker message), env⟩) :
    ReceiverOutcome log page ⟨.event (.receiveWorkerMessage worker message), env⟩
      (page.files.handle env (.receiveWorkerMessage worker message)) := by
  cases isReceiving : page.files.getReceivingState with
  | none =>
      refine outcome_of_unheard ?_
      unfold Files.handleReceiveWorkerMessage
      rw [isReceiving]
  | some state =>
      have isActive := Files.incomingActive_of_getReceivingState isReceiving
      have busy : page.files.incomingActive ≠ none := isActive ▸ Option.some_ne_none _
      by_cases isWorker : state.worker = worker
      · subst isWorker
        cases message with
        | ready =>
            refine outcome_of_unheard ?_
            simp only [Files.handleReceiveWorkerMessage, isReceiving, ite_self]
        | closed =>
            refine outcome_of_unheard ?_
            simp only [Files.handleReceiveWorkerMessage, isReceiving, ite_self]
        | written seq bytes =>
            refine .counts state isActive ?_ (by simp)
            change Files.Counts state page.files
              (page.files.handleReceiveWorkerMessage env (.written seq bytes) state.worker)
            simp only [Files.handleReceiveWorkerMessage, isReceiving, ne_eq, not_true_eq_false,
              if_false]
            exact .handleWorkerWritten env state bytes isActive
              (allowed.posts seq bytes state isActive rfl)
        | done sha256Hex bytesWritten fileSize =>
            change ReceiverOutcome log page _
              (page.files.handleReceiveWorkerMessage env (.done sha256Hex bytesWritten fileSize)
                state.worker)
            simp only [Files.handleReceiveWorkerMessage, isReceiving, ne_eq, not_true_eq_false,
              if_false]
            exact outcome_handleWorkerDone isActive sha256Hex bytesWritten fileSize
        | shortWrite written expected =>
            refine outcome_of_act_worker ?_
            change Files.ReceiverAct page.files
              (page.files.handleReceiveWorkerMessage env (.shortWrite written expected)
                state.worker)
            simp only [Files.handleReceiveWorkerMessage, isReceiving, ne_eq, not_true_eq_false,
              if_false]
            exact .integrityFailureAbort state busy
        | fatal =>
            refine outcome_of_act_worker ?_
            change Files.ReceiverAct page.files
              ((page.files.handleReceiveWorkerMessage env .fatal state.worker).settleReceiverInit
                state.worker false)
            simp only [Files.handleReceiveWorkerMessage, isReceiving, ne_eq, not_true_eq_false,
              if_false]
            exact (Files.ReceiverAct.integrityFailureAbort state busy).trans
              (.settleReceiverInit _ _)
      · refine outcome_of_unheard ?_
        unfold Files.handleReceiveWorkerMessage
        rw [isReceiving]
        exact if_pos isWorker

end ReceiveWorkerMessage

section Outcomes

variable {log : ReceiverLog} {env : FileEnv}

/-- A failure of a receive worker. -/
theorem outcome_receiveWorkerError (worker : Serial) :
    ReceiverOutcome log page ⟨.event (.receiveWorkerError worker), env⟩
      (page.files.handle env (.receiveWorkerError worker)) := by
  refine .acts ?_ (fun _ isRef => .inl isRef) (by simp)
  change Files.ReceiverAct page.files (Files.settleReceiverInit _ worker false)
  refine Files.ReceiverAct.trans ?_ (.settleReceiverInit worker false)
  split
  next current isReceiving =>
    split
    · refine .integrityFailureAbort current ?_
      rw [Files.incomingActive_of_getReceivingState isReceiving]
      exact Option.some_ne_none _
    · exact .refl
  next => exact .refl

/-- A timer fires, early or in time. -/
theorem outcome_timer (armed : page.files.Armed) (id : Serial) :
    ReceiverOutcome log page ⟨.event (.timer id), env⟩
      (page.files.handle env (.timer id)) := by
  unfold Files.handle
  dsimp only
  split
  next isMissing =>
    refine .aside .refl ?_ (by simp)
    simp only [ReceiverLog.subject, isMissing]
  next timer isFound =>
    have isTimer := List.mem_of_find?_eq_some isFound
    have isId : timer.id = id := by
      have found := List.find?_some isFound
      exact beq_iff_eq.mp found
    subst isId
    have ofReceiver : ∀ {after}, timer.kind.outgoing? = none →
        Files.ReceiverAct page.files after →
          ReceiverOutcome log page ⟨.event (.timer timer.id), env⟩ after := by
      intro after isIncoming act
      refine .acts act (fun ref isRef => .inl ?_) (by simp)
      simp only [ReceiverLog.subject, isFound, isIncoming, Option.isSome_none, Bool.false_eq_true,
        if_false] at isRef
      exact isRef
    have ofSender : ∀ {after tid}, timer.kind.outgoing? = some tid →
        Files.Proceeds page.files after →
          ReceiverOutcome log page ⟨.event (.timer timer.id), env⟩ after := by
      intro after tid isOutgoing proceeds
      refine .aside proceeds ?_ (by simp)
      simp only [ReceiverLog.subject, isFound, isOutgoing, Option.isSome_some, if_true]
    have disarmed : Files.Proceeds page.files (page.files.disarm timer.id) := .disarm timer.id
    split
    · cases isKind : timer.kind with
      | offerPending tid =>
          refine ofReceiver (by rw [isKind]; rfl) ?_
          exact .offerPendingTimeout tid (armed.offer timer isTimer tid isKind)
      | receiveStall tid =>
          refine ofReceiver (by rw [isKind]; rfl) ?_
          exact .receiveStallTimeout tid (armed.stall timer isTimer tid isKind)
      | offered tid =>
          refine ofSender (by rw [isKind]; rfl) (disarmed.trans ?_)
          exact .of_sender (.offeredTimeout tid) (.offeredTimeout tid)
      | verifying tid name size =>
          refine ofSender (by rw [isKind]; rfl) (disarmed.trans ?_)
          exact .finalizeVerifyingAsSuccess tid name size
      | sendLoopPoll worker tid =>
          refine ofSender (by rw [isKind]; rfl) (disarmed.trans ?_)
          exact .of_sender (.sendLoopTurn env worker tid) (.sendLoopTurn env worker tid)
    · cases isOutgoing : timer.kind.outgoing? with
      | none => exact ofReceiver isOutgoing .refl
      | some tid => exact ofSender isOutgoing .refl

/-- A send of either machine settles. -/
theorem outcome_settled (index : Nat) (sent : Bool) :
    ReceiverOutcome log page ⟨.settled index sent, env⟩
      (page.segment env (.settled index sent)) := by
  unfold segment
  dsimp only
  split
  next isMissing =>
    refine .aside .refl ?_ (by simp)
    simp only [ReceiverLog.subject, isMissing, Option.bind_none]
  next send isSend =>
    have ofSender : ∀ {after}, send.continuation.incoming? = none →
        Files.Proceeds page.files after →
          ReceiverOutcome log page ⟨.settled index sent, env⟩ after := by
      intro after isOutgoing proceeds
      refine .aside proceeds ?_ (by simp)
      simp only [ReceiverLog.subject, isSend, Option.bind_some, isOutgoing]
    cases isContinuation : send.continuation with
    | discard => exact ofSender (by rw [isContinuation]; rfl) .refl
    | offerSent tid =>
        refine ofSender (by rw [isContinuation]; rfl) ?_
        exact .of_sender (.offerSent tid sent) (.offerSent tid sent)
    | chunkSent worker tid dataLength =>
        refine ofSender (by rw [isContinuation]; rfl) ?_
        exact .of_sender (.chunkSent env worker tid dataLength sent)
          (.chunkSent env worker tid dataLength sent)
    | acceptSent offer worker =>
        rcases page.files.acceptSent_cases env offer worker sent with ⟨act, silent⟩ |
          ⟨isCurrent, receives⟩
        · exact .acts act (fun _ _ => .inr silent) (by simp)
        · exact .receives send offer worker (List.mem_of_getElem? isSend) isContinuation isCurrent
            receives (by simp)

/-- An envelope of the peer. -/
theorem outcome_envelope (content : PlaintextEnvelope) :
    ReceiverOutcome log page ⟨.envelope content, env⟩
      (page.files.dispatchFileEnvelope env content) := by
  have ofSender : ∀ {after}, log.subject page ⟨.envelope content, env⟩ = none →
      Files.Proceeds page.files after →
        ReceiverOutcome log page ⟨.envelope content, env⟩ after :=
    fun isAside proceeds => .aside proceeds isAside (by simp)
  cases content with
  | fileOffer tid name size =>
      cases isCreated : page.files.receiverCreated with
      | false =>
          refine ofSender rfl ?_
          simp only [Files.dispatchFileEnvelope, isCreated, Bool.false_eq_true, if_false]
          exact .refl
      | true =>
          have isDispatched : page.files.dispatchFileEnvelope env (.fileOffer tid name size) =
              page.files.dispatchOffer env tid name size :=
            if_pos isCreated
          rw [isDispatched]
          rcases page.files.dispatchOffer_cases env tid name size with proceeds |
            ⟨offer, isNext, isVacant, act⟩
          · exact ofSender rfl proceeds
          · exact .starts offer isNext isVacant act rfl (by simp)
  | fileComplete tid sha256 => exact .of_created rfl (by simp) (.dispatchComplete tid sha256)
  | fileCancel tid side reason =>
      unfold Files.dispatchFileEnvelope
      dsimp only
      unfold Files.routeFileCancel
      split
      next isOutgoing =>
        refine ofSender (if_pos isOutgoing) ?_
        exact .of_created (.dispatchFromReceiver env _)
      next notOutgoing =>
        refine .acts ?_ (fun ref isRef => .inl ?_) (by simp)
        · split
          · exact .dispatchCancel tid side reason
          · exact .refl
        · simp only [ReceiverLog.subject, notOutgoing, if_false] at isRef
          exact isRef
  | _ => exact ofSender rfl (.of_created (.dispatchFromReceiver env _))

/-- A message, a failure, a timer or the page itself. -/
theorem outcome_event
    (armed : page.files.Armed)
    {event : Files.Event}
    (allowed : EndsInTurn (page, log) ⟨.event event, env⟩) :
    ReceiverOutcome log page ⟨.event event, env⟩ (page.files.handle env event) := by
  cases event with
  | sendWorkerMessage worker message =>
      refine .aside ?_ rfl (by simp)
      have handles : Files.Proceeds page.files
          (page.files.handleSendWorkerMessage message worker) :=
        .of_sender (.handleSendWorkerMessage message worker)
          (.handleSendWorkerMessage message worker)
      have settles : ∀ {files : Files} ready,
          Files.Proceeds files (files.settleSenderInit env worker ready) :=
        fun ready => .of_sender (.settleSenderInit env worker ready)
          (.settleSenderInit env worker ready)
      cases message with
      | ready | fatal => exact handles.trans (settles _)
      | plaintextChunk | final | closed => exact handles
  | sendWorkerError worker =>
      refine .aside ?_ rfl (by simp)
      have fails : Files.Proceeds page.files (page.files.handleWorkerFatal worker) :=
        .of_sender (.handleWorkerFatal worker) (.handleWorkerFatal worker)
      exact fails.trans
        (.of_sender (.settleSenderInit env worker false) (.settleSenderInit env worker false))
  | sendWorkerReadyTimeout worker =>
      refine .aside ?_ rfl (by simp)
      exact .of_sender (.settleSenderInit env worker false) (.settleSenderInit env worker false)
  | receiveWorkerMessage worker message => exact outcome_receiveWorkerMessage allowed
  | receiveWorkerError worker => exact outcome_receiveWorkerError worker
  | receiveWorkerReadyTimeout worker =>
      exact .acts (.settleReceiverInit worker false) (fun _ isRef => .inl isRef) (by simp)
  | cleanedUp tid => exact .removed tid rfl rfl
  | timer id => exact outcome_timer armed id
  | initialised supported enabled =>
      exact .aside { Files.Proceeds.refl with } rfl (by simp)

end Outcomes

namespace ReceiverSound

variable {log : ReceiverLog}

/-- Every call is one of the receiver, or leaves the incoming transfer alone. -/
theorem outcome
    (sound : page.ReceiverSound log)
    (allowed : EndsInTurn (page, log) input) :
    ReceiverOutcome log page input (page.segment input.env input.call) := by
  obtain ⟨call, env⟩ := input
  cases call with
  | envelope content => exact outcome_envelope content
  | event event => exact outcome_event sound.armed allowed
  | settled index sent => exact outcome_settled index sent
  | resetOnTerminate =>
      have isVacant : page.files.incomingActive = none := allowed.reset rfl
      have resets : Files.Proceeds page.files page.files.resetFileStateOnTerminate := by
        refine { Files.Proceeds.refl with incoming := ?_ }
        rw [isVacant]
        exact .same none
      exact .aside resets rfl (by simp)
  | startTransfer file tid =>
      exact .aside
        (.of_created (.of_sender (.startTransfer env file tid) (.startTransfer env file tid)))
        rfl (by simp)
  | cancelSender reason =>
      exact .aside
        (.of_created (.of_sender (.cancelActiveAsSender reason) (.cancelActiveAsSender reason)))
        rfl (by simp)
  | senderSocketClosed =>
      exact .aside (.of_created (.of_sender .senderOnWsClose .senderOnWsClose)) rfl (by simp)
  | senderPageHide =>
      exact .aside (.of_created (.of_sender (.senderPageHide env) (.senderPageHide env)))
        rfl (by simp)
  | senderShutdown =>
      exact .aside (.of_created (.of_sender .senderShutdown .senderShutdown)) rfl (by simp)
  | chunk parsed => exact .of_created rfl (by simp) (.receiveChunk env parsed)
  | acceptOffer => exact .of_created rfl (by simp) (.acceptOffer env)
  | declineOffer => exact .of_created rfl (by simp) .declineOffer
  | cancelReceiver reason => exact .of_created rfl (by simp) (.cancelActiveAsReceiver reason)
  | receiverSocketClosed => exact .of_created rfl (by simp) .receiverOnWsClose
  | receiverPageHide => exact .of_created rfl (by simp) .receiverPageHide
  | receiverShutdown => exact .of_created rfl (by simp) .receiverShutdown

/-- The removal of a file that the transfer has waited for ends the transfer. -/
theorem cleanedUp_cases
    (sound : page.ReceiverSound log)
    (allowed : EndsInTurn (page, log) input)
    {tid : Text}
    (isCall : input.call = .event (.cleanedUp tid)) :
    (tid ∉ page.files.receiver.cleanups ∧ page.files.workerDoneCleanedUp tid = page.files) ∨
      (tid ∈ page.files.receiver.cleanups ∧
        log.subject page input = log.current ∧
        Files.ReceiverAct
          { page.files with
            receiver :=
              { page.files.receiver with cleanups := page.files.receiver.cleanups.erase tid } }
          (page.files.workerDoneCleanedUp tid)) := by
  unfold Files.workerDoneCleanedUp
  split
  next isListed =>
    have isCleanup := allowed.cleans tid isCall isListed
    dsimp only at isCleanup
    have isSubject : log.subject page input = log.cleanupOf page tid := by
      simp only [ReceiverLog.subject, isCall]
    refine .inr ⟨isListed, isSubject.trans isCleanup, .finishTransfer _ fun isVacant => ?_⟩
    have inRange : page.files.receiver.cleanups.idxOf tid < log.cleanups.length := by
      rw [sound.cleanups]
      exact List.idxOf_lt_length_iff.mpr isListed
    rw [ReceiverLog.cleanupOf, if_pos isListed, List.getElem?_eq_getElem inRange,
      sound.vacant.mp isVacant] at isCleanup
    cases isCleanup
  next notListed => exact .inl ⟨notListed, rfl⟩

end ReceiverSound

/-- The invariant after a step, and the transfer that is received then: the same as before,
none, or one whose offer was made in the step. -/
structure IncomingMoved (log : ReceiverLog) (page : FilePage) (after : Files) : Prop where
  incoming : Files.Incoming (log.currentAfter after.incomingActive) after
  current : log.currentAfter after.incomingActive = log.current ∨
    after.incomingActive = none ∨
    ∃ offer, after.incomingActive = some (.offerPending offer) ∧
      offer.ref = page.files.nextSerial

section CurrentAfter

variable {log : ReceiverLog} {files after : Files}

theorem getLast?_filter_of_last
    {serials : List Serial}
    {isKept : Serial → Bool}
    {last : Serial}
    (isLast : serials.getLast? = some last)
    (kept : isKept last = true) : (serials.filter isKept).getLast? = some last := by
  obtain ⟨earlier, rfl⟩ := List.getLast?_eq_some_iff.mp isLast
  rw [List.filter_append, List.filter_singleton, kept]
  exact List.getLast?_concat

/-- The log names the transfer that the invariant is about. -/
theorem currentAfter_of_incoming
    (latest : ∀ ref, log.current = some ref → log.offers.getLast? = some ref)
    (holds : Files.Incoming log.current files) :
    log.currentAfter files.incomingActive = log.current := by
  cases isIncoming : files.incomingActive with
  | none => exact (holds.vacant.mp isIncoming).symm
  | some incoming =>
      cases incoming with
      | offerPending offer => exact (holds.shown offer isIncoming).symm
      | receiving state =>
          obtain ⟨ref, isCurrent⟩ := holds.busy (isIncoming ▸ Option.some_ne_none _)
          have isOlder := holds.receiving state ref isIncoming isCurrent
          rw [isCurrent]
          exact getLast?_filter_of_last (latest ref isCurrent) (decide_eq_true isOlder)

theorem IncomingMoved.same
    (latest : ∀ ref, log.current = some ref → log.offers.getLast? = some ref)
    (holds : Files.Incoming log.current after) : IncomingMoved log page after := by
  have isCurrent := currentAfter_of_incoming latest holds
  exact ⟨isCurrent.symm ▸ holds, .inl isCurrent⟩

theorem IncomingMoved.ended
    (isEnded : after.incomingActive = none)
    (holds : Files.Incoming none after) : IncomingMoved log page after := by
  have isNone : log.currentAfter after.incomingActive = none := by
    rw [isEnded]
    rfl
  exact ⟨isNone.symm ▸ holds, .inr (.inl isEnded)⟩

theorem IncomingMoved.of_act
    (latest : ∀ ref, log.current = some ref → log.offers.getLast? = some ref)
    (holds : Files.Incoming log.current files)
    (act : Files.ReceiverAct files after) : IncomingMoved log page after := by
  rcases act with ⟨proceeds, _⟩ | ⟨ends, _⟩
  · exact .same latest (holds.proceeds proceeds)
  · exact .ended ends.ended (holds.finishes ends)

end CurrentAfter

namespace ReceiverSound

variable {log : ReceiverLog}

theorem moved
    (sound : page.ReceiverSound log)
    (allowed : EndsInTurn (page, log) input) :
    IncomingMoved log page (page.segment input.env input.call) := by
  cases sound.outcome allowed with
  | acts act => exact .of_act sound.latest sound.toIncoming act
  | aside proceeds => exact .same sound.latest (sound.toIncoming.proceeds proceeds)
  | counts state isActive counts => exact .same sound.latest (sound.toIncoming.counts isActive counts)
  | starts offer isNext isVacant act =>
      have vacant : Files.Incoming none page.files :=
        sound.vacant.mp isVacant ▸ sound.toIncoming
      have shows := vacant.withOffer isNext
      rcases act with ⟨proceeds, _⟩ | ⟨ends, _⟩
      · have holds := shows.proceeds proceeds
        have isShown : (page.segment input.env input.call).incomingActive =
            some (.offerPending offer) :=
          proceeds.incoming.offer_after rfl
        have isCurrent : log.currentAfter (page.segment input.env input.call).incomingActive =
            some offer.ref := by
          rw [isShown]
          rfl
        exact ⟨isCurrent.symm ▸ holds, .inr (.inr ⟨offer, isShown, isNext⟩)⟩
      · exact .ended ends.ended (shows.finishes ends)
  | receives send offer worker isPending isContinuation isCurrent receives =>
      obtain ⟨current, isShown, sameRef⟩ := Files.shown_of_isCurrentOffer isCurrent
      refine .same sound.latest (sound.toIncoming.receives isShown ?_ receives)
      rw [sameRef]
      exact sound.pending send isPending offer worker isContinuation
  | removes middle state isActive proceeds silent isAfter =>
      have holds := sound.toIncoming.proceeds proceeds
      rw [isAfter]
      exact .same sound.latest { holds with }
  | removed tid isCall isAfter =>
      rw [isAfter]
      rcases sound.cleanedUp_cases allowed isCall with ⟨_, isSame⟩ | ⟨_, _, act⟩
      · rw [isSame]
        exact .same sound.latest sound.toIncoming
      · have holds : Files.Incoming log.current
            { page.files with
              receiver :=
                { page.files.receiver with
                  cleanups := page.files.receiver.cleanups.erase tid } } :=
          { sound.toIncoming with }
        exact .of_act sound.latest holds act

/-- A step tells events only of the transfer that it ends, and then at most one. -/
theorem told_of_subject
    (sound : page.ReceiverSound log)
    (allowed : EndsInTurn (page, log) input)
    {ref : Serial}
    (isSubject : log.subject page input = some ref) :
    (page.segment input.env input.call).told = [] ∨
      (log.current = some ref ∧
        (page.segment input.env input.call).incomingActive = none ∧
        (page.segment input.env input.call).told.length ≤ 1) := by
  have before : page.files.told = [] := by
    rw [Files.told, sound.effects]
    rfl
  have ofAct : ∀ {files after : Files}, Files.ReceiverAct files after → files.told = [] →
      log.current = some ref →
        after.told = [] ∨
          (log.current = some ref ∧ after.incomingActive = none ∧ after.told.length ≤ 1) := by
    intro files after act silent isCurrent
    rcases act with ⟨_, told⟩ | ⟨ends, events, few, told⟩
    · exact .inl (told.trans silent)
    · rw [silent, List.nil_append] at told
      exact .inr ⟨isCurrent, ends.ended, told ▸ few⟩
  cases sound.outcome allowed with
  | acts act isOwn =>
      rcases isOwn ref isSubject with isCurrent | told
      · exact ofAct act before isCurrent
      · exact .inl (told.trans before)
  | aside _ isAside =>
      rw [isAside] at isSubject
      cases isSubject
  | starts _ _ _ _ isAside =>
      rw [isAside] at isSubject
      cases isSubject
  | counts _ _ counts => exact .inl (counts.told.trans before)
  | receives _ _ _ _ _ _ receives => exact .inl (receives.told.trans before)
  | removes middle state _ _ silent isAfter =>
      rw [isAfter]
      exact .inl (silent.trans before)
  | removed tid isCall isAfter =>
      rw [isAfter]
      rcases sound.cleanedUp_cases allowed isCall with ⟨_, isSame⟩ | ⟨_, isCurrent, act⟩
      · rw [isSame]
        exact .inl before
      · exact ofAct act before (isCurrent.symm.trans isSubject)

theorem eventsOf_record (log : ReceiverLog) (page : FilePage) (input : FileInput) (ref : Serial) :
    (log.record page input).eventsOf ref =
      log.eventsOf ref ++
        if log.subject page input = some ref then (page.segment input.env input.call).told
        else [] :=
  events_append log.told (log.subject page input) (page.segment input.env input.call).told ref

/-- An acceptance that waits to be sent was asked for with a later worker. -/
theorem pending_step
    (sound : page.ReceiverSound log)
    (moved : IncomingMoved log page (page.segment input.env input.call))
    {send : PendingSend}
    (isSend : send ∈ (page.step input).pending)
    {offer : PendingOffer}
    {worker : Serial}
    (isContinuation : send.continuation = .acceptSent offer worker) : offer.ref < worker := by
  rcases mem_step_pending isSend with isEarlier | ⟨effect, isEffect, isSent⟩
  · exact sound.pending send isEarlier offer worker isContinuation
  · refine moved.incoming.acceptances { offer, worker } ?_
    refine List.mem_filterMap.mpr ⟨effect, isEffect, ?_⟩
    cases effect with
    | sendEnvelope content continuation =>
        obtain rfl := Option.some.inj isSent
        obtain rfl : continuation = .acceptSent offer worker := isContinuation
        rfl
    | sendChunk plaintext continuation =>
        obtain rfl := Option.some.inj isSent
        obtain rfl : continuation = .acceptSent offer worker := isContinuation
        rfl
    | _ => cases isSent

/-- A step that removes no file begins the removal of at most the current one's. -/
theorem cleanups_record
    (notCleanedUp : ∀ tid, input.call ≠ .event (.cleanedUp tid)) :
    (log.record page input).cleanups =
      if page.files.receiver.cleanups.length <
          (page.step input).files.receiver.cleanups.length then
        log.cleanups ++ log.current.toList
      else log.cleanups := by
  unfold ReceiverLog.record
  dsimp only
  split
  next tid isCall => exact absurd isCall (notCleanedUp tid)
  next => rfl

theorem cleanups_of_same
    (sound : page.ReceiverSound log)
    (notCleanedUp : ∀ tid, input.call ≠ .event (.cleanedUp tid))
    (same : (page.segment input.env input.call).receiver.cleanups =
      page.files.receiver.cleanups) :
    (log.record page input).cleanups.length =
      (page.step input).files.receiver.cleanups.length := by
  have isStep : (page.step input).files.receiver.cleanups = page.files.receiver.cleanups := same
  rw [cleanups_record notCleanedUp, isStep, if_neg (Nat.lt_irrefl _)]
  exact sound.cleanups

theorem cleanups_step
    (sound : page.ReceiverSound log)
    (allowed : EndsInTurn (page, log) input) :
    (log.record page input).cleanups.length =
      (page.step input).files.receiver.cleanups.length := by
  cases sound.outcome allowed with
  | acts act _ notCleanedUp =>
      exact sound.cleanups_of_same notCleanedUp act.core.cleanups
  | aside proceeds _ notCleanedUp => exact sound.cleanups_of_same notCleanedUp proceeds.cleanups
  | counts _ _ counts notCleanedUp => exact sound.cleanups_of_same notCleanedUp counts.cleanups
  | starts _ _ _ act _ notCleanedUp =>
      exact sound.cleanups_of_same notCleanedUp act.core.cleanups
  | receives _ _ _ _ _ _ receives notCleanedUp =>
      exact sound.cleanups_of_same notCleanedUp receives.cleanups
  | removes middle state isActive proceeds _ isAfter notCleanedUp =>
      have isStep : (page.step input).files.receiver.cleanups =
          page.files.receiver.cleanups ++ [state.tid] := by
        change (page.segment input.env input.call).receiver.cleanups = _
        rw [isAfter]
        exact congrArg (· ++ [state.tid]) proceeds.cleanups
      obtain ⟨ref, isCurrent⟩ := sound.busy (isActive ▸ Option.some_ne_none _)
      rw [cleanups_record notCleanedUp, isStep, List.length_append, List.length_singleton,
        if_pos (Nat.lt_succ_self _), isCurrent, List.length_append, sound.cleanups]
      rfl
  | removed tid isCall isAfter =>
      have isRecord : (log.record page input).cleanups =
          if tid ∈ page.files.receiver.cleanups then
            log.cleanups.eraseIdx (page.files.receiver.cleanups.idxOf tid)
          else log.cleanups := by
        simp only [ReceiverLog.record, isCall]
      rw [isRecord]
      change _ = (page.segment input.env input.call).receiver.cleanups.length
      rw [isAfter]
      rcases sound.cleanedUp_cases allowed isCall with ⟨notListed, isSame⟩ | ⟨isListed, _, act⟩
      · rw [if_neg notListed, isSame]
        exact sound.cleanups
      · have inRange : page.files.receiver.cleanups.idxOf tid < log.cleanups.length := by
          rw [sound.cleanups]
          exact List.idxOf_lt_length_iff.mpr isListed
        rw [if_pos isListed, act.core.cleanups, List.length_eraseIdx_of_lt inRange,
          List.length_erase_of_mem isListed, sound.cleanups]

/-- The transfer that is received now is that of the last offer shown. -/
theorem latest_step
    (sound : page.ReceiverSound log)
    (moved : IncomingMoved log page (page.segment input.env input.call)) :
    ∀ ref, (log.record page input).current = some ref →
      (log.record page input).offers.getLast? = some ref := by
  intro ref isCurrent
  change log.currentAfter (page.segment input.env input.call).incomingActive = some ref
    at isCurrent
  change (log.offersAfter (page.segment input.env input.call).incomingActive).getLast? = some ref
  have isMoved := moved.current
  cases isIncoming : (page.segment input.env input.call).incomingActive with
  | none =>
      rw [isIncoming] at isCurrent
      cases isCurrent
  | some incoming =>
      rw [isIncoming] at isCurrent isMoved
      cases incoming with
      | offerPending offer =>
          obtain rfl := Option.some.inj isCurrent
          unfold ReceiverLog.offersAfter
          dsimp only
          split
          next isShown => exact sound.latest offer.ref isShown
          next => exact List.getLast?_concat
      | receiving state =>
          refine sound.latest ref ?_
          rcases isMoved with isSame | isGone | ⟨offer, isShown, _⟩
          · exact isSame.symm.trans isCurrent
          · cases isGone
          · cases isShown

theorem mem_ended_record {ref : Serial} (isEnded : ref ∈ log.ended) :
    ref ∈ (log.record page input).ended := by
  change ref ∈ if _ then log.ended else log.ended ++ log.current.toList
  split
  · exact isEnded
  · exact List.mem_append_left _ isEnded

/-- A transfer that has ended stays ended. -/
theorem ended_step
    (sound : page.ReceiverSound log)
    (moved : IncomingMoved log page (page.segment input.env input.call)) :
    ∀ ref ∈ (log.record page input).ended,
      ref < (page.step input).files.nextSerial ∧ (log.record page input).current ≠ some ref := by
  intro ref isEnded
  have grows : page.files.nextSerial ≤ (page.step input).files.nextSerial :=
    page.segment_nextSerial input
  have earlier (isEarlier : ref ∈ log.ended) :
      ref < (page.step input).files.nextSerial ∧
        (log.record page input).current ≠ some ref := by
    obtain ⟨isOld, notCurrent⟩ := sound.ended ref isEarlier
    refine ⟨Nat.lt_of_lt_of_le isOld grows, ?_⟩
    intro isCurrent
    change log.currentAfter (page.segment input.env input.call).incomingActive = some ref
      at isCurrent
    rcases moved.current with isSame | isGone | ⟨offer, isShown, isNew⟩
    · exact notCurrent (isSame.symm.trans isCurrent)
    · rw [isGone] at isCurrent
      cases isCurrent
    · rw [isShown] at isCurrent
      obtain rfl := Option.some.inj isCurrent
      exact Nat.ne_of_lt isOld isNew
  change ref ∈ if log.currentAfter (page.step input).files.incomingActive = log.current
    then log.ended else log.ended ++ log.current.toList at isEnded
  split at isEnded
  next => exact earlier isEnded
  next changed =>
    rcases List.mem_append.mp isEnded with isEarlier | isNew
    · exact earlier isEarlier
    · have isCurrent := Option.mem_toList.mp isNew
      refine ⟨Nat.lt_of_lt_of_le (sound.bound ref isCurrent) grows, ?_⟩
      intro isStill
      exact changed (isStill.trans isCurrent.symm)

theorem step
    (sound : page.ReceiverSound log)
    (allowed : EndsInTurn (page, log) input) :
    (page.step input).ReceiverSound (log.record page input) where
  toIncoming :=
    { (sound.moved allowed).incoming with
      acceptances := by
        intro init isAsked
        cases isAsked }
  effects := rfl
  pending _ isSend _ _ isContinuation :=
    sound.pending_step (sound.moved allowed) isSend isContinuation
  latest := sound.latest_step (sound.moved allowed)
  cleanups := sound.cleanups_step allowed
  ended := sound.ended_step (sound.moved allowed)
  once := by
    intro ref
    rw [eventsOf_record]
    split
    next isSubject =>
      rcases sound.told_of_subject allowed isSubject with silent | ⟨isCurrent, _, few⟩
      · rw [silent, List.append_nil]
        exact sound.once ref
      · have noEvent : log.eventsOf ref = [] := by
          by_contra told
          exact (sound.ended ref (sound.past ref told)).2 isCurrent
        rw [noEvent, List.nil_append]
        exact few
    next =>
      rw [List.append_nil]
      exact sound.once ref
  past := by
    intro ref told
    rw [eventsOf_record] at told
    split at told
    next isSubject =>
      rcases sound.told_of_subject allowed isSubject with silent | ⟨isCurrent, isEnded, _⟩
      · rw [silent, List.append_nil] at told
        exact mem_ended_record (sound.past ref told)
      · have changed : log.currentAfter (page.step input).files.incomingActive ≠ log.current := by
          change log.currentAfter (page.segment input.env input.call).incomingActive ≠ _
          rw [isEnded, isCurrent]
          exact (Option.some_ne_none ref).symm
        change ref ∈ if log.currentAfter (page.step input).files.incomingActive = log.current
          then log.ended else log.ended ++ log.current.toList
        rw [if_neg changed]
        exact List.mem_append_right _ (Option.mem_toList.mpr isCurrent)
    next =>
      rw [List.append_nil] at told
      exact mem_ended_record (sound.past ref told)

end ReceiverSound

theorem receiverSound_of_created (created : Created page) :
    page.ReceiverSound ⟨none, [], [], [], []⟩ := by
  obtain ⟨_, _, _, _, rfl⟩ := created
  constructor
  case toIncoming =>
    constructor
    case vacant => exact iff_of_true rfl rfl
    case armed => exact ⟨by simp [Files.initial], by simp [Files.initial]⟩
    case noStall => exact fun _ => rfl
    all_goals simp [Files.initial, Files.idleReceiver, Files.acceptances]
  case effects => rfl
  case cleanups => rfl
  all_goals simp [ReceiverLog.eventsOf]

theorem receiverSound_of_reachable
    {remembered : FilePage × ReceiverLog}
    (reachable : receiverMachine.Reachable NothingReceived EndsInTurn remembered) :
    remembered.1.ReceiverSound remembered.2 := by
  induction reachable with
  | start unreceived =>
      rw [unreceived.2]
      exact receiverSound_of_created unreceived.1
  | next _ _ allowed ih => exact ih.step allowed

/-! ## The transfers of a page -/

namespace ReceiverSound

variable {log : ReceiverLog}

/-- Progress is told only of the transfer that is received, and goes on. -/
theorem reported_step
    (sound : page.ReceiverSound log)
    (allowed : EndsInTurn (page, log) input)
    {tid : Text}
    (isReported : tid ∈ (page.segment input.env input.call).reported) :
    ∃ state next, page.files.incomingActive = some (.receiving state) ∧ state.tid = tid ∧
      (page.segment input.env input.call).incomingActive = some (.receiving next) ∧
        next.tid = tid := by
  have before : page.files.reported = [] := by
    rw [Files.reported, sound.effects]
    rfl
  have silent (same : (page.segment input.env input.call).reported = page.files.reported) :
      tid ∉ (page.segment input.env input.call).reported := by
    rw [same, before]
    exact List.not_mem_nil
  cases sound.outcome allowed with
  | acts act => exact absurd isReported (silent act.core.reported)
  | aside proceeds => exact absurd isReported (silent proceeds.reported)
  | counts state isActive counts =>
      obtain ⟨next, isNext, _, sameTid⟩ := counts.incoming
      rcases counts.reported tid isReported with isEarlier | rfl
      · rw [before] at isEarlier
        cases isEarlier
      · exact ⟨state, next, isActive, rfl, isNext, sameTid⟩
  | starts offer _ _ act => exact absurd isReported (silent act.core.reported)
  | receives _ _ _ _ _ _ receives => exact absurd isReported (silent receives.reported)
  | removes middle state _ proceeds _ isAfter =>
      refine absurd isReported (silent ?_)
      rw [isAfter]
      exact proceeds.reported
  | removed cleanedTid isCall isAfter =>
      refine absurd isReported (silent ?_)
      rw [isAfter]
      rcases sound.cleanedUp_cases allowed isCall with ⟨_, isSame⟩ | ⟨_, _, act⟩
      · rw [isSame]
      · exact act.core.reported

end ReceiverSound

/-- The step leaves the transfer that is received now alone and tells nothing. -/
structure SparesReceived (page : FilePage) (input : FileInput) : Prop where
  transfer : (page.step input).files.incomingActive = page.files.incomingActive
  timers : (page.step input).files.timers = page.files.timers
  offerTimer : (page.step input).files.receiver.offerPendingTimer =
    page.files.receiver.offerPendingTimer
  stallTimer : (page.step input).files.receiver.receiveStallTimer =
    page.files.receiver.receiveStallTimer
  lastProgressAt : (page.step input).files.receiver.lastProgressAt =
    page.files.receiver.lastProgressAt
  lastProgressBytes : (page.step input).files.receiver.lastProgressBytes =
    page.files.receiver.lastProgressBytes
  lastPercent : (page.step input).files.receiver.lastReceiveNotifyPercent =
    page.files.receiver.lastReceiveNotifyPercent
  events : ∀ event, .appendSystemEvent event ∉ (page.step input).out
  progress : ∀ tid receivedBytes continuation,
    .sendEnvelope (.fileProgress tid receivedBytes) continuation ∉ (page.step input).out

/-- Every transfer told at most one event, and one that has ended is not received again.
The next step tells progress only of a transfer that is received before and after it, and,
if it comes from a transfer that has ended, leaves the one that is received now alone. -/
structure IncomingIsolated
    (allowed : FilePage × ReceiverLog → FileInput → Prop)
    (remembered : FilePage × ReceiverLog) : Prop where
  once : ∀ ref, (remembered.2.eventsOf ref).length ≤ 1
  past : ∀ ref, remembered.2.eventsOf ref ≠ [] → ref ∈ remembered.2.ended
  ended : ∀ ref ∈ remembered.2.ended, remembered.2.current ≠ some ref
  progress : ∀ input tid receivedBytes continuation,
    machine.enabled remembered.1 input → allowed remembered input →
      .sendEnvelope (.fileProgress tid receivedBytes) continuation ∈
          (remembered.1.step input).out →
        ∃ state next,
          remembered.1.files.incomingActive = some (.receiving state) ∧ state.tid = tid ∧
            (remembered.1.step input).files.incomingActive = some (.receiving next) ∧
              next.tid = tid
  spares : ∀ input,
    machine.enabled remembered.1 input → allowed remembered input →
      remembered.2.FromEarlier remembered.1 input → remembered.1.SparesReceived input

/--
In every run in which the chunk after a written one can be posted and the file
of a corrupt transfer is removed before the transfer ends, what an ended
transfer leaves behind does not touch a later one or its timers, an ended
transfer is not received again, and every transfer tells at most one event.
-/
theorem incoming_transfers_isolated
    {remembered : FilePage × ReceiverLog}
    (reachable : receiverMachine.Reachable NothingReceived EndsInTurn remembered) :
    IncomingIsolated EndsInTurn remembered := by
  have sound := receiverSound_of_reachable reachable
  refine ⟨sound.once, sound.past, fun ref isEnded => (sound.ended ref isEnded).2, ?_, ?_⟩
  · intro input tid receivedBytes continuation _ allowed isTold
    exact sound.reported_step allowed (List.mem_filterMap.mpr ⟨_, isTold, rfl⟩)
  · intro input _ allowed fromEarlier
    have spares := sound.spares allowed fromEarlier
    refine ⟨spares.incomingActive, spares.timers, spares.offerTimer, spares.stallTimer,
      spares.lastProgressAt, spares.lastProgressBytes, spares.lastPercent, ?_, ?_⟩
    · intro event isTold
      have isEvent : event ∈ (remembered.1.segment input.env input.call).told :=
        List.mem_filterMap.mpr ⟨_, isTold, rfl⟩
      rw [spares.told, Files.told, sound.effects] at isEvent
      cases isEvent
    · intro tid receivedBytes continuation isTold
      have isReported : tid ∈ (remembered.1.segment input.env input.call).reported :=
        List.mem_filterMap.mpr ⟨_, isTold, rfl⟩
      rw [spares.reported, Files.reported, sound.effects] at isReported
      cases isReported

/-! ## A file that is removed too late -/

/-- Most calls are always in turn. -/
theorem endsInTurn_of_call
    {remembered : FilePage × ReceiverLog}
    (notReset : input.call ≠ .resetOnTerminate)
    (notWritten : ∀ worker seq bytes,
      input.call ≠ .event (.receiveWorkerMessage worker (.written seq bytes)))
    (notCleanedUp : ∀ tid, input.call ≠ .event (.cleanedUp tid)) :
    EndsInTurn remembered input where
  reset isReset := absurd isReset notReset
  posts _ _ _ _ isWritten := absurd isWritten (notWritten _ _ _)
  cleans tid isCall := absurd isCall (notCleanedUp tid)

/-- An offer is declined while a worker starts for it, and another file is offered. -/
def Sample.declinedWhileStarting : List FileInput :=
  [ Sample.call (.envelope (.fileOffer Sample.transferId Sample.file.name 1)),
    Sample.call .acceptOffer,
    Sample.call .declineOffer,
    Sample.call (.envelope (.fileOffer Sample.laterId Sample.file.name 1)) ]

/-- The page after that. -/
def Sample.offeredAgain : FilePage × ReceiverLog :=
  receiverMachine.run (Sample.newPage, ⟨none, [], [], [], []⟩) Sample.declinedWhileStarting

theorem reachable_offeredAgain :
    receiverMachine.Reachable NothingReceived EndsInTurn Sample.offeredAgain := by
  refine .run (.start ⟨Sample.created_newPage, rfl⟩)
    ⟨trivial, ?_, trivial, ?_, trivial, ?_, trivial, ?_, trivial⟩
  all_goals
    exact endsInTurn_of_call (by simp [Sample.call]) (by simp [Sample.call])
      (by simp [Sample.call])

/-- The worker starts after all; the file offered meanwhile is still offered. -/
theorem incoming_transfers_isolated_in_sample :
    ((Sample.offeredAgain.1.step
        (Sample.call (.event (.receiveWorkerMessage 2 .ready)))).files.incomingActive.map
      IncomingState.tid) = some Sample.laterId := by
  have spares := (incoming_transfers_isolated reachable_offeredAgain).spares
    (Sample.call (.event (.receiveWorkerMessage 2 .ready))) trivial
    (endsInTurn_of_call (by simp [Sample.call]) (by simp [Sample.call]) (by simp [Sample.call]))
    (by
      intro ref isCurrent
      have isLater : Sample.offeredAgain.2.current = some 3 := by decide +kernel
      rw [isLater] at isCurrent
      obtain rfl := Option.some.inj isCurrent
      decide)
  rw [spares.transfer]
  decide +kernel

/-- A received file is corrupt, the user cancels while it is removed, and another file is
offered. -/
def Sample.cancelledWhileRemoving : List FileInput :=
  [ Sample.call (.envelope (.fileOffer Sample.transferId Sample.file.name 1)),
    Sample.call .acceptOffer,
    Sample.call (.event (.receiveWorkerMessage 2 .ready)),
    Sample.call (.settled 0 true),
    Sample.call (.event (.receiveWorkerMessage 2 (.done [0x64] 1 1))),
    Sample.call (.cancelReceiver .userAborted),
    Sample.call (.envelope (.fileOffer Sample.laterId Sample.file.name 1)) ]

/-- The page after that. -/
def Sample.offeredWhileRemoving : FilePage × ReceiverLog :=
  receiverMachine.run (Sample.newPage, ⟨none, [], [], [], []⟩) Sample.cancelledWhileRemoving

theorem reachable_offeredWhileRemoving :
    receiverMachine.Reachable NothingReceived ResetInTurn Sample.offeredWhileRemoving := by
  have isPending : 0 < (receiverMachine.run (Sample.newPage, ⟨none, [], [], [], []⟩)
      (Sample.cancelledWhileRemoving.take 3)).1.pending.length := by
    decide +kernel
  refine .run (.start ⟨Sample.created_newPage, rfl⟩)
    ⟨trivial, ?_, trivial, ?_, trivial, ?_, isPending, ?_, trivial, ?_, trivial, ?_, trivial, ?_,
      trivial⟩
  all_goals simp [ResetInTurn, Sample.call]

/-- The removal of the corrupt file ends the transfer that was offered meanwhile. -/
theorem removal_ends_later_transfer :
    ¬ ∀ remembered, receiverMachine.Reachable NothingReceived ResetInTurn remembered →
      IncomingIsolated ResetInTurn remembered := by
  intro claimed
  have isRemoved : Sample.offeredWhileRemoving.2.cleanupOf Sample.offeredWhileRemoving.1
      Sample.transferId = some 0 := by
    decide +kernel
  have spares := (claimed _ reachable_offeredWhileRemoving).spares
    (Sample.call (.event (.cleanedUp Sample.transferId))) trivial
    (by simp [ResetInTurn, Sample.call]) ⟨0, isRemoved, by decide +kernel⟩
  have isEnded : (Sample.offeredWhileRemoving.1.step
      (Sample.call (.event (.cleanedUp Sample.transferId)))).files.incomingActive = none := by
    decide +kernel
  have isOffered : Sample.offeredWhileRemoving.1.files.incomingActive.isSome = true := by
    decide +kernel
  rw [← spares.transfer, isEnded] at isOffered
  cases isOffered

end FilePage

end Unseen
