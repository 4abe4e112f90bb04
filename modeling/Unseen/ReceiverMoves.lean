import Unseen.ReceivedFiles
import Unseen.SenderIsolation

namespace Unseen

/-!
# What a segment does to the incoming transfer

A segment of the receiver keeps the transfer, with the timers it holds, or ends
it and disarms them.  An offer is shown and a transfer is started only by the
segments named for it, and a segment of the sender leaves all of it alone.
-/

/-- The acceptance that an effect asks to be sent. -/
def FileEffect.acceptance? : FileEffect → Option ReceiverInit
  | .sendEnvelope _ (.acceptSent offer worker) => some { offer, worker }
  | .sendChunk _ (.acceptSent offer worker) => some { offer, worker }
  | _ => none

/-- The transfer whose progress an effect tells the peer. -/
def FileEffect.progress? : FileEffect → Option Text
  | .sendEnvelope (.fileProgress tid _) _ => some tid
  | _ => none

/-- The offer whose acceptance a continuation waits for. -/
def FileCont.incoming? : FileCont → Option Serial
  | .acceptSent offer _ => some offer.ref
  | .discard | .offerSent _ | .chunkSent _ _ _ => none

namespace Files

variable {files middle after : Files}

/-- The acceptances that a segment asks to be sent. -/
def acceptances (files : Files) : List ReceiverInit :=
  files.effects.filterMap FileEffect.acceptance?

/-- An effect adds the acceptance that it asks for. -/
theorem acceptances_emit (effect : FileEffect) :
    (files.emit effect).acceptances = files.acceptances ++ effect.acceptance?.toList := by
  simp only [acceptances, emit, List.filterMap_append]
  cases isAcceptance : effect.acceptance? with
  | none => rw [List.filterMap_cons_none isAcceptance]; rfl
  | some init => rw [List.filterMap_cons_some isAcceptance]; rfl

/-- The transfers whose progress a segment tells. -/
def reported (files : Files) : List Text :=
  files.effects.filterMap FileEffect.progress?

/-- An effect adds the progress that it tells. -/
theorem reported_emit (effect : FileEffect) :
    (files.emit effect).reported = files.reported ++ effect.progress?.toList := by
  simp only [reported, emit, List.filterMap_append]
  cases isProgress : effect.progress? with
  | none => rw [List.filterMap_cons_none isProgress]; rfl
  | some tid => rw [List.filterMap_cons_some isProgress]; rfl

/-- Progress is told by the receiver only. -/
theorem progress?_of_sender
    {effect : FileEffect}
    (own : ¬ IsReceiverEffect effect) : effect.progress? = none := by
  cases effect with
  | sendEnvelope content continuation =>
      cases content with
      | fileProgress tid receivedBytes => exact absurd (by cases continuation <;> trivial) own
      | _ => rfl
  | _ => rfl

/-- Acceptances are sent by the receiver only. -/
theorem acceptance?_of_sender
    {effect : FileEffect}
    (own : ¬ IsReceiverEffect effect) : effect.acceptance? = none := by
  cases effect with
  | sendEnvelope _ continuation =>
      cases continuation with
      | acceptSent => exact absurd trivial own
      | discard | offerSent | chunkSent => rfl
  | sendChunk _ continuation =>
      cases continuation with
      | acceptSent => exact absurd trivial own
      | discard | offerSent | chunkSent => rfl
  | _ => rfl

/-! ## Timers of the sender -/

/-- Every new timer is one of the sender. -/
def SenderTimers (before after : Files) : Prop :=
  ∀ timer ∈ after.timers, timer ∈ before.timers ∨ timer.kind.outgoing? ≠ none

namespace SenderTimers

/-- Disarming arms nothing. -/
theorem of_fewer (fewer : ∀ timer ∈ after.timers, timer ∈ files.timers) :
    SenderTimers files after :=
  fun timer isArmed => .inl (fewer timer isArmed)

theorem of_same (same : after.timers = files.timers) : SenderTimers files after :=
  of_fewer fun _ isArmed => same ▸ isArmed

theorem refl : SenderTimers files files :=
  of_same rfl

/-- Timers of the sender stay timers of the sender. -/
theorem trans (first : SenderTimers files middle) (second : SenderTimers middle after) :
    SenderTimers files after :=
  fun timer isArmed => (second timer isArmed).elim (first timer) .inr

/-- The sender arms timers of its own kinds. -/
theorem arm {due : Nat} {kind : FileTimerKind} (isOutgoing : kind.outgoing? ≠ none) :
    SenderTimers files (files.arm due kind) := by
  intro timer isArmed
  rcases List.mem_append.mp isArmed with isEarlier | isNew
  · exact .inl isEarlier
  · rw [List.mem_singleton.mp isNew]
    exact .inr isOutgoing

theorem finishWithEvent (event : SystemEventKind) (worker : Option Serial) :
    SenderTimers files (files.finishWithEvent event worker) := by
  refine of_same ?_
  unfold Files.finishWithEvent
  dsimp only
  split <;> rfl

/-- A cancellation arms nothing. -/
theorem cancelled (tid : Text) (reason : FileCancelReason) (event : SystemEventKind)
    (worker : Option Serial) :
    SenderTimers files ((files.sendCancelAsSender tid reason).finishWithEvent event worker) :=
  trans (of_same rfl) (finishWithEvent event worker)

theorem handleWorkerFatal (worker : Serial) :
    SenderTimers files (files.handleWorkerFatal worker) := by
  unfold Files.handleWorkerFatal
  split
  · exact refl
  · split
    · exact refl
    · exact cancelled _ _ _ _

theorem advanceSentBytes (tid : Text) (dataLength : Nat) :
    SenderTimers files (files.advanceSentBytes tid dataLength) := by
  unfold Files.advanceSentBytes
  split
  · split <;> exact of_same rfl
  · exact refl

/-- The verifying phase arms its timeout. -/
theorem finalizeSendAfterDrain (env : FileEnv) (worker : Serial) (tid sha256Hex : Text) :
    SenderTimers files (files.finalizeSendAfterDrain env worker tid sha256Hex) := by
  unfold Files.finalizeSendAfterDrain
  split
  · split
    · intro timer isArmed
      rcases List.mem_append.mp isArmed with isEarlier | isNew
      · exact .inl isEarlier
      · rw [List.mem_singleton.mp isNew]
        exact .inr (Option.some_ne_none tid)
    · exact refl
  · exact refl

/-- The send loop sleeps on a timer of its own. -/
theorem sleepInSendLoop (env : FileEnv) (worker : Serial) (tid : Text) :
    SenderTimers files (files.sleepInSendLoop env worker tid) :=
  arm (Option.some_ne_none tid)

/-- One turn of the send loop arms a sleep, the verifying timeout, or nothing. -/
theorem sendLoopTurn (env : FileEnv) (worker : Serial) (tid : Text) :
    SenderTimers files (files.sendLoopTurn env worker tid) := by
  have ended : ∀ {files : Files}, SenderTimers files files.endSendLoop := of_same rfl
  unfold Files.sendLoopTurn
  split
  · exact ended
  · split
    · split
      · exact sleepInSendLoop env worker tid
      · split
        · exact of_same rfl
        · split
          · exact (finalizeSendAfterDrain env worker tid _).trans ended
          · exact sleepInSendLoop env worker tid
    · exact (cancelled _ _ _ _).trans ended

theorem chunkSent (env : FileEnv) (worker : Serial) (tid : Text) (dataLength : Nat)
    (sent : Bool) : SenderTimers files (files.chunkSent env worker tid dataLength sent) := by
  have ended : ∀ {files : Files}, SenderTimers files files.endSendLoop := of_same rfl
  have asked : SenderTimers files (files.emit (.postToSendWorker worker .pull)) := of_same rfl
  unfold Files.chunkSent
  split
  · exact (finishWithEvent _ _).trans ended
  · split
    · exact (advanceSentBytes _ _).trans (sendLoopTurn _ _ _)
    · split
      · exact (asked.trans (advanceSentBytes _ _)).trans (sendLoopTurn _ _ _)
      · exact (cancelled _ _ _ _).trans ended

/-- Messages of the send worker arm nothing, but for what the send loop does. -/
theorem handleSendWorkerMessage (message : SendWorkerOut) (worker : Serial) :
    SenderTimers files (files.handleSendWorkerMessage message worker) := by
  unfold Files.handleSendWorkerMessage
  split
  · exact refl
  · cases message with
    | plaintextChunk => exact of_same rfl
    | final =>
        refine of_same ?_
        dsimp only
        unfold onWorkerFinal
        split
        · split <;> rfl
        · rfl
    | fatal => exact handleWorkerFatal worker
    | ready | closed => exact refl

/-- An acceptance starts a worker; its start-up timeout is the worker's. -/
theorem onFileAcceptReceived (env : FileEnv) (tid : Text) :
    SenderTimers files (files.onFileAcceptReceived env tid) := by
  have spawned : SenderTimers files
      { files with
        nextSerial := files.nextSerial + 1
        sender := { files.sender with activeWorker := some files.nextSerial } } :=
    of_same rfl
  unfold Files.onFileAcceptReceived
  split
  · split
    · unfold Files.initialiseWorker
      split
      · exact finishWithEvent _ _
      · dsimp only
        split
        · exact spawned.trans (finishWithEvent _ _)
        · exact of_same rfl
    · exact refl
  · exact refl

/-- A started worker starts the send loop. -/
theorem settleSenderInit (env : FileEnv) (worker : Serial) (ready : Bool) :
    SenderTimers files (files.settleSenderInit env worker ready) := by
  unfold Files.settleSenderInit
  split
  · exact refl
  · unfold Files.senderWorkerReady
    split
    · split
      · exact trans (of_same rfl) (cancelled _ _ _ _)
      · exact of_same rfl
    · split
      · split
        · dsimp only
          split
          · exact of_same rfl
          · exact trans (of_same rfl) (sendLoopTurn _ _ _)
        · exact of_same rfl
      · exact of_same rfl

theorem terminateActiveWorker : SenderTimers files files.terminateActiveWorker := by
  refine of_same ?_
  unfold Files.terminateActiveWorker
  split <;> rfl

/-- A transfer of the sender ends without more ado. -/
theorem reset : SenderTimers files { files with transferActive := none }.resetLocal :=
  of_same rfl

theorem cancelActiveAsSender (reason : FileCancelReason) :
    SenderTimers files (files.cancelActiveAsSender reason) := by
  unfold Files.cancelActiveAsSender
  split
  · exact refl
  · exact cancelled _ _ _ _

/-- An offer arms its timeout. -/
theorem startTransfer (env : FileEnv) (file : LocalFile) (tid : Text) :
    SenderTimers files (files.startTransfer env file tid) := by
  have armed : SenderTimers files
      (files.arm (env.now + offeredTimeoutMs) (.offered tid)) :=
    arm (Option.some_ne_none tid)
  unfold Files.startTransfer
  split
  · exact refl
  · split
    · exact of_same rfl
    · split
      · exact of_same rfl
      · exact armed.trans (of_same rfl)

theorem offerSent (tid : Text) (sent : Bool) : SenderTimers files (files.offerSent tid sent) := by
  unfold Files.offerSent
  split <;> exact of_same rfl

theorem offeredTimeout (tid : Text) : SenderTimers files (files.offeredTimeout tid) := by
  unfold Files.offeredTimeout
  split
  · split <;> exact of_same rfl
  · exact refl

/-- A verified transfer arms nothing. -/
theorem finalizeVerifyingAsSuccess (tid name : Text) (size : Nat) :
    SenderTimers files (files.finalizeVerifyingAsSuccess tid name size) := by
  unfold Files.finalizeVerifyingAsSuccess
  split
  · split
    · dsimp only
      split <;> exact of_same rfl
    · exact refl
  · exact refl

/-- The sender's part of hiding a page arms nothing. -/
theorem senderPageHide (env : FileEnv) : SenderTimers files (files.senderPageHide env) := by
  have told : ∀ tid reason, SenderTimers files (files.sendCancelAsSender tid reason) :=
    fun _ _ => of_same rfl
  unfold Files.senderPageHide
  split
  · exact refl
  · dsimp only
    split
    · exact ((told _ _).trans terminateActiveWorker).trans reset
    · exact terminateActiveWorker.trans reset

theorem senderOnWsClose : SenderTimers files files.senderOnWsClose := by
  unfold Files.senderOnWsClose
  split
  · exact refl
  · exact refl
  · exact (terminateActiveWorker.trans reset).trans (of_same rfl)

theorem senderShutdown : SenderTimers files files.senderShutdown :=
  terminateActiveWorker.trans (of_same rfl)

end SenderTimers

/-! ## Timers of the receiver -/

/-- The armed timers of the receiver are the ones it holds. -/
structure ArmedTimers
    (timers : List FileTimer)
    (offerTimer stallTimer : Option Serial) : Prop where
  offer : ∀ timer ∈ timers, ∀ tid, timer.kind = .offerPending tid → offerTimer = some timer.id
  stall : ∀ timer ∈ timers, ∀ tid, timer.kind = .receiveStall tid → stallTimer = some timer.id

/-- The receiver's two timer variables name the timers it has armed. -/
def Armed (files : Files) : Prop :=
  ArmedTimers files.timers files.receiver.offerPendingTimer files.receiver.receiveStallTimer

namespace ArmedTimers

variable {timers : List FileTimer} {offerTimer stallTimer : Option Serial} {id : Serial}

/-- A cleared offer timer is disarmed and forgotten. -/
theorem clearOffer (armed : ArmedTimers timers (some id) stallTimer) :
    ArmedTimers (timers.filter fun timer => timer.id != id) none stallTimer where
  offer timer isArmed tid isKind := by
    obtain ⟨isTimer, isOther⟩ := List.mem_filter.mp isArmed
    have isId := Option.some.inj (armed.offer timer isTimer tid isKind)
    exact absurd isId.symm (bne_iff_ne.mp isOther)
  stall timer isArmed := armed.stall timer (List.mem_filter.mp isArmed).1

/-- A cleared stall timer is disarmed and forgotten. -/
theorem clearStall (armed : ArmedTimers timers offerTimer (some id)) :
    ArmedTimers (timers.filter fun timer => timer.id != id) offerTimer none where
  offer timer isArmed := armed.offer timer (List.mem_filter.mp isArmed).1
  stall timer isArmed tid isKind := by
    obtain ⟨isTimer, isOther⟩ := List.mem_filter.mp isArmed
    have isId := Option.some.inj (armed.stall timer isTimer tid isKind)
    exact absurd isId.symm (bne_iff_ne.mp isOther)

/-- The offer timer is armed under a new identity, where none was armed. -/
theorem armOffer (armed : ArmedTimers timers none stallTimer) (due : Nat) (tid : Text) :
    ArmedTimers (timers ++ [{ id, due, kind := .offerPending tid }]) (some id) stallTimer where
  offer timer isArmed other isKind := by
    rcases List.mem_append.mp isArmed with isEarlier | isNew
    · cases armed.offer timer isEarlier other isKind
    · rw [List.mem_singleton.mp isNew]
  stall timer isArmed other isKind := by
    rcases List.mem_append.mp isArmed with isEarlier | isNew
    · exact armed.stall timer isEarlier other isKind
    · rw [List.mem_singleton.mp isNew] at isKind
      cases isKind

/-- The stall timer is armed under a new identity, where none was armed. -/
theorem armStall (armed : ArmedTimers timers offerTimer none) (due : Nat) (tid : Text) :
    ArmedTimers (timers ++ [{ id, due, kind := .receiveStall tid }]) offerTimer (some id) where
  offer timer isArmed other isKind := by
    rcases List.mem_append.mp isArmed with isEarlier | isNew
    · exact armed.offer timer isEarlier other isKind
    · rw [List.mem_singleton.mp isNew] at isKind
      cases isKind
  stall timer isArmed other isKind := by
    rcases List.mem_append.mp isArmed with isEarlier | isNew
    · cases armed.stall timer isEarlier other isKind
    · rw [List.mem_singleton.mp isNew]

end ArmedTimers

/-- The sender arms no timer of the receiver. -/
theorem SenderTimers.armed
    (quiet : SenderTimers files after)
    (receiver : after.receiver = files.receiver)
    (armed : files.Armed) : after.Armed := by
  unfold Armed
  rw [receiver]
  constructor
  · intro timer isArmed tid isKind
    rcases quiet timer isArmed with isEarlier | isOutgoing
    · exact armed.offer timer isEarlier tid isKind
    · rw [isKind] at isOutgoing
      exact absurd rfl isOutgoing
  · intro timer isArmed tid isKind
    rcases quiet timer isArmed with isEarlier | isOutgoing
    · exact armed.stall timer isEarlier tid isKind
    · rw [isKind] at isOutgoing
      exact absurd rfl isOutgoing

/-! ## What the receiver does to the transfer -/

/-- The same offer, or the same transfer further on. -/
inductive SameIncoming : Option IncomingState → Option IncomingState → Prop where
  | same (incoming : Option IncomingState) : SameIncoming incoming incoming
  | advanced (state next : ReceivingState) :
      next.worker = state.worker →
      SameIncoming (some (.receiving state)) (some (.receiving next))

namespace SameIncoming

variable {before between later : Option IncomingState}

/-- The incoming transfer is the same after two steps that keep it. -/
theorem trans (first : SameIncoming before between) (second : SameIncoming between later) :
    SameIncoming before later := by
  cases second with
  | same => exact first
  | advanced state next sameWorker =>
      cases first with
      | same => exact .advanced state next sameWorker
      | advanced earlier _ alsoSame => exact .advanced earlier next (sameWorker.trans alsoSame)

/-- A kept transfer is there after the step if it was there before. -/
theorem eq_none (same : SameIncoming before later) : later = none ↔ before = none := by
  cases same with
  | same => exact Iff.rfl
  | advanced => simp

/-- A shown offer that was kept was the one shown. -/
theorem offer
    (same : SameIncoming before later)
    {offer : PendingOffer}
    (isOffer : later = some (.offerPending offer)) : before = some (.offerPending offer) := by
  cases same with
  | same => exact isOffer
  | advanced => cases isOffer

/-- A kept offer is still shown. -/
theorem offer_after
    (same : SameIncoming before later)
    {offer : PendingOffer}
    (isOffer : before = some (.offerPending offer)) : later = some (.offerPending offer) := by
  cases same with
  | same => exact isOffer
  | advanced => cases isOffer

/-- A transfer that is received was received before, by the same worker. -/
theorem receiving
    (same : SameIncoming before later)
    {next : ReceivingState}
    (isReceiving : later = some (.receiving next)) :
    ∃ state, before = some (.receiving state) ∧ next.worker = state.worker := by
  cases same with
  | same => exact ⟨next, isReceiving, rfl⟩
  | advanced state _ sameWorker =>
      cases isReceiving
      exact ⟨state, rfl, sameWorker⟩

/-- A transfer that was received still is, by the same worker. -/
theorem still_receiving
    (same : SameIncoming before later)
    {state : ReceivingState}
    (isReceiving : before = some (.receiving state)) :
    ∃ next, later = some (.receiving next) := by
  cases same with
  | same => exact ⟨state, isReceiving⟩
  | advanced _ next _ => exact ⟨next, rfl⟩

end SameIncoming

/-- A worker whose start-up is awaited, or that is started now for the offer shown. -/
def Starting (files : Files) (init : ReceiverInit) : Prop :=
  files.receiver.accepting = some init ∨
    (files.incomingActive = some (.offerPending init.offer) ∧ files.nextSerial ≤ init.worker)

/-- What every segment of the receiver keeps that tells no progress. -/
structure ReceiverCore (before after : Files) : Prop where
  armed : before.Armed → after.Armed
  accepting : ∀ init, after.receiver.accepting = some init → before.Starting init
  acceptances : ∀ init ∈ after.acceptances, init ∈ before.acceptances ∨ before.Starting init
  nextSerial : before.nextSerial ≤ after.nextSerial
  cleanups : after.receiver.cleanups = before.receiver.cleanups
  reported : after.reported = before.reported

/-- The transfer goes on, and only an offer gets a new timer. -/
structure Proceeds (before after : Files) : Prop extends ReceiverCore before after where
  incoming : SameIncoming before.incomingActive after.incomingActive
  offerTimer : ∀ id, after.receiver.offerPendingTimer = some id →
    before.receiver.offerPendingTimer = some id ∨
      (before.incomingActive ≠ none ∧ before.nextSerial ≤ id)
  stallTimer : ∀ id, after.receiver.receiveStallTimer = some id →
    before.receiver.receiveStallTimer = some id

/-- The transfer ends, and its timers with it. -/
structure Finishes (before after : Files) : Prop extends ReceiverCore before after where
  busy : before.incomingActive ≠ none
  ended : after.incomingActive = none
  offerTimer : after.receiver.offerPendingTimer = none
  stallTimer : after.receiver.receiveStallTimer = none

/-- A segment of the receiver keeps the transfer and tells nothing, or ends it and tells at
most one event. -/
def ReceiverAct (before after : Files) : Prop :=
  (Proceeds before after ∧ after.told = before.told) ∨
    (Finishes before after ∧
      ∃ events : List SystemEventKind,
        events.length ≤ 1 ∧ after.told = before.told ++ events)

theorem ReceiverCore.refl : ReceiverCore files files where
  armed := id
  accepting _ := .inl
  acceptances _ := .inl
  nextSerial := Nat.le_refl _
  cleanups := rfl
  reported := rfl

/-- Two calls of the receiver keep its core; between them the same offer is shown. -/
theorem ReceiverCore.trans
    (first : ReceiverCore files middle)
    (second : ReceiverCore middle after)
    (sameOffer : ∀ offer, middle.incomingActive = some (.offerPending offer) →
      files.incomingActive = some (.offerPending offer)) :
    ReceiverCore files after := by
  have back : ∀ init, middle.Starting init → files.Starting init := by
    rintro init (isAwaited | ⟨isOffer, isNew⟩)
    · exact first.accepting init isAwaited
    · exact .inr ⟨sameOffer _ isOffer, Nat.le_trans first.nextSerial isNew⟩
  constructor
  · exact second.armed ∘ first.armed
  · intro init isAwaited
    exact back init (second.accepting init isAwaited)
  · intro init isAsked
    rcases second.acceptances init isAsked with isEarlier | starting
    · exact first.acceptances init isEarlier
    · exact .inr (back init starting)
  · exact Nat.le_trans first.nextSerial second.nextSerial
  · exact second.cleanups.trans first.cleanups
  · exact second.reported.trans first.reported

theorem Proceeds.refl : Proceeds files files where
  toReceiverCore := .refl
  incoming := .same _
  offerTimer _ := .inl
  stallTimer _ := id

/-- An effect that neither accepts nor reports keeps the transfer as it is. -/
theorem Proceeds.emit
    {effect : FileEffect}
    (accepts : effect.acceptance? = none)
    (reports : effect.progress? = none) : Proceeds files (files.emit effect) := by
  refine { Proceeds.refl with acceptances := ?_, reported := ?_ }
  · intro init isAsked
    rw [acceptances_emit, accepts, Option.toList_none, List.append_nil] at isAsked
    exact .inl isAsked
  · rw [reported_emit, reports]
    exact List.append_nil _

/-- Clearing the offer timer keeps the transfer as it is. -/
theorem Proceeds.clearOfferTimer : Proceeds files files.clearOfferTimer := by
  unfold Files.clearOfferTimer
  split
  · exact refl
  next id isHeld =>
    refine { Proceeds.refl with armed := ?_, offerTimer := ?_ }
    · intro armed
      unfold Armed at armed
      rw [isHeld] at armed
      exact armed.clearOffer
    · intro other isOther
      cases isOther

/-- Two calls that keep the transfer keep it together. -/
theorem Proceeds.trans (first : Proceeds files middle) (second : Proceeds middle after) :
    Proceeds files after where
  toReceiverCore :=
    first.toReceiverCore.trans second.toReceiverCore fun _ isOffer => first.incoming.offer isOffer
  incoming := first.incoming.trans second.incoming
  offerTimer id isHeld := by
    rcases second.offerTimer id isHeld with isEarlier | ⟨busy, isNew⟩
    · exact first.offerTimer id isEarlier
    · refine .inr ⟨fun isNone => busy (first.incoming.eq_none.mpr isNone), ?_⟩
      exact Nat.le_trans first.nextSerial isNew
  stallTimer id isHeld := first.stallTimer id (second.stallTimer id isHeld)

/-- A call that ends the transfer, after one that keeps it. -/
theorem Proceeds.finishes (first : Proceeds files middle) (second : Finishes middle after) :
    Finishes files after where
  toReceiverCore :=
    first.toReceiverCore.trans second.toReceiverCore fun _ isOffer => first.incoming.offer isOffer
  busy isNone := second.busy (first.incoming.eq_none.mpr isNone)
  ended := second.ended
  offerTimer := second.offerTimer
  stallTimer := second.stallTimer

/-- A call that keeps things as they are, after the transfer has ended. -/
theorem Finishes.proceeds (first : Finishes files middle) (second : Proceeds middle after) :
    Finishes files after where
  toReceiverCore := by
    refine first.toReceiverCore.trans second.toReceiverCore fun offer isOffer => ?_
    rw [first.ended] at isOffer
    cases isOffer
  busy := first.busy
  ended := second.incoming.eq_none.mpr first.ended
  offerTimer := by
    rw [Option.eq_none_iff_forall_ne_some]
    intro id isHeld
    rcases second.offerTimer id isHeld with isEarlier | ⟨busy, _⟩
    · rw [first.offerTimer] at isEarlier
      cases isEarlier
    · exact busy first.ended
  stallTimer := by
    rw [Option.eq_none_iff_forall_ne_some]
    intro id isHeld
    have isEarlier := second.stallTimer id isHeld
    rw [first.stallTimer] at isEarlier
    cases isEarlier

namespace ReceiverAct

/-- What both kinds of segments keep. -/
theorem core (act : ReceiverAct files after) : ReceiverCore files after := by
  rcases act with ⟨proceeds, _⟩ | ⟨ends, _⟩
  · exact proceeds.toReceiverCore
  · exact ends.toReceiverCore

/-- A call that keeps the transfer and tells nothing. -/
theorem proceeds (proceeds : Proceeds files after) (told : after.told = files.told) :
    ReceiverAct files after :=
  .inl ⟨proceeds, told⟩

theorem refl : ReceiverAct files files :=
  proceeds .refl rfl

/-- Of two calls at most one ends the transfer: after its end there is none to end. -/
theorem trans (first : ReceiverAct files middle) (second : ReceiverAct middle after) :
    ReceiverAct files after := by
  rcases first with ⟨early, toldEarly⟩ | ⟨early, toldEarly⟩
  · rcases second with ⟨late, toldLate⟩ | ⟨late, toldLate⟩
    · exact .inl ⟨early.trans late, toldLate.trans toldEarly⟩
    · rw [toldEarly] at toldLate
      exact .inr ⟨early.finishes late, toldLate⟩
  · rcases second with ⟨late, toldLate⟩ | ⟨late, _⟩
    · rw [← toldLate] at toldEarly
      exact .inr ⟨early.proceeds late, toldEarly⟩
    · exact absurd early.ended late.busy

theorem emit
    {effect : FileEffect}
    (tellsNothing : effect.event? = none)
    (accepts : effect.acceptance? = none)
    (reports : effect.progress? = none) : ReceiverAct files (files.emit effect) := by
  refine proceeds (.emit accepts reports) ?_
  rw [told_emit, tellsNothing]
  exact List.append_nil _

/-- A change of what only the receiver itself looks at. -/
theorem endAccept : ReceiverAct files files.endAccept :=
  proceeds { Proceeds.refl with } rfl

theorem clearOfferTimer : ReceiverAct files files.clearOfferTimer := by
  refine proceeds .clearOfferTimer ?_
  unfold Files.clearOfferTimer
  split <;> rfl

theorem clearStallTimer : ReceiverAct files files.clearStallTimer := by
  unfold Files.clearStallTimer
  split
  · exact refl
  next id isHeld =>
    refine proceeds { Proceeds.refl with armed := ?_, stallTimer := ?_ } rfl
    · intro armed
      unfold Armed at armed
      rw [isHeld] at armed
      exact armed.clearStall
    · intro other isOther
      cases isOther

/-- Resetting the locals of a transfer disarms its two timers. -/
theorem resetTransferLocals : ReceiverAct files files.resetTransferLocals := by
  have reset : ReceiverAct files
      { files with
        receiver :=
          { files.receiver with
            lastProgressAt := 0
            lastProgressBytes := 0
            lastReceiveNotifyPercent := none } } :=
    proceeds { Proceeds.refl with } rfl
  exact (reset.trans clearOfferTimer).trans clearStallTimer

end ReceiverAct

theorem offerTimer_clearOfferTimer :
    files.clearOfferTimer.receiver.offerPendingTimer = none := by
  unfold clearOfferTimer
  split
  next isNone => exact isNone
  next => rfl

theorem offerTimer_clearStallTimer :
    files.clearStallTimer.receiver.offerPendingTimer = files.receiver.offerPendingTimer := by
  unfold clearStallTimer
  split <;> rfl

theorem stallTimer_clearStallTimer :
    files.clearStallTimer.receiver.receiveStallTimer = none := by
  unfold clearStallTimer
  split
  next isNone => exact isNone
  next => rfl

theorem incomingActive_clearStallTimer :
    files.clearStallTimer.incomingActive = files.incomingActive := by
  unfold clearStallTimer
  split <;> rfl

theorem incomingActive_clearOfferTimer :
    files.clearOfferTimer.incomingActive = files.incomingActive := by
  unfold clearOfferTimer
  split <;> rfl

theorem incomingActive_resetTransferLocals :
    files.resetTransferLocals.incomingActive = files.incomingActive := by
  unfold resetTransferLocals clearStallTimer clearOfferTimer
  dsimp only
  split <;> split <;> rfl

/-- Resetting the locals asks for nothing. -/
theorem effects_resetTransferLocals :
    files.resetTransferLocals.effects = files.effects := by
  unfold resetTransferLocals clearStallTimer clearOfferTimer
  dsimp only
  split <;> split <;> rfl

/-- The transfer ends and its timers are disarmed. -/
theorem finishes_of_busy (busy : files.incomingActive ≠ none) :
    Finishes files { files with incomingActive := none }.resetTransferLocals := by
  have dropped : ReceiverCore files { files with incomingActive := none } :=
    { ReceiverCore.refl with }
  have resets : ReceiverAct { files with incomingActive := none }
      { files with incomingActive := none }.resetTransferLocals :=
    .resetTransferLocals
  rcases resets with ⟨late, _⟩ | ⟨late, _⟩
  · exact
      { dropped.trans late.toReceiverCore (fun _ isOffer => by cases isOffer) with
        busy
        ended := incomingActive_resetTransferLocals
        offerTimer := offerTimer_clearStallTimer.trans offerTimer_clearOfferTimer
        stallTimer := stallTimer_clearStallTimer }
  · exact absurd rfl late.busy

namespace ReceiverAct

/-- The transfer ends without an event, if there is one. -/
theorem ended :
    ReceiverAct files { files with incomingActive := none }.resetTransferLocals := by
  have told : { files with incomingActive := none }.resetTransferLocals.told = files.told :=
    congrArg (List.filterMap FileEffect.event?) effects_resetTransferLocals
  cases isIncoming : files.incomingActive with
  | none =>
      have isSame : { files with incomingActive := none } = files := by
        rw [← isIncoming]
      rw [isSame]
      exact resetTransferLocals
  | some incoming =>
      have busy : files.incomingActive ≠ none := by
        rw [isIncoming]
        exact Option.some_ne_none incoming
      exact .inr ⟨finishes_of_busy busy, [], Nat.zero_le _, told.trans (List.append_nil _).symm⟩

/-- The end of a transfer is told once, and its timers are disarmed. -/
theorem finishTransfer
    (event : SystemEventKind)
    (busy : files.incomingActive ≠ none) :
    ReceiverAct files (files.finishTransfer event) := by
  refine .inr ⟨(finishes_of_busy busy).proceeds (.emit rfl rfl), [event], Nat.le_refl _, ?_⟩
  unfold Files.finishTransfer
  rw [told_emit]
  exact congrArg (· ++ [event])
    (congrArg (List.filterMap FileEffect.event?) effects_resetTransferLocals)

/-- A corrupt transfer is cancelled, its worker aborted and its file removed. -/
theorem integrityFailureAbort
    (state : ReceivingState)
    (busy : files.incomingActive ≠ none) :
    ReceiverAct files (files.integrityFailureAbort state) :=
  (((emit rfl rfl rfl).trans (emit rfl rfl rfl)).trans (emit rfl rfl rfl)).trans (finishTransfer _ busy)

/-- A declined offer is forgotten without an event of its own. -/
theorem declineAndReset (tid : Text) (worker : Option Serial) :
    ReceiverAct files (files.declineAndReset tid worker) := by
  unfold Files.declineAndReset
  dsimp only
  split
  · exact ((emit rfl rfl rfl).trans (emit rfl rfl rfl)).trans ended
  · exact (emit rfl rfl rfl).trans ended

/-- The offer shown gets a new timer. -/
theorem installOfferTimeout
    (env : FileEnv)
    (tid : Text)
    (busy : files.incomingActive ≠ none) :
    ReceiverAct files (files.installOfferTimeout env tid) := by
  have cleared : ReceiverAct files files.clearOfferTimer := clearOfferTimer
  refine cleared.trans ?_
  have stillBusy : files.clearOfferTimer.incomingActive ≠ none := by
    rw [incomingActive_clearOfferTimer]
    exact busy
  have noTimer : files.clearOfferTimer.receiver.offerPendingTimer = none :=
    offerTimer_clearOfferTimer
  have kept : Proceeds files.clearOfferTimer files.clearOfferTimer := .refl
  unfold Files.installOfferTimeout
  dsimp only
  refine proceeds { kept with armed := ?_, nextSerial := Nat.le_succ _, offerTimer := ?_ } rfl
  · intro armed
    unfold Armed at armed
    rw [noTimer] at armed
    exact armed.armOffer _ _
  · intro id isHeld
    obtain rfl := Option.some.inj isHeld
    exact .inr ⟨stillBusy, Nat.le_refl _⟩

/-- The timer of the offer fires. -/
theorem offerPendingTimeout
    {timer : FileTimer}
    (tid : Text)
    (isHeld : files.receiver.offerPendingTimer = some timer.id) :
    ReceiverAct files ((files.disarm timer.id).offerPendingTimeout tid) := by
  have isCleared : files.clearOfferTimer =
      { files.disarm timer.id with
        receiver := { files.receiver with offerPendingTimer := none } } := by
    unfold Files.clearOfferTimer
    rw [isHeld]
  have cleared : ReceiverAct files files.clearOfferTimer := clearOfferTimer
  refine cleared.trans ?_
  rw [isCleared]
  unfold Files.offerPendingTimeout
  dsimp only
  split
  next offer isOffer =>
    split
    · refine finishTransfer _ ?_
      rw [isOffer]
      exact Option.some_ne_none _
    · exact refl
  next => exact refl

/-- The timer of a transfer whose first chunk has not come fires. -/
theorem receiveStallTimeout
    {timer : FileTimer}
    (tid : Text)
    (isHeld : files.receiver.receiveStallTimer = some timer.id) :
    ReceiverAct files ((files.disarm timer.id).receiveStallTimeout tid) := by
  have isCleared : files.clearStallTimer =
      { files.disarm timer.id with
        receiver := { files.receiver with receiveStallTimer := none } } := by
    unfold Files.clearStallTimer
    rw [isHeld]
  have cleared : ReceiverAct files files.clearStallTimer := clearStallTimer
  refine cleared.trans ?_
  rw [isCleared]
  unfold Files.receiveStallTimeout
  dsimp only
  split
  · exact refl
  next current isReceiving =>
    split
    · refine integrityFailureAbort current ?_
      rw [incomingActive_of_getReceivingState isReceiving]
      exact Option.some_ne_none _
    · exact refl

/-- An acceptance whose offer is gone stops its worker and tells nothing. -/
theorem abandonAccept (offer : PendingOffer) (worker : Serial) :
    ReceiverAct files (files.abandonAccept offer worker) :=
  ((emit rfl rfl rfl).trans (emit rfl rfl rfl)).trans endAccept

/-- The user's acceptance starts a worker for the offer shown, or declines it. -/
theorem acceptOffer (env : FileEnv) : ReceiverAct files (files.acceptOffer env) := by
  unfold Files.acceptOffer
  split
  next offer isOffer =>
    split
    · exact refl
    · have entered : ReceiverAct files
          { files with receiver := { files.receiver with acceptInFlight := true } } :=
        proceeds { Proceeds.refl with } rfl
      have spawned : ReceiverAct files
          { files with
            receiver := { files.receiver with acceptInFlight := true }
            nextSerial := files.nextSerial + 1 } :=
        proceeds { Proceeds.refl with nextSerial := Nat.le_succ _ } rfl
      unfold Files.runAcceptOffer
      split
      · exact (entered.trans (declineAndReset _ _)).trans endAccept
      · split
        · exact (entered.trans (declineAndReset _ _)).trans endAccept
        · dsimp only
          split
          · exact (spawned.trans (declineAndReset _ _)).trans endAccept
          · have awaited : ReceiverAct files
                { files with
                  receiver :=
                    { files.receiver with
                      acceptInFlight := true
                      accepting := some { offer, worker := files.nextSerial } }
                  nextSerial := files.nextSerial + 1 } := by
              refine proceeds
                { Proceeds.refl with nextSerial := Nat.le_succ _, accepting := ?_ } rfl
              intro init isInit
              obtain rfl := Option.some.inj isInit
              exact .inr ⟨isOffer, Nat.le_refl _⟩
            exact awaited.trans (emit rfl rfl rfl)
  next => exact refl

/-- An offer that is current is shown. -/
theorem busy_of_isCurrentOffer
    {offer : PendingOffer}
    (isCurrent : files.isCurrentOffer offer = true) : files.incomingActive ≠ none := by
  intro isNone
  rw [isCurrentOffer, isNone] at isCurrent
  cases isCurrent

/-- A worker that has started has its acceptance sent, or is dropped. -/
theorem settleReceiverInit (worker : Serial) (ready : Bool) :
    ReceiverAct files (files.settleReceiverInit worker ready) := by
  unfold Files.settleReceiverInit
  split
  · exact refl
  next init isInit =>
    split
    · have taken : Proceeds files
          { files with receiver := { files.receiver with accepting := none } } := by
        refine { Proceeds.refl with accepting := ?_ }
        intro other isOther
        cases isOther
      have takes : ReceiverAct files
          { files with receiver := { files.receiver with accepting := none } } :=
        proceeds taken rfl
      unfold Files.receiverWorkerReady
      split
      · exact takes.trans (abandonAccept _ _)
      · split
        · exact (takes.trans (declineAndReset _ _)).trans endAccept
        · have cleared := taken.trans .clearOfferTimer
          refine proceeds { cleared with acceptances := ?_, reported := ?_ } ?_
          · intro other isAsked
            rw [acceptances_emit] at isAsked
            rcases List.mem_append.mp isAsked with isEarlier | isNew
            · exact cleared.acceptances other isEarlier
            · rw [List.mem_singleton.mp isNew]
              exact .inr (.inl isInit)
          · rw [reported_emit]
            exact (List.append_nil _).trans cleared.reported
          · rw [told_emit]
            refine (List.append_nil _).trans ?_
            unfold Files.clearOfferTimer
            split <;> rfl
    · exact refl

/-- A declined offer tells its cancellation. -/
theorem declineOffer : ReceiverAct files files.declineOffer := by
  unfold Files.declineOffer
  split
  next offer isOffer =>
    refine (emit rfl rfl rfl).trans (finishTransfer _ ?_)
    exact isOffer ▸ Option.some_ne_none _
  next => exact refl

/-- The user cancels an offer or a transfer. -/
theorem cancelActiveAsReceiver (reason : FileCancelReason) :
    ReceiverAct files (files.cancelActiveAsReceiver reason) := by
  unfold Files.cancelActiveAsReceiver
  split
  · exact refl
  · exact declineOffer
  next state isReceiving =>
    refine (((emit rfl rfl rfl).trans (emit rfl rfl rfl)).trans (emit rfl rfl rfl)).trans
      (finishTransfer _ ?_)
    exact isReceiving ▸ Option.some_ne_none _

/-- The peer's cancellation ends the transfer it names, and no other. -/
theorem dispatchCancel (tid : Text) (side : FileCancelSide) (reason : FileCancelReason) :
    ReceiverAct files (files.dispatchCancel tid side reason) := by
  unfold Files.dispatchCancel
  split
  · exact refl
  · split
    · exact refl
    next state isIncoming =>
      have busy : files.incomingActive ≠ none := isIncoming ▸ Option.some_ne_none _
      split
      · exact refl
      · dsimp only
        split
        · exact finishTransfer _ busy
        · exact ((emit rfl rfl rfl).trans (emit rfl rfl rfl)).trans (finishTransfer _ busy)

/-- The receiver's part of hiding a page drops the transfer without an event. -/
theorem receiverPageHide : ReceiverAct files files.receiverPageHide := by
  unfold Files.receiverPageHide
  split
  · exact refl
  · exact ended
  · exact ((emit rfl rfl rfl).trans (emit rfl rfl rfl)).trans ended

/-- A lost connection fails the transfer that is received; an offer stays. -/
theorem receiverOnWsClose : ReceiverAct files files.receiverOnWsClose := by
  unfold Files.receiverOnWsClose
  split
  next state isReceiving =>
    have busy : (files.emit (.terminateWorker state.worker)).incomingActive ≠ none :=
      isReceiving ▸ Option.some_ne_none _
    exact (emit rfl rfl rfl).trans (finishTransfer .fileTransferFailed busy)
  next => exact refl

/-- Shutting the receiver down drops the transfer without an event. -/
theorem receiverShutdown : ReceiverAct files files.receiverShutdown := by
  have closes : ∀ {files : Files}, ReceiverAct files
      { files with incomingActive := none, receiverCreated := false }.resetTransferLocals := by
    intro files
    have closed : ReceiverAct files { files with receiverCreated := false } :=
      proceeds { Proceeds.refl with } rfl
    exact closed.trans ended
  unfold Files.receiverShutdown
  dsimp only
  split
  · exact (emit rfl rfl rfl).trans closes
  · exact closes

/-- A chunk of the transfer that is received. -/
theorem receiveChunk (env : FileEnv) (parsed : ParsedChunk) :
    ReceiverAct files (files.receiveChunk env parsed) := by
  unfold Files.receiveChunk
  split
  · exact refl
  next active isReceiving =>
    have isActive := incomingActive_of_getReceivingState isReceiving
    have busy : files.incomingActive ≠ none := isActive ▸ Option.some_ne_none _
    split
    · exact refl
    · dsimp only
      split
      · exact integrityFailureAbort active busy
      · split
        · exact integrityFailureAbort active busy
        · have cleared : ReceiverAct files
              (if parsed.seq = 0 then files.clearStallTimer else files) := by
            split
            · exact clearStallTimer
            · exact refl
          have sameIncoming :
              (if parsed.seq = 0 then files.clearStallTimer else files).incomingActive =
                some (.receiving active) := by
            rw [← isActive]
            split
            · exact incomingActive_clearStallTimer
            · rfl
          generalize (if parsed.seq = 0 then files.clearStallTimer else files) = clearedFiles
            at cleared sameIncoming
          have stored : ∀ {files : Files} (next : ReceivingState),
              files.incomingActive = some (.receiving active) → next.worker = active.worker →
                ReceiverAct files { files with incomingActive := some (.receiving next) } := by
            intro files next isActive sameWorker
            refine proceeds { Proceeds.refl with incoming := ?_ } rfl
            rw [isActive]
            exact .advanced active next sameWorker
          split
          · split
            · exact (cleared.trans (emit rfl rfl rfl)).trans (stored _ sameIncoming rfl)
            · refine cleared.trans (integrityFailureAbort _ ?_)
              exact sameIncoming ▸ Option.some_ne_none _
          · exact cleared.trans (stored _ sameIncoming rfl)

/-- A finalize keeps the transfer as it is. -/
theorem maybeFinalize (state : ReceivingState) :
    ReceiverAct files (files.maybeFinalize state).1 := by
  unfold Files.maybeFinalize
  split
  · exact emit rfl rfl rfl
  · exact refl

end ReceiverAct

theorem maybeFinalize_worker (state : ReceivingState) :
    (files.maybeFinalize state).2.worker = state.worker := by
  unfold maybeFinalize
  split <;> rfl

theorem maybeFinalize_tid (state : ReceivingState) :
    (files.maybeFinalize state).2.tid = state.tid := by
  unfold maybeFinalize
  split <;> rfl

theorem maybeFinalize_incomingActive (state : ReceivingState) :
    (files.maybeFinalize state).1.incomingActive = files.incomingActive := by
  unfold maybeFinalize
  split <;> rfl

namespace ReceiverAct

/-- An early `file_complete` ends the transfer; a due one keeps it, with its digest. -/
theorem dispatchComplete (tid sha256 : Text) :
    ReceiverAct files (files.dispatchComplete tid sha256) := by
  unfold Files.dispatchComplete
  split
  · exact refl
  next state isReceiving =>
    have isActive := incomingActive_of_getReceivingState isReceiving
    split
    · exact refl
    · split
      · exact integrityFailureAbort state (isActive ▸ Option.some_ne_none _)
      · refine trans (maybeFinalize { state with senderSha256 := some sha256 }) ?_
        refine proceeds { Proceeds.refl with incoming := ?_ } rfl
        rw [maybeFinalize_incomingActive, isActive]
        exact .advanced state _ (maybeFinalize_worker _)

end ReceiverAct

/-- A chunk of the transfer was written: the transfer goes on, and at most its progress is
told. -/
structure Counts (state : ReceivingState) (before after : Files) : Prop where
  incoming : ∃ next, after.incomingActive = some (.receiving next) ∧
    next.worker = state.worker ∧ next.tid = state.tid
  armed : before.Armed → after.Armed
  accepting : after.receiver.accepting = before.receiver.accepting
  offerTimer : after.receiver.offerPendingTimer = before.receiver.offerPendingTimer
  stallTimer : after.receiver.receiveStallTimer = before.receiver.receiveStallTimer
  cleanups : after.receiver.cleanups = before.receiver.cleanups
  nextSerial : after.nextSerial = before.nextSerial
  acceptances : after.acceptances = before.acceptances
  told : after.told = before.told
  reported : ∀ tid ∈ after.reported, tid ∈ before.reported ∨ tid = state.tid

namespace Counts

variable {state : ReceivingState}

theorem refl (isActive : files.incomingActive = some (.receiving state)) :
    Counts state files files where
  incoming := ⟨state, isActive, rfl, rfl⟩
  armed := id
  accepting := rfl
  offerTimer := rfl
  stallTimer := rfl
  cleanups := rfl
  nextSerial := rfl
  acceptances := rfl
  told := rfl
  reported _ := .inl

/-- Two parts of a report count for the same transfer. -/
theorem trans (first : Counts state files middle) (second : Counts state middle after) :
    Counts state files after where
  incoming := second.incoming
  armed := second.armed ∘ first.armed
  accepting := second.accepting.trans first.accepting
  offerTimer := second.offerTimer.trans first.offerTimer
  stallTimer := second.stallTimer.trans first.stallTimer
  cleanups := second.cleanups.trans first.cleanups
  nextSerial := second.nextSerial.trans first.nextSerial
  acceptances := second.acceptances.trans first.acceptances
  told := second.told.trans first.told
  reported tid isReported := (second.reported tid isReported).elim (first.reported tid) .inr

/-- An effect of a report tells no event, accepts nothing and reports this transfer only. -/
theorem emit
    {effect : FileEffect}
    (counts : Counts state files middle)
    (tellsNothing : effect.event? = none)
    (accepts : effect.acceptance? = none)
    (reports : ∀ tid, effect.progress? = some tid → tid = state.tid) :
    Counts state files (middle.emit effect) where
  incoming := counts.incoming
  armed := counts.armed
  accepting := counts.accepting
  offerTimer := counts.offerTimer
  stallTimer := counts.stallTimer
  cleanups := counts.cleanups
  nextSerial := counts.nextSerial
  acceptances := by
    rw [acceptances_emit, accepts, Option.toList_none, List.append_nil]
    exact counts.acceptances
  told := by
    rw [told_emit, tellsNothing, Option.toList_none, List.append_nil]
    exact counts.told
  reported tid isReported := by
    rw [reported_emit] at isReported
    rcases List.mem_append.mp isReported with isEarlier | isNew
    · exact counts.reported tid isEarlier
    · exact .inr (reports tid (Option.mem_toList.mp isNew))

/-- Progress is told for the transfer that is counted. -/
theorem maybeSendProgress
    (counts : Counts state files middle)
    (env : FileEnv)
    {counted : ReceivingState}
    (sameTid : counted.tid = state.tid) :
    Counts state files (middle.maybeSendProgress env counted) := by
  unfold Files.maybeSendProgress
  split
  · exact counts
  · split
    · exact counts
    · refine emit { counts with } rfl rfl ?_
      intro tid isTid
      rw [← sameTid]
      exact (Option.some.inj isTid).symm

/-- A finalize during a report. -/
theorem maybeFinalize
    (counts : Counts state files middle)
    (counted : ReceivingState) :
    Counts state files (middle.maybeFinalize counted).1 := by
  unfold Files.maybeFinalize
  split
  · refine emit counts rfl rfl ?_
    intro tid isTid
    cases isTid
  · exact counts

/-- The notification that ends a report stores the counted transfer. -/
theorem notifyReceiveProgress
    (counts : Counts state files middle)
    {next : ReceivingState}
    (sameWorker : next.worker = state.worker)
    (sameTid : next.tid = state.tid) :
    Counts state files (middle.notifyReceiveProgress next) := by
  unfold Files.notifyReceiveProgress
  dsimp only
  split
  · split
    · exact { counts with incoming := ⟨next, rfl, sameWorker, sameTid⟩ }
    · exact counts
  · exact { counts with incoming := ⟨next, rfl, sameWorker, sameTid⟩ }

/-- A written chunk, if the next one can be posted. -/
theorem handleWorkerWritten
    (env : FileEnv)
    (state : ReceivingState)
    (bytes : Nat)
    (isActive : files.incomingActive = some (.receiving state))
    (posts : state.pendingChunkQueue ≠ [] → env.postOk = true) :
    Counts state files (files.handleWorkerWritten env state bytes) := by
  have settles {posted : Files} (counted : ReceivingState)
      (counts : Counts state files posted)
      (sameWorker : counted.worker = state.worker)
      (sameTid : counted.tid = state.tid) :
      Counts state files
        (((posted.maybeSendProgress env counted).maybeFinalize counted).1.notifyReceiveProgress
          ((posted.maybeSendProgress env counted).maybeFinalize counted).2) := by
    refine ((counts.maybeSendProgress env sameTid).maybeFinalize counted).notifyReceiveProgress
      ?_ ?_
    · exact (maybeFinalize_worker counted).trans sameWorker
    · exact (maybeFinalize_tid counted).trans sameTid
  unfold Files.handleWorkerWritten
  dsimp only
  cases isQueue : state.pendingChunkQueue with
  | nil => exact settles _ (.refl isActive) rfl rfl
  | cons next rest =>
      have isPosted := posts (isQueue ▸ List.cons_ne_nil next rest)
      dsimp only
      unfold Files.postChunkToWorker
      rw [if_pos isPosted]
      refine settles _ (emit (.refl isActive) rfl rfl ?_) rfl rfl
      intro tid isTid
      cases isTid

end Counts

namespace ReceiverAct

/-- The transfer is complete and registered. -/
theorem completed (tid : Text) (record : AttachmentRecord) (bytes : Nat) :
    ReceiverAct files
      (({ files.setAttachment tid record with
          sessionReceivedBytes := bytes
          incomingActive := none }.resetTransferLocals).emit
        (.sendEnvelope (.fileCompleteAck tid) .discard)) := by
  have registered : ReceiverAct files
      { files.setAttachment tid record with sessionReceivedBytes := bytes } :=
    proceeds { Proceeds.refl with } rfl
  exact (registered.trans ended).trans (emit rfl rfl rfl)

end ReceiverAct

/-! ## The sender leaves the incoming transfer alone -/

/-- A segment of the sender keeps the incoming transfer and its timers. -/
theorem Proceeds.of_sender
    (frame : SenderFrame files after)
    (timers : SenderTimers files after) : Proceeds files after where
  armed := timers.armed frame.receiver
  accepting init isInit := .inl (frame.receiver ▸ isInit)
  acceptances init isAsked := by
    obtain ⟨asked, isAfter, own⟩ := frame.effects
    rw [acceptances, isAfter, List.filterMap_append] at isAsked
    rcases List.mem_append.mp isAsked with isEarlier | isNew
    · exact .inl isEarlier
    · obtain ⟨effect, isEffect, isAcceptance⟩ := List.mem_filterMap.mp isNew
      rw [acceptance?_of_sender (own effect isEffect)] at isAcceptance
      cases isAcceptance
  nextSerial := frame.nextSerial
  cleanups := congrArg ReceiverState.cleanups frame.receiver
  reported := by
    obtain ⟨asked, isAfter, own⟩ := frame.effects
    rw [reported, isAfter, List.filterMap_append, List.filterMap_eq_nil_iff.mpr fun effect isEffect =>
      progress?_of_sender (own effect isEffect)]
    exact List.append_nil _
  incoming := by
    rw [frame.incomingActive]
    exact .same _
  offerTimer id isHeld := .inl (frame.receiver ▸ isHeld)
  stallTimer id isHeld := frame.receiver ▸ isHeld

namespace Proceeds

/-- A timer that fired is disarmed. -/
theorem disarm (id : Serial) : Proceeds files (files.disarm id) := by
  refine { Proceeds.refl with armed := fun armed => ?_ }
  exact
    { offer := fun timer isArmed => armed.offer timer (List.mem_filter.mp isArmed).1
      stall := fun timer isArmed => armed.stall timer (List.mem_filter.mp isArmed).1 }

/-- A transfer that was sent is registered as an attachment. -/
theorem finalizeVerifyingAsSuccess (tid name : Text) (size : Nat) :
    Proceeds files (files.finalizeVerifyingAsSuccess tid name size) := by
  unfold Files.finalizeVerifyingAsSuccess
  split
  · split
    · dsimp only
      split <;> exact { Proceeds.refl with }
    · exact refl
  · exact refl

/-- Envelopes for the sender keep the incoming transfer. -/
theorem dispatchFromReceiver (env : FileEnv) (envelope : PlaintextEnvelope) :
    Proceeds files (files.dispatchFromReceiver env envelope) := by
  unfold Files.dispatchFromReceiver
  split
  · exact refl
  · split
    · split
      · exact of_sender (.onFileAcceptReceived _ _) (.onFileAcceptReceived _ _)
      · exact refl
    · split
      · exact of_sender (.finishWithEvent _ _) (.finishWithEvent _ _)
      · exact refl
    · split
      · split
        · exact finalizeVerifyingAsSuccess _ _ _
        · exact refl
      · exact refl
    · split
      · exact of_sender (.finishWithEvent _ _) (.finishWithEvent _ _)
      · exact refl
    · exact refl

theorem of_created {created : Bool} (called : Proceeds files after) :
    Proceeds files (if created then after else files) := by
  cases created with
  | true => exact called
  | false => exact refl

end Proceeds

theorem ReceiverAct.of_created {created : Bool} (called : ReceiverAct files after) :
    ReceiverAct files (if created then after else files) := by
  cases created with
  | true => exact called
  | false => exact refl

/-! ## Offers and acceptances -/

/-- An offer is declined or shown. -/
theorem evaluatePreAccept_cases (tid name : Text) (size : Nat) :
    Proceeds files (files.evaluatePreAccept tid name size).1 ∧
      ∀ sanitisedName, (files.evaluatePreAccept tid name size).2 = .accept sanitisedName →
        (files.evaluatePreAccept tid name size).1 = files ∧ files.incomingActive = none := by
  have declined : ∀ reason, Proceeds files ((files, PreAccept.decline reason) : Files × PreAccept).1 ∧
      ∀ sanitisedName, PreAccept.decline reason = .accept sanitisedName →
        files = files ∧ files.incomingActive = none := by
    intro reason
    refine ⟨.refl, ?_⟩
    intro sanitisedName isAccept
    cases isAccept
  unfold evaluatePreAccept
  split
  · exact declined _
  · split
    · exact declined _
    · split
      · exact declined _
      · split
        · exact declined _
        next vacant =>
          split
          · exact declined _
          · split
            · split
              · exact declined _
              · refine ⟨?_, ?_⟩
                · have capped : Proceeds files
                      { files with
                        receiver := { files.receiver with sessionCapEventFired := true } } :=
                    { Proceeds.refl with }
                  exact capped.trans (.emit rfl rfl)
                · intro sanitisedName isAccept
                  cases isAccept
            · split
              · exact declined _
              · split
                · exact declined _
                · refine ⟨.refl, fun _ _ => ⟨rfl, ?_⟩⟩
                  cases isIncoming : files.incomingActive with
                  | none => rfl
                  | some => simp [isIncoming] at vacant

/-- The page after an offer is shown, before its timer is armed. -/
def withOffer (files : Files) (offer : PendingOffer) : Files :=
  { files with
    incomingActive := some (.offerPending offer)
    nextSerial := files.nextSerial + 1 }

/-- An offer is declined, or shown under a new identity. -/
theorem dispatchOffer_cases (env : FileEnv) (tid name : Text) (size : Nat) :
    Proceeds files (files.dispatchOffer env tid name size) ∨
      ∃ offer, offer.ref = files.nextSerial ∧ files.incomingActive = none ∧
        ReceiverAct (files.withOffer offer) (files.dispatchOffer env tid name size) := by
  obtain ⟨evaluates, accepts⟩ := files.evaluatePreAccept_cases tid name size
  unfold Files.dispatchOffer
  split
  next evaluated reason isVerdict =>
    rw [isVerdict] at evaluates
    exact .inl (evaluates.trans (.emit rfl rfl))
  next evaluated sanitisedName isVerdict =>
    obtain ⟨isSame, isNone⟩ := accepts sanitisedName (by rw [isVerdict])
    rw [isVerdict] at isSame
    dsimp only at isSame
    subst isSame
    let offer : PendingOffer :=
      { ref := evaluated.nextSerial, tid, name := sanitisedName, size }
    have shown : ReceiverAct (evaluated.withOffer offer)
        ((evaluated.withOffer offer).emit (.appendFileMessage tid false)) :=
      .emit rfl rfl rfl
    exact .inr ⟨offer, rfl, isNone,
      shown.trans (.installOfferTimeout env tid (Option.some_ne_none _))⟩

/-- Arming the offer timer tells nothing. -/
theorem told_installOfferTimeout (env : FileEnv) (tid : Text) :
    (files.installOfferTimeout env tid).told = files.told := by
  unfold installOfferTimeout clearOfferTimer
  split <;> rfl

theorem told_abandonAccept (offer : PendingOffer) (worker : Serial) :
    (files.abandonAccept offer worker).told = files.told := by
  change ((files.emit _).emit _).told = files.told
  rw [told_emit, told_emit]
  exact (List.append_nil _).trans (List.append_nil _)

/-- What the start of a transfer changes. -/
structure Receives (worker : Serial) (before after : Files) : Prop where
  receiving : ∃ state, after.incomingActive = some (.receiving state) ∧ state.worker = worker
  armed : before.receiver.receiveStallTimer = none → before.Armed → after.Armed
  accepting : after.receiver.accepting = before.receiver.accepting
  cleanups : after.receiver.cleanups = before.receiver.cleanups
  acceptances : after.acceptances = before.acceptances
  offerTimer : after.receiver.offerPendingTimer = before.receiver.offerPendingTimer
  stallTimer : ∀ id, after.receiver.receiveStallTimer = some id → before.nextSerial ≤ id
  nextSerial : before.nextSerial ≤ after.nextSerial
  told : after.told = before.told
  reported : after.reported = before.reported

/-- A sent acceptance starts the transfer of the shown offer; a refused one keeps the offer,
and one that comes too late stops its worker. -/
theorem acceptSent_cases (env : FileEnv) (offer : PendingOffer) (worker : Serial) (sent : Bool) :
    (ReceiverAct files (files.acceptSent env offer worker sent) ∧
        (files.acceptSent env offer worker sent).told = files.told) ∨
      (files.isCurrentOffer offer = true ∧
        Receives worker files (files.acceptSent env offer worker sent)) := by
  unfold Files.acceptSent
  split
  · exact .inl ⟨.abandonAccept _ _, told_abandonAccept _ _⟩
  next isCurrent =>
    have isCurrent : files.isCurrentOffer offer = true := by simpa using isCurrent
    split
    · left
      have installed : ReceiverAct (files.emit (.terminateWorker worker))
          ((files.emit (.terminateWorker worker)).installOfferTimeout env offer.tid) :=
        .installOfferTimeout env offer.tid (ReceiverAct.busy_of_isCurrentOffer isCurrent)
      refine ⟨((ReceiverAct.emit rfl rfl rfl).trans installed).trans .endAccept, ?_⟩
      change ((files.emit _).installOfferTimeout env offer.tid).told = files.told
      rw [told_installOfferTimeout, told_emit]
      exact List.append_nil _
    · refine .inr ⟨isCurrent, ⟨⟨_, rfl, rfl⟩, ?_, rfl, rfl, rfl, rfl, ?_, Nat.le_succ _, rfl, rfl⟩⟩
      · intro noTimer armed
        unfold Armed at armed
        rw [noTimer] at armed
        exact armed.armStall _ _
      · intro id isHeld
        obtain rfl := Option.some.inj isHeld
        exact Nat.le_refl _

end Files

end Unseen
