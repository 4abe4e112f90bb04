import Unseen.CreditWindow
import Unseen.History
import Unseen.ReceivedFiles

namespace Unseen

/-!
# Flow control of received files

A transfer that is received is a window of credit between the receiver and its
worker.  A chunk that arrives is posted while there is credit and queued
otherwise; a chunk that is reported as written gives back its credit, or has the
next one posted in its place.

That post can fail.  The transfer is then given up, and the notification that
ends the report stores it again, one chunk short and with the credit back.
-/

/-- A chunk as the receiver and its worker count it. -/
structure WorkerChunk where
  worker : Serial
  seq : Nat
  bytes : Nat
  deriving DecidableEq

/-- A queued chunk, for the worker it waits for. -/
def PendingChunk.forWorker (worker : Serial) (chunk : PendingChunk) : WorkerChunk where
  worker := worker
  seq := chunk.seq
  bytes := chunk.data.length

def FileEffect.postedChunk? : FileEffect → Option WorkerChunk
  | .postToReceiveWorker worker (.chunk seq data) =>
      some { worker, seq, bytes := data.length }
  | _ => none

/-- The chunks that some effects post to receive workers, in order. -/
def postedChunks (effects : List FileEffect) : List WorkerChunk :=
  effects.filterMap FileEffect.postedChunk?

/-- The chunk of this number that a transfer has its worker write. -/
def ReceivingState.chunkFor (state : ReceivingState) (seq : Nat) : WorkerChunk where
  worker := state.worker
  seq := seq
  bytes := Files.expectedChunkLen state.expectedSize seq
    (Files.computeTotalChunks state.expectedSize)

/-- What was posted for the transfer that is received, and what the worker acknowledged. -/
structure FlowLog where
  posted : List WorkerChunk
  acknowledged : List WorkerChunk

/-- The window of a transfer. -/
def FlowLog.window (log : FlowLog) (state : ReceivingState) : CreditWindow WorkerChunk where
  credit := state.receiveCredit
  posted := log.posted
  acknowledged := log.acknowledged
  waiting := state.pendingChunkQueue.map (PendingChunk.forWorker state.worker)

/-! ## The transfer and its window -/

/-- The same transfer, as far as its chunks go. -/
def SameFlow (state next : ReceivingState) : Prop :=
  next =
    { state with
      senderSha256 := next.senderSha256
      finalizeRequested := next.finalizeRequested }

theorem SameFlow.refl (state : ReceivingState) : SameFlow state state :=
  rfl

theorem SameFlow.trans
    {state between next : ReceivingState}
    (first : SameFlow state between)
    (second : SameFlow between next) :
    SameFlow state next := by
  rw [SameFlow, second, first]

/-- The transfer after the next chunk has arrived. -/
def ReceivingState.taking (state : ReceivingState) (chunk : Files.ParsedChunk) :
    ReceivingState :=
  let counted :=
    { state with
      nextExpectedSeq := state.nextExpectedSeq + 1
      networkReceivedBytes := state.networkReceivedBytes + chunk.data.length }
  if 0 < state.receiveCredit then
    { counted with receiveCredit := state.receiveCredit - 1 }
  else
    { counted with pendingChunkQueue := state.pendingChunkQueue ++ [chunk.pending] }

/-- The transfer after a chunk was reported as written, the next one having been posted. -/
def ReceivingState.acknowledging (state : ReceivingState) (bytes : Nat) : ReceivingState :=
  match state.pendingChunkQueue with
  | [] =>
      { state with
        bytesWritten := state.bytesWritten + bytes
        receiveCredit := state.receiveCredit + 1 }
  | _ :: rest =>
      { state with
        bytesWritten := state.bytesWritten + bytes
        pendingChunkQueue := rest }

/-- How far a transfer and its window are in step. -/
structure Flow (log : FlowLog) (state : ReceivingState) : Prop where
  balanced : (log.window state).Balanced recvInitialCredit
  taken : (log.window state).taken =
    (List.range state.nextExpectedSeq).map state.chunkFor
  inRange : state.nextExpectedSeq ≤ Files.computeTotalChunks state.expectedSize
  received : state.networkReceivedBytes =
    ((log.window state).taken.map WorkerChunk.bytes).sum
  written : state.bytesWritten = (log.acknowledged.map WorkerChunk.bytes).sum
  room : state.pendingChunkQueue.length ≤ recvPendingHardCapChunks

variable {log : FlowLog} {state next : ReceivingState}

theorem Flow.of_sameFlow (flow : Flow log state) (same : SameFlow state next) :
    Flow log next := by
  rw [same]
  exact ⟨flow.balanced, flow.taken, flow.inRange, flow.received, flow.written, flow.room⟩

theorem Flow.start (offer : PendingOffer) (worker : Serial) :
    Flow ⟨[], []⟩ (Files.startedTransfer offer worker) where
  balanced := CreditWindow.balanced_opened (by decide)
  taken := rfl
  inRange := Nat.zero_le _
  received := rfl
  written := rfl
  room := Nat.zero_le _

/-- The chunk that arrived, as it is posted or queued. -/
theorem chunkFor_of_isNextChunk
    {chunk : Files.ParsedChunk}
    (isNext : Files.IsNextChunk state chunk) :
    chunk.pending.forWorker state.worker = state.chunkFor state.nextExpectedSeq := by
  obtain ⟨_, isSeq, _, isLength⟩ := isNext
  unfold PendingChunk.forWorker ReceivingState.chunkFor
  rw [← isSeq, ← isLength]
  rfl

theorem taking_window (state : ReceivingState) (chunk : Files.ParsedChunk) :
    FlowLog.window
        { log with
          posted := log.posted ++
            if 0 < state.receiveCredit then [chunk.pending.forWorker state.worker] else [] }
        (state.taking chunk) =
      (log.window state).take (chunk.pending.forWorker state.worker) := by
  unfold ReceivingState.taking CreditWindow.take FlowLog.window
  dsimp only
  split
  next => rfl
  next =>
    rw [List.append_nil, List.map_append]
    rfl

/-- What a chunk that arrives changes, posted or queued. -/
theorem taking_counts (state : ReceivingState) (chunk : Files.ParsedChunk) :
    (state.taking chunk).chunkFor = state.chunkFor ∧
      (state.taking chunk).expectedSize = state.expectedSize ∧
      (state.taking chunk).nextExpectedSeq = state.nextExpectedSeq + 1 ∧
      (state.taking chunk).networkReceivedBytes =
        state.networkReceivedBytes + chunk.data.length ∧
      (state.taking chunk).bytesWritten = state.bytesWritten := by
  unfold ReceivingState.taking
  dsimp only
  split <;> exact ⟨rfl, rfl, rfl, rfl, rfl⟩

/-- A chunk that arrives is taken into the window. -/
theorem Flow.taking
    {chunk : Files.ParsedChunk}
    (flow : Flow log state)
    (isNext : Files.IsNextChunk state chunk)
    (hasRoom : state.pendingChunkQueue.length < recvPendingHardCapChunks) :
    Flow
      { log with
        posted := log.posted ++
          if 0 < state.receiveCredit then [chunk.pending.forWorker state.worker] else [] }
      (state.taking chunk) := by
  have taken := flow.balanced.taken_take (chunk.pending.forWorker state.worker)
  obtain ⟨isChunkFor, isExpectedSize, isNextSeq, isReceived, isWritten⟩ :=
    taking_counts state chunk
  refine ⟨?_, ?_, ?_, ?_, ?_, ?_⟩
  · rw [taking_window]
    exact flow.balanced.take _
  · rw [taking_window, taken, flow.taken, isNextSeq, isChunkFor, List.range_succ,
      List.map_append, chunkFor_of_isNextChunk isNext]
    rfl
  · rw [isNextSeq, isExpectedSize]
    exact isNext.seq ▸ isNext.inRange
  · rw [taking_window, taken, isReceived, flow.received, List.map_append, List.sum_append]
    rfl
  · rw [isWritten]
    exact flow.written
  · unfold ReceivingState.taking
    dsimp only
    split
    · exact Nat.le_of_lt hasRoom
    · rw [List.length_append]
      exact hasRoom

theorem acknowledging_window (state : ReceivingState) (acknowledged : WorkerChunk) :
    FlowLog.window
        { posted := log.posted ++
            (state.pendingChunkQueue.head?.map (PendingChunk.forWorker state.worker)).toList
          acknowledged := log.acknowledged ++ [acknowledged] }
        (state.acknowledging acknowledged.bytes) =
      (log.window state).acknowledge acknowledged := by
  unfold ReceivingState.acknowledging CreditWindow.acknowledge FlowLog.window
  cases isQueue : state.pendingChunkQueue with
  | nil => simp
  | cons next rest => simp

/-- What a chunk that is reported as written changes. -/
theorem acknowledging_counts (state : ReceivingState) (bytes : Nat) :
    (state.acknowledging bytes).chunkFor = state.chunkFor ∧
      (state.acknowledging bytes).expectedSize = state.expectedSize ∧
      (state.acknowledging bytes).nextExpectedSeq = state.nextExpectedSeq ∧
      (state.acknowledging bytes).networkReceivedBytes = state.networkReceivedBytes ∧
      (state.acknowledging bytes).bytesWritten = state.bytesWritten + bytes := by
  unfold ReceivingState.acknowledging
  split <;> exact ⟨rfl, rfl, rfl, rfl, rfl⟩

/-- A chunk that is reported as written is acknowledged in the window. -/
theorem Flow.acknowledging
    {acknowledged : WorkerChunk}
    (flow : Flow log state)
    (legal : (log.window state).Acknowledges acknowledged) :
    Flow
      { posted := log.posted ++
          (state.pendingChunkQueue.head?.map (PendingChunk.forWorker state.worker)).toList
        acknowledged := log.acknowledged ++ [acknowledged] }
      (state.acknowledging acknowledged.bytes) := by
  have taken := (log.window state).taken_acknowledge acknowledged
  obtain ⟨isChunkFor, isExpectedSize, isNextSeq, isReceived, isWritten⟩ :=
    acknowledging_counts state acknowledged.bytes
  refine ⟨?_, ?_, ?_, ?_, ?_, ?_⟩
  · rw [acknowledging_window]
    exact flow.balanced.acknowledge legal
  · rw [acknowledging_window, taken, isChunkFor, isNextSeq]
    exact flow.taken
  · rw [isNextSeq, isExpectedSize]
    exact flow.inRange
  · rw [acknowledging_window, taken, isReceived]
    exact flow.received
  · rw [isWritten, flow.written, List.map_append, List.sum_append]
    rfl
  · refine Nat.le_trans ?_ flow.room
    unfold ReceivingState.acknowledging
    split
    next => exact Nat.le_refl _
    next _ rest isQueue =>
      rw [isQueue]
      exact Nat.le_succ _

/-! ## Bounds of a transfer -/

/-- A transfer that is received keeps to its window. -/
structure FlowControlled (log : FlowLog) (state : ReceivingState) : Prop where
  creditBounds : 0 ≤ state.receiveCredit ∧ state.receiveCredit ≤ recvInitialCredit
  queueBound : state.pendingChunkQueue.length ≤ recvPendingHardCapChunks
  noCredit : state.pendingChunkQueue ≠ [] → state.receiveCredit = 0
  posted : log.posted = (List.range log.posted.length).map state.chunkFor
  queued : state.pendingChunkQueue.map (PendingChunk.forWorker state.worker) =
    (List.range' log.posted.length state.pendingChunkQueue.length).map state.chunkFor
  byteBounds : state.bytesWritten ≤ state.networkReceivedBytes ∧
    state.networkReceivedBytes ≤ state.expectedSize
  unacknowledged : state.pendingChunkQueue ≠ [] →
    (log.posted.length : Int) = log.acknowledged.length + recvInitialCredit

/-- The chunks that arrived carry no more bytes than the file has. -/
theorem sum_chunkFor_le
    {count : Nat}
    (inRange : count ≤ Files.computeTotalChunks state.expectedSize) :
    (((List.range count).map state.chunkFor).map WorkerChunk.bytes).sum ≤
      state.expectedSize := by
  have lengths : ((List.range count).map state.chunkFor).map WorkerChunk.bytes =
      (List.range count).map
        (Segmentation.pieceLength chunkDataMaxBytes state.expectedSize) := by
    rw [List.map_map]
    apply List.map_congr_left
    intro seq isSeq
    exact expectedChunkLen_eq (Nat.lt_of_lt_of_le (List.mem_range.mp isSeq) inRange)
  rw [lengths, Segmentation.sum_pieceLength]
  exact Nat.min_le_right _ _

theorem Flow.controlled (flow : Flow log state) : FlowControlled log state := by
  have isTaken : log.posted ++
      state.pendingChunkQueue.map (PendingChunk.forWorker state.worker) =
      (List.range state.nextExpectedSeq).map state.chunkFor := flow.taken
  have isCount : log.posted.length + state.pendingChunkQueue.length =
      state.nextExpectedSeq := by
    simpa using congrArg List.length isTaken
  have waits : state.pendingChunkQueue ≠ [] → (log.window state).waiting ≠ [] := fun notEmpty =>
    fun isEmpty => notEmpty (List.map_eq_nil_iff.mp isEmpty)
  have isSplit : (List.range state.nextExpectedSeq).map state.chunkFor =
      (List.range log.posted.length).map state.chunkFor ++
        (List.range' log.posted.length state.pendingChunkQueue.length).map state.chunkFor := by
    rw [← isCount, List.range_eq_range', List.range_eq_range', ← List.range'_append_1,
      List.map_append, Nat.zero_add]
  rw [isSplit] at isTaken
  obtain ⟨isPosted, isQueued⟩ := List.append_inj isTaken (by simp)
  refine ⟨⟨flow.balanced.nonneg, flow.balanced.credit_le⟩, flow.room, ?_, isPosted, isQueued,
    ⟨?_, ?_⟩, ?_⟩
  · exact fun notEmpty => flow.balanced.waits (waits notEmpty)
  · rw [flow.written, flow.received]
    exact flow.balanced.weight_le WorkerChunk.bytes
  · rw [flow.received, flow.taken]
    exact sum_chunkFor_le flow.inRange
  · exact fun notEmpty => flow.balanced.outstanding (waits notEmpty)

/-! ## What a report of the worker does -/

namespace Files

variable {files middle after : Files}

theorem postedChunks_append (first second : List FileEffect) :
    postedChunks (first ++ second) = postedChunks first ++ postedChunks second :=
  List.filterMap_append

theorem postedChunks_of_quiet
    {asked : List FileEffect}
    (quiet : ∀ effect ∈ asked, ¬ IsTransferEffect effect) :
    postedChunks asked = [] := by
  apply List.filterMap_eq_nil_iff.mpr
  intro effect isEffect
  have isQuiet := quiet effect isEffect
  cases effect with
  | postToReceiveWorker worker message =>
      cases message with
      | chunk => exact absurd trivial isQuiet
      | init | finalize | abort => rfl
  | _ => rfl

theorem Standstill.postedChunks (standstill : Standstill files after) :
    postedChunks after.effects = postedChunks files.effects := by
  obtain ⟨asked, isAfter, quiet⟩ := standstill.effects
  rw [isAfter, postedChunks_append, postedChunks_of_quiet quiet, List.append_nil]

theorem maybeFinalize_flow (files : Files) (state : ReceivingState) :
    SameFlow state (files.maybeFinalize state).2 ∧
      Unseen.postedChunks (files.maybeFinalize state).1.effects =
        Unseen.postedChunks files.effects := by
  unfold Files.maybeFinalize
  split
  · refine ⟨rfl, ?_⟩
    change Unseen.postedChunks (files.effects ++ [_]) = _
    rw [postedChunks_append]
    exact List.append_nil _
  · exact ⟨rfl, rfl⟩

/-- What follows the post when a chunk is reported as written. -/
theorem settle_flow (env : FileEnv) (posted : Files) (state : ReceivingState) :
    let settled := (posted.maybeSendProgress env state).maybeFinalize state
    Unseen.postedChunks (settled.1.notifyReceiveProgress settled.2).effects =
        Unseen.postedChunks posted.effects ∧
      ∀ incoming,
        (settled.1.notifyReceiveProgress settled.2).incomingActive = some incoming →
          ∃ next, incoming = .receiving next ∧ SameFlow state next := by
  intro settled
  obtain ⟨sameFlow, samePosts⟩ := maybeFinalize_flow (posted.maybeSendProgress env state) state
  obtain ⟨_, sameEffects, holds⟩ := notifyReceiveProgress_spec settled.1 settled.2
  constructor
  · rw [sameEffects, samePosts, (Standstill.maybeSendProgress env state).postedChunks]
  · intro incoming isIncoming
    exact ⟨settled.2, holds incoming isIncoming, sameFlow⟩

/-- A report of a written chunk posts the next one, if the post of a waiting chunk does not
fail. -/
theorem handleWorkerWritten_flow
    {env : FileEnv}
    (files : Files)
    (bytes : Nat)
    (posts : state.pendingChunkQueue ≠ [] → env.postOk = true) :
    Unseen.postedChunks (files.handleWorkerWritten env state bytes).effects =
        Unseen.postedChunks files.effects ++
          (state.pendingChunkQueue.head?.map (PendingChunk.forWorker state.worker)).toList ∧
      ∀ incoming, (files.handleWorkerWritten env state bytes).incomingActive = some incoming →
        ∃ next, incoming = .receiving next ∧ SameFlow (state.acknowledging bytes) next := by
  unfold Files.handleWorkerWritten ReceivingState.acknowledging
  dsimp only
  cases isQueue : state.pendingChunkQueue with
  | nil =>
      obtain ⟨samePosts, settles⟩ := settle_flow env files _
      exact ⟨samePosts.trans (List.append_nil _).symm, settles⟩
  | cons next rest =>
      have postOk := posts (by rw [isQueue]; exact List.cons_ne_nil next rest)
      unfold Files.postChunkToWorker
      dsimp only
      rw [if_pos postOk, Int.add_sub_cancel]
      obtain ⟨samePosts, settles⟩ := settle_flow env
        (files.emit (.postToReceiveWorker state.worker (.chunk next.seq next.data))) _
      refine ⟨samePosts.trans ?_, settles⟩
      exact postedChunks_append _ _

/-! ## What else the receiver does -/

/-- No chunk is posted, and a transfer that is received was received before. -/
structure GoesOn (before after : Files) : Prop where
  posted : Unseen.postedChunks after.effects = Unseen.postedChunks before.effects
  receiving : ∀ next, after.incomingActive = some (.receiving next) →
    ∃ state, before.incomingActive = some (.receiving state) ∧ SameFlow state next

theorem Standstill.goesOn (standstill : Standstill files after) : GoesOn files after where
  posted := standstill.postedChunks
  receiving next isNext := ⟨next, standstill.incomingActive _ isNext, .refl next⟩

/-- An offer that is shown is not received yet. -/
theorem goesOn_dispatchOffer (env : FileEnv) (tid name : Text) (size : Nat) :
    GoesOn files (files.dispatchOffer env tid name size) := by
  rcases dispatchOffer_spec files env tid name size with standstill | ⟨_, _, _, standstill⟩
  · exact standstill.goesOn
  · refine ⟨standstill.postedChunks, ?_⟩
    intro next isNext
    cases standstill.incomingActive _ isNext

theorem goesOn_acceptOffer (env : FileEnv) : GoesOn files (files.acceptOffer env) := by
  rcases acceptOffer_spec files env with standstill | ⟨_, _, _, _, standstill⟩
  · exact standstill.goesOn
  · exact ⟨standstill.goesOn.posted, standstill.goesOn.receiving⟩

theorem goesOn_settleReceiverInit (worker : Serial) (ready : Bool) :
    GoesOn files (files.settleReceiverInit worker ready) := by
  rcases settleReceiverInit_spec files worker ready with
    standstill | ⟨init, between, _, _, standstill, isSettled⟩
  · exact standstill.goesOn
  · rw [isSettled]
    refine ⟨?_, standstill.goesOn.receiving⟩
    rw [← standstill.postedChunks]
    exact (postedChunks_append _ _).trans (List.append_nil _)

theorem goesOn_dispatchComplete (tid sha256 : Text) :
    GoesOn files (files.dispatchComplete tid sha256) := by
  unfold Files.dispatchComplete
  split
  · exact Standstill.refl.goesOn
  next state isReceiving =>
    split
    · exact Standstill.refl.goesOn
    · split
      · exact (Standstill.integrityFailureAbort state).goesOn
      · obtain ⟨sameFlow, samePosts⟩ :=
          maybeFinalize_flow files { state with senderSha256 := some sha256 }
        refine ⟨samePosts, ?_⟩
        intro next isNext
        have isFinalized := IncomingState.receiving.inj (Option.some.inj isNext)
        have announced : SameFlow state { state with senderSha256 := some sha256 } := rfl
        exact ⟨state, incomingActive_of_getReceivingState isReceiving,
          isFinalized ▸ announced.trans sameFlow⟩

theorem goesOn_handleWorkerDone
    (state : ReceivingState)
    (sha256 : Text)
    (bytesWritten fileSize : Nat) :
    GoesOn files (files.handleWorkerDone state sha256 bytesWritten fileSize) := by
  rcases handleWorkerDone_spec files state sha256 bytesWritten fileSize with
    standstill | ⟨_, _, _, isDone⟩
  · exact standstill.goesOn
  · rw [isDone]
    let stored : Files :=
      { files.setAttachment state.tid (.opfs state.name state.expectedSize) with
        sessionReceivedBytes := files.sessionReceivedBytes + state.expectedSize
        incomingActive := none }
    have clears : Standstill stored stored.resetTransferLocals := .resetTransferLocals
    constructor
    · change Unseen.postedChunks (stored.resetTransferLocals.effects ++ [_]) = _
      rw [postedChunks_append, clears.postedChunks]
      exact List.append_nil _
    · intro next isNext
      cases clears.incomingActive _ isNext

end Files

/-! ## Steps of a page -/

namespace FilePage

variable {page : FilePage} {input : FileInput}

/-- The chunk that the worker of the transfer reports as written. -/
def acknowledges (page : FilePage) (input : FileInput) : Option WorkerChunk :=
  match page.files.getReceivingState, input.call with
  | some state, .event (.receiveWorkerMessage worker (.written seq bytes)) =>
      if state.worker = worker then some { worker, seq, bytes } else none
  | _, _ => none

/-- The step takes an offer that was shown into its receiving phase. -/
def startsReceiving (page : FilePage) (input : FileInput) : Bool :=
  match page.files.incomingActive, (page.step input).files.incomingActive with
  | some (.offerPending _), some (.receiving _) => true
  | _, _ => false

/-- Each transfer has its own record of what was posted and acknowledged. -/
def recordFlow (log : FlowLog) (page : FilePage) (input : FileInput) : FlowLog :=
  let current := if page.startsReceiving input then { posted := [], acknowledged := [] } else log
  { posted := current.posted ++ postedChunks (page.step input).out
    acknowledged := current.acknowledged ++ (page.acknowledges input).toList }

theorem acknowledges_spec
    {chunk : WorkerChunk}
    (isChunk : page.acknowledges input = some chunk) :
    ∃ state, page.files.incomingActive = some (.receiving state) ∧
      page.segment input.env input.call =
        page.files.handleWorkerWritten input.env state chunk.bytes := by
  unfold acknowledges at isChunk
  split at isChunk
  next state worker seq bytes isReceiving isCall =>
    split at isChunk
    next sameWorker =>
      injection isChunk with isChunk
      subst isChunk
      refine ⟨state, Files.incomingActive_of_getReceivingState isReceiving, ?_⟩
      rw [isCall]
      change page.files.handleReceiveWorkerMessage input.env (.written seq bytes) worker = _
      unfold Files.handleReceiveWorkerMessage
      rw [isReceiving]
      exact if_neg (not_not.mpr sameWorker)
    next => cases isChunk
  next => cases isChunk

/-- What a step that acknowledges nothing does to the transfer that is received. -/
inductive FlowMove (page : FilePage) (input : FileInput) : Prop where
  | goesOn :
      Files.GoesOn page.files (page.segment input.env input.call) →
      FlowMove page input
  | starts (shown offer : PendingOffer) (worker : Serial) :
      page.files.incomingActive = some (.offerPending shown) →
      (page.segment input.env input.call).incomingActive =
        some (.receiving (Files.startedTransfer offer worker)) →
      postedChunks (page.segment input.env input.call).effects =
        postedChunks page.files.effects →
      FlowMove page input
  | takes (state : ReceivingState) (chunk : Files.ParsedChunk) :
      page.files.incomingActive = some (.receiving state) →
      Files.IsNextChunk state chunk →
      state.pendingChunkQueue.length < recvPendingHardCapChunks →
      (page.segment input.env input.call).incomingActive =
        some (.receiving (state.taking chunk)) →
      postedChunks (page.segment input.env input.call).effects =
        postedChunks page.files.effects ++
          (if 0 < state.receiveCredit then [chunk.pending.forWorker state.worker] else []) →
      FlowMove page input

theorem FlowMove.receiveChunk
    {chunk : Files.ParsedChunk}
    (isSegment : page.segment input.env input.call = page.files.receiveChunk input.env chunk) :
    FlowMove page input := by
  rcases Files.receiveChunk_spec page.files input.env chunk with
    ⟨isSame, _⟩ | ⟨standstill, _⟩ |
    ⟨state, cleared, isActive, isNext, hasRoom, _, sameEffects, moves⟩
  · refine .goesOn ?_
    rw [isSegment, isSame]
    exact Files.Standstill.refl.goesOn
  · refine .goesOn ?_
    rw [isSegment]
    exact standstill.goesOn
  · rcases moves with ⟨credit, isPosted⟩ | ⟨noCredit, isQueued⟩
    · refine .takes state chunk isActive isNext hasRoom ?_ ?_
      · rw [isSegment, isPosted, ReceivingState.taking, if_pos credit]
      · rw [isSegment, isPosted, if_pos credit]
        change postedChunks (cleared.effects ++ [_]) = _
        rw [Files.postedChunks_append, sameEffects]
        rfl
    · have noCredit : ¬ 0 < state.receiveCredit := Int.not_lt.mpr noCredit
      refine .takes state chunk isActive isNext hasRoom ?_ ?_
      · rw [isSegment, isQueued, ReceivingState.taking, if_neg noCredit]
      · rw [isSegment, isQueued, if_neg noCredit, List.append_nil]
        exact congrArg postedChunks sameEffects

theorem flowMove (notWritten : page.acknowledges input = none) : FlowMove page input := by
  cases page.receiverSegment input with
  | standstill standstill => exact .goesOn standstill.goesOn
  | dispatchOffer _ _ _ isSegment =>
      exact .goesOn (isSegment ▸ Files.goesOn_dispatchOffer _ _ _ _)
  | acceptOffer isSegment => exact .goesOn (isSegment ▸ Files.goesOn_acceptOffer _)
  | settleReceiverInit _ _ isSegment =>
      exact .goesOn (isSegment ▸ Files.goesOn_settleReceiverInit _ _)
  | acceptSent send offer worker sent _ _ isSegment =>
      rcases Files.acceptSent_spec page.files input.env offer worker sent with
        standstill | ⟨isCurrent, isStarted, standstill⟩
      · exact .goesOn (isSegment ▸ standstill.goesOn)
      · unfold Files.isCurrentOffer at isCurrent
        split at isCurrent
        next shown isShown =>
          exact .starts shown offer worker isShown (isSegment ▸ isStarted)
            (isSegment ▸ standstill.postedChunks)
        next => cases isCurrent
  | receiveChunk _ _ isSegment => exact .receiveChunk isSegment
  | dispatchComplete _ _ isSegment =>
      exact .goesOn (isSegment ▸ Files.goesOn_dispatchComplete _ _)
  | handleWorkerWritten state seq bytes isActive _ isCall =>
      rw [acknowledges, Files.getReceivingState, isActive, isCall] at notWritten
      dsimp only at notWritten
      rw [if_pos rfl] at notWritten
      cases notWritten
  | handleWorkerDone _ _ _ _ _ isSegment =>
      exact .goesOn (isSegment ▸ Files.goesOn_handleWorkerDone _ _ _ _)

/-! ## Runs of a page -/

/-- The page and the record of the transfer it receives. -/
def flowMachine : EventMachine.Machine (FilePage × FlowLog) FileInput :=
  machine.remember recordFlow

theorem step_incomingActive (remembered : FilePage × FlowLog) (input : FileInput) :
    (flowMachine.step remembered input).1.files.incomingActive =
      (remembered.1.segment input.env input.call).incomingActive :=
  rfl

/-- The worker acknowledges each chunk posted to it once, with its bytes. -/
def AcknowledgesPosted (remembered : FilePage × FlowLog) (input : FileInput) : Prop :=
  ∀ chunk, remembered.1.acknowledges input = some chunk →
    (remembered.2.acknowledged ++ [chunk]).Subperm remembered.2.posted

/-- Where a chunk waits while another one is reported as written, it can be posted. -/
def PostsWaiting (page : FilePage) (input : FileInput) : Prop :=
  ∀ state, page.files.incomingActive = some (.receiving state) →
    (page.acknowledges input).isSome = true →
      state.pendingChunkQueue ≠ [] → input.env.postOk = true

structure KeepsFlow (remembered : FilePage × FlowLog) (input : FileInput) : Prop where
  acknowledges : AcknowledgesPosted remembered input
  posts : remembered.1.PostsWaiting input

/-- Both machines have just been created, and nothing was received. -/
def Unreceived (remembered : FilePage × FlowLog) : Prop :=
  Created remembered.1 ∧ remembered.2 = ⟨[], []⟩

/-- The record and the transfer are in step. -/
structure InStep (page : FilePage) (log : FlowLog) : Prop where
  quiet : page.files.effects = []
  flow : ∀ state, page.files.incomingActive = some (.receiving state) → Flow log state

/-- What a step adds to the record of a transfer that was received before. -/
theorem recordFlow_of_receiving
    {log : FlowLog}
    {state : ReceivingState}
    {posted : List WorkerChunk}
    (isActive : page.files.incomingActive = some (.receiving state))
    (isPosted : postedChunks (page.segment input.env input.call).effects = posted) :
    recordFlow log page input =
      { posted := log.posted ++ posted
        acknowledged := log.acknowledged ++ (page.acknowledges input).toList } := by
  have notStarted : page.startsReceiving input = false := by
    rw [startsReceiving, isActive]
  rw [recordFlow, notStarted, ← isPosted]
  rfl

theorem InStep.acknowledged
    {log : FlowLog}
    {chunk : WorkerChunk}
    (inStep : page.InStep log)
    (allowed : KeepsFlow (page, log) input)
    (isChunk : page.acknowledges input = some chunk) :
    (page.step input).InStep (recordFlow log page input) := by
  obtain ⟨state, isActive, isSegment⟩ := acknowledges_spec isChunk
  have posts := allowed.posts state isActive (Option.isSome_iff_exists.mpr ⟨chunk, isChunk⟩)
  obtain ⟨isPosted, settles⟩ :=
    Files.handleWorkerWritten_flow page.files chunk.bytes posts
  rw [← isSegment, inStep.quiet] at isPosted
  have acknowledged := (inStep.flow state isActive).acknowledging
    (allowed.acknowledges chunk isChunk)
  refine ⟨rfl, ?_⟩
  intro next isNext
  change (page.segment input.env input.call).incomingActive = _ at isNext
  rw [isSegment] at isNext
  obtain ⟨settled, isSettled, sameFlow⟩ := settles _ isNext
  cases isSettled
  rw [recordFlow_of_receiving isActive isPosted, isChunk]
  exact acknowledged.of_sameFlow sameFlow

theorem InStep.step
    {log : FlowLog}
    (inStep : page.InStep log)
    (allowed : KeepsFlow (page, log) input) :
    (page.step input).InStep (recordFlow log page input) := by
  cases isChunk : page.acknowledges input with
  | some chunk => exact inStep.acknowledged allowed isChunk
  | none =>
      have nothing : postedChunks page.files.effects = [] := by
        rw [inStep.quiet]
        rfl
      refine ⟨rfl, ?_⟩
      intro next isNext
      change (page.segment input.env input.call).incomingActive = _ at isNext
      cases flowMove isChunk with
      | goesOn goesOn =>
          obtain ⟨state, isActive, sameFlow⟩ := goesOn.receiving next isNext
          rw [recordFlow_of_receiving isActive (goesOn.posted.trans nothing), isChunk,
            Option.toList_none, List.append_nil, List.append_nil]
          exact (inStep.flow state isActive).of_sameFlow sameFlow
      | starts shown offer worker isShown isStarted isPosted =>
          have isReceiving : (page.step input).files.incomingActive = _ := isStarted
          have hasStarted : page.startsReceiving input = true := by
            rw [startsReceiving, isShown, isReceiving]
          rw [isStarted] at isNext
          cases isNext
          rw [recordFlow, hasStarted, isChunk]
          change Flow ⟨[] ++ postedChunks (page.segment input.env input.call).effects, _⟩ _
          rw [isPosted, nothing]
          exact .start offer worker
      | takes state chunk isActive isNextChunk hasRoom isTaken isPosted =>
          rw [isTaken] at isNext
          cases isNext
          rw [nothing, List.nil_append] at isPosted
          rw [recordFlow_of_receiving isActive isPosted, isChunk, Option.toList_none,
            List.append_nil]
          exact (inStep.flow state isActive).taking isNextChunk hasRoom

theorem inStep_of_reachable
    {remembered : FilePage × FlowLog}
    (reachable : flowMachine.Reachable Unreceived KeepsFlow remembered) :
    remembered.1.InStep remembered.2 := by
  induction reachable with
  | start unreceived =>
      obtain ⟨⟨_, _, _, _, isCreated⟩, isEmpty⟩ := unreceived
      rw [isCreated]
      exact ⟨rfl, fun _ isReceiving => nomatch isReceiving⟩
  | next _ _ allowed ih => exact ih.step allowed

/--
In every run in which the worker acknowledges each chunk posted to it once, and
a waiting chunk can be posted when another one was written, a transfer that is
received keeps to its window.
-/
theorem receive_flow_controlled
    {remembered : FilePage × FlowLog}
    {state : ReceivingState}
    (reachable : flowMachine.Reachable Unreceived KeepsFlow remembered)
    (isReceiving : remembered.1.files.incomingActive = some (.receiving state)) :
    FlowControlled remembered.2 state :=
  ((inStep_of_reachable reachable).flow state isReceiving).controlled

/-! ## A post that fails -/

/-- A transfer that is given up has told the user no percentage. -/
theorem integrityFailureAbort_notified (files : Files) (state : ReceivingState) :
    (files.integrityFailureAbort state).receiver.lastReceiveNotifyPercent = none := by
  unfold Files.integrityFailureAbort Files.finishTransfer Files.resetTransferLocals
    Files.clearStallTimer Files.clearOfferTimer
  dsimp only [Files.emit]
  split <;> split <;> rfl

theorem maybeSendProgress_notified (files : Files) (env : FileEnv) (state : ReceivingState) :
    (files.maybeSendProgress env state).receiver.lastReceiveNotifyPercent =
      files.receiver.lastReceiveNotifyPercent := by
  unfold Files.maybeSendProgress
  split
  · rfl
  · split <;> rfl

theorem maybeFinalize_notified (files : Files) (state : ReceivingState) :
    (files.maybeFinalize state).1.receiver.lastReceiveNotifyPercent =
      files.receiver.lastReceiveNotifyPercent := by
  unfold Files.maybeFinalize
  split <;> rfl

/-- A notification stores the transfer where the user was told no percentage. -/
theorem notifyReceiveProgress_stores
    {files : Files}
    (state : ReceivingState)
    (notTold : files.receiver.lastReceiveNotifyPercent = none) :
    (files.notifyReceiveProgress state).incomingActive = some (.receiving state) := by
  unfold Files.notifyReceiveProgress
  rw [notTold]
  rfl

/-- A transfer whose next chunk cannot be posted is given up, and stored again without the
chunk and with its credit. -/
theorem stored_again_of_failed_post
    {state : ReceivingState}
    {waiting : PendingChunk}
    {rest : List PendingChunk}
    (files : Files)
    (env : FileEnv)
    (bytes : Nat)
    (isQueue : state.pendingChunkQueue = waiting :: rest)
    (fails : env.postOk = false) :
    ∃ next, (files.handleWorkerWritten env state bytes).incomingActive =
        some (.receiving next) ∧
      next.receiveCredit = state.receiveCredit + 1 ∧ next.pendingChunkQueue = rest := by
  have posts : ∀ unqueued : ReceivingState,
      files.postChunkToWorker env unqueued waiting.seq waiting.data =
        (files.integrityFailureAbort unqueued, unqueued) := by
    intro unqueued
    unfold Files.postChunkToWorker
    rw [fails]
    rfl
  unfold Files.handleWorkerWritten
  dsimp only
  rw [isQueue]
  dsimp only
  rw [posts]
  refine ⟨_, notifyReceiveProgress_stores _ ?_, ?_, ?_⟩
  · rw [maybeFinalize_notified, maybeSendProgress_notified, integrityFailureAbort_notified]
  · rw [(Files.maybeFinalize_flow _ _).1]
  · rw [(Files.maybeFinalize_flow _ _).1]

/-- Only the report of a written chunk acknowledges one. -/
theorem acknowledges_of_call
    (notWritten : ∀ worker seq bytes,
      input.call ≠ .event (.receiveWorkerMessage worker (.written seq bytes))) :
    page.acknowledges input = none := by
  unfold acknowledges
  split
  next isCall => exact absurd isCall (notWritten _ _ _)
  next => rfl

theorem acknowledgesPosted_of_call
    {log : FlowLog}
    (notWritten : ∀ worker seq bytes,
      input.call ≠ .event (.receiveWorkerMessage worker (.written seq bytes))) :
    AcknowledgesPosted (page, log) input := by
  intro chunk isChunk
  rw [acknowledges_of_call notWritten] at isChunk
  cases isChunk

theorem keepsFlow_of_call
    {log : FlowLog}
    (notWritten : ∀ worker seq bytes,
      input.call ≠ .event (.receiveWorkerMessage worker (.written seq bytes))) :
    KeepsFlow (page, log) input := by
  refine ⟨acknowledgesPosted_of_call notWritten, ?_⟩
  intro _ _ isWritten
  rw [acknowledges_of_call notWritten] at isWritten
  cases isWritten

/-- A chunk of zeros. -/
def Sample.zeros (seq length : Nat) : FileInput :=
  Sample.call (.chunk { tidHex := Sample.transferId, seq, data := List.replicate length 0 })

/-- A file of five full chunks and a byte is offered and accepted, and all of it arrives. -/
def Sample.queueing : List FileInput :=
  [ Sample.call (.envelope (.fileOffer Sample.transferId Sample.file.name
      (5 * chunkDataMaxBytes + 1))),
    Sample.call .acceptOffer,
    Sample.call (.event (.receiveWorkerMessage 2 .ready)),
    Sample.call (.settled 0 true),
    Sample.zeros 0 chunkDataMaxBytes,
    Sample.zeros 1 chunkDataMaxBytes,
    Sample.zeros 2 chunkDataMaxBytes,
    Sample.zeros 3 chunkDataMaxBytes,
    Sample.zeros 4 chunkDataMaxBytes,
    Sample.zeros 5 1 ]

/-- The worker reports the first chunk as written. -/
def Sample.written (postOk : Bool) : FileInput where
  call := .event (.receiveWorkerMessage 2 (.written 0 chunkDataMaxBytes))
  env := { ws := some (.opened, 0), now := 0, spawnOk := true, streamOk := true, postOk }

/-- The page that has received all chunks, with its record. -/
def Sample.queued : FilePage × FlowLog :=
  flowMachine.run (Sample.newPage, ⟨[], []⟩) Sample.queueing

theorem Sample.reachable_queued :
    flowMachine.Reachable Unreceived KeepsFlow Sample.queued := by
  have isPending :
      0 < (flowMachine.run (Sample.newPage, ⟨[], []⟩) (Sample.queueing.take 3)).1.pending.length :=
    by decide +kernel
  refine .run (.start ⟨Sample.created_newPage, rfl⟩) ⟨trivial, keepsFlow_of_call ?_,
    trivial, keepsFlow_of_call ?_, trivial, keepsFlow_of_call ?_, isPending,
    keepsFlow_of_call ?_, trivial, keepsFlow_of_call ?_, trivial, keepsFlow_of_call ?_,
    trivial, keepsFlow_of_call ?_, trivial, keepsFlow_of_call ?_, trivial,
    keepsFlow_of_call ?_, trivial, keepsFlow_of_call ?_, trivial⟩
  all_goals
    intro _ _ _ isCall
    cases isCall

theorem Sample.acknowledges_queued (postOk : Bool) :
    Sample.queued.1.acknowledges (Sample.written postOk) =
      some { worker := 2, seq := 0, bytes := chunkDataMaxBytes } := by
  cases postOk <;> decide +kernel

theorem Sample.acknowledgesPosted_queued (postOk : Bool) :
    AcknowledgesPosted Sample.queued (Sample.written postOk) := by
  intro chunk isChunk
  cases (Sample.acknowledges_queued postOk).symm.trans isChunk
  decide +kernel

/-- The last chunk waits while the others are in the hands of the worker. -/
theorem receive_flow_controlled_in_sample :
    ∃ state,
      (flowMachine.step Sample.queued (Sample.written true)).1.files.incomingActive =
        some (.receiving state) ∧
      state.pendingChunkQueue.length = 1 ∧
      FlowControlled (flowMachine.step Sample.queued (Sample.written true)).2 state := by
  have reachable : flowMachine.Reachable Unreceived KeepsFlow
      (flowMachine.step Sample.queued (Sample.written true)) :=
    .next Sample.reachable_queued trivial
      ⟨Sample.acknowledgesPosted_queued true, fun _ _ _ _ => rfl⟩
  obtain ⟨state, isReceiving⟩ : ∃ state,
      (flowMachine.step Sample.queued (Sample.written true)).1.files.getReceivingState =
        some state :=
    Option.isSome_iff_exists.mp (by decide +kernel)
  have isActive := Files.incomingActive_of_getReceivingState isReceiving
  have isLength :
      (flowMachine.step Sample.queued (Sample.written true)).1.files.getReceivingState.map
        (fun state => state.pendingChunkQueue.length) = some 1 := by
    decide +kernel
  rw [isReceiving] at isLength
  exact ⟨state, isActive, Option.some.inj isLength, receive_flow_controlled reachable isActive⟩

/-- The first chunk is written, the post of a waiting one fails, and the transfer that was
given up goes on with a credit while another chunk waits. -/
theorem failed_post_returns_credit :
    ¬ ∀ remembered, flowMachine.Reachable Unreceived AcknowledgesPosted remembered →
      ∀ state, remembered.1.files.incomingActive = some (.receiving state) →
        FlowControlled remembered.2 state := by
  intro claimed
  have reachable : flowMachine.Reachable Unreceived AcknowledgesPosted
      (flowMachine.step Sample.queued (Sample.written false)) :=
    .next (Sample.reachable_queued.mono fun _ _ keeps => keeps.acknowledges) trivial
      (Sample.acknowledgesPosted_queued false)
  obtain ⟨state, isActive, isSegment⟩ := acknowledges_spec (Sample.acknowledges_queued false)
  have isFull : Sample.queued.1.files.getReceivingState.map
      (fun state => (state.receiveCredit, state.pendingChunkQueue.length)) = some (0, 2) := by
    decide +kernel
  have isReceiving : Sample.queued.1.files.getReceivingState = some state := by
    rw [Files.getReceivingState, isActive]
  rw [isReceiving] at isFull
  injection isFull with isFull
  injection isFull with noCredit isLength
  obtain ⟨waiting, last, isQueue⟩ := List.length_eq_two.mp isLength
  obtain ⟨next, isStored, isCredit, isRest⟩ :=
    stored_again_of_failed_post Sample.queued.1.files (Sample.written false).env
      chunkDataMaxBytes isQueue rfl
  have isStep : (flowMachine.step Sample.queued (Sample.written false)).1.files.incomingActive =
      some (.receiving next) := by
    rw [step_incomingActive, isSegment]
    exact isStored
  have waits := (claimed _ reachable next isStep).noCredit
  rw [isRest, isCredit, noCredit] at waits
  exact absurd (waits (List.cons_ne_nil last [])) (by decide)

end FilePage

end Unseen
