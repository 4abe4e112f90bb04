import Unseen.FilePage
import Unseen.Segmentation

namespace Unseen

/-!
# Attachments of received files

Completion of a received file joins three asynchronous inputs: the last write
acknowledged by the worker, the peer's `file_complete`, and the digest the
worker returns.  Whatever their order, and whatever else the peer sends, an
attachment is registered only for a transfer that the user accepted and whose
chunks, sizes and digest all fit.
-/

/-! ## The record of a transfer -/

namespace FileNote

/-- A note that does not move a transfer. -/
def Idle : FileNote → Prop
  | .started .. => False
  | .arrived _ => False
  | .posted _ (.chunk ..) => False
  | .posted _ .finalize => False
  | _ => True

def arrival? : FileNote → Option Files.ParsedChunk
  | .arrived chunk => some chunk
  | _ => none

def chunkPost? : FileNote → Option (Serial × PendingChunk)
  | .posted worker (.chunk seq data) => some (worker, { seq, data })
  | _ => none

end FileNote

/-- The chunks among some notes that arrived for the transfer, in order. -/
def arrivals (notes : List FileNote) : List Files.ParsedChunk :=
  notes.filterMap FileNote.arrival?

/-- The chunks among some notes that were posted to a receive worker, in order. -/
def chunkPosts (notes : List FileNote) : List (Serial × PendingChunk) :=
  notes.filterMap FileNote.chunkPost?

/-- Transfer id, number and length of a chunk. -/
def Files.ParsedChunk.shape (chunk : Files.ParsedChunk) : Text × Nat × Nat :=
  (chunk.tidHex, chunk.seq, chunk.data.length)

def Files.ParsedChunk.pending (chunk : Files.ParsedChunk) : PendingChunk where
  seq := chunk.seq
  data := chunk.data

/-- What the first `count` chunks of a transfer look like. -/
def chunkShapes (tid : Text) (size count : Nat) : List (Text × Nat × Nat) :=
  (List.range count).map fun seq =>
    (tid, seq, Files.expectedChunkLen size seq (Files.computeTotalChunks size))

/-- Between any two finalizes the transfer of the second one started. -/
def FinalizedApart (history : List FileNote) : Prop :=
  ∀ first middle last worker other,
    history =
        first ++ .posted worker .finalize :: (middle ++ .posted other .finalize :: last) →
      ∃ offer, FileNote.started offer other ∈ middle

/-- How far the notes since the start of a transfer carry its state. -/
structure TransferProgress
    (offer : PendingOffer)
    (later : List FileNote)
    (state : ReceivingState) : Prop where
  tid : state.tid = offer.tid
  name : state.name = offer.name
  size : state.expectedSize = offer.size
  noStart : ∀ other worker, FileNote.started other worker ∉ later
  arrived : (arrivals later).map Files.ParsedChunk.shape =
    chunkShapes state.tid state.expectedSize state.nextExpectedSeq
  received : state.networkReceivedBytes =
    ((arrivals later).map fun chunk => chunk.data.length).sum
  inRange : state.nextExpectedSeq ≤ Files.computeTotalChunks state.expectedSize
  announced : ∀ sha256, state.senderSha256 = some sha256 →
    .announced state.tid sha256 ∈ later ∧ state.expectedSize ≤ state.networkReceivedBytes
  finalized : state.finalizeRequested = false →
    ∀ worker, FileNote.posted worker .finalize ∉ later
  delivered : .posted state.worker .abort ∈ later ∨
    chunkPosts later ++ state.pendingChunkQueue.map (Prod.mk state.worker) =
        (arrivals later).map (fun chunk => (state.worker, chunk.pending)) ∧
      (state.pendingChunkQueue = [] ∨ state.receiveCredit ≤ 0)
  fed : ∀ first rest worker, later = first ++ .posted worker .finalize :: rest →
    .posted state.worker .abort ∈ first ∨
      chunkPosts first = (arrivals first).map (fun chunk => (state.worker, chunk.pending)) ∧
        (arrivals first).length = Files.computeTotalChunks state.expectedSize

/-- The transfer that is received started from an offer the user accepted. -/
def Underway (history : List FileNote) (state : ReceivingState) : Prop :=
  ∃ earlier offer later,
    history = earlier ++ .started offer state.worker :: later ∧
      .accepted offer ∈ earlier ∧ TransferProgress offer later state

/-! ### Sizes of chunks -/

theorem expectedChunkLen_eq
    {size seq : Nat}
    (inRange : seq < Files.computeTotalChunks size) :
    Files.expectedChunkLen size seq (Files.computeTotalChunks size) =
      Segmentation.pieceLength chunkDataMaxBytes size seq := by
  have positive : 0 < chunkDataMaxBytes := by decide
  have isCount : Files.computeTotalChunks size = Segmentation.pieceCount chunkDataMaxBytes size :=
    rfl
  rw [isCount] at inRange ⊢
  unfold Files.expectedChunkLen
  split
  next notLast => exact (Segmentation.pieceLength_of_succ_lt positive notLast).symm
  next isLast =>
    have isSeq : Segmentation.pieceCount chunkDataMaxBytes size - 1 = seq := by omega
    have holdsAll := (Segmentation.pieceCount_mul_ge positive : size ≤ _)
    have isCount : Segmentation.pieceCount chunkDataMaxBytes size = seq + 1 := by omega
    rw [isCount, Nat.succ_mul] at holdsAll
    rw [isSeq, Nat.mul_comm]
    unfold Segmentation.pieceLength
    omega

/-- Chunks of the expected shapes carry this many bytes. -/
theorem sum_of_shapes
    {chunks : List Files.ParsedChunk}
    {tid : Text}
    {size count : Nat}
    (inRange : count ≤ Files.computeTotalChunks size)
    (shapes : chunks.map Files.ParsedChunk.shape = chunkShapes tid size count) :
    (chunks.map fun chunk => chunk.data.length).sum =
      ((List.range count).map (Segmentation.pieceLength chunkDataMaxBytes size)).sum := by
  have lengths : chunks.map (fun chunk => chunk.data.length) =
      (chunkShapes tid size count).map fun shape => shape.2.2 := by
    rw [← shapes, List.map_map]
    rfl
  rw [lengths]
  unfold chunkShapes
  rw [List.map_map]
  congr 1
  apply List.map_congr_left
  intro seq isSeq
  rw [Function.comp_apply,
    expectedChunkLen_eq (Nat.lt_of_lt_of_le (List.mem_range.mp isSeq) inRange)]

/-- A transfer whose bytes have all arrived has all its chunks. -/
theorem TransferProgress.complete
    {offer : PendingOffer}
    {later : List FileNote}
    {state : ReceivingState}
    (progress : TransferProgress offer later state)
    (holdsAll : state.expectedSize ≤ state.networkReceivedBytes) :
    state.nextExpectedSeq = Files.computeTotalChunks state.expectedSize := by
  rw [progress.received, sum_of_shapes progress.inRange progress.arrived] at holdsAll
  exact Segmentation.count_eq_of_sum_ge (by decide) progress.inRange holdsAll

/-! ### Notes that follow -/

variable {history notes later : List FileNote} {offer : PendingOffer} {state : ReceivingState}

theorem arrivals_append (first second : List FileNote) :
    arrivals (first ++ second) = arrivals first ++ arrivals second :=
  List.filterMap_append

theorem chunkPosts_append (first second : List FileNote) :
    chunkPosts (first ++ second) = chunkPosts first ++ chunkPosts second :=
  List.filterMap_append

@[simp]
theorem arrivals_arrived (chunk : Files.ParsedChunk) : arrivals [.arrived chunk] = [chunk] :=
  rfl

@[simp]
theorem arrivals_posted (worker : Serial) (message : ReceiveWorkerIn) :
    arrivals [.posted worker message] = [] :=
  rfl

@[simp]
theorem chunkPosts_arrived (chunk : Files.ParsedChunk) : chunkPosts [.arrived chunk] = [] :=
  rfl

@[simp]
theorem chunkPosts_chunk (worker : Serial) (seq : Nat) (data : Bytes) :
    chunkPosts [.posted worker (.chunk seq data)] = [(worker, { seq, data })] :=
  rfl

@[simp]
theorem chunkPosts_finalize (worker : Serial) : chunkPosts [.posted worker .finalize] = [] :=
  rfl

theorem arrivals_of_idle (idle : ∀ note ∈ notes, note.Idle) : arrivals notes = [] := by
  apply List.filterMap_eq_nil_iff.mpr
  intro note isNote
  have isIdle := idle note isNote
  cases note with
  | arrived => cases isIdle
  | accepted | started | announced | posted => rfl

theorem chunkPosts_of_idle (idle : ∀ note ∈ notes, note.Idle) : chunkPosts notes = [] := by
  apply List.filterMap_eq_nil_iff.mpr
  intro note isNote
  have isIdle := idle note isNote
  cases note with
  | posted _ message =>
      cases message with
      | chunk => cases isIdle
      | init | finalize | abort => rfl
  | accepted | started | announced | arrived => rfl

theorem FinalizedApart.concat
    {note : FileNote}
    (apart : FinalizedApart history)
    (fresh : ∀ other, note = .posted other .finalize →
      ∀ first middle worker, history = first ++ .posted worker .finalize :: middle →
        ∃ offer, FileNote.started offer other ∈ middle) :
    FinalizedApart (history ++ [note]) := by
  intro first middle last worker other isHistory
  rcases List.eq_nil_or_concat last with rfl | ⟨rest, final, rfl⟩
  · have split : history ++ [note] =
        (first ++ .posted worker .finalize :: middle) ++ [.posted other .finalize] := by
      simpa using isHistory
    obtain ⟨isFirst, isNote⟩ := List.append_inj' split rfl
    exact fresh other (List.singleton_inj.mp isNote) first middle worker isFirst
  · have split : history ++ [note] =
        (first ++ .posted worker .finalize :: (middle ++ .posted other .finalize :: rest)) ++
          [final] := by
      simpa using isHistory
    exact apart first middle rest worker other (List.append_inj' split rfl).1

theorem FinalizedApart.append
    (apart : FinalizedApart history)
    (none : ∀ worker, FileNote.posted worker .finalize ∉ notes) :
    FinalizedApart (history ++ notes) := by
  induction notes generalizing history with
  | nil => simpa using apart
  | cons note rest inductionHypothesis =>
      rw [← List.singleton_append, ← List.append_assoc]
      apply inductionHypothesis
      · apply apart.concat
        rintro other rfl
        exact absurd (List.mem_cons_self) (none other)
      · intro worker isRest
        exact none worker (List.mem_cons_of_mem _ isRest)

theorem not_finalize_of_idle
    (idle : ∀ note ∈ notes, note.Idle)
    (worker : Serial) :
    FileNote.posted worker .finalize ∉ notes :=
  fun isNote => idle _ isNote

/-- Notes without a finalize leave the notes before each finalize as they are. -/
theorem fed_append
    {Fed : List FileNote → Prop}
    (fed : ∀ first rest worker,
      later = first ++ .posted worker .finalize :: rest → Fed first)
    (none : ∀ worker, FileNote.posted worker .finalize ∉ notes) :
    ∀ first rest worker,
      later ++ notes = first ++ .posted worker .finalize :: rest → Fed first := by
  intro first rest worker isSplit
  rcases List.append_eq_append_iff.mp isSplit with ⟨middle, _, isNotes⟩ | ⟨middle, isLater, isRest⟩
  · exact absurd (isNotes ▸ List.mem_append_right _ List.mem_cons_self) (none worker)
  · cases middle with
    | nil =>
        rw [List.nil_append] at isRest
        exact absurd (isRest ▸ List.mem_cons_self) (none worker)
    | cons note middle =>
        injection isRest with isNote _
        exact fed first middle worker (isNote ▸ isLater)

theorem TransferProgress.append
    (progress : TransferProgress offer later state)
    (idle : ∀ note ∈ notes, note.Idle) :
    TransferProgress offer (later ++ notes) state where
  tid := progress.tid
  name := progress.name
  size := progress.size
  noStart := by
    intro other worker isNote
    rcases List.mem_append.mp isNote with isLater | isNew
    · exact progress.noStart other worker isLater
    · exact idle _ isNew
  arrived := by
    rw [arrivals_append, arrivals_of_idle idle, List.append_nil]
    exact progress.arrived
  received := by
    rw [arrivals_append, arrivals_of_idle idle, List.append_nil]
    exact progress.received
  inRange := progress.inRange
  announced := by
    intro sha256 isSha
    obtain ⟨isLater, holdsAll⟩ := progress.announced sha256 isSha
    exact ⟨List.mem_append_left _ isLater, holdsAll⟩
  finalized := by
    intro notRequested worker isNote
    rcases List.mem_append.mp isNote with isLater | isNew
    · exact progress.finalized notRequested worker isLater
    · exact not_finalize_of_idle idle worker isNew
  delivered := by
    rcases progress.delivered with aborted | delivered
    · exact .inl (List.mem_append_left _ aborted)
    · right
      rw [arrivals_append, chunkPosts_append, arrivals_of_idle idle, chunkPosts_of_idle idle,
        List.append_nil, List.append_nil]
      exact delivered
  fed := fed_append progress.fed (not_finalize_of_idle idle)

theorem Underway.append
    (underway : Underway history state)
    (idle : ∀ note ∈ notes, note.Idle) :
    Underway (history ++ notes) state := by
  obtain ⟨earlier, offer, later, isHistory, accepted, progress⟩ := underway
  refine ⟨earlier, offer, later ++ notes, ?_, accepted, progress.append idle⟩
  rw [isHistory, List.append_assoc, List.cons_append]

/-- A transfer that has not been finalized may be, once. -/
theorem Underway.apart_finalize
    (underway : Underway history state)
    (apart : FinalizedApart history)
    (notRequested : state.finalizeRequested = false) :
    FinalizedApart (history ++ [.posted state.worker .finalize]) := by
  obtain ⟨earlier, offer, later, isHistory, _, progress⟩ := underway
  apply apart.concat
  intro other isNote first middle worker isFirst
  injection isNote with isWorker
  subst isWorker
  rw [isHistory] at isFirst
  rcases List.append_eq_append_iff.mp isFirst with ⟨rest, _, isRest⟩ | ⟨rest, _, isRest⟩
  · cases rest with
    | nil => cases isRest
    | cons note rest =>
        injection isRest with _ isLater
        exact absurd (isLater ▸ List.mem_append_right _ List.mem_cons_self)
          (progress.finalized notRequested worker)
  · cases rest with
    | nil => cases isRest
    | cons note rest =>
        injection isRest with _ isMiddle
        exact ⟨offer, isMiddle ▸ List.mem_append_right _ List.mem_cons_self⟩

/-! ### Notes that move a transfer -/

theorem arrived_concat
    {chunk : Files.ParsedChunk}
    (progress : TransferProgress offer later state)
    (isTid : chunk.tidHex = state.tid)
    (isNext : chunk.seq = state.nextExpectedSeq)
    (isLength : chunk.data.length =
      Files.expectedChunkLen state.expectedSize chunk.seq
        (Files.computeTotalChunks state.expectedSize)) :
    (arrivals later ++ [chunk]).map Files.ParsedChunk.shape =
      chunkShapes state.tid state.expectedSize (state.nextExpectedSeq + 1) := by
  unfold chunkShapes
  rw [List.map_append, progress.arrived, List.range_succ, List.map_append]
  unfold chunkShapes
  simp only [List.map_singleton, Files.ParsedChunk.shape, isTid, isNext, isLength]

/-- The next chunk of the transfer arrives and waits for the worker. -/
theorem TransferProgress.queue
    {chunk : Files.ParsedChunk}
    (progress : TransferProgress offer later state)
    (isTid : chunk.tidHex = state.tid)
    (isNext : chunk.seq = state.nextExpectedSeq)
    (inRange : chunk.seq < Files.computeTotalChunks state.expectedSize)
    (isLength : chunk.data.length =
      Files.expectedChunkLen state.expectedSize chunk.seq
        (Files.computeTotalChunks state.expectedSize))
    (noCredit : state.receiveCredit ≤ 0) :
    TransferProgress offer (later ++ [.arrived chunk])
      { state with
        nextExpectedSeq := state.nextExpectedSeq + 1
        networkReceivedBytes := state.networkReceivedBytes + chunk.data.length
        pendingChunkQueue := state.pendingChunkQueue ++ [chunk.pending] } where
  tid := progress.tid
  name := progress.name
  size := progress.size
  noStart := by simpa using progress.noStart
  arrived := by
    rw [arrivals_append]
    exact arrived_concat progress isTid isNext isLength
  received := by
    rw [arrivals_append, List.map_append, List.sum_append, ← progress.received]
    rfl
  inRange := by
    change state.nextExpectedSeq + 1 ≤ Files.computeTotalChunks state.expectedSize
    omega
  announced := by
    intro sha256 isSha
    obtain ⟨isLater, holdsAll⟩ := progress.announced sha256 isSha
    exact ⟨List.mem_append_left _ isLater, Nat.le_trans holdsAll (Nat.le_add_right _ _)⟩
  finalized := by simpa using progress.finalized
  delivered := by
    rcases progress.delivered with aborted | ⟨delivered, _⟩
    · exact .inl (List.mem_append_left _ aborted)
    · right
      refine ⟨?_, .inr noCredit⟩
      simp [arrivals_append, chunkPosts_append, ← delivered]
  fed := fed_append progress.fed (by simp)

/-- The next chunk of the transfer arrives and goes to the worker at once. -/
theorem TransferProgress.post
    {chunk : Files.ParsedChunk}
    (progress : TransferProgress offer later state)
    (isTid : chunk.tidHex = state.tid)
    (isNext : chunk.seq = state.nextExpectedSeq)
    (inRange : chunk.seq < Files.computeTotalChunks state.expectedSize)
    (isLength : chunk.data.length =
      Files.expectedChunkLen state.expectedSize chunk.seq
        (Files.computeTotalChunks state.expectedSize))
    (credit : 0 < state.receiveCredit) :
    TransferProgress offer
      (later ++ [.arrived chunk] ++ [.posted state.worker (.chunk chunk.seq chunk.data)])
      { state with
        nextExpectedSeq := state.nextExpectedSeq + 1
        networkReceivedBytes := state.networkReceivedBytes + chunk.data.length
        receiveCredit := state.receiveCredit - 1 } where
  tid := progress.tid
  name := progress.name
  size := progress.size
  noStart := by simpa using progress.noStart
  arrived := by
    rw [arrivals_append, arrivals_append, arrivals_posted, List.append_nil]
    exact arrived_concat progress isTid isNext isLength
  received := by
    rw [arrivals_append, arrivals_append, arrivals_posted, List.append_nil, List.map_append,
      List.sum_append, ← progress.received]
    rfl
  inRange := by
    change state.nextExpectedSeq + 1 ≤ Files.computeTotalChunks state.expectedSize
    omega
  announced := by
    intro sha256 isSha
    obtain ⟨isLater, holdsAll⟩ := progress.announced sha256 isSha
    exact ⟨List.mem_append_left _ (List.mem_append_left _ isLater), Nat.le_trans holdsAll (Nat.le_add_right _ _)⟩
  finalized := by simpa using progress.finalized
  delivered := by
    rcases progress.delivered with aborted | ⟨delivered, empty | noCredit⟩
    · exact .inl (List.mem_append_left _ (List.mem_append_left _ aborted))
    · right
      rw [empty, List.map_nil, List.append_nil] at delivered
      refine ⟨?_, .inl empty⟩
      rw [arrivals_append, arrivals_append, chunkPosts_append, chunkPosts_append]
      simp [delivered, empty, Files.ParsedChunk.pending]
    · omega
  fed := fed_append (fed_append progress.fed (by simp)) (by simp)

/-- A write is acknowledged, and nothing waits for the worker. -/
theorem TransferProgress.written
    (progress : TransferProgress offer later state)
    (empty : state.pendingChunkQueue = [])
    (bytes : Nat)
    (credit : Int) :
    TransferProgress offer later
      { state with bytesWritten := state.bytesWritten + bytes, receiveCredit := credit } :=
  { progress with
    delivered := progress.delivered.imp id fun delivered => ⟨delivered.1, .inl empty⟩ }

/-- A write is acknowledged, and the worker gets the chunk that waited longest. -/
theorem TransferProgress.unqueue
    {next : PendingChunk}
    {rest : List PendingChunk}
    (progress : TransferProgress offer later state)
    (isQueue : state.pendingChunkQueue = next :: rest)
    (bytes : Nat) :
    TransferProgress offer (later ++ [.posted state.worker (.chunk next.seq next.data)])
      { state with
        bytesWritten := state.bytesWritten + bytes
        receiveCredit := state.receiveCredit + 1 - 1
        pendingChunkQueue := rest } where
  tid := progress.tid
  name := progress.name
  size := progress.size
  noStart := by simpa using progress.noStart
  arrived := by
    rw [arrivals_append, arrivals_posted, List.append_nil]
    exact progress.arrived
  received := by
    rw [arrivals_append, arrivals_posted, List.append_nil]
    exact progress.received
  inRange := progress.inRange
  announced := by
    intro sha256 isSha
    obtain ⟨isLater, holdsAll⟩ := progress.announced sha256 isSha
    exact ⟨List.mem_append_left _ isLater, holdsAll⟩
  finalized := by simpa using progress.finalized
  delivered := by
    rcases progress.delivered with aborted | ⟨delivered, empty | noCredit⟩
    · exact .inl (List.mem_append_left _ aborted)
    · rw [isQueue] at empty
      cases empty
    · right
      refine ⟨?_, .inr ?_⟩
      · rw [isQueue] at delivered
        simpa [arrivals_append, chunkPosts_append] using delivered
      · change state.receiveCredit + 1 - 1 ≤ 0
        omega
  fed := fed_append progress.fed (by simp)

/-- The worker cannot be reached any more: its chunks are lost. -/
theorem TransferProgress.abort
    (progress : TransferProgress offer later state)
    (bytes : Nat)
    (credit : Int)
    (queue : List PendingChunk) :
    TransferProgress offer (later ++ [.posted state.worker .abort])
      { state with
        bytesWritten := state.bytesWritten + bytes
        receiveCredit := credit
        pendingChunkQueue := queue } :=
  { (progress.append (by simp [FileNote.Idle]) :
      TransferProgress offer (later ++ [.posted state.worker .abort]) state) with
    delivered := .inl (by simp) }

/-- The peer announces a digest when all bytes have arrived. -/
theorem TransferProgress.announce
    {sha256 : Text}
    (progress : TransferProgress offer later state)
    (holdsAll : state.expectedSize ≤ state.networkReceivedBytes) :
    TransferProgress offer (later ++ [.announced state.tid sha256])
      { state with senderSha256 := some sha256 } :=
  { (progress.append (by simp [FileNote.Idle]) :
      TransferProgress offer (later ++ [.announced state.tid sha256]) state) with
    announced := by
      rintro other isSha
      injection isSha with isSha
      exact ⟨isSha ▸ List.mem_append_right _ List.mem_cons_self, holdsAll⟩ }

/-- The worker is asked to finalize. -/
theorem TransferProgress.finalize
    (progress : TransferProgress offer later state)
    (should : Files.shouldFinalize state = true) :
    TransferProgress offer (later ++ [.posted state.worker .finalize])
      { state with finalizeRequested := true } where
  tid := progress.tid
  name := progress.name
  size := progress.size
  noStart := by simpa using progress.noStart
  arrived := by
    rw [arrivals_append, arrivals_posted, List.append_nil]
    exact progress.arrived
  received := by
    rw [arrivals_append, arrivals_posted, List.append_nil]
    exact progress.received
  inRange := progress.inRange
  announced := by
    intro sha256 isSha
    obtain ⟨isLater, holdsAll⟩ := progress.announced sha256 isSha
    exact ⟨List.mem_append_left _ isLater, holdsAll⟩
  finalized := fun notRequested => nomatch notRequested
  delivered := by
    rcases progress.delivered with aborted | ⟨delivered, inOrder⟩
    · exact .inl (List.mem_append_left _ aborted)
    · right
      refine ⟨?_, inOrder⟩
      simpa [arrivals_append, chunkPosts_append] using delivered
  fed := by
    simp only [Files.shouldFinalize, Bool.and_eq_true, Bool.not_eq_true', List.isEmpty_iff,
      decide_eq_true_eq, Option.isSome_iff_exists] at should
    obtain ⟨⟨⟨notRequested, sha256, isSha⟩, empty⟩, _⟩ := should
    intro first rest worker isSplit
    rcases List.eq_nil_or_concat rest with rfl | ⟨others, last, rfl⟩
    · obtain ⟨rfl, _⟩ := List.append_inj' isSplit rfl
      rcases progress.delivered with aborted | ⟨delivered, _⟩
      · exact .inl aborted
      · right
        rw [empty, List.map_nil, List.append_nil] at delivered
        refine ⟨delivered, ?_⟩
        have isCount := congrArg List.length progress.arrived
        rw [List.length_map, progress.complete (progress.announced sha256 isSha).2] at isCount
        simpa [chunkShapes] using isCount
    · have isLater : later = first ++ .posted worker .finalize :: others := by
        have isSplit : later ++ [.posted state.worker .finalize] =
            (first ++ .posted worker .finalize :: others) ++ [last] := by
          simpa using isSplit
        exact (List.append_inj' isSplit rfl).1
      exact absurd (isLater ▸ List.mem_append_right _ List.mem_cons_self)
        (progress.finalized notRequested worker)

/-! ## Segments that gain nothing for a transfer -/

namespace Files

/-- An effect that takes an incoming transfer one step further. -/
def IsTransferEffect : FileEffect → Prop
  | .postToReceiveWorker _ (.chunk ..) => True
  | .postToReceiveWorker _ .finalize => True
  | .sendEnvelope _ (.acceptSent ..) => True
  | .sendChunk _ (.acceptSent ..) => True
  | .sendEnvelope (.fileCompleteAck _) _ => True
  | _ => False

theorem IsTransferEffect.receiver {effect : FileEffect} (isTransfer : IsTransferEffect effect) :
    IsReceiverEffect effect := by
  cases effect with
  | postToReceiveWorker => trivial
  | sendEnvelope envelope continuation =>
      cases continuation with
      | acceptSent => trivial
      | discard | offerSent | chunkSent =>
          cases envelope with
          | fileCompleteAck => trivial
          | _ => cases isTransfer
  | sendChunk _ continuation =>
      cases continuation with
      | acceptSent => trivial
      | _ => cases isTransfer
  | _ => cases isTransfer

theorem idle_of_effectNote
    {effect : FileEffect}
    {note : FileNote}
    (quiet : ¬ IsTransferEffect effect)
    (isNote : FilePage.effectNote effect = some note) :
    note.Idle := by
  cases effect with
  | postToReceiveWorker worker message =>
      injection isNote with isNote
      subst isNote
      cases message with
      | init | abort => trivial
      | chunk | finalize => exact absurd trivial quiet
  | sendEnvelope | sendChunk | appendSystemEvent | appendFileMessage | postToSendWorker
    | terminateWorker | cleanupOpfs => cases isNote

/-- What every segment but the registration of an attachment keeps. -/
structure Steady (before after : Files) : Prop where
  accepting : ∀ init, after.receiver.accepting = some init →
    before.receiver.accepting = some init
  sessionReceivedBytes : after.sessionReceivedBytes ≤ before.sessionReceivedBytes
  nextSerial : before.nextSerial ≤ after.nextSerial
  attachments : ∀ {tid name size}, (tid, AttachmentRecord.opfs name size) ∈ after.attachmentMap →
    (tid, AttachmentRecord.opfs name size) ∈ before.attachmentMap

/-- The incoming transfer stays as it is, or ends. -/
structure Standstill (before after : Files) : Prop extends Steady before after where
  incomingActive : ∀ incoming, after.incomingActive = some incoming →
    before.incomingActive = some incoming
  effects : ∃ asked, after.effects = before.effects ++ asked ∧
    ∀ effect ∈ asked, ¬ IsTransferEffect effect

variable {files middle after : Files}

theorem Steady.refl : Steady files files where
  accepting _ := id
  sessionReceivedBytes := Nat.le_refl _
  nextSerial := Nat.le_refl _
  attachments := id

theorem Steady.trans (first : Steady files middle) (second : Steady middle after) :
    Steady files after where
  accepting init isInit := first.accepting init (second.accepting init isInit)
  sessionReceivedBytes := Nat.le_trans second.sessionReceivedBytes first.sessionReceivedBytes
  nextSerial := Nat.le_trans first.nextSerial second.nextSerial
  attachments := first.attachments ∘ second.attachments

theorem Steady.emit (effect : FileEffect) : Steady files (files.emit effect) :=
  { refl with }

/-- Effects asked for in two segments, one after the other. -/
theorem effects_trans
    {Good : FileEffect → Prop}
    (first : ∃ asked, middle.effects = files.effects ++ asked ∧ ∀ effect ∈ asked, Good effect)
    (second : ∃ asked, after.effects = middle.effects ++ asked ∧ ∀ effect ∈ asked, Good effect) :
    ∃ asked, after.effects = files.effects ++ asked ∧ ∀ effect ∈ asked, Good effect := by
  obtain ⟨earlier, isMiddle, goodEarlier⟩ := first
  obtain ⟨later, isAfter, goodLater⟩ := second
  refine ⟨earlier ++ later, by rw [isAfter, isMiddle, List.append_assoc], ?_⟩
  intro effect isEffect
  rcases List.mem_append.mp isEffect with isEarlier | isLater
  · exact goodEarlier effect isEarlier
  · exact goodLater effect isLater

namespace Standstill

theorem refl : Standstill files files where
  toSteady := Steady.refl
  incomingActive _ := id
  effects := ⟨[], (List.append_nil _).symm, by simp⟩

theorem trans (first : Standstill files middle) (second : Standstill middle after) :
    Standstill files after where
  toSteady := first.toSteady.trans second.toSteady
  incomingActive incoming isIncoming :=
    first.incomingActive incoming (second.incomingActive incoming isIncoming)
  effects := effects_trans first.effects second.effects

/-- The receiver changes its own variables, and may start a worker or arm a timer. -/
theorem of_spawning
    (receiver : ReceiverState)
    (timers : List FileTimer)
    (nextSerial : Serial)
    (isAccepting : receiver.accepting = files.receiver.accepting)
    (serial : files.nextSerial ≤ nextSerial) :
    Standstill files { files with receiver, timers, nextSerial } :=
  { refl with
    accepting := fun _ isInit => isAccepting ▸ isInit
    nextSerial := serial }

theorem of_locals
    (receiver : ReceiverState)
    (timers : List FileTimer)
    (isAccepting : receiver.accepting = files.receiver.accepting) :
    Standstill files { files with receiver, timers } :=
  of_spawning receiver timers _ isAccepting (Nat.le_refl _)

theorem emit {effect : FileEffect} (quiet : ¬ IsTransferEffect effect) :
    Standstill files (files.emit effect) :=
  { refl with
    effects := ⟨[effect], rfl, fun _ isEffect => List.mem_singleton.mp isEffect ▸ quiet⟩ }

theorem dropped : Standstill files { files with incomingActive := none } :=
  { refl with incomingActive := fun _ isIncoming => nomatch isIncoming }

/-- A segment of the sender. -/
theorem of_sender (frame : SenderFrame files after) : Standstill files after where
  accepting init isInit := frame.receiver ▸ isInit
  sessionReceivedBytes := Nat.le_of_eq frame.sessionReceivedBytes
  nextSerial := frame.nextSerial
  attachments isEntry := frame.attachments ▸ isEntry
  incomingActive incoming isIncoming := frame.incomingActive ▸ isIncoming
  effects := by
    obtain ⟨asked, isAfter, own⟩ := frame.effects
    refine ⟨asked, isAfter, ?_⟩
    intro effect isEffect isTransfer
    exact own effect isEffect isTransfer.receiver

theorem clearOfferTimer : Standstill files files.clearOfferTimer := by
  unfold Files.clearOfferTimer
  split
  · exact refl
  · exact of_locals _ _ (by rfl)

theorem clearStallTimer : Standstill files files.clearStallTimer := by
  unfold Files.clearStallTimer
  split
  · exact refl
  · exact of_locals _ _ (by rfl)

theorem resetTransferLocals : Standstill files files.resetTransferLocals :=
  ((of_locals _ _ (by rfl)).trans clearOfferTimer).trans clearStallTimer

/-- The incoming transfer ends. -/
theorem ended : Standstill files { files with incomingActive := none }.resetTransferLocals :=
  dropped.trans resetTransferLocals

theorem finishTransfer (event : SystemEventKind) :
    Standstill files (files.finishTransfer event) :=
  ended.trans (emit id)

theorem integrityFailureAbort (state : ReceivingState) :
    Standstill files (files.integrityFailureAbort state) :=
  (((emit id).trans (emit id)).trans (emit id)).trans (finishTransfer _)

theorem declineAndReset (tid : Text) (worker : Option Serial) :
    Standstill files (files.declineAndReset tid worker) := by
  unfold Files.declineAndReset
  dsimp only
  split
  · exact ((emit id).trans (emit id)).trans ended
  · exact (emit id).trans ended

theorem installOfferTimeout (env : FileEnv) (tid : Text) :
    Standstill files (files.installOfferTimeout env tid) :=
  clearOfferTimer.trans (of_spawning _ _ _ (by rfl) (by exact Nat.le_succ _))

theorem offerPendingTimeout (tid : Text) :
    Standstill files (files.offerPendingTimeout tid) := by
  have fired : Standstill files
      { files with receiver := { files.receiver with offerPendingTimer := none } } :=
    of_locals _ _ (by rfl)
  unfold Files.offerPendingTimeout
  dsimp only
  split
  · split
    · exact (fired.trans ended).trans (emit id)
    · exact fired
  · exact fired

theorem maybeSendProgress (env : FileEnv) (state : ReceivingState) :
    Standstill files (files.maybeSendProgress env state) := by
  unfold Files.maybeSendProgress
  split
  · exact refl
  · split
    · exact refl
    · exact (of_locals _ _ (by rfl)).trans (emit id)

theorem workerDoneCleanedUp (tid : Text) :
    Standstill files (files.workerDoneCleanedUp tid) := by
  unfold Files.workerDoneCleanedUp
  split
  · exact (of_locals _ _ (by rfl)).trans (finishTransfer _)
  · exact refl

theorem endAccept : Standstill files files.endAccept :=
  of_locals _ _ (by rfl)

theorem abandonAccept (offer : PendingOffer) (worker : Serial) :
    Standstill files (files.abandonAccept offer worker) :=
  ((emit id).trans (emit id)).trans endAccept

theorem receiveStallTimeout (tid : Text) :
    Standstill files (files.receiveStallTimeout tid) := by
  have fired : Standstill files
      { files with receiver := { files.receiver with receiveStallTimer := none } } :=
    of_locals _ _ (by rfl)
  unfold Files.receiveStallTimeout
  dsimp only
  split
  · exact fired
  · split
    · exact fired.trans (integrityFailureAbort _)
    · exact fired

theorem declineOffer : Standstill files files.declineOffer := by
  unfold Files.declineOffer
  split
  · exact (emit id).trans (finishTransfer _)
  · exact refl

theorem cancelActiveAsReceiver (reason : FileCancelReason) :
    Standstill files (files.cancelActiveAsReceiver reason) := by
  unfold Files.cancelActiveAsReceiver
  split
  · exact refl
  · exact declineOffer
  · exact (((emit id).trans (emit id)).trans (emit id)).trans (finishTransfer _)

theorem dispatchCancel (tid : Text) (side : FileCancelSide) (reason : FileCancelReason) :
    Standstill files (files.dispatchCancel tid side reason) := by
  unfold Files.dispatchCancel
  split
  · exact refl
  · split
    · exact refl
    · split
      · exact refl
      · dsimp only
        split
        · exact finishTransfer _
        · exact ((emit id).trans (emit id)).trans (finishTransfer _)

theorem receiverPageHide : Standstill files files.receiverPageHide := by
  unfold Files.receiverPageHide
  split
  · exact refl
  · exact ended
  · exact ((emit id).trans (emit id)).trans ended

theorem receiverOnWsClose : Standstill files files.receiverOnWsClose := by
  unfold Files.receiverOnWsClose
  split
  · exact ((emit id).trans ended).trans (emit id)
  · exact refl

theorem receiverShutdown : Standstill files files.receiverShutdown := by
  have stopped : ∀ {other : Files},
      Standstill other { other with incomingActive := none, receiverCreated := false } :=
    { dropped with }
  unfold Files.receiverShutdown
  dsimp only
  split
  · exact ((emit id).trans stopped).trans resetTransferLocals
  · exact stopped.trans resetTransferLocals

theorem resetFileStateOnTerminate : Standstill files files.resetFileStateOnTerminate where
  accepting _ := id
  sessionReceivedBytes := Nat.zero_le _
  nextSerial := Nat.le_refl _
  attachments isEntry := nomatch isEntry
  incomingActive _ isIncoming := nomatch isIncoming
  effects := ⟨[], (List.append_nil _).symm, by simp⟩

/-- An attachment of a sent file replaces at most an entry of its own id. -/
theorem setAttachment (tid : Text) (senderFile : LocalFile) (name : Text) (size : Nat) :
    Standstill files (files.setAttachment tid (.sender senderFile name size)) :=
  { refl with
    attachments := by
      intro other otherName otherSize isEntry
      rcases List.mem_append.mp isEntry with kept | new
      · exact (List.mem_filter.mp kept).1
      · simp at new }

theorem finalizeVerifyingAsSuccess (tid name : Text) (size : Nat) :
    Standstill files (files.finalizeVerifyingAsSuccess tid name size) := by
  have released : Standstill files { files with transferActive := none }.resetLocal :=
    of_sender (SenderFrame.of_own none _ _)
  unfold Files.finalizeVerifyingAsSuccess
  split
  · split
    · dsimp only
      split
      · exact released.trans (setAttachment _ _ _ _)
      · exact released
    · exact refl
  · exact refl

theorem dispatchFromReceiver (env : FileEnv) (envelope : PlaintextEnvelope) :
    Standstill files (files.dispatchFromReceiver env envelope) := by
  unfold Files.dispatchFromReceiver
  split
  · exact refl
  next current _ =>
    split
    · split
      · exact of_sender (SenderFrame.onFileAcceptReceived _ _)
      · exact refl
    · split
      · exact of_sender (SenderFrame.finishWithEvent _ _)
      · exact refl
    · split
      · split
        · exact finalizeVerifyingAsSuccess _ _ _
        · exact refl
      · exact refl
    · split
      · exact of_sender (SenderFrame.finishWithEvent _ _)
      · exact refl
    · exact refl

theorem routeFileCancel
    (env : FileEnv)
    (tid : Text)
    (side : FileCancelSide)
    (reason : FileCancelReason) :
    Standstill files (files.routeFileCancel env tid side reason) := by
  unfold Files.routeFileCancel
  split
  · split
    · exact dispatchFromReceiver _ _
    · exact refl
  · split
    · exact dispatchCancel _ _ _
    · exact refl

/-- A call of a machine that may not have been created. -/
theorem of_created {created : Bool} (called : Standstill files after) :
    Standstill files (if created then after else files) := by
  cases created with
  | true => exact called
  | false => exact refl

theorem fireTimer (env : FileEnv) (kind : FileTimerKind) :
    Standstill files (files.fireTimer env kind) := by
  cases kind with
  | offered tid => exact of_sender (SenderFrame.offeredTimeout tid)
  | verifying tid name size => exact finalizeVerifyingAsSuccess tid name size
  | offerPending tid => exact offerPendingTimeout tid
  | receiveStall tid => exact receiveStallTimeout tid
  | sendLoopPoll worker tid => exact of_sender (SenderFrame.sendLoopTurn env worker tid)

end Standstill

/-! ## Segments that move a transfer -/

/-- An effect by which a transfer starts or succeeds. -/
def IsOutcome : FileEffect → Prop
  | .sendEnvelope _ (.acceptSent ..) => True
  | .sendChunk _ (.acceptSent ..) => True
  | .sendEnvelope (.fileCompleteAck _) _ => True
  | _ => False

theorem IsOutcome.transfer {effect : FileEffect} (isOutcome : IsOutcome effect) :
    IsTransferEffect effect := by
  cases effect with
  | sendEnvelope envelope continuation =>
      cases continuation with
      | acceptSent => trivial
      | discard | offerSent | chunkSent =>
          cases envelope with
          | fileCompleteAck => trivial
          | _ => cases isOutcome
  | sendChunk _ continuation =>
      cases continuation with
      | acceptSent => trivial
      | _ => cases isOutcome
  | _ => cases isOutcome

/-- A send that starts a transfer once it has settled. -/
theorem IsOutcome.of_acceptSent
    {effect : FileEffect}
    {send : PendingSend}
    {offer : PendingOffer}
    {worker : Serial}
    (isSend : effect.send? = some send)
    (isContinuation : send.continuation = .acceptSent offer worker) :
    IsOutcome effect := by
  cases effect with
  | sendEnvelope | sendChunk =>
      injection isSend with isSend
      subst isSend
      cases isContinuation
      trivial
  | _ => cases isSend

/-- What was asked for takes a recorded transfer from one state to another. -/
def Carries (asked : List FileEffect) (state next : ReceivingState) : Prop :=
  ∀ history, Underway history state → FinalizedApart history →
    Underway (history ++ asked.filterMap FilePage.effectNote) next ∧
      FinalizedApart (history ++ asked.filterMap FilePage.effectNote)

/-- The transfer advances on the side of its worker. -/
structure Advance
    (before : Files)
    (state : ReceivingState)
    (after : Files)
    (next : ReceivingState) : Prop extends Steady before after where
  incomingActive : ∀ incoming, after.incomingActive = some incoming →
    before.incomingActive = some incoming
  expectedSize : next.expectedSize = state.expectedSize
  effects : ∃ asked, after.effects = before.effects ++ asked ∧
    (∀ effect ∈ asked, ¬ IsOutcome effect) ∧ Carries asked state next

theorem notes_idle
    {asked : List FileEffect}
    (quiet : ∀ effect ∈ asked, ¬ IsTransferEffect effect) :
    ∀ note ∈ asked.filterMap FilePage.effectNote, note.Idle := by
  intro note isNote
  obtain ⟨effect, isEffect, isNote⟩ := List.mem_filterMap.mp isNote
  exact idle_of_effectNote (quiet effect isEffect) isNote

theorem Standstill.advance (standstill : Standstill files after) (state : ReceivingState) :
    Advance files state after state where
  toSteady := standstill.toSteady
  incomingActive := standstill.incomingActive
  expectedSize := rfl
  effects := by
    obtain ⟨asked, isAfter, quiet⟩ := standstill.effects
    refine ⟨asked, isAfter, fun effect isEffect isOutcome =>
      quiet effect isEffect isOutcome.transfer, ?_⟩
    intro history underway apart
    have idle := notes_idle quiet
    exact ⟨underway.append idle, apart.append (not_finalize_of_idle idle)⟩

theorem Advance.trans
    {state between next : ReceivingState}
    (first : Advance files state middle between)
    (second : Advance middle between after next) :
    Advance files state after next where
  toSteady := first.toSteady.trans second.toSteady
  incomingActive incoming isIncoming :=
    first.incomingActive incoming (second.incomingActive incoming isIncoming)
  expectedSize := second.expectedSize.trans first.expectedSize
  effects := by
    obtain ⟨earlier, isMiddle, noneEarlier, carriesEarlier⟩ := first.effects
    obtain ⟨later, isAfter, noneLater, carriesLater⟩ := second.effects
    refine ⟨earlier ++ later, by rw [isAfter, isMiddle, List.append_assoc], ?_, ?_⟩
    · intro effect isEffect
      rcases List.mem_append.mp isEffect with isEarlier | isLater
      · exact noneEarlier effect isEarlier
      · exact noneLater effect isLater
    · intro history underway apart
      rw [List.filterMap_append, ← List.append_assoc]
      obtain ⟨underwayMiddle, apartMiddle⟩ := carriesEarlier history underway apart
      exact carriesLater _ underwayMiddle apartMiddle

/-- The state moves as `moves` says while one message goes to the worker. -/
theorem Advance.of_post
    {state next : ReceivingState}
    {message : ReceiveWorkerIn}
    (expectedSize : next.expectedSize = state.expectedSize)
    (carries : Carries [.postToReceiveWorker state.worker message] state next) :
    Advance files state (files.emit (.postToReceiveWorker state.worker message)) next where
  toSteady := Steady.emit _
  incomingActive _ := id
  expectedSize := expectedSize
  effects :=
    ⟨_, rfl, fun _ isEffect isOutcome => by
      rw [List.mem_singleton.mp isEffect] at isOutcome
      exact isOutcome, carries⟩

theorem carries_of_progress
    {state next : ReceivingState}
    {asked : List FileEffect}
    (sameWorker : next.worker = state.worker)
    (none : ∀ worker, FileNote.posted worker .finalize ∉ asked.filterMap FilePage.effectNote)
    (moves : ∀ offer later, TransferProgress offer later state →
      TransferProgress offer (later ++ asked.filterMap FilePage.effectNote) next) :
    Carries asked state next := by
  rintro history ⟨earlier, offer, later, isHistory, accepted, progress⟩ apart
  refine ⟨⟨earlier, offer, _, ?_, accepted, moves offer later progress⟩, apart.append none⟩
  rw [isHistory, sameWorker, List.append_assoc, List.cons_append]

theorem Advance.maybeFinalize (state : ReceivingState) :
    Advance files state (files.maybeFinalize state).1 (files.maybeFinalize state).2 := by
  unfold Files.maybeFinalize
  split
  next should =>
    refine .of_post rfl ?_
    rintro history ⟨earlier, offer, later, isHistory, accepted, progress⟩ apart
    constructor
    · refine ⟨earlier, offer, _, ?_, accepted, progress.finalize should⟩
      rw [isHistory, List.append_assoc, List.cons_append]
      rfl
    · refine Underway.apart_finalize ⟨earlier, offer, later, isHistory, accepted, progress⟩
        apart ?_
      unfold shouldFinalize at should
      cases isRequested : state.finalizeRequested with
      | false => rfl
      | true => simp [isRequested] at should
  next => exact Standstill.refl.advance state

/-- A write is acknowledged while no chunk waits. -/
theorem Advance.written
    {state : ReceivingState}
    (empty : state.pendingChunkQueue = [])
    (bytes : Nat) :
    Advance files state files
      { state with
        bytesWritten := state.bytesWritten + bytes
        receiveCredit := state.receiveCredit + 1 } where
  toSteady := Steady.refl
  incomingActive _ := id
  expectedSize := rfl
  effects := by
    refine ⟨[], (List.append_nil _).symm, by simp, ?_⟩
    refine carries_of_progress (by rfl) (by simp) ?_
    intro offer later progress
    rw [List.filterMap_nil, List.append_nil]
    exact progress.written empty bytes _

/-- A write is acknowledged and the next chunk is posted, or the worker is lost. -/
theorem Advance.postChunkToWorker
    {state : ReceivingState}
    {next : PendingChunk}
    {rest : List PendingChunk}
    (env : FileEnv)
    (isQueue : state.pendingChunkQueue = next :: rest)
    (bytes : Nat) :
    let unqueued :=
      { state with
        bytesWritten := state.bytesWritten + bytes
        receiveCredit := state.receiveCredit + 1
        pendingChunkQueue := rest }
    Advance files state (files.postChunkToWorker env unqueued next.seq next.data).1
      (files.postChunkToWorker env unqueued next.seq next.data).2 := by
  intro unqueued
  unfold Files.postChunkToWorker
  split
  · refine .of_post (by rfl) ?_
    refine carries_of_progress (by rfl) ?_ ?_
    · intro worker isNote
      rcases List.mem_singleton.mp isNote with ⟨⟩
    · intro offer later progress
      exact progress.unqueue isQueue bytes
  · have cancelled : Standstill files (files.sendCancelAsReceiver state.tid .integrityFailure) :=
      .emit id
    have lost :
        Advance (files.sendCancelAsReceiver state.tid .integrityFailure) state
          ((files.sendCancelAsReceiver state.tid .integrityFailure).emit
            (.postToReceiveWorker state.worker .abort)) unqueued := by
      refine .of_post (by rfl) ?_
      refine carries_of_progress (by rfl) ?_ ?_
      · intro worker isNote
        rcases List.mem_singleton.mp isNote with ⟨⟩
      · intro offer later progress
        exact progress.abort bytes _ rest
    have finished :
        Standstill
          ((files.sendCancelAsReceiver state.tid .integrityFailure).emit
            (.postToReceiveWorker state.worker .abort))
          (files.integrityFailureAbort unqueued) :=
      (Standstill.emit id).trans (.finishTransfer _)
    exact ((cancelled.advance state).trans lost).trans (finished.advance unqueued)

/-- Whatever the signal held, afterwards it holds the transfer or nothing. -/
theorem notifyReceiveProgress_spec (files : Files) (state : ReceivingState) :
    Steady files (files.notifyReceiveProgress state) ∧
      (files.notifyReceiveProgress state).effects = files.effects ∧
      ∀ incoming, (files.notifyReceiveProgress state).incomingActive = some incoming →
        incoming = .receiving state := by
  unfold Files.notifyReceiveProgress
  dsimp only
  split
  · split
    · refine ⟨{ Steady.refl with }, rfl, ?_⟩
      intro incoming isIncoming
      exact (Option.some.inj isIncoming).symm
    next isNone =>
      refine ⟨Steady.refl, rfl, ?_⟩
      intro incoming isIncoming
      rw [isIncoming] at isNone
      exact absurd rfl isNone
  · refine ⟨{ Steady.refl with }, rfl, ?_⟩
    intro incoming isIncoming
    exact (Option.some.inj isIncoming).symm

/-- After a write is acknowledged, the signal holds the advanced transfer or nothing. -/
theorem handleWorkerWritten_spec (files : Files) (env : FileEnv) (state : ReceivingState) (bytes : Nat) :
    ∃ finalized next, Advance files state finalized next ∧
      files.handleWorkerWritten env state bytes = finalized.notifyReceiveProgress next := by
  have settles : ∀ {posted : Files × ReceivingState}, Advance files state posted.1 posted.2 →
      Advance files state ((posted.1.maybeSendProgress env posted.2).maybeFinalize posted.2).1
        ((posted.1.maybeSendProgress env posted.2).maybeFinalize posted.2).2 := fun posted =>
    (posted.trans ((Standstill.maybeSendProgress _ _).advance _)).trans (.maybeFinalize _)
  unfold handleWorkerWritten
  dsimp only
  cases isQueue : state.pendingChunkQueue with
  | nil =>
      have written : Advance files state files _ := .written isQueue bytes
      rw [isQueue] at written
      exact ⟨_, _, settles written, rfl⟩
  | cons next rest =>
      exact ⟨_, _, settles (.postChunkToWorker env isQueue bytes), rfl⟩

/-! ## What each function of the receiver does -/

/-- A verdict on an offer of some size: an accepted one fits the session. -/
def Verdict (files : Files) (size : Nat) : Files × PreAccept → Prop
  | (evaluated, .decline _) => Standstill files evaluated
  | (evaluated, .accept _) =>
      evaluated = files ∧ files.incomingActive = none ∧
        files.sessionReceivedBytes + size ≤ sessionReceiveCapBytes

theorem evaluatePreAccept_spec (files : Files) (tid name : Text) (size : Nat) :
    Verdict files size (files.evaluatePreAccept tid name size) := by
  have declined : ∀ reason, Verdict files size (files, .decline reason) := fun _ => .refl
  unfold evaluatePreAccept
  split
  · exact declined _
  · split
    · exact declined _
    · split
      · exact declined _
      · split
        · exact declined _
        next vacant =>
          split
          · exact declined _
          · split
            · split
              · exact declined _
              · exact (Standstill.of_locals _ _ (by rfl)).trans (.emit id)
            next fits =>
              split
              · exact declined _
              · split
                · exact declined _
                · refine ⟨rfl, ?_, Nat.le_of_not_lt fits⟩
                  cases isIncoming : files.incomingActive with
                  | none => rfl
                  | some => simp [isIncoming] at vacant

/-- An offer is declined, or shown under a new identity. -/
theorem dispatchOffer_spec (files : Files) (env : FileEnv) (tid name : Text) (size : Nat) :
    Standstill files (files.dispatchOffer env tid name size) ∨
      ∃ sanitisedName,
        files.incomingActive = none ∧
        files.sessionReceivedBytes + size ≤ sessionReceiveCapBytes ∧
        Standstill
          { files with
            incomingActive :=
              some (.offerPending { ref := files.nextSerial, tid, name := sanitisedName, size })
            nextSerial := files.nextSerial + 1 }
          (files.dispatchOffer env tid name size) := by
  have evaluates := evaluatePreAccept_spec files tid name size
  unfold Files.dispatchOffer
  split
  next evaluated reason isVerdict =>
    rw [isVerdict] at evaluates
    exact .inl (evaluates.trans (.emit id))
  next evaluated sanitisedName isVerdict =>
    rw [isVerdict] at evaluates
    obtain ⟨rfl, vacant, fits⟩ := evaluates
    exact .inr ⟨sanitisedName, vacant, fits,
      (Standstill.emit id).trans (.installOfferTimeout _ _)⟩

/-- The user's acceptance declines the offer, or starts its worker. -/
theorem acceptOffer_spec (files : Files) (env : FileEnv) :
    Standstill files (files.acceptOffer env) ∨
      ∃ offer worker,
        files.incomingActive = some (.offerPending offer) ∧
        (files.acceptOffer env).receiver.accepting = some { offer, worker } ∧
        Standstill files
          { files.acceptOffer env with
            receiver :=
              { (files.acceptOffer env).receiver with
                accepting := files.receiver.accepting } } := by
  unfold Files.acceptOffer
  split
  next offer isOffer =>
    split
    · exact .inl .refl
    · have entered : Standstill files
          { files with receiver := { files.receiver with acceptInFlight := true } } :=
        .of_locals _ _ (by rfl)
      unfold runAcceptOffer
      split
      · exact .inl ((entered.trans (.declineAndReset _ _)).trans .endAccept)
      · split
        · exact .inl ((entered.trans (.declineAndReset _ _)).trans .endAccept)
        · dsimp only
          split
          · refine .inl ((entered.trans (Standstill.trans ?_ (.declineAndReset _ _))).trans .endAccept)
            exact .of_spawning _ _ _ (by rfl) (by exact Nat.le_succ _)
          · refine .inr ⟨offer, _, isOffer, rfl, ?_⟩
            exact (Standstill.of_spawning _ _ _ (by rfl) (by exact Nat.le_succ _)).trans (.emit id)
  next => exact .inl .refl

/-- A worker that has started asks for the acceptance to be sent, or is dropped. -/
theorem settleReceiverInit_spec (files : Files) (worker : Serial) (ready : Bool) :
    Standstill files (files.settleReceiverInit worker ready) ∨
      ∃ init between,
        files.receiver.accepting = some init ∧ ready = true ∧
        Standstill files between ∧
        files.settleReceiverInit worker ready =
          between.emit
            (.sendEnvelope (.fileAccept init.offer.tid) (.acceptSent init.offer init.worker)) := by
  unfold Files.settleReceiverInit
  split
  · exact .inl .refl
  next init isInit =>
    split
    · have taken : Standstill files
          { files with receiver := { files.receiver with accepting := none } } :=
        { Standstill.refl with accepting := fun _ isNone => nomatch isNone }
      unfold receiverWorkerReady
      split
      · exact .inl (taken.trans (.abandonAccept _ _))
      · cases ready with
        | false => exact .inl ((taken.trans (.declineAndReset _ _)).trans .endAccept)
        | true =>
            exact .inr ⟨init, _, isInit, rfl, taken.trans .clearOfferTimer, rfl⟩
    · exact .inl .refl

/-- The transfer of an offer whose acceptance was sent. -/
def startedTransfer (offer : PendingOffer) (worker : Serial) : ReceivingState where
  tid := offer.tid
  name := offer.name
  size := offer.size
  expectedSize := offer.size
  nextExpectedSeq := 0
  networkReceivedBytes := 0
  bytesWritten := 0
  receiveCredit := recvInitialCredit
  pendingChunkQueue := []
  senderSha256 := none
  finalizeRequested := false
  worker := worker

/-- The transfer starts if its acceptance was sent while the offer was shown. -/
theorem acceptSent_spec (files : Files) (env : FileEnv) (offer : PendingOffer) (worker : Serial) (sent : Bool) :
    Standstill files (files.acceptSent env offer worker sent) ∨
      files.isCurrentOffer offer = true ∧
        (files.acceptSent env offer worker sent).incomingActive =
          some (.receiving (startedTransfer offer worker)) ∧
        Standstill
          { files with incomingActive := some (.receiving (startedTransfer offer worker)) }
          (files.acceptSent env offer worker sent) := by
  unfold Files.acceptSent
  split
  · exact .inl (.abandonAccept _ _)
  next isCurrent =>
    split
    · exact .inl (((Standstill.emit id).trans (.installOfferTimeout _ _)).trans .endAccept)
    · right
      refine ⟨by simpa using isCurrent, rfl, ?_⟩
      dsimp only
      exact (Standstill.of_spawning _ _ _ (by rfl) (by exact Nat.le_succ _)).trans .endAccept

theorem incomingActive_of_getReceivingState
    {state : ReceivingState}
    (isReceiving : files.getReceivingState = some state) :
    files.incomingActive = some (.receiving state) := by
  unfold getReceivingState at isReceiving
  split at isReceiving
  next active isActive => rw [isActive, Option.some.inj isReceiving]
  next => cases isReceiving

theorem resetTransferLocals_incomingActive (files : Files) :
    files.resetTransferLocals.incomingActive = files.incomingActive := by
  unfold Files.resetTransferLocals Files.clearStallTimer Files.clearOfferTimer
  split <;> split <;> rfl

theorem resetTransferLocals_attachmentMap (files : Files) :
    files.resetTransferLocals.attachmentMap = files.attachmentMap := by
  unfold Files.resetTransferLocals Files.clearStallTimer Files.clearOfferTimer
  split <;> split <;> rfl

theorem integrityFailureAbort_incomingActive (state : ReceivingState) :
    (files.integrityFailureAbort state).incomingActive = none :=
  resetTransferLocals_incomingActive _

theorem clearStallTimer_effects : files.clearStallTimer.effects = files.effects := by
  unfold Files.clearStallTimer
  split <;> rfl

/-- The chunk a transfer waits for. -/
structure IsNextChunk (state : ReceivingState) (chunk : ParsedChunk) : Prop where
  tid : chunk.tidHex = state.tid
  seq : chunk.seq = state.nextExpectedSeq
  inRange : chunk.seq < computeTotalChunks state.expectedSize
  length : chunk.data.length =
    expectedChunkLen state.expectedSize chunk.seq (computeTotalChunks state.expectedSize)

/-- A chunk of another transfer is dropped, a wrong one ends the transfer. -/
theorem receiveChunk_spec (files : Files) (env : FileEnv) (chunk : ParsedChunk) :
    (files.receiveChunk env chunk = files ∧
        ∀ state, files.getReceivingState = some state → chunk.tidHex ≠ state.tid) ∨
      (Standstill files (files.receiveChunk env chunk) ∧
        (files.receiveChunk env chunk).incomingActive = none) ∨
      ∃ state cleared,
        files.incomingActive = some (.receiving state) ∧
        IsNextChunk state chunk ∧
        state.pendingChunkQueue.length < recvPendingHardCapChunks ∧
        Standstill files cleared ∧ cleared.effects = files.effects ∧
        (0 < state.receiveCredit ∧
            files.receiveChunk env chunk =
              { cleared.emit (.postToReceiveWorker state.worker (.chunk chunk.seq chunk.data)) with
                incomingActive :=
                  some (.receiving
                    { state with
                      nextExpectedSeq := state.nextExpectedSeq + 1
                      networkReceivedBytes := state.networkReceivedBytes + chunk.data.length
                      receiveCredit := state.receiveCredit - 1 }) } ∨
          state.receiveCredit ≤ 0 ∧
            files.receiveChunk env chunk =
              { cleared with
                incomingActive :=
                  some (.receiving
                    { state with
                      nextExpectedSeq := state.nextExpectedSeq + 1
                      networkReceivedBytes := state.networkReceivedBytes + chunk.data.length
                      pendingChunkQueue := state.pendingChunkQueue ++ [chunk.pending] }) }) := by
  have aborts : ∀ {cleared : Files} (state : ReceivingState), Standstill files cleared →
      Standstill files (cleared.integrityFailureAbort state) ∧
        (cleared.integrityFailureAbort state).incomingActive = none := fun state cleared =>
    ⟨cleared.trans (.integrityFailureAbort state), integrityFailureAbort_incomingActive state⟩
  unfold Files.receiveChunk
  split
  next isNone => exact .inl ⟨rfl, fun state isSome => by rw [isSome] at isNone; cases isNone⟩
  next state isReceiving =>
    split
    next otherTid =>
      refine .inl ⟨rfl, ?_⟩
      intro other isOther
      rw [isReceiving] at isOther
      cases isOther
      exact otherTid
    next sameTid =>
      dsimp only
      have cleared : Standstill files (if chunk.seq = 0 then files.clearStallTimer else files) ∧
          (if chunk.seq = 0 then files.clearStallTimer else files).effects = files.effects := by
        split
        · exact ⟨.clearStallTimer, clearStallTimer_effects⟩
        · exact ⟨.refl, rfl⟩
      generalize (if chunk.seq = 0 then files.clearStallTimer else files) = clearedFiles
        at cleared
      split
      · exact .inr (.inl (aborts state .refl))
      next checked =>
        simp only [not_or, ne_eq, not_not, Nat.not_le] at checked
        obtain ⟨isNext, inRange, isLength⟩ := checked
        split
        · exact .inr (.inl (aborts state .refl))
        next hasRoom =>
          have isActive := incomingActive_of_getReceivingState isReceiving
          have hasRoom := Nat.lt_of_not_le hasRoom
          have isChunk : IsNextChunk state chunk := ⟨not_not.mp sameTid, isNext, inRange, isLength⟩
          split
          next credit =>
            split
            · exact .inr (.inr ⟨state, clearedFiles, isActive, isChunk, hasRoom, cleared.1, cleared.2,
                .inl ⟨credit, rfl⟩⟩)
            · exact .inr (.inl (aborts _ cleared.1))
          next noCredit =>
            exact .inr (.inr ⟨state, clearedFiles, isActive, isChunk, hasRoom, cleared.1, cleared.2,
              .inr ⟨Int.not_lt.mp noCredit, rfl⟩⟩)

/-- A completion before all bytes arrived ends the transfer. -/
theorem dispatchComplete_spec (files : Files) (tid sha256 : Text) :
    Standstill files (files.dispatchComplete tid sha256) ∨
      ∃ state finalized next,
        files.incomingActive = some (.receiving state) ∧
        state.tid = tid ∧
        state.expectedSize ≤ state.networkReceivedBytes ∧
        Advance files { state with senderSha256 := some sha256 } finalized next ∧
        files.dispatchComplete tid sha256 =
          { finalized with incomingActive := some (.receiving next) } := by
  unfold Files.dispatchComplete
  split
  · exact .inl .refl
  next state isReceiving =>
    split
    · exact .inl .refl
    next sameTid =>
      split
      · exact .inl (.integrityFailureAbort _)
      next holdsAll =>
        right
        exact ⟨state, _, _, incomingActive_of_getReceivingState isReceiving, not_not.mp sameTid, Nat.le_of_not_lt holdsAll,
          .maybeFinalize _, rfl⟩

/-- The worker's report ends the transfer, or has its file removed. -/
theorem handleWorkerDone_spec
    (files : Files)
    (state : ReceivingState)
    (sha256 : Text)
    (bytesWritten fileSize : Nat) :
    Standstill files (files.handleWorkerDone state sha256 bytesWritten fileSize) ∨
      state.senderSha256 = some sha256 ∧
        bytesWritten = state.expectedSize ∧
        fileSize = state.expectedSize ∧
        files.handleWorkerDone state sha256 bytesWritten fileSize =
          ({ files.setAttachment state.tid (.opfs state.name state.expectedSize) with
              sessionReceivedBytes := files.sessionReceivedBytes + state.expectedSize
              incomingActive := none }.resetTransferLocals).emit
            (.sendEnvelope (.fileCompleteAck state.tid) .discard) := by
  unfold Files.handleWorkerDone
  split
  next matching => exact .inr ⟨matching.1, matching.2.1, matching.2.2, rfl⟩
  next => exact .inl (((Standstill.emit id).trans (.emit id)).trans (.of_locals _ _ (by rfl)))

/-- A message of a receive worker: the transfer advances, succeeds, or gains nothing. -/
theorem handleReceiveWorkerMessage_spec
    (files : Files)
    (env : FileEnv)
    (message : ReceiveWorkerOut)
    (worker : Serial) :
    Standstill files (files.handleReceiveWorkerMessage env message worker) ∨
      ∃ state, files.incomingActive = some (.receiving state) ∧ state.worker = worker ∧
        ((∃ seq bytes, message = .written seq bytes ∧
            files.handleReceiveWorkerMessage env message worker =
              files.handleWorkerWritten env state bytes) ∨
          ∃ sha256 bytesWritten fileSize, message = .done sha256 bytesWritten fileSize ∧
            files.handleReceiveWorkerMessage env message worker =
              files.handleWorkerDone state sha256 bytesWritten fileSize) := by
  unfold Files.handleReceiveWorkerMessage
  split
  · exact .inl .refl
  next state isReceiving =>
    have isActive := incomingActive_of_getReceivingState isReceiving
    split
    · exact .inl .refl
    next sameWorker =>
      cases message with
      | ready | closed => exact .inl .refl
      | shortWrite | fatal => exact .inl (.integrityFailureAbort _)
      | written seq bytes =>
          exact .inr ⟨state, isActive, not_not.mp sameWorker, .inl ⟨seq, bytes, rfl, rfl⟩⟩
      | done sha256 bytesWritten fileSize =>
          exact .inr ⟨state, isActive, not_not.mp sameWorker,
            .inr ⟨sha256, bytesWritten, fileSize, rfl, rfl⟩⟩

end Files

theorem TransferProgress.start (offer : PendingOffer) (worker : Serial) :
    TransferProgress offer [] (Files.startedTransfer offer worker) where
  tid := rfl
  name := rfl
  size := rfl
  noStart := by simp
  arrived := rfl
  received := rfl
  inRange := Nat.zero_le _
  announced := fun _ isSha => nomatch isSha
  finalized := by simp
  delivered := .inr ⟨rfl, .inl rfl⟩
  fed := by simp

/-! ## Pages whose transfers are in order -/

namespace FilePage

/-- The user accepted the offer, and no other shown offer can be taken for it. -/
def Accepted (page : FilePage) (offer : PendingOffer) : Prop :=
  .accepted offer ∈ page.history ∧
    offer.ref < page.files.nextSerial ∧
    ∀ shown, page.files.incomingActive = some (.offerPending shown) →
      shown.ref = offer.ref → shown = offer

/-- What holds of the incoming transfers between any two segments. -/
structure Sound (page : FilePage) : Prop where
  quiet : page.files.effects = []
  capped : page.files.sessionReceivedBytes ≤ sessionReceiveCapBytes
  shown : ∀ offer, page.files.incomingActive = some (.offerPending offer) →
    offer.ref < page.files.nextSerial ∧
      page.files.sessionReceivedBytes + offer.size ≤ sessionReceiveCapBytes
  receiving : ∀ state, page.files.incomingActive = some (.receiving state) →
    page.files.sessionReceivedBytes + state.expectedSize ≤ sessionReceiveCapBytes ∧
      Underway page.history state
  accepting : ∀ init, page.files.receiver.accepting = some init → page.Accepted init.offer
  pending : ∀ send ∈ page.pending, ∀ offer worker,
    send.continuation = .acceptSent offer worker → page.Accepted offer
  apart : FinalizedApart page.history

/-- The step registers an attachment from the OPFS, or acknowledges one. -/
def Registers (page : FilePage) (input : FileInput) (tid : Text) : Prop :=
  (∃ name size,
    (tid, AttachmentRecord.opfs name size) ∈ (page.step input).files.attachmentMap ∧
      (tid, AttachmentRecord.opfs name size) ∉ page.files.attachmentMap) ∨
  ∃ continuation,
    .sendEnvelope (.fileCompleteAck tid) continuation ∈ (page.step input).out

/--
The step is the worker's report of a transfer that the user accepted, all of
whose chunks arrived in order, of the offered size and an announced digest.
-/
def Earned (page : FilePage) (input : FileInput) (tid : Text) : Prop :=
  ∃ earlier offer worker later sha256,
    page.history = earlier ++ .started offer worker :: later ∧
      (∀ other otherWorker, FileNote.started other otherWorker ∉ later) ∧
      offer.tid = tid ∧
      .accepted offer ∈ earlier ∧
      (arrivals later).map Files.ParsedChunk.shape =
        chunkShapes tid offer.size (Files.computeTotalChunks offer.size) ∧
      .announced tid sha256 ∈ later ∧
      input.call = .event (.receiveWorkerMessage worker (.done sha256 offer.size offer.size)) ∧
      (tid, .opfs offer.name offer.size) ∈ (page.step input).files.attachmentMap

/-- What one step owes: order is kept, and what it registers is earned. -/
structure Kept (page : FilePage) (input : FileInput) : Prop where
  sound : (page.step input).Sound
  earned : ∀ tid, page.Registers input tid → page.Earned input tid

variable {page : FilePage} {input : FileInput} {after : Files}

theorem step_history :
    (page.step input).history =
      page.history ++ callNotes page.files input.call ++
        startNotes page.files (page.segment input.env input.call) ++
        (page.segment input.env input.call).effects.filterMap effectNote :=
  rfl

theorem callNotes_not_finalize (files : Files) (call : FileCall) (worker : Serial) :
    FileNote.posted worker .finalize ∉ callNotes files call := by
  intro isNote
  unfold callNotes at isNote
  split at isNote
  · split at isNote <;> simp at isNote
  · split at isNote
    · split at isNote <;> simp at isNote
    · simp at isNote
  · simp at isNote
  · simp at isNote

theorem startNotes_nil
    {before : Files}
    (notStarted : ∀ offer state, before.incomingActive = some (.offerPending offer) →
      after.incomingActive ≠ some (.receiving state)) :
    startNotes before after = [] := by
  unfold startNotes
  split
  next offer state isOffer isReceiving => exact absurd isReceiving (notStarted offer state isOffer)
  next => rfl

/-- A send is pending since before the step, or the step asked for it. -/
theorem mem_step_pending
    {send : PendingSend}
    (isSend : send ∈ (page.step input).pending) :
    send ∈ page.pending ∨
      ∃ effect ∈ (page.segment input.env input.call).effects, effect.send? = some send := by
  have isSplit : send ∈ page.untilCall input.call ++
      (page.segment input.env input.call).effects.filterMap FileEffect.send? := isSend
  rcases List.mem_append.mp isSplit with isOld | isNew
  · left
    unfold untilCall at isOld
    split at isOld
    · exact List.mem_of_mem_eraseIdx isOld
    · exact isOld
  · exact .inr (List.mem_filterMap.mp isNew)

/-- An accepted offer stays accepted; offers shown later have new identities. -/
theorem Accepted.step
    {offer : PendingOffer}
    (accepted : page.Accepted offer)
    (serial : page.files.nextSerial ≤ (page.segment input.env input.call).nextSerial)
    (shown : ∀ shown,
      (page.segment input.env input.call).incomingActive = some (.offerPending shown) →
      page.files.incomingActive = some (.offerPending shown) ∨
        page.files.nextSerial ≤ shown.ref) :
    (page.step input).Accepted offer := by
  obtain ⟨isAccepted, below, unique⟩ := accepted
  refine ⟨?_, Nat.lt_of_lt_of_le below serial, ?_⟩
  · rw [step_history]
    simp [isAccepted]
  · intro other isShown sameRef
    rcases shown other isShown with before | fresh
    · exact unique other before sameRef
    · exact absurd (sameRef ▸ below) (Nat.not_lt.mpr fresh)

/-- A sound page stays sound if the step keeps to each part. -/
theorem Sound.next
    (sound : page.Sound)
    (isSegment : page.segment input.env input.call = after)
    (serial : page.files.nextSerial ≤ after.nextSerial)
    (capped : after.sessionReceivedBytes ≤ sessionReceiveCapBytes)
    (shown : ∀ offer, after.incomingActive = some (.offerPending offer) →
      page.files.incomingActive = some (.offerPending offer) ∧
          after.sessionReceivedBytes ≤ page.files.sessionReceivedBytes ∨
        page.files.nextSerial ≤ offer.ref ∧ offer.ref < after.nextSerial ∧
          after.sessionReceivedBytes + offer.size ≤ sessionReceiveCapBytes)
    (receiving : ∀ state, after.incomingActive = some (.receiving state) →
      after.sessionReceivedBytes + state.expectedSize ≤ sessionReceiveCapBytes ∧
        Underway (page.step input).history state)
    (accepting : ∀ init, after.receiver.accepting = some init →
      page.Accepted init.offer ∨ (page.step input).Accepted init.offer)
    (asked : ∀ effect ∈ after.effects, ∀ send offer worker, effect.send? = some send →
      send.continuation = .acceptSent offer worker → page.Accepted offer)
    (apart : FinalizedApart (page.step input).history) :
    (page.step input).Sound := by
  subst isSegment
  have stays : ∀ {offer}, page.Accepted offer → (page.step input).Accepted offer := by
    intro offer accepted
    apply accepted.step serial
    intro other isShown
    rcases shown other isShown with ⟨before, _⟩ | ⟨fresh, _⟩
    · exact .inl before
    · exact .inr fresh
  refine ⟨rfl, capped, ?_, receiving, ?_, ?_, apart⟩
  · intro offer isShown
    rcases shown offer isShown with ⟨before, notMore⟩ | ⟨_, below, fits⟩
    · obtain ⟨below, fits⟩ := sound.shown offer before
      exact ⟨Nat.lt_of_lt_of_le below serial,
        Nat.le_trans (Nat.add_le_add_right notMore _) fits⟩
    · exact ⟨below, fits⟩
  · intro init isInit
    rcases accepting init isInit with before | now
    · exact stays before
    · exact now
  · intro send isSend offer worker isContinuation
    rcases mem_step_pending isSend with isOld | ⟨effect, isEffect, isNew⟩
    · exact stays (sound.pending send isOld offer worker isContinuation)
    · exact stays (asked effect isEffect send offer worker isNew isContinuation)

theorem not_registers
    {tid : Text}
    (isSegment : page.segment input.env input.call = after)
    (attachments : ∀ {name size}, (tid, AttachmentRecord.opfs name size) ∈ after.attachmentMap →
      (tid, AttachmentRecord.opfs name size) ∈ page.files.attachmentMap)
    (noAck : ∀ continuation,
      .sendEnvelope (.fileCompleteAck tid) continuation ∉ after.effects) :
    ¬ page.Registers input tid := by
  subst isSegment
  rintro (⟨name, size, isEntry, isNew⟩ | ⟨continuation, isAck⟩)
  · exact isNew (attachments isEntry)
  · exact noAck continuation isAck

/-- A step that keeps what is steady owes only the state of its transfer. -/
theorem Sound.steady
    (sound : page.Sound)
    (isSegment : page.segment input.env input.call = after)
    (steady : Files.Steady page.files after)
    (noOutcome : ∀ effect ∈ after.effects, ¬ Files.IsOutcome effect)
    (shown : ∀ offer, after.incomingActive = some (.offerPending offer) →
      page.files.incomingActive = some (.offerPending offer) ∨
        page.files.nextSerial ≤ offer.ref ∧ offer.ref < after.nextSerial ∧
          page.files.sessionReceivedBytes + offer.size ≤ sessionReceiveCapBytes)
    (receiving : ∀ state, after.incomingActive = some (.receiving state) →
      page.files.sessionReceivedBytes + state.expectedSize ≤ sessionReceiveCapBytes ∧
        Underway (page.step input).history state)
    (apart : FinalizedApart (page.step input).history) :
    page.Kept input := by
  constructor
  · apply sound.next isSegment steady.nextSerial
    · exact Nat.le_trans steady.sessionReceivedBytes sound.capped
    · intro offer isShown
      rcases shown offer isShown with before | ⟨fresh, below, fits⟩
      · exact .inl ⟨before, steady.sessionReceivedBytes⟩
      · exact .inr ⟨fresh, below,
          Nat.le_trans (Nat.add_le_add_right steady.sessionReceivedBytes _) fits⟩
    · intro state isReceiving
      obtain ⟨fits, underway⟩ := receiving state isReceiving
      exact ⟨Nat.le_trans (Nat.add_le_add_right steady.sessionReceivedBytes _) fits, underway⟩
    · intro init isInit
      exact .inl (sound.accepting init (steady.accepting init isInit))
    · intro effect isEffect send offer worker isSend isContinuation
      exact absurd (.of_acceptSent isSend isContinuation) (noOutcome effect isEffect)
    · exact apart
  · intro tid registers
    refine absurd registers (not_registers isSegment steady.attachments ?_)
    intro continuation isAck
    refine noOutcome _ isAck ?_
    cases continuation <;> trivial

/-- Notes of a step that starts nothing. -/
theorem step_history_of_not_started
    (isSegment : page.segment input.env input.call = after)
    (notStarted : ∀ offer state, page.files.incomingActive = some (.offerPending offer) →
      after.incomingActive ≠ some (.receiving state)) :
    (page.step input).history =
      page.history ++ callNotes page.files input.call ++ after.effects.filterMap effectNote := by
  rw [step_history, isSegment, startNotes_nil notStarted, List.append_nil]

/-- A step in which no transfer gains anything. -/
theorem Sound.standstill
    (sound : page.Sound)
    (isSegment : page.segment input.env input.call = after)
    (standstill : Files.Standstill page.files after)
    (idle : after.incomingActive = none ∨ ∀ note ∈ callNotes page.files input.call, note.Idle) :
    page.Kept input := by
  obtain ⟨asked, isAfter, quiet⟩ := standstill.effects
  rw [sound.quiet, List.nil_append] at isAfter
  have notesIdle := Files.notes_idle quiet
  have isHistory := step_history_of_not_started isSegment (by
    intro offer state isOffer isReceiving
    rw [standstill.incomingActive _ isReceiving] at isOffer
    cases isOffer)
  rw [isAfter] at isHistory
  apply sound.steady isSegment standstill.toSteady
  · intro effect isEffect isOutcome
    exact quiet effect (isAfter ▸ isEffect) isOutcome.transfer
  · exact fun offer isShown => .inl (standstill.incomingActive _ isShown)
  · intro state isReceiving
    obtain ⟨fits, underway⟩ := sound.receiving state (standstill.incomingActive _ isReceiving)
    refine ⟨fits, ?_⟩
    rw [isHistory]
    rcases idle with ended | callIdle
    · rw [ended] at isReceiving
      cases isReceiving
    · exact (underway.append callIdle).append notesIdle
  · rw [isHistory]
    exact (sound.apart.append (callNotes_not_finalize _ _)).append
      (not_finalize_of_idle notesIdle)

theorem Sound.dispatchOffer
    {tid name : Text}
    {size : Nat}
    (sound : page.Sound)
    (isSegment :
      page.segment input.env input.call = page.files.dispatchOffer input.env tid name size)
    (noNotes : callNotes page.files input.call = []) :
    page.Kept input := by
  rcases Files.dispatchOffer_spec page.files input.env tid name size with
    standstill | ⟨sanitisedName, vacant, fits, standstill⟩
  · exact sound.standstill isSegment standstill (.inr (by simp [noNotes]))
  · obtain ⟨asked, isAfter, quiet⟩ := standstill.effects
    rw [sound.quiet, List.nil_append] at isAfter
    have isHistory := step_history_of_not_started isSegment (by
      intro offer state isOffer
      rw [vacant] at isOffer
      cases isOffer)
    rw [noNotes, List.append_nil, isAfter] at isHistory
    apply sound.steady isSegment
    · exact ⟨standstill.accepting, standstill.sessionReceivedBytes,
        Nat.le_of_succ_le standstill.nextSerial, standstill.attachments⟩
    · intro effect isEffect isOutcome
      exact quiet effect (isAfter ▸ isEffect) isOutcome.transfer
    · intro offer isShown
      have isOffer := Option.some.inj (standstill.incomingActive _ isShown)
      injection isOffer with isOffer
      subst isOffer
      exact .inr ⟨Nat.le_refl _, standstill.nextSerial, fits⟩
    · intro state isReceiving
      cases standstill.incomingActive _ isReceiving
    · rw [isHistory]
      exact sound.apart.append (not_finalize_of_idle (Files.notes_idle quiet))

theorem Sound.acceptOffer
    (sound : page.Sound)
    (isSegment : page.segment input.env input.call = page.files.acceptOffer input.env)
    (isCall : input.call = .acceptOffer) :
    page.Kept input := by
  have callIdle : ∀ note ∈ callNotes page.files input.call, note.Idle := by
    intro note isNote
    rw [isCall] at isNote
    unfold callNotes at isNote
    dsimp only at isNote
    split at isNote
    · rw [List.mem_singleton.mp isNote]
      trivial
    · cases isNote
  rcases Files.acceptOffer_spec page.files input.env with
    standstill | ⟨offer, worker, isOffer, isAccepting, standstill⟩
  · exact sound.standstill isSegment standstill (.inr callIdle)
  · obtain ⟨asked, isAfter, quiet⟩ := standstill.effects
    rw [sound.quiet, List.nil_append] at isAfter
    change (page.files.acceptOffer input.env).effects = asked at isAfter
    have isHistory := step_history_of_not_started isSegment (by
      intro offer state isOffer isReceiving
      rw [standstill.incomingActive _ isReceiving] at isOffer
      cases isOffer)
    rw [isAfter] at isHistory
    have noOutcome : ∀ effect ∈ (page.files.acceptOffer input.env).effects,
        ¬ Files.IsOutcome effect := by
      intro effect isEffect isOutcome
      exact quiet effect (isAfter ▸ isEffect) isOutcome.transfer
    constructor
    · apply sound.next isSegment standstill.nextSerial
      · exact Nat.le_trans standstill.sessionReceivedBytes sound.capped
      · intro other isShown
        exact .inl ⟨standstill.incomingActive _ isShown, standstill.sessionReceivedBytes⟩
      · intro state isReceiving
        have same := standstill.incomingActive _ isReceiving
        rw [isOffer] at same
        cases same
      · intro init isInit
        right
        rw [isAccepting] at isInit
        cases isInit
        refine ⟨?_, ?_, ?_⟩
        · rw [isHistory, isCall]
          simp [callNotes, isOffer]
        · change offer.ref < (page.segment input.env input.call).nextSerial
          rw [isSegment]
          exact Nat.lt_of_lt_of_le (sound.shown offer isOffer).1 standstill.nextSerial
        · intro shown isShown _
          change (page.segment input.env input.call).incomingActive = _ at isShown
          rw [isSegment] at isShown
          have same := standstill.incomingActive _ isShown
          rw [isOffer] at same
          cases same
          rfl
      · intro effect isEffect send offer worker isSend isContinuation
        exact absurd (.of_acceptSent isSend isContinuation) (noOutcome effect isEffect)
      · rw [isHistory]
        exact (sound.apart.append (callNotes_not_finalize _ _)).append
          (not_finalize_of_idle (Files.notes_idle quiet))
    · intro tid registers
      refine absurd registers (not_registers isSegment standstill.attachments ?_)
      intro continuation isAck
      refine noOutcome _ isAck ?_
      cases continuation <;> trivial

theorem Sound.settleReceiverInit
    {worker : Serial}
    {ready : Bool}
    (sound : page.Sound)
    (isSegment :
      page.segment input.env input.call = page.files.settleReceiverInit worker ready)
    (noNotes : callNotes page.files input.call = []) :
    page.Kept input := by
  rcases Files.settleReceiverInit_spec page.files worker ready with
    standstill | ⟨init, between, isInit, _, standstill, isSettled⟩
  · exact sound.standstill isSegment standstill (.inr (by simp [noNotes]))
  · obtain ⟨asked, isBetween, quiet⟩ := standstill.effects
    rw [sound.quiet, List.nil_append] at isBetween
    rw [isSettled] at isSegment
    have isHistory := step_history_of_not_started isSegment (by
      intro offer state isOffer isReceiving
      rw [standstill.incomingActive _ isReceiving] at isOffer
      cases isOffer)
    have notes :
        (between.emit (.sendEnvelope (.fileAccept init.offer.tid)
          (.acceptSent init.offer init.worker))).effects.filterMap effectNote =
        asked.filterMap effectNote := by
      change (between.effects ++ [_]).filterMap effectNote = _
      rw [isBetween, List.filterMap_append]
      exact List.append_nil _
    rw [noNotes, List.append_nil, notes] at isHistory
    have notesIdle := Files.notes_idle quiet
    constructor
    · apply sound.next isSegment standstill.nextSerial
      · exact Nat.le_trans standstill.sessionReceivedBytes sound.capped
      · intro other isShown
        exact .inl ⟨standstill.incomingActive _ isShown, standstill.sessionReceivedBytes⟩
      · intro state isReceiving
        obtain ⟨fits, underway⟩ := sound.receiving state (standstill.incomingActive _ isReceiving)
        rw [isHistory]
        exact ⟨Nat.le_trans (Nat.add_le_add_right standstill.sessionReceivedBytes _) fits,
          underway.append notesIdle⟩
      · intro other isOther
        exact .inl (sound.accepting other (standstill.accepting other isOther))
      · intro effect isEffect send offer worker isSend isContinuation
        rcases List.mem_append.mp isEffect with isOld | isNew
        · rw [isBetween] at isOld
          exact absurd (Files.IsOutcome.of_acceptSent isSend isContinuation).transfer
            (quiet effect isOld)
        · rw [List.mem_singleton.mp isNew] at isSend
          cases isSend
          cases isContinuation
          exact sound.accepting init isInit
      · rw [isHistory]
        exact sound.apart.append (not_finalize_of_idle notesIdle)
    · intro tid registers
      refine absurd registers (not_registers isSegment standstill.attachments ?_)
      intro continuation isAck
      rcases List.mem_append.mp isAck with isOld | isNew
      · rw [isBetween] at isOld
        refine quiet _ isOld ?_
        cases continuation <;> trivial
      · cases List.mem_singleton.mp isNew

theorem Sound.acceptSent
    {offer : PendingOffer}
    {worker : Serial}
    {sent : Bool}
    (sound : page.Sound)
    (accepted : page.Accepted offer)
    (isSegment :
      page.segment input.env input.call = page.files.acceptSent input.env offer worker sent)
    (noNotes : callNotes page.files input.call = []) :
    page.Kept input := by
  rcases Files.acceptSent_spec page.files input.env offer worker sent with
    standstill | ⟨isCurrent, isStarted, standstill⟩
  · exact sound.standstill isSegment standstill (.inr (by simp [noNotes]))
  · obtain ⟨current, isShown, sameRef⟩ : ∃ current,
        page.files.incomingActive = some (.offerPending current) ∧ current.ref = offer.ref := by
      unfold Files.isCurrentOffer at isCurrent
      split at isCurrent
      next current isShown => exact ⟨current, isShown, by simpa using isCurrent⟩
      next => cases isCurrent
    obtain rfl := accepted.2.2 current isShown sameRef
    obtain ⟨asked, isAfter, quiet⟩ := standstill.effects
    rw [sound.quiet, List.nil_append] at isAfter
    have notesIdle := Files.notes_idle quiet
    have isHistory : (page.step input).history =
        page.history ++ [.started current worker] ++ asked.filterMap effectNote := by
      rw [step_history, isSegment, noNotes, List.append_nil, isAfter]
      unfold startNotes
      rw [isShown, isStarted]
      rfl
    apply sound.steady isSegment
    · exact ⟨standstill.accepting, standstill.sessionReceivedBytes, standstill.nextSerial,
        standstill.attachments⟩
    · intro effect isEffect isOutcome
      exact quiet effect (isAfter ▸ isEffect) isOutcome.transfer
    · intro other isOther
      rw [isStarted] at isOther
      cases isOther
    · intro state isReceiving
      rw [isStarted] at isReceiving
      cases isReceiving
      refine ⟨(sound.shown current isShown).2, ?_⟩
      rw [isHistory]
      have underway : Underway (page.history ++ [.started current worker])
          (Files.startedTransfer current worker) :=
        ⟨page.history, current, [], rfl, accepted.1, .start current worker⟩
      exact underway.append notesIdle
    · rw [isHistory]
      have started : FinalizedApart (page.history ++ [.started current worker]) :=
        sound.apart.append (by simp)
      exact started.append (not_finalize_of_idle notesIdle)

theorem Sound.receiveChunk
    {chunk : Files.ParsedChunk}
    (sound : page.Sound)
    (created : page.files.receiverCreated = true)
    (isSegment : page.segment input.env input.call = page.files.receiveChunk input.env chunk)
    (isCall : input.call = .chunk chunk) :
    page.Kept input := by
  rcases Files.receiveChunk_spec page.files input.env chunk with
    ⟨isSame, otherTid⟩ | ⟨standstill, ended⟩ |
    ⟨state, cleared, isActive, isNext, _, standstill, isQuiet, moves⟩
  · rw [isSame] at isSegment
    refine sound.standstill isSegment .refl (.inr ?_)
    intro note isNote
    rw [isCall] at isNote
    unfold callNotes at isNote
    dsimp only at isNote
    split at isNote
    next state _ isReceiving =>
      rw [if_neg (otherTid state isReceiving)] at isNote
      cases isNote
    next => cases isNote
  · exact sound.standstill isSegment standstill (.inl ended)
  · obtain ⟨fits, earlier, offer, later, isEarlier, accepted, progress⟩ :=
      sound.receiving state isActive
    have noted : callNotes page.files input.call = [.arrived chunk] := by
      rw [isCall]
      unfold callNotes Files.getReceivingState
      simp only [created, isActive]
      rw [if_pos isNext.tid]
    rcases moves with ⟨credit, isPosted⟩ | ⟨noCredit, isQueued⟩
    · rw [isPosted] at isSegment
      have isHistory := step_history_of_not_started isSegment (by
        intro offer state isOffer
        rw [isActive] at isOffer
        cases isOffer)
      have isHistory : (page.step input).history = page.history ++ [.arrived chunk] ++
          [.posted state.worker (.chunk chunk.seq chunk.data)] := by
        rw [isHistory, noted]
        change _ ++ (cleared.effects ++ [_]).filterMap effectNote = _
        rw [isQuiet, sound.quiet]
        rfl
      apply sound.steady isSegment
      · exact { standstill.toSteady with }
      · intro effect isEffect isOutcome
        have isEffect : effect ∈ cleared.effects ++ [_] := isEffect
        rw [isQuiet, sound.quiet, List.nil_append, List.mem_singleton] at isEffect
        rw [isEffect] at isOutcome
        exact isOutcome
      · intro other isShown
        cases isShown
      · intro next isReceiving
        cases isReceiving
        refine ⟨fits, earlier, offer, _, ?_, accepted,
          progress.post isNext.tid isNext.seq isNext.inRange isNext.length credit⟩
        rw [isHistory, isEarlier]
        simp
      · rw [isHistory]
        have arrived : FinalizedApart (page.history ++ [.arrived chunk]) :=
          sound.apart.append (by simp)
        exact arrived.append (by simp)
    · rw [isQueued] at isSegment
      have isHistory := step_history_of_not_started isSegment (by
        intro offer state isOffer
        rw [isActive] at isOffer
        cases isOffer)
      have isHistory : (page.step input).history = page.history ++ [.arrived chunk] := by
        rw [isHistory, noted]
        change _ ++ cleared.effects.filterMap effectNote = _
        rw [isQuiet, sound.quiet]
        exact List.append_nil _
      apply sound.steady isSegment
      · exact { standstill.toSteady with }
      · intro effect isEffect
        have isEffect : effect ∈ cleared.effects := isEffect
        rw [isQuiet, sound.quiet] at isEffect
        cases isEffect
      · intro other isShown
        cases isShown
      · intro next isReceiving
        cases isReceiving
        refine ⟨fits, earlier, offer, _, ?_, accepted,
          progress.queue isNext.tid isNext.seq isNext.inRange isNext.length noCredit⟩
        rw [isHistory, isEarlier]
        simp
      · rw [isHistory]
        exact sound.apart.append (by simp)

theorem Sound.handleWorkerWritten
    {state : ReceivingState}
    {bytes : Nat}
    (sound : page.Sound)
    (isActive : page.files.incomingActive = some (.receiving state))
    (isSegment :
      page.segment input.env input.call = page.files.handleWorkerWritten input.env state bytes)
    (noNotes : callNotes page.files input.call = []) :
    page.Kept input := by
  obtain ⟨finalized, next, advance, isWritten⟩ :=
    Files.handleWorkerWritten_spec page.files input.env state bytes
  obtain ⟨steady, sameEffects, holds⟩ := Files.notifyReceiveProgress_spec finalized next
  obtain ⟨asked, isFinalized, noOutcome, carries⟩ := advance.effects
  rw [sound.quiet, List.nil_append] at isFinalized
  rw [isWritten] at isSegment
  have isHistory := step_history_of_not_started isSegment (by
    intro offer state isOffer
    rw [isActive] at isOffer
    cases isOffer)
  rw [noNotes, List.append_nil, sameEffects, isFinalized] at isHistory
  obtain ⟨fits, underway⟩ := sound.receiving state isActive
  obtain ⟨underwayNext, apartNext⟩ := carries page.history underway sound.apart
  apply sound.steady isSegment (advance.toSteady.trans steady)
  · intro effect isEffect
    rw [sameEffects, isFinalized] at isEffect
    exact noOutcome effect isEffect
  · intro offer isShown
    cases holds _ isShown
  · intro other isReceiving
    cases holds _ isReceiving
    rw [isHistory, advance.expectedSize]
    exact ⟨fits, underwayNext⟩
  · rw [isHistory]
    exact apartNext

theorem Sound.dispatchComplete
    {tid sha256 : Text}
    (sound : page.Sound)
    (isSegment : page.segment input.env input.call = page.files.dispatchComplete tid sha256)
    (isCall : input.call = .envelope (.fileComplete tid sha256)) :
    page.Kept input := by
  have noted : callNotes page.files input.call = [.announced tid sha256] := by
    rw [isCall]
    rfl
  rcases Files.dispatchComplete_spec page.files tid sha256 with
    standstill | ⟨state, finalized, next, isActive, rfl, holdsAll, advance, isDispatched⟩
  · refine sound.standstill isSegment standstill (.inr ?_)
    rw [noted]
    intro note isNote
    rw [List.mem_singleton.mp isNote]
    trivial
  · obtain ⟨asked, isFinalized, noOutcome, carries⟩ := advance.effects
    rw [sound.quiet, List.nil_append] at isFinalized
    rw [isDispatched] at isSegment
    have isHistory := step_history_of_not_started isSegment (by
      intro offer state isOffer
      rw [isActive] at isOffer
      cases isOffer)
    rw [noted] at isHistory
    change _ = _ ++ finalized.effects.filterMap effectNote at isHistory
    rw [isFinalized] at isHistory
    obtain ⟨fits, earlier, offer, later, isEarlier, accepted, progress⟩ :=
      sound.receiving state isActive
    have announced : Underway (page.history ++ [.announced state.tid sha256])
        { state with senderSha256 := some sha256 } := by
      refine ⟨earlier, offer, _, ?_, accepted, progress.announce holdsAll⟩
      rw [isEarlier, List.append_assoc]
      rfl
    obtain ⟨underwayNext, apartNext⟩ :=
      carries _ announced (sound.apart.append (by simp))
    apply sound.steady isSegment { advance.toSteady with }
    · intro effect isEffect
      have isEffect : effect ∈ finalized.effects := isEffect
      rw [isFinalized] at isEffect
      exact noOutcome effect isEffect
    · intro other isShown
      cases isShown
    · intro other isReceiving
      cases isReceiving
      rw [isHistory, advance.expectedSize]
      exact ⟨fits, underwayNext⟩
    · rw [isHistory]
      exact apartNext

theorem Sound.handleWorkerDone
    {state : ReceivingState}
    {sha256 : Text}
    {bytesWritten fileSize : Nat}
    (sound : page.Sound)
    (isActive : page.files.incomingActive = some (.receiving state))
    (isSegment :
      page.segment input.env input.call =
        page.files.handleWorkerDone state sha256 bytesWritten fileSize)
    (isCall :
      input.call =
        .event (.receiveWorkerMessage state.worker (.done sha256 bytesWritten fileSize))) :
    page.Kept input := by
  have noNotes : callNotes page.files input.call = [] := by
    rw [isCall]
    rfl
  rcases Files.handleWorkerDone_spec page.files state sha256 bytesWritten fileSize with
    standstill | ⟨isSha, rfl, rfl, isDone⟩
  · exact sound.standstill isSegment standstill (.inr (by simp [noNotes]))
  · obtain ⟨fits, earlier, offer, later, isEarlier, accepted, progress⟩ :=
      sound.receiving state isActive
    rw [isDone] at isSegment
    let stored : Files :=
      { page.files.setAttachment state.tid (.opfs state.name state.expectedSize) with
        sessionReceivedBytes := page.files.sessionReceivedBytes + state.expectedSize
        incomingActive := none }
    have standstill : Files.Standstill stored stored.resetTransferLocals := .resetTransferLocals
    obtain ⟨asked, isAsked, quiet⟩ := standstill.effects
    have isAsked : stored.resetTransferLocals.effects = asked := by
      rw [isAsked]
      exact congrArg (· ++ asked) sound.quiet
    have notesIdle := Files.notes_idle quiet
    have isVacant : stored.resetTransferLocals.incomingActive = none :=
      Files.resetTransferLocals_incomingActive _
    have isHistory := step_history_of_not_started isSegment (by
      intro offer state isOffer
      rw [isActive] at isOffer
      cases isOffer)
    have isHistory : (page.step input).history = page.history ++ asked.filterMap effectNote := by
      rw [isHistory, noNotes, List.append_nil]
      change _ ++ (stored.resetTransferLocals.effects ++ [_]).filterMap effectNote = _
      rw [isAsked, List.filterMap_append]
      congr 1
      exact List.append_nil _
    constructor
    · apply sound.next isSegment standstill.nextSerial
      · exact Nat.le_trans standstill.sessionReceivedBytes fits
      · intro other isShown
        cases isVacant.symm.trans isShown
      · intro other isReceiving
        cases isVacant.symm.trans isReceiving
      · intro init isInit
        exact .inl (sound.accepting init (standstill.accepting init isInit))
      · intro effect isEffect send offer worker isSend isContinuation
        rcases List.mem_append.mp isEffect with isOld | isNew
        · rw [isAsked] at isOld
          exact absurd (Files.IsOutcome.of_acceptSent isSend isContinuation).transfer
            (quiet effect isOld)
        · rw [List.mem_singleton.mp isNew] at isSend
          cases isSend
          cases isContinuation
      · rw [isHistory]
        exact sound.apart.append (not_finalize_of_idle notesIdle)
    · intro tid registers
      have isTid : tid = state.tid := by
        by_contra otherTid
        refine not_registers isSegment ?_ ?_ registers
        · intro name size isEntry
          rcases List.mem_append.mp (standstill.attachments isEntry) with kept | new
          · exact (List.mem_filter.mp kept).1
          · cases List.mem_singleton.mp new
            exact absurd rfl otherTid
        · intro continuation isAck
          rcases List.mem_append.mp isAck with isOld | isNew
          · rw [isAsked] at isOld
            refine quiet _ isOld ?_
            cases continuation <;> trivial
          · cases List.mem_singleton.mp isNew
            exact otherTid rfl
      subst isTid
      obtain ⟨announced, holdsAll⟩ := progress.announced sha256 isSha
      refine ⟨earlier, offer, state.worker, later, sha256, isEarlier, progress.noStart,
        progress.tid.symm, accepted, ?_, announced, ?_, ?_⟩
      · rw [progress.arrived, progress.complete holdsAll, progress.size]
      · rw [isCall, progress.size]
      · change _ ∈ (page.segment input.env input.call).attachmentMap
        rw [isSegment]
        change _ ∈ stored.resetTransferLocals.attachmentMap
        rw [Files.resetTransferLocals_attachmentMap, ← progress.name, ← progress.size]
        exact List.mem_append_right _ List.mem_cons_self

/-! ## Every step keeps transfers in order -/

/-- What a segment runs, as far as incoming transfers go: a function of the receiver that
may move one, or nothing that does. -/
inductive ReceiverSegment (page : FilePage) (input : FileInput) : Prop where
  | standstill :
      Files.Standstill page.files (page.segment input.env input.call) →
      (∀ note ∈ callNotes page.files input.call, note.Idle) →
      ReceiverSegment page input
  | dispatchOffer (tid name : Text) (size : Nat) :
      page.segment input.env input.call = page.files.dispatchOffer input.env tid name size →
      callNotes page.files input.call = [] →
      ReceiverSegment page input
  | acceptOffer :
      page.segment input.env input.call = page.files.acceptOffer input.env →
      input.call = .acceptOffer →
      ReceiverSegment page input
  | settleReceiverInit (worker : Serial) (ready : Bool) :
      page.segment input.env input.call = page.files.settleReceiverInit worker ready →
      callNotes page.files input.call = [] →
      ReceiverSegment page input
  | acceptSent (send : PendingSend) (offer : PendingOffer) (worker : Serial) (sent : Bool) :
      send ∈ page.pending →
      send.continuation = .acceptSent offer worker →
      page.segment input.env input.call =
        page.files.acceptSent input.env offer worker sent →
      callNotes page.files input.call = [] →
      ReceiverSegment page input
  | receiveChunk (chunk : Files.ParsedChunk) :
      page.files.receiverCreated = true →
      page.segment input.env input.call = page.files.receiveChunk input.env chunk →
      input.call = .chunk chunk →
      ReceiverSegment page input
  | dispatchComplete (tid sha256 : Text) :
      page.segment input.env input.call = page.files.dispatchComplete tid sha256 →
      input.call = .envelope (.fileComplete tid sha256) →
      ReceiverSegment page input
  | handleWorkerWritten (state : ReceivingState) (seq bytes : Nat) :
      page.files.incomingActive = some (.receiving state) →
      page.segment input.env input.call =
        page.files.handleWorkerWritten input.env state bytes →
      input.call = .event (.receiveWorkerMessage state.worker (.written seq bytes)) →
      ReceiverSegment page input
  | handleWorkerDone
      (state : ReceivingState)
      (sha256 : Text)
      (bytesWritten fileSize : Nat) :
      page.files.incomingActive = some (.receiving state) →
      page.segment input.env input.call =
        page.files.handleWorkerDone state sha256 bytesWritten fileSize →
      input.call =
        .event (.receiveWorkerMessage state.worker (.done sha256 bytesWritten fileSize)) →
      ReceiverSegment page input

namespace ReceiverSegment

theorem envelope {env : FileEnv} (content : PlaintextEnvelope) :
    ReceiverSegment page ⟨.envelope content, env⟩ := by
  cases content with
  | fileOffer tid name size =>
      cases isCreated : page.files.receiverCreated with
      | true =>
          refine .dispatchOffer tid name size ?_ rfl
          change (if page.files.receiverCreated then _ else _) = _
          rw [isCreated]
          rfl
      | false =>
          refine .standstill ?_ (by simp [callNotes])
          change Files.Standstill _ (if page.files.receiverCreated then _ else _)
          rw [isCreated]
          exact .refl
  | fileComplete tid sha256 =>
      cases isCreated : page.files.receiverCreated with
      | true =>
          refine .dispatchComplete tid sha256 ?_ rfl
          change (if page.files.receiverCreated then _ else _) = _
          rw [isCreated]
          rfl
      | false =>
          refine .standstill ?_ (by simp [callNotes, FileNote.Idle])
          change Files.Standstill _ (if page.files.receiverCreated then _ else _)
          rw [isCreated]
          exact .refl
  | fileCancel tid side reason =>
      exact .standstill (.routeFileCancel env tid side reason) (by simp [callNotes])
  | _ =>
      exact .standstill (.of_created (.dispatchFromReceiver env _)) (by simp [callNotes])

theorem settled {env : FileEnv} (index : Nat) (sent : Bool) :
    ReceiverSegment page ⟨.settled index sent, env⟩ := by
  have rests : Files.Standstill page.files (page.segment env (.settled index sent)) →
      ReceiverSegment page ⟨.settled index sent, env⟩ := fun standstill =>
    .standstill standstill (by simp [callNotes])
  cases isSend : page.pending[index]? with
  | none =>
      have isSegment : page.segment env (.settled index sent) = page.files := by
        simp only [FilePage.segment, isSend]
      exact rests (isSegment ▸ .refl)
  | some send =>
      have isSegment : page.segment env (.settled index sent) =
          page.files.resume env send.continuation sent := by
        simp only [FilePage.segment, isSend]
      cases isContinuation : send.continuation with
      | discard =>
          rw [isContinuation] at isSegment
          exact rests (isSegment ▸ .refl)
      | offerSent tid =>
          rw [isContinuation] at isSegment
          exact rests (isSegment ▸ .of_sender (.offerSent tid sent))
      | chunkSent worker tid dataLength =>
          rw [isContinuation] at isSegment
          exact rests (isSegment ▸ .of_sender (.chunkSent env worker tid dataLength sent))
      | acceptSent offer worker =>
          rw [isContinuation] at isSegment
          exact .acceptSent send offer worker sent (List.mem_of_getElem? isSend) isContinuation
            isSegment rfl

theorem receiveWorkerMessage
    {env : FileEnv}
    (worker : Serial)
    (message : Files.ReceiveWorkerOut) :
    ReceiverSegment page ⟨.event (.receiveWorkerMessage worker message), env⟩ := by
  have isSegment : page.segment env (.event (.receiveWorkerMessage worker message)) =
      page.files.handle env (.receiveWorkerMessage worker message) :=
    rfl
  unfold Files.handle at isSegment
  dsimp only at isSegment
  rcases Files.handleReceiveWorkerMessage_spec page.files env message worker with
    standstill | ⟨state, isActive, rfl, moves⟩
  · cases message with
    | ready =>
        have isSame : page.files.handleReceiveWorkerMessage env .ready worker = page.files := by
          unfold Files.handleReceiveWorkerMessage
          split
          · rfl
          · split <;> rfl
        rw [isSame] at isSegment
        exact .settleReceiverInit worker true isSegment rfl
    | fatal =>
        rcases Files.settleReceiverInit_spec
            (page.files.handleReceiveWorkerMessage env .fatal worker) worker false with
          settles | ⟨_, _, _, isReady, _⟩
        · exact .standstill (standstill.trans settles) (by simp [callNotes])
        · cases isReady
    | written | shortWrite | done | closed =>
        exact .standstill standstill (by simp [callNotes])
  · rcases moves with ⟨seq, bytes, rfl, isWritten⟩ | ⟨sha256, bytesWritten, fileSize, rfl, isDone⟩
    · dsimp only at isSegment
      rw [isWritten] at isSegment
      exact .handleWorkerWritten state seq bytes isActive isSegment rfl
    · dsimp only at isSegment
      rw [isDone] at isSegment
      exact .handleWorkerDone state sha256 bytesWritten fileSize isActive isSegment rfl

theorem event {env : FileEnv} (event : Files.Event) :
    ReceiverSegment page ⟨.event event, env⟩ := by
  have settles : ∀ {files : Files} (worker : Serial),
      Files.Standstill files (files.settleReceiverInit worker false) := by
    intro files worker
    rcases Files.settleReceiverInit_spec files worker false with
      standstill | ⟨_, _, _, isReady, _⟩
    · exact standstill
    · cases isReady
  have rests : Files.Standstill page.files (page.files.handle env event) →
      ReceiverSegment page ⟨.event event, env⟩ := fun standstill =>
    .standstill standstill (by simp [callNotes])
  cases event with
  | receiveWorkerMessage worker message => exact receiveWorkerMessage worker message
  | sendWorkerMessage worker message =>
      apply rests
      have handles : Files.SenderFrame page.files
          (page.files.handleSendWorkerMessage message worker) :=
        .handleSendWorkerMessage message worker
      cases message with
      | ready | fatal => exact .of_sender (handles.trans (.settleSenderInit _ _ _))
      | plaintextChunk | final | closed => exact .of_sender handles
  | sendWorkerError worker =>
      exact rests (.of_sender
        ((Files.SenderFrame.handleWorkerFatal _).trans (.settleSenderInit _ _ _)))
  | sendWorkerReadyTimeout worker => exact rests (.of_sender (.settleSenderInit _ _ _))
  | receiveWorkerError worker =>
      apply rests
      obtain ⟨aborted, isAborted, isSegment⟩ :=
        Files.handle_receiveWorkerError page.files env worker
      rw [isSegment]
      have handles : Files.Standstill page.files aborted := by
        rcases isAborted with rfl | ⟨state, rfl⟩
        · exact .refl
        · exact .integrityFailureAbort state
      exact handles.trans (settles worker)
  | receiveWorkerReadyTimeout worker => exact rests (settles worker)
  | cleanedUp tid => exact rests (.workerDoneCleanedUp tid)
  | timer id =>
      apply rests
      unfold Files.handle
      dsimp only
      split
      · exact .refl
      next timer _ =>
        split
        · exact (Files.Standstill.of_locals _ _ (by rfl)).trans (.fireTimer env timer.kind)
        · exact .refl
  | initialised supported enabled =>
      exact rests { Files.Standstill.refl with }

end ReceiverSegment

theorem receiverSegment (page : FilePage) (input : FileInput) : ReceiverSegment page input := by
  obtain ⟨call, env⟩ := input
  have rests : ∀ {call : FileCall}, callNotes page.files call = [] →
      Files.Standstill page.files (page.segment env call) →
      ReceiverSegment page ⟨call, env⟩ := by
    intro call noNotes standstill
    exact .standstill standstill (by simp [noNotes])
  cases call with
  | envelope content => exact .envelope content
  | settled index sent => exact .settled index sent
  | event event => exact .event event
  | chunk parsed =>
      cases isCreated : page.files.receiverCreated with
      | true =>
          refine .receiveChunk parsed isCreated ?_ rfl
          change (if page.files.receiverCreated then _ else _) = _
          rw [isCreated]
          rfl
      | false =>
          refine .standstill ?_ (by simp [callNotes, isCreated])
          change Files.Standstill _ (if page.files.receiverCreated then _ else _)
          rw [isCreated]
          exact .refl
  | acceptOffer =>
      cases isCreated : page.files.receiverCreated with
      | true =>
          refine .acceptOffer ?_ rfl
          change (if page.files.receiverCreated then _ else _) = _
          rw [isCreated]
          rfl
      | false =>
          refine .standstill ?_ ?_
          · change Files.Standstill _ (if page.files.receiverCreated then _ else _)
            rw [isCreated]
            exact .refl
          · intro note isNote
            unfold callNotes at isNote
            dsimp only at isNote
            split at isNote
            · rw [List.mem_singleton.mp isNote]
              trivial
            · cases isNote
  | startTransfer file tid =>
      exact rests rfl (.of_created (.of_sender (.startTransfer env file tid)))
  | cancelSender reason =>
      exact rests rfl (.of_created (.of_sender (.cancelActiveAsSender reason)))
  | senderSocketClosed => exact rests rfl (.of_created (.of_sender .senderOnWsClose))
  | senderPageHide => exact rests rfl (.of_created (.of_sender (.senderPageHide env)))
  | senderShutdown => exact rests rfl (.of_created (.of_sender .senderShutdown))
  | declineOffer => exact rests rfl (.of_created .declineOffer)
  | cancelReceiver reason => exact rests rfl (.of_created (.cancelActiveAsReceiver reason))
  | receiverSocketClosed => exact rests rfl (.of_created .receiverOnWsClose)
  | receiverPageHide => exact rests rfl (.of_created .receiverPageHide)
  | receiverShutdown => exact rests rfl (.of_created .receiverShutdown)
  | resetOnTerminate => exact rests rfl .resetFileStateOnTerminate

theorem step_kept (sound : page.Sound) : page.Kept input := by
  cases page.receiverSegment input with
  | standstill standstill idle => exact sound.standstill rfl standstill (.inr idle)
  | dispatchOffer _ _ _ isSegment noNotes => exact sound.dispatchOffer isSegment noNotes
  | acceptOffer isSegment isCall => exact sound.acceptOffer isSegment isCall
  | settleReceiverInit _ _ isSegment noNotes =>
      exact sound.settleReceiverInit isSegment noNotes
  | acceptSent send offer worker _ isSend isContinuation isSegment noNotes =>
      exact sound.acceptSent (sound.pending send isSend offer worker isContinuation) isSegment
        noNotes
  | receiveChunk _ isCreated isSegment isCall =>
      exact sound.receiveChunk isCreated isSegment isCall
  | dispatchComplete _ _ isSegment isCall => exact sound.dispatchComplete isSegment isCall
  | handleWorkerWritten _ _ _ isActive isSegment isCall =>
      exact sound.handleWorkerWritten isActive isSegment (by rw [isCall]; rfl)
  | handleWorkerDone _ _ _ _ isActive isSegment isCall =>
      exact sound.handleWorkerDone isActive isSegment isCall

theorem sound_of_created (created : Created page) : page.Sound := by
  obtain ⟨_, _, _, _, rfl⟩ := created
  constructor
  · rfl
  · exact Nat.zero_le _
  · exact fun _ isShown => nomatch isShown
  · exact fun _ isReceiving => nomatch isReceiving
  · exact fun _ isInit => nomatch isInit
  · exact fun _ isSend => nomatch isSend
  · intro first middle last worker other isHistory
    have isEmpty := congrArg List.length isHistory
    simp at isEmpty

theorem sound_of_reachable
    (reachable : machine.Reachable Created EventMachine.Machine.anyStep page) :
    page.Sound :=
  reachable.invariant (fun _ created => sound_of_created created)
    (fun _ _ sound _ _ => (step_kept sound).sound)

/--
Whatever peer, worker and user do, an attachment from the OPFS is registered
only when it is earned, finalize is posted once a transfer, and what the
session has received stays below its cap.
-/
theorem received_attachments_earned
    (page : FilePage)
    (reachable : machine.Reachable Created EventMachine.Machine.anyStep page) :
    page.files.sessionReceivedBytes ≤ sessionReceiveCapBytes ∧
      FinalizedApart page.history ∧
      ∀ input, machine.enabled page input → ∀ tid,
        page.Registers input tid → page.Earned input tid := by
  have sound := sound_of_reachable reachable
  exact ⟨sound.capped, sound.apart, fun input _ => (step_kept sound).earned⟩

/-- A file of one byte is offered, accepted, received and completed. -/
def Sample.receiving : List FileInput :=
  [ Sample.call (.envelope (.fileOffer Sample.transferId Sample.file.name 1)),
    Sample.call .acceptOffer,
    Sample.call (.event (.receiveWorkerMessage 2 .ready)),
    Sample.call (.settled 0 true),
    Sample.call (.chunk { tidHex := Sample.transferId, seq := 0, data := [7] }),
    Sample.call (.envelope (.fileComplete Sample.transferId [0x64])),
    Sample.call (.event (.receiveWorkerMessage 2 (.written 0 1))) ]

/-- The worker reports the file. -/
theorem received_attachment_earned_in_sample :
    (machine.run Sample.newPage Sample.receiving).files.sessionReceivedBytes ≤
        sessionReceiveCapBytes ∧
      FinalizedApart (machine.run Sample.newPage Sample.receiving).history ∧
      (machine.run Sample.newPage Sample.receiving).Earned
        (Sample.call (.event (.receiveWorkerMessage 2 (.done [0x64] 1 1)))) Sample.transferId := by
  obtain ⟨capped, apart, earned⟩ :=
    received_attachments_earned (machine.run Sample.newPage Sample.receiving)
      (.run (.start Sample.created_newPage) (by decide +kernel))
  have registers : (machine.run Sample.newPage Sample.receiving).Registers
      (Sample.call (.event (.receiveWorkerMessage 2 (.done [0x64] 1 1)))) Sample.transferId :=
    .inl ⟨Sample.file.name, 1, by decide +kernel⟩
  exact ⟨capped, apart, earned _ (by exact trivial) _ registers⟩

end FilePage

end Unseen
