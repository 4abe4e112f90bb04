import Unseen.FileWorkers
import Unseen.FlowControl

namespace Unseen

/-!
# Completion of received files

A transfer to which all pieces of a file arrive, in order, completes.  Pieces,
the announcement of the digest and the reports of written pieces interleave in
any way the window allows: the worker gets every piece once and is finalized
once, after the last of these, and its report registers the attachment.
-/

open Files

variable {content : Bytes} {pieces : List Bytes}

/-! ## Pieces of a file -/

/-- The pieces as the receiver parses them. -/
def parsedChunks (tid : TransferId) (pieces : List Bytes) : List ParsedChunk :=
  pieces.mapIdx fun seq data => { tidHex := hexEncode tid.val, seq, data }

theorem computeTotalChunks_eq (size : Nat) :
    computeTotalChunks size = Segmentation.pieceCount chunkDataMaxBytes size :=
  rfl

/-- The shapes the receiver expects are those of the pieces. -/
theorem parsedChunks_shapes
    (segmentation : Segmentation.IsSegmentation chunkDataMaxBytes content pieces)
    (tid : TransferId) :
    (parsedChunks tid pieces).map ParsedChunk.shape =
      chunkShapes (hexEncode tid.val) content.length (computeTotalChunks content.length) := by
  unfold parsedChunks chunkShapes
  apply List.ext_getElem
  · simp [segmentation.length, computeTotalChunks_eq]
  · intro index inRange _
    simp only [List.length_map, List.length_mapIdx] at inRange
    simp only [List.getElem_map, List.getElem_mapIdx, List.getElem_range, ParsedChunk.shape]
    rw [segmentation.getElem_length inRange, expectedChunkLen_eq]
    rw [computeTotalChunks_eq, ← segmentation.length]
    exact inRange

/-- The chunk a transfer waits for has the shape of the piece at its position. -/
theorem isNextChunk_iff
    {state : ReceivingState}
    {chunk : ParsedChunk}
    (segmentation : Segmentation.IsSegmentation chunkDataMaxBytes content pieces)
    (isTid : state.tid = hexEncode tid.val)
    (isSize : state.expectedSize = content.length)
    (sameTid : chunk.tidHex = state.tid) :
    IsNextChunk state chunk ↔
      ((parsedChunks tid pieces)[state.nextExpectedSeq]?).map ParsedChunk.shape =
        some chunk.shape := by
  have shapes := parsedChunks_shapes segmentation tid
  have position : ((parsedChunks tid pieces)[state.nextExpectedSeq]?).map ParsedChunk.shape =
      (chunkShapes (hexEncode tid.val) content.length
        (computeTotalChunks content.length))[state.nextExpectedSeq]? := by
    rw [← shapes, List.getElem?_map]
  rw [position, ← isTid, ← isSize]
  unfold chunkShapes
  rw [List.getElem?_map]
  constructor
  · intro isNext
    have inRange : state.nextExpectedSeq < computeTotalChunks state.expectedSize :=
      isNext.seq ▸ isNext.inRange
    rw [List.getElem?_range inRange]
    simp only [Option.map_some, ParsedChunk.shape, sameTid, isNext.seq, isNext.length]
  · intro isShape
    obtain ⟨seq, isSeq, isChunk⟩ := Option.map_eq_some_iff.mp isShape
    obtain ⟨inRange, isPosition⟩ := List.getElem?_eq_some_iff.mp isSeq
    rw [List.length_range] at inRange
    rw [List.getElem_range] at isPosition
    subst isPosition
    simp only [ParsedChunk.shape, Prod.mk.injEq] at isChunk
    obtain ⟨_, isNumber, isLength⟩ := isChunk
    exact ⟨sameTid, isNumber.symm, isNumber ▸ inRange, by rw [← isLength, isNumber]⟩

theorem parsedChunks_pending (tid : TransferId) (pieces : List Bytes) :
    (parsedChunks tid pieces).map ParsedChunk.pending = numbered pieces := by
  unfold parsedChunks numbered
  apply List.ext_getElem
  · simp
  · intro index _ _
    simp [ParsedChunk.pending]

/-! ## Messages to a worker -/

/-- The messages that the notes post to a receive worker, in order. -/
def inbox (worker : Serial) (notes : List FileNote) : List ReceiveWorkerIn :=
  notes.filterMap fun note =>
    match note with
    | .posted target message => if target = worker then some message else none
    | _ => none

/-- The messages that some effects post to a receive worker, in order. -/
def postsTo (worker : Serial) (effects : List FileEffect) : List ReceiveWorkerIn :=
  effects.filterMap fun effect =>
    match effect with
    | .postToReceiveWorker target message => if target = worker then some message else none
    | _ => none

theorem inbox_append (worker : Serial) (first second : List FileNote) :
    inbox worker (first ++ second) = inbox worker first ++ inbox worker second :=
  List.filterMap_append

theorem postsTo_append (worker : Serial) (first second : List FileEffect) :
    postsTo worker (first ++ second) = postsTo worker first ++ postsTo worker second :=
  List.filterMap_append

@[simp]
theorem postsTo_self (worker : Serial) (message : ReceiveWorkerIn) :
    postsTo worker [.postToReceiveWorker worker message] = [message] := by
  simp [postsTo]

/-- Only its effects bring a step's messages to a worker. -/
theorem inbox_step (page : FilePage) (input : FileInput) (worker : Serial) :
    ∃ notes, (page.step input).history = page.history ++ notes ∧
      inbox worker notes = postsTo worker (page.segment input.env input.call).effects := by
  have noCalls : inbox worker (FilePage.callNotes page.files input.call) = [] := by
    apply List.filterMap_eq_nil_iff.mpr
    intro note isNote
    unfold FilePage.callNotes at isNote
    split at isNote
    · split at isNote <;> simp_all
    · split at isNote
      · split at isNote <;> simp_all
      · simp at isNote
    · simp_all
    · simp at isNote
  have noStart : inbox worker
      (FilePage.startNotes page.files (page.segment input.env input.call)) = [] := by
    unfold FilePage.startNotes
    split <;> rfl
  have isPosts : inbox worker
      ((page.segment input.env input.call).effects.filterMap FilePage.effectNote) =
        postsTo worker (page.segment input.env input.call).effects := by
    unfold inbox postsTo
    rw [List.filterMap_filterMap]
    congr 1
    funext effect
    cases effect <;> rfl
  refine ⟨FilePage.callNotes page.files input.call ++
    (FilePage.startNotes page.files (page.segment input.env input.call) ++
      (page.segment input.env input.call).effects.filterMap FilePage.effectNote), ?_, ?_⟩
  · rw [FilePage.step_history, List.append_assoc, List.append_assoc]
  · rw [inbox_append, inbox_append, noCalls, noStart, isPosts]
    rfl

/-! ## What is delivered to a transfer -/

/-- How many pieces arrived, whether the digest did, and which pieces were reported as written. -/
structure Delivery where
  arrived : Nat
  announced : Bool
  written : List Nat

/-- All pieces arrived, the digest did, and all pieces were reported as written. -/
def Delivery.All (delivery : Delivery) (pieces : List Bytes) : Prop :=
  delivery.arrived = pieces.length ∧
    delivery.announced = true ∧
    delivery.written.length = pieces.length

/-- The step leaves the transfer and its worker alone. -/
structure LeavesTransfer (page : FilePage) (input : FileInput) (worker : Serial) : Prop where
  incomingActive :
    (page.segment input.env input.call).incomingActive = page.files.incomingActive
  receiverCreated :
    (page.segment input.env input.call).receiverCreated = page.files.receiverCreated
  posts : postsTo worker (page.segment input.env input.call).effects = []

/--
A run from `start` in which the pieces arrive in order, as many at a time as the
window and the queue hold, the digest is announced after the last one, and
pieces that arrived are reported as written, each once.  Messages to the worker
are posted, and what else happens leaves the transfer alone.
-/
inductive Delivering
    (tid : TransferId)
    (pieces : List Bytes)
    (sha256 : Text)
    (worker : Serial)
    (start : FilePage) : FilePage → Delivery → Prop where
  | start :
      Delivering tid pieces sha256 worker start start
        { arrived := 0, announced := false, written := [] }
  | arrives {page : FilePage} {delivery : Delivery} {chunk : ParsedChunk} {env : FileEnv} :
      Delivering tid pieces sha256 worker start page delivery →
      (parsedChunks tid pieces)[delivery.arrived]? = some chunk →
      (delivery.arrived : Int) <
        delivery.written.length + recvInitialCredit + recvPendingHardCapChunks →
      env.postOk = true →
      Delivering tid pieces sha256 worker start (page.step ⟨.chunk chunk, env⟩)
        { delivery with arrived := delivery.arrived + 1 }
  | announces {page : FilePage} {delivery : Delivery} {env : FileEnv} :
      Delivering tid pieces sha256 worker start page delivery →
      delivery.arrived = pieces.length →
      Delivering tid pieces sha256 worker start
        (page.step ⟨.envelope (.fileComplete (hexEncode tid.val) sha256), env⟩)
        { delivery with announced := true }
  | writes {page : FilePage} {delivery : Delivery} {seq : Nat} {piece : Bytes} {env : FileEnv} :
      Delivering tid pieces sha256 worker start page delivery →
      seq < delivery.arrived →
      seq ∉ delivery.written →
      pieces[seq]? = some piece →
      env.postOk = true →
      Delivering tid pieces sha256 worker start
        (page.step ⟨.event (.receiveWorkerMessage worker (.written seq piece.length)), env⟩)
        { delivery with written := delivery.written ++ [seq] }
  | leaves {page : FilePage} {delivery : Delivery} {input : FileInput} :
      Delivering tid pieces sha256 worker start page delivery →
      LeavesTransfer page input worker →
      Delivering tid pieces sha256 worker start (page.step input) delivery

/--
A transfer of this id and size to which everything is delivered completes: its
worker gets the pieces and one finalize, and the report of the file it stored
registers and acknowledges the attachment.
-/
def CompletesPieces
    (digest : Bytes → Text)
    (tid : TransferId)
    (content : Bytes)
    (pieces : List Bytes) : Prop :=
  ∀ start page offer worker delivery,
    FilePage.machine.Reachable FilePage.Created EventMachine.Machine.anyStep start →
      start.files.receiverCreated = true →
      start.files.incomingActive = some (.receiving (startedTransfer offer worker)) →
      offer.tid = hexEncode tid.val →
      offer.size = content.length →
      Delivering tid pieces (digest content) worker start page delivery →
      delivery.All pieces →
        (∃ later, page.history = start.history ++ later ∧
          inbox worker later = feedMessages pieces ++ [.finalize]) ∧
        ∀ env,
          let done := page.step
            ⟨.event (.receiveWorkerMessage worker
              (.done (digest content) content.length content.length)), env⟩
          (offer.tid, .opfs offer.name content.length) ∈ done.files.attachmentMap ∧
            .sendEnvelope (.fileCompleteAck offer.tid) .discard ∈ done.out ∧
            done.files.incomingActive = none

/-! ## The transfer during the delivery -/

/-- The chunks as messages to the worker. -/
def chunkInbox (chunks : List PendingChunk) : List ReceiveWorkerIn :=
  chunks.map fun chunk => .chunk chunk.seq chunk.data

/-- The finalize that was posted, if it was. -/
def finalizeInbox (requested : Bool) : List ReceiveWorkerIn :=
  if requested then [.finalize] else []

/-- How far a transfer is whose worker was fed these chunks. -/
structure Delivered
    (pieces : List Bytes)
    (sha256 : Text)
    (offer : PendingOffer)
    (worker : Serial)
    (delivery : Delivery)
    (state : ReceivingState)
    (fed : List PendingChunk) : Prop where
  tid : state.tid = offer.tid
  name : state.name = offer.name
  size : state.expectedSize = offer.size
  worker : state.worker = worker
  seq : state.nextExpectedSeq = delivery.arrived
  inRange : delivery.arrived ≤ pieces.length
  received : state.networkReceivedBytes = (pieces.take delivery.arrived).flatten.length
  written : state.bytesWritten =
    (delivery.written.map fun seq => ((pieces[seq]?.map List.length).getD 0)).sum
  once : delivery.written.Nodup
  writtenInRange : ∀ seq ∈ delivery.written, seq < pieces.length
  delivered : fed ++ state.pendingChunkQueue = (numbered pieces).take delivery.arrived
  credit : (fed.length : Int) + state.receiveCredit =
    delivery.written.length + recvInitialCredit
  waits : 0 ≤ state.receiveCredit ∧ (state.pendingChunkQueue = [] ∨ state.receiveCredit = 0)
  announced : state.senderSha256 = if delivery.announced then some sha256 else none
  complete : delivery.announced = true → delivery.arrived = pieces.length
  requested : state.finalizeRequested = true →
    delivery.announced = true ∧ state.pendingChunkQueue = []

namespace Delivered

variable {sha256 : Text} {offer : PendingOffer} {worker : Serial} {delivery : Delivery}
  {state : ReceivingState} {fed : List PendingChunk}

theorem start :
    Delivered pieces sha256 offer worker { arrived := 0, announced := false, written := [] }
      (startedTransfer offer worker) [] where
  tid := rfl
  name := rfl
  size := rfl
  worker := rfl
  seq := rfl
  inRange := Nat.zero_le _
  received := rfl
  written := rfl
  once := List.nodup_nil
  writtenInRange := by simp
  delivered := rfl
  credit := rfl
  waits := ⟨Int.natCast_nonneg 4, .inl rfl⟩
  announced := rfl
  complete := by simp
  requested := by simp [startedTransfer]

/-- The queue of the transfer has room for a piece that the window and the queue hold. -/
theorem room
    (delivered : Delivered pieces sha256 offer worker delivery state fed)
    (holds : (delivery.arrived : Int) <
      delivery.written.length + recvInitialCredit + recvPendingHardCapChunks) :
    state.pendingChunkQueue.length < recvPendingHardCapChunks := by
  have count := congrArg List.length delivered.delivered
  have credit := delivered.credit
  rw [List.length_append, List.length_take] at count
  rcases delivered.waits.2 with empty | noCredit
  · rw [empty]
    decide
  · omega

/-- The piece that arrives next is the chunk that the transfer waits for. -/
theorem isNextChunk
    {tid : TransferId}
    {chunk : ParsedChunk}
    (segmentation : Segmentation.IsSegmentation chunkDataMaxBytes content pieces)
    (isTid : offer.tid = hexEncode tid.val)
    (isSize : offer.size = content.length)
    (delivered : Delivered pieces sha256 offer worker delivery state fed)
    (isChunk : (parsedChunks tid pieces)[delivery.arrived]? = some chunk) :
    IsNextChunk state chunk := by
  have isState : state.tid = hexEncode tid.val := delivered.tid.trans isTid
  have sameTid : chunk.tidHex = state.tid := by
    obtain ⟨inRange, rfl⟩ := List.getElem?_eq_some_iff.mp isChunk
    rw [isState]
    simp [parsedChunks]
  apply (isNextChunk_iff segmentation isState (delivered.size.trans isSize) sameTid).mpr
  rw [delivered.seq, isChunk]
  rfl

/-- The next piece arrives, and is posted or queued. -/
theorem taking
    {tid : TransferId}
    {chunk : ParsedChunk}
    (delivered : Delivered pieces sha256 offer worker delivery state fed)
    (isChunk : (parsedChunks tid pieces)[delivery.arrived]? = some chunk) :
    Delivered pieces sha256 offer worker { delivery with arrived := delivery.arrived + 1 }
      (state.taking chunk)
      (fed ++ if 0 < state.receiveCredit then [chunk.pending] else []) := by
  obtain ⟨inRange, isPiece⟩ := List.getElem?_eq_some_iff.mp isChunk
  have inRange : delivery.arrived < pieces.length := by simpa [parsedChunks] using inRange
  have isPending : (numbered pieces)[delivery.arrived]? = some chunk.pending := by
    rw [← parsedChunks_pending tid, List.getElem?_map, isChunk]
    rfl
  have isLength : pieces[delivery.arrived].length = chunk.data.length := by
    rw [← isPiece]
    simp [parsedChunks]
  have notComplete : delivery.announced ≠ true := fun announced =>
    Nat.ne_of_lt inRange (delivered.complete announced)
  have isTaken : (numbered pieces).take (delivery.arrived + 1) =
      fed ++ state.pendingChunkQueue ++ [chunk.pending] := by
    rw [List.take_add_one, isPending, delivered.delivered]
    rfl
  have isReceived : state.networkReceivedBytes + chunk.data.length =
      (pieces.take (delivery.arrived + 1)).flatten.length := by
    rw [List.take_add_one, List.getElem?_eq_getElem inRange, List.flatten_append,
      List.length_append, ← delivered.received, ← isLength]
    simp
  unfold ReceivingState.taking
  dsimp only
  split
  next credit =>
    have empty : state.pendingChunkQueue = [] := by
      rcases delivered.waits.2 with empty | noCredit
      · exact empty
      · omega
    exact
      { delivered with
        seq := congrArg (· + 1) delivered.seq
        inRange := inRange
        received := isReceived
        delivered := by
          rw [isTaken, empty, List.append_nil, List.append_nil]
        credit := by
          have credit := delivered.credit
          rw [List.length_append, List.length_singleton]
          dsimp only
          omega
        waits := ⟨by dsimp only; omega, .inl empty⟩
        complete := fun announced => absurd announced notComplete
        requested := fun requested => absurd (delivered.requested requested).1 notComplete }
  next noCredit =>
    exact
      { delivered with
        seq := congrArg (· + 1) delivered.seq
        inRange := inRange
        received := isReceived
        delivered := by
          rw [isTaken, List.append_nil, List.append_assoc]
        credit := by
          rw [List.append_nil]
          exact delivered.credit
        waits := ⟨delivered.waits.1, .inr (Int.le_antisymm (Int.not_lt.mp noCredit) delivered.waits.1)⟩
        complete := fun announced => absurd announced notComplete
        requested := fun requested => absurd (delivered.requested requested).1 notComplete }

/-- The digest is announced when all pieces have arrived. -/
theorem announce
    (delivered : Delivered pieces sha256 offer worker delivery state fed)
    (complete : delivery.arrived = pieces.length) :
    Delivered pieces sha256 offer worker { delivery with announced := true }
      { state with senderSha256 := some sha256 } fed :=
  { delivered with
    announced := rfl
    complete := fun _ => complete
    requested := fun requested => ⟨rfl, (delivered.requested requested).2⟩ }

/-- A piece is reported as written, and the one that waited longest is posted. -/
theorem acknowledging
    {seq : Nat}
    {piece : Bytes}
    (delivered : Delivered pieces sha256 offer worker delivery state fed)
    (notYet : seq ∉ delivery.written)
    (isPiece : pieces[seq]? = some piece) :
    Delivered pieces sha256 offer worker { delivery with written := delivery.written ++ [seq] }
      (state.acknowledging piece.length)
      (fed ++ state.pendingChunkQueue.head?.toList) := by
  have isWritten : state.bytesWritten + piece.length =
      ((delivery.written ++ [seq]).map fun seq =>
        ((pieces[seq]?.map List.length).getD 0)).sum := by
    rw [List.map_append, List.sum_append, ← delivered.written, List.map_singleton, isPiece]
    rfl
  have once : (delivery.written ++ [seq]).Nodup := by
    rw [List.nodup_append]
    refine ⟨delivered.once, List.pairwise_singleton _ seq, ?_⟩
    intro other isOther last isLast sameSeq
    rw [List.mem_singleton.mp isLast] at sameSeq
    exact notYet (sameSeq ▸ isOther)
  have writtenInRange : ∀ other ∈ delivery.written ++ [seq], other < pieces.length := by
    intro other isOther
    rcases List.mem_append.mp isOther with isEarlier | isLast
    · exact delivered.writtenInRange other isEarlier
    · rw [List.mem_singleton.mp isLast]
      exact (List.getElem?_eq_some_iff.mp isPiece).1
  have credit := delivered.credit
  unfold ReceivingState.acknowledging
  split
  next empty =>
    exact
      { delivered with
        written := isWritten
        once := once
        writtenInRange := writtenInRange
        delivered := by
          rw [empty]
          simpa [empty] using delivered.delivered
        credit := by
          rw [empty, List.length_append, List.length_append]
          simp
          omega
        waits := ⟨Int.le_trans delivered.waits.1 (Int.le_add_one (Int.le_refl _)), .inl empty⟩ }
  next next rest isQueue =>
    have noCredit : state.receiveCredit = 0 := by
      rcases delivered.waits.2 with empty | noCredit
      · rw [empty] at isQueue
        cases isQueue
      · exact noCredit
    exact
      { delivered with
        written := isWritten
        once := once
        writtenInRange := writtenInRange
        delivered := by
          rw [isQueue]
          simpa [isQueue] using delivered.delivered
        credit := by
          rw [isQueue, List.length_append, List.length_append]
          simp
          omega
        waits := ⟨delivered.waits.1, .inr noCredit⟩
        requested := by
          intro requested
          have empty := (delivered.requested requested).2
          rw [empty] at isQueue
          cases isQueue }

/-- The worker is finalized if it should be, and afterwards should not be any more. -/
theorem maybeFinalize
    (files : Files)
    (delivered : Delivered pieces sha256 offer worker delivery state fed) :
    let next := (files.maybeFinalize state).2
    Delivered pieces sha256 offer worker delivery next fed ∧
      shouldFinalize next = false ∧
      ∃ posted, postsTo worker (files.maybeFinalize state).1.effects =
          postsTo worker files.effects ++ posted ∧
        finalizeInbox next.finalizeRequested = finalizeInbox state.finalizeRequested ++ posted := by
  intro next
  have isNext : next = (files.maybeFinalize state).2 := rfl
  unfold Files.maybeFinalize at isNext ⊢
  split at isNext
  next should =>
    have fields := should
    simp only [shouldFinalize, Bool.and_eq_true, Bool.not_eq_true', List.isEmpty_iff,
      Option.isSome_iff_exists] at fields
    obtain ⟨⟨⟨notRequested, sha, isSha⟩, empty⟩, _⟩ := fields
    have announced : delivery.announced = true := by
      have isAnnounced := delivered.announced
      rw [isSha] at isAnnounced
      by_contra notAnnounced
      rw [if_neg notAnnounced] at isAnnounced
      cases isAnnounced
    rw [isNext, if_pos should]
    refine ⟨{ delivered with requested := fun _ => ⟨announced, empty⟩ }, by simp [shouldFinalize],
      [.finalize], ?_, ?_⟩
    · rw [← delivered.worker]
      exact (postsTo_append _ _ _).trans (congrArg _ (postsTo_self _ _))
    · rw [notRequested]
      rfl
  next shouldNot =>
    rw [isNext, if_neg shouldNot]
    exact ⟨delivered, Bool.not_eq_true _ ▸ shouldNot, [], (List.append_nil _).symm,
      (List.append_nil _).symm⟩

/-- Each piece, by its number. -/
theorem lengths_of_range (pieces : List Bytes) :
    ((List.range pieces.length).map fun seq => ((pieces[seq]?.map List.length).getD 0)) =
      pieces.map List.length := by
  apply List.ext_getElem
  · simp
  · intro index inRange _
    simp only [List.length_map, List.length_range] at inRange
    simp [inRange]

/-- When everything was delivered, the worker was fed the pieces and finalized. -/
theorem all
    (delivered : Delivered pieces sha256 offer worker delivery state fed)
    (settled : shouldFinalize state = false)
    (isSize : offer.size = pieces.flatten.length)
    (isAll : delivery.All pieces) :
    fed = numbered pieces ∧
      state.finalizeRequested = true ∧
      state.senderSha256 = some sha256 := by
  obtain ⟨allArrived, announced, allWritten⟩ := isAll
  have isNumbered : (numbered pieces).take delivery.arrived = numbered pieces := by
    rw [allArrived, List.take_of_length_le]
    simp [numbered]
  have isFed := delivered.delivered
  rw [isNumbered] at isFed
  have empty : state.pendingChunkQueue = [] := by
    rcases delivered.waits.2 with empty | noCredit
    · exact empty
    · have count := congrArg List.length isFed
      have credit := delivered.credit
      have isCredit : recvInitialCredit = 4 := rfl
      simp only [List.length_append, numbered, List.length_mapIdx] at count
      omega
  have isPerm : delivery.written.Perm (List.range pieces.length) := by
    apply List.Subperm.perm_of_length_le
    · apply List.subperm_of_subset delivered.once
      intro seq isWritten
      exact List.mem_range.mpr (delivered.writtenInRange seq isWritten)
    · rw [List.length_range, allWritten]
  have isWritten : state.bytesWritten = pieces.flatten.length := by
    rw [delivered.written, (isPerm.map _).sum_eq, lengths_of_range, List.length_flatten]
  have isSha : state.senderSha256 = some sha256 := by
    rw [delivered.announced, if_pos announced]
  rw [empty, List.append_nil] at isFed
  refine ⟨isFed, ?_, isSha⟩
  by_contra notRequested
  have notRequested : state.finalizeRequested = false := Bool.not_eq_true _ ▸ notRequested
  have should : shouldFinalize state = true := by
    simp [shouldFinalize, notRequested, isSha, empty, delivered.size, isSize, isWritten]
  rw [settled] at should
  cases should

end Delivered

/-! ## Segments of the delivery -/

section

variable {files : Files} {state : ReceivingState} {env : FileEnv}

/-- A transfer with room takes the chunk that it waits for. -/
theorem receiveChunk_taking
    {chunk : ParsedChunk}
    (isActive : files.incomingActive = some (.receiving state))
    (isNext : IsNextChunk state chunk)
    (room : state.pendingChunkQueue.length < recvPendingHardCapChunks)
    (postOk : env.postOk = true) :
    (files.receiveChunk env chunk).incomingActive = some (.receiving (state.taking chunk)) ∧
      (files.receiveChunk env chunk).receiverCreated = files.receiverCreated ∧
      postsTo state.worker (files.receiveChunk env chunk).effects =
        postsTo state.worker files.effects ++
          chunkInbox (if 0 < state.receiveCredit then [chunk.pending] else []) := by
  have isReceiving : files.getReceivingState = some state := by
    unfold getReceivingState
    rw [isActive]
  have checked : ¬ (chunk.seq ≠ state.nextExpectedSeq ∨
      computeTotalChunks state.expectedSize ≤ chunk.seq ∨
      chunk.data.length ≠
        expectedChunkLen state.expectedSize chunk.seq
          (computeTotalChunks state.expectedSize)) := by
    rintro (otherSeq | outOfRange | otherLength)
    · exact otherSeq isNext.seq
    · exact absurd isNext.inRange (Nat.not_lt.mpr outOfRange)
    · exact otherLength isNext.length
  have clears : ∀ cleared, cleared = (if chunk.seq = 0 then files.clearStallTimer else files) →
      cleared.receiverCreated = files.receiverCreated ∧ cleared.effects = files.effects := by
    rintro cleared rfl
    unfold clearStallTimer
    split
    · split <;> exact ⟨rfl, rfl⟩
    · exact ⟨rfl, rfl⟩
  unfold receiveChunk ReceivingState.taking
  rw [isReceiving]
  dsimp only
  rw [if_neg (not_not.mpr isNext.tid), if_neg checked, if_neg (Nat.not_le.mpr room)]
  generalize isCleared : (if chunk.seq = 0 then files.clearStallTimer else files) = cleared
  obtain ⟨sameCreated, sameEffects⟩ := clears cleared isCleared.symm
  split
  next credit =>
    refine ⟨rfl, sameCreated, ?_⟩
    change postsTo state.worker (cleared.effects ++ [_]) = _
    rw [postsTo_append, sameEffects, postsTo_self]
    rfl
  next noCredit =>
    refine ⟨rfl, sameCreated, ?_⟩
    change postsTo state.worker cleared.effects = _
    rw [sameEffects]
    exact (List.append_nil _).symm

theorem maybeSendProgress_posts
    (files : Files)
    (env : FileEnv)
    (state : ReceivingState)
    (worker : Serial) :
    (files.maybeSendProgress env state).incomingActive = files.incomingActive ∧
      (files.maybeSendProgress env state).receiverCreated = files.receiverCreated ∧
      postsTo worker (files.maybeSendProgress env state).effects =
        postsTo worker files.effects := by
  unfold Files.maybeSendProgress
  split
  · exact ⟨rfl, rfl, rfl⟩
  · split
    · exact ⟨rfl, rfl, rfl⟩
    · exact ⟨rfl, rfl, (postsTo_append _ _ _).trans (List.append_nil _)⟩

theorem maybeFinalize_keeps (files : Files) (state : ReceivingState) :
    (files.maybeFinalize state).1.incomingActive = files.incomingActive ∧
      (files.maybeFinalize state).1.receiverCreated = files.receiverCreated := by
  unfold Files.maybeFinalize
  split <;> exact ⟨rfl, rfl⟩

/-- A notification during a transfer stores the transfer. -/
theorem notifyReceiveProgress_keeps
    (state : ReceivingState)
    (isBusy : files.incomingActive.isSome = true) :
    (files.notifyReceiveProgress state).incomingActive = some (.receiving state) ∧
      (files.notifyReceiveProgress state).receiverCreated = files.receiverCreated := by
  unfold Files.notifyReceiveProgress
  dsimp only
  split <;> exact ⟨rfl, rfl⟩

/-- A report posts the chunk that waited longest, and goes on with the acknowledged transfer. -/
theorem handleWorkerWritten_posts
    (files : Files)
    (state : ReceivingState)
    (bytes : Nat)
    (postOk : env.postOk = true) :
    ∃ posted : Files,
      posted.incomingActive = files.incomingActive ∧
        posted.receiverCreated = files.receiverCreated ∧
        postsTo state.worker posted.effects =
          postsTo state.worker files.effects ++
            chunkInbox state.pendingChunkQueue.head?.toList ∧
        files.handleWorkerWritten env state bytes =
          let settled := (posted.maybeSendProgress env (state.acknowledging bytes)).maybeFinalize
            (state.acknowledging bytes)
          settled.1.notifyReceiveProgress settled.2 := by
  unfold Files.handleWorkerWritten ReceivingState.acknowledging
  dsimp only
  cases isQueue : state.pendingChunkQueue with
  | nil => exact ⟨files, rfl, rfl, (List.append_nil _).symm, rfl⟩
  | cons next rest =>
      refine ⟨files.emit (.postToReceiveWorker state.worker (.chunk next.seq next.data)),
        rfl, rfl, ?_, ?_⟩
      · exact (postsTo_append _ _ _).trans (congrArg _ (postsTo_self _ _))
      · unfold Files.postChunkToWorker
        dsimp only
        rw [if_pos postOk, Int.add_sub_cancel]

end

/-! ## Steps of the delivery -/

/-- The page receives the transfer as far as it was delivered. -/
structure InDelivery
    (pieces : List Bytes)
    (sha256 : Text)
    (offer : PendingOffer)
    (worker : Serial)
    (start page : FilePage)
    (delivery : Delivery) : Prop where
  quiet : page.files.effects = []
  created : page.files.receiverCreated = true
  delivered : ∃ state fed later,
    page.files.incomingActive = some (.receiving state) ∧
      page.history = start.history ++ later ∧
      inbox worker later = chunkInbox fed ++ finalizeInbox state.finalizeRequested ∧
      shouldFinalize state = false ∧
      Delivered pieces sha256 offer worker delivery state fed

section

variable {tid : TransferId} {sha256 : Text} {offer : PendingOffer} {worker : Serial}
  {start page : FilePage} {delivery : Delivery} {state : ReceivingState}
  {fed : List PendingChunk} {later : List FileNote} {input : FileInput}

/-- A step owes the next state of the transfer and the messages that lead to it. -/
theorem InDelivery.step
    {next : Delivery}
    {moved : ReceivingState}
    {movedFed : List PendingChunk}
    (isHistory : page.history = start.history ++ later)
    (isInbox : inbox worker later = chunkInbox fed ++ finalizeInbox state.finalizeRequested)
    (created : (page.segment input.env input.call).receiverCreated = true)
    (isMoved :
      (page.segment input.env input.call).incomingActive = some (.receiving moved))
    (delivered : Delivered pieces sha256 offer worker next moved movedFed)
    (settled : shouldFinalize moved = false)
    (posts :
      chunkInbox fed ++ finalizeInbox state.finalizeRequested ++
          postsTo worker (page.segment input.env input.call).effects =
        chunkInbox movedFed ++ finalizeInbox moved.finalizeRequested) :
    InDelivery pieces sha256 offer worker start (page.step input) next := by
  obtain ⟨notes, isNext, isPosts⟩ := inbox_step page input worker
  refine ⟨rfl, created, moved, movedFed, later ++ notes, isMoved, ?_, ?_, settled, delivered⟩
  · rw [isNext, isHistory, List.append_assoc]
  · rw [inbox_append, isInbox, isPosts, posts]

theorem InDelivery.arrives
    {chunk : ParsedChunk}
    {env : FileEnv}
    (segmentation : Segmentation.IsSegmentation chunkDataMaxBytes content pieces)
    (isTid : offer.tid = hexEncode tid.val)
    (isSize : offer.size = content.length)
    (inDelivery : InDelivery pieces sha256 offer worker start page delivery)
    (isChunk : (parsedChunks tid pieces)[delivery.arrived]? = some chunk)
    (holds : (delivery.arrived : Int) <
      delivery.written.length + recvInitialCredit + recvPendingHardCapChunks)
    (postOk : env.postOk = true) :
    InDelivery pieces sha256 offer worker start (page.step ⟨.chunk chunk, env⟩)
      { delivery with arrived := delivery.arrived + 1 } := by
  obtain ⟨quiet, created, state, fed, later, isActive, isHistory, isInbox, settled, delivered⟩ :=
    inDelivery
  have isSegment : page.segment env (.chunk chunk) = page.files.receiveChunk env chunk := by
    change (if page.files.receiverCreated then _ else _) = _
    rw [created]
    rfl
  obtain ⟨isTaken, sameCreated, posts⟩ := receiveChunk_taking isActive
    (delivered.isNextChunk segmentation isTid isSize isChunk) (delivered.room holds) postOk
  have taken := delivered.taking isChunk
  have notAnnounced : delivery.announced = false := by
    by_contra announced
    have complete := delivered.complete (by simpa using announced)
    have inRange := (List.getElem?_eq_some_iff.mp isChunk).1
    simp only [parsedChunks, List.length_mapIdx] at inRange
    omega
  have notRequested : state.finalizeRequested = false := by
    by_contra requested
    have announced := (delivered.requested (by simpa using requested)).1
    rw [notAnnounced] at announced
    cases announced
  have sameRequest : (state.taking chunk).finalizeRequested = state.finalizeRequested ∧
      (state.taking chunk).senderSha256 = state.senderSha256 := by
    unfold ReceivingState.taking
    dsimp only
    split <;> exact ⟨rfl, rfl⟩
  refine .step isHistory isInbox ?_ ?_ taken ?_ ?_
  · rw [isSegment, sameCreated, created]
  · rw [isSegment, isTaken]
  · have noDigest : state.senderSha256 = none := by
      rw [delivered.announced, notAnnounced]
      rfl
    simp [shouldFinalize, sameRequest.2, noDigest]
  · rw [isSegment, sameRequest.1, notRequested, ← delivered.worker, posts, quiet]
    simp [chunkInbox, finalizeInbox, postsTo]

theorem InDelivery.announces
    {env : FileEnv}
    (isTid : offer.tid = hexEncode tid.val)
    (isSize : offer.size = pieces.flatten.length)
    (inDelivery : InDelivery pieces sha256 offer worker start page delivery)
    (complete : delivery.arrived = pieces.length) :
    InDelivery pieces sha256 offer worker start
      (page.step ⟨.envelope (.fileComplete (hexEncode tid.val) sha256), env⟩)
      { delivery with announced := true } := by
  obtain ⟨quiet, created, state, fed, later, isActive, isHistory, isInbox, settled, delivered⟩ :=
    inDelivery
  have isReceiving : page.files.getReceivingState = some state := by
    unfold getReceivingState
    rw [isActive]
  have holdsAll : ¬ state.networkReceivedBytes < state.expectedSize := by
    rw [delivered.received, complete, List.take_length, delivered.size, isSize]
    exact Nat.lt_irrefl _
  have sameTid : state.tid = hexEncode tid.val := delivered.tid.trans isTid
  have isSegment : page.segment env (.envelope (.fileComplete (hexEncode tid.val) sha256)) =
      let finalized := page.files.maybeFinalize { state with senderSha256 := some sha256 }
      { finalized.1 with incomingActive := some (.receiving finalized.2) } := by
    change (if page.files.receiverCreated then _ else _) = _
    rw [created]
    change page.files.dispatchComplete (hexEncode tid.val) sha256 = _
    unfold dispatchComplete
    rw [isReceiving]
    dsimp only
    rw [if_neg (not_not.mpr sameTid), if_neg holdsAll]
  obtain ⟨finalized, settled, posted, posts, isFinalize⟩ :=
    (delivered.announce complete).maybeFinalize page.files
  refine .step isHistory isInbox ?_ ?_ finalized settled ?_
  · rw [isSegment]
    exact (maybeFinalize_keeps _ _).2.trans created
  · rw [isSegment]
  · rw [isSegment, isFinalize, ← List.append_assoc]
    dsimp only
    rw [posts, quiet]
    rfl

theorem InDelivery.writes
    {seq : Nat}
    {piece : Bytes}
    {env : FileEnv}
    (inDelivery : InDelivery pieces sha256 offer worker start page delivery)
    (notYet : seq ∉ delivery.written)
    (isPiece : pieces[seq]? = some piece)
    (postOk : env.postOk = true) :
    InDelivery pieces sha256 offer worker start
      (page.step ⟨.event (.receiveWorkerMessage worker (.written seq piece.length)), env⟩)
      { delivery with written := delivery.written ++ [seq] } := by
  obtain ⟨quiet, created, state, fed, later, isActive, isHistory, isInbox, settled, delivered⟩ :=
    inDelivery
  have isSegment :
      page.segment env (.event (.receiveWorkerMessage worker (.written seq piece.length))) =
        page.files.handleWorkerWritten env state piece.length := by
    change page.files.handleReceiveWorkerMessage env (.written seq piece.length) worker = _
    unfold handleReceiveWorkerMessage getReceivingState
    rw [isActive]
    exact if_neg (not_not.mpr delivered.worker)
  obtain ⟨posted, sameActive, sameCreated, posts, isWritten⟩ :=
    handleWorkerWritten_posts page.files state piece.length postOk
  obtain ⟨progressActive, progressCreated, progressPosts⟩ := maybeSendProgress_posts
    posted env (state.acknowledging piece.length) worker
  obtain ⟨finalized, settledNext, finalizePosts, isPosts, isFinalize⟩ :=
    (delivered.acknowledging notYet isPiece).maybeFinalize
      (posted.maybeSendProgress env (state.acknowledging piece.length))
  obtain ⟨finalizedActive, finalizedCreated⟩ := maybeFinalize_keeps
    (posted.maybeSendProgress env (state.acknowledging piece.length))
    (state.acknowledging piece.length)
  have isBusy : ((posted.maybeSendProgress env (state.acknowledging piece.length)).maybeFinalize
      (state.acknowledging piece.length)).1.incomingActive.isSome = true := by
    rw [finalizedActive, progressActive, sameActive, isActive]
    rfl
  obtain ⟨stored, storedCreated⟩ := notifyReceiveProgress_keeps
    ((posted.maybeSendProgress env (state.acknowledging piece.length)).maybeFinalize
      (state.acknowledging piece.length)).2 isBusy
  have sameRequest :
      (state.acknowledging piece.length).finalizeRequested = state.finalizeRequested := by
    unfold ReceivingState.acknowledging
    split <;> rfl
  have inOrder : finalizeInbox state.finalizeRequested ++
        chunkInbox state.pendingChunkQueue.head?.toList =
      chunkInbox state.pendingChunkQueue.head?.toList ++
        finalizeInbox state.finalizeRequested := by
    cases isRequested : state.finalizeRequested with
    | false => exact (List.append_nil _).symm
    | true =>
        rw [(delivered.requested isRequested).2]
        rfl
  refine .step isHistory isInbox ?_ ?_ finalized settledNext ?_
  · rw [isSegment, isWritten]
    exact storedCreated.trans (finalizedCreated.trans (progressCreated.trans
      (sameCreated.trans created)))
  · rw [isSegment, isWritten]
    exact stored
  · rw [isSegment, isWritten]
    dsimp only
    rw [(notifyReceiveProgress_spec _ _).2.1, isPosts, progressPosts, ← delivered.worker, posts,
      quiet, isFinalize, sameRequest]
    change _ ++ _ ++ (([] : List ReceiveWorkerIn) ++ _ ++ _) = _
    rw [List.nil_append, ← List.append_assoc, List.append_assoc _ _ (chunkInbox _), inOrder]
    simp [chunkInbox]

theorem InDelivery.leaves
    (inDelivery : InDelivery pieces sha256 offer worker start page delivery)
    (leaves : LeavesTransfer page input worker) :
    InDelivery pieces sha256 offer worker start (page.step input) delivery := by
  obtain ⟨quiet, created, state, fed, later, isActive, isHistory, isInbox, settled, delivered⟩ :=
    inDelivery
  refine .step isHistory isInbox ?_ ?_ delivered settled ?_
  · exact leaves.receiverCreated.trans created
  · exact leaves.incomingActive.trans isActive
  · rw [leaves.posts, List.append_nil]

theorem inDelivery_of_delivering
    (segmentation : Segmentation.IsSegmentation chunkDataMaxBytes content pieces)
    (isTid : offer.tid = hexEncode tid.val)
    (isSize : offer.size = content.length)
    (isStart : InDelivery pieces sha256 offer worker start start
      { arrived := 0, announced := false, written := [] })
    (delivering : Delivering tid pieces sha256 worker start page delivery) :
    InDelivery pieces sha256 offer worker start page delivery := by
  have isTotal : offer.size = pieces.flatten.length := by rw [isSize, segmentation.join]
  induction delivering with
  | start => exact isStart
  | arrives _ isChunk holds postOk inductionHypothesis =>
      exact inductionHypothesis.arrives segmentation isTid isSize isChunk holds postOk
  | announces _ complete inductionHypothesis =>
      exact inductionHypothesis.announces isTid isTotal complete
  | writes _ _ notYet isPiece postOk inductionHypothesis =>
      exact inductionHypothesis.writes notYet isPiece postOk
  | leaves _ leaves inductionHypothesis => exact inductionHypothesis.leaves leaves

/-- The report of a transfer that fits registers the attachment and acknowledges it. -/
theorem step_done
    {env : FileEnv}
    (isActive : page.files.incomingActive = some (.receiving state))
    (isSha : state.senderSha256 = some sha256) :
    let done := page.step
      ⟨.event (.receiveWorkerMessage state.worker
        (.done sha256 state.expectedSize state.expectedSize)), env⟩
    (state.tid, .opfs state.name state.expectedSize) ∈ done.files.attachmentMap ∧
      .sendEnvelope (.fileCompleteAck state.tid) .discard ∈ done.out ∧
      done.files.incomingActive = none := by
  intro done
  have isSegment :
      page.segment env (.event (.receiveWorkerMessage state.worker
          (.done sha256 state.expectedSize state.expectedSize))) =
        page.files.handleWorkerDone state sha256 state.expectedSize state.expectedSize := by
    change page.files.handleReceiveWorkerMessage env
      (.done sha256 state.expectedSize state.expectedSize) state.worker = _
    unfold handleReceiveWorkerMessage getReceivingState
    rw [isActive]
    exact if_neg (not_not.mpr rfl)
  unfold handleWorkerDone at isSegment
  rw [if_pos ⟨isSha, rfl, rfl⟩] at isSegment
  refine ⟨?_, ?_, ?_⟩
  · change _ ∈ (page.segment env _).attachmentMap
    rw [isSegment]
    change _ ∈ (Files.resetTransferLocals _).attachmentMap
    rw [resetTransferLocals_attachmentMap]
    exact List.mem_append_right _ List.mem_cons_self
  · change _ ∈ (page.segment env _).effects
    rw [isSegment]
    exact List.mem_append_right _ List.mem_cons_self
  · change (page.segment env _).incomingActive = _
    rw [isSegment]
    exact resetTransferLocals_incomingActive _

theorem completesPieces
    (segmentation : Segmentation.IsSegmentation chunkDataMaxBytes content pieces)
    (digest : Bytes → Text)
    (tid : TransferId) :
    CompletesPieces digest tid content pieces := by
  intro start page offer worker delivery reachable created isStarted isTid isSize delivering isAll
  have isStart : InDelivery pieces (digest content) offer worker start start
      { arrived := 0, announced := false, written := [] } :=
    ⟨(FilePage.sound_of_reachable reachable).quiet, created, _, [], [], isStarted,
      (List.append_nil _).symm, rfl, rfl, .start⟩
  obtain ⟨_, _, state, fed, later, isActive, isHistory, isInbox, settled, delivered⟩ :=
    inDelivery_of_delivering segmentation isTid isSize isStart delivering
  obtain ⟨isFed, isRequested, isSha⟩ :=
    delivered.all settled (by rw [isSize, segmentation.join]) isAll
  refine ⟨⟨later, isHistory, ?_⟩, ?_⟩
  · rw [isInbox, isFed, isRequested]
    rfl
  · intro env
    rw [← delivered.worker, ← delivered.tid, ← delivered.name, ← isSize, ← delivered.size]
    exact step_done isActive isSha

/-- A file of one byte is delivered, its digest announced before the report of the piece. -/
example :
    ∃ page delivery,
      Delivering ⟨List.replicate 8 0xaa, rfl⟩ [[7]] [0x64] 2
        (FilePage.machine.run FilePage.Sample.newPage (FilePage.Sample.receiving.take 4))
        page delivery ∧
      delivery.All [[7]] :=
  let env := (FilePage.Sample.call .acceptOffer).env
  have posts : env.postOk = true := rfl
  ⟨_, _,
    .writes (@Delivering.announces _ _ _ _ _ _ _ env (.arrives .start rfl (by decide) posts) rfl)
      Nat.zero_lt_one List.not_mem_nil rfl posts,
    rfl, rfl, rfl⟩

end

end Unseen
