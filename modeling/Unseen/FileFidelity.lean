import Unseen.FileCompletion

namespace Unseen

/-!
# Fidelity of file transfers

The sender cuts a file by carrying a tail from read to read; the receiver
computes the length of each chunk from its number.  The two agree on every
content and for every way the browser delivers it, and the receive worker
writes back what was cut.
-/

open Files

variable {digest : Bytes → Text} {tid : TransferId} {content : Bytes}
  {segments pieces : List Bytes} {page : FilePage}

/-- What the send worker posts, whatever its reads deliver and its credits allow. -/
def SendsPieces
    (digest : Bytes → Text)
    (tid : TransferId)
    (content : Bytes)
    (segments pieces : List Bytes) : Prop :=
  ∀ credit inputs,
    (SendWorker.machine digest).Legal SendWorker.Undisturbed
        (SendWorker.init tid segments credit) inputs →
      let worker := (SendWorker.machine digest).run (SendWorker.init tid segments credit) inputs
      (worker.stage = .closed →
          worker.chunks = SendWorker.chunksOf tid pieces ∧
            .final (digest content) ∈ worker.posted) ∧
        (segments.length < inputs.count .read → pieces.length ≤ credit + inputs.count .pull →
          worker.stage = .closed)

/-- The receiver parses each posted chunk as the piece it was built from. -/
def ParsesPieces (tid : TransferId) (pieces : List Bytes) : Prop :=
  (SendWorker.chunksOf tid pieces).map (fun chunk => parseChunkPlaintext chunk.2) =
    (parsedChunks tid pieces).map some

/-- The page is receiving a transfer of this id and size. -/
def IsReceiving (page : FilePage) (tid : TransferId) (size : Nat) (state : ReceivingState) : Prop :=
  page.files.incomingActive = some (.receiving state) ∧
    state.tid = hexEncode tid.val ∧ state.expectedSize = size

/-- The state of the transfer after a step, if it goes on. -/
def GoesOn (page : FilePage) (input : FileInput) (next : ReceivingState) : Prop :=
  (page.step input).files.incomingActive = some (.receiving next)

/--
With room in its queue and a worker to reach, the receiver accepts a chunk
exactly if it has the shape of the next piece, and the completion exactly if
there is no next piece.
-/
def AcceptsPieces (tid : TransferId) (content : Bytes) (pieces : List Bytes) : Prop :=
  ∀ page state env,
    FilePage.machine.Reachable FilePage.Created EventMachine.Machine.anyStep page →
      page.files.receiverCreated = true →
      IsReceiving page tid content.length state →
      (state.pendingChunkQueue.length < recvPendingHardCapChunks → env.postOk = true →
        ∀ chunk, chunk.tidHex = state.tid →
          ((∃ next, GoesOn page ⟨.chunk chunk, env⟩ next ∧
              next.nextExpectedSeq = state.nextExpectedSeq + 1) ↔
            ((parsedChunks tid pieces)[state.nextExpectedSeq]?).map ParsedChunk.shape =
              some chunk.shape)) ∧
        ∀ sha256,
          (∃ next, GoesOn page ⟨.envelope (.fileComplete state.tid sha256), env⟩ next) ↔
            state.nextExpectedSeq = pieces.length

/-- A receive worker on which nothing fails, fed the pieces and finalized. -/
def fedWorker (digest : Bytes → Text) (pieces : List Bytes) : ReceiveWorker :=
  ReceiveWorker.ready.run digest
    ((feedMessages pieces ++ [ReceiveWorkerIn.finalize]).map fun message =>
      (message, ReceiveWorker.healthy))

/--
A worker that is fed the pieces and finalized reports the content.  So does, if
it reports anything, the worker of a page to which the pieces arrived.
-/
structure StoresPieces
    (digest : Bytes → Text)
    (tid : TransferId)
    (content : Bytes)
    (pieces : List Bytes) : Prop where
  stored : (fedWorker digest pieces).file = content
  reported :
    .done (digest content) content.length content.length ∈ (fedWorker digest pieces).posted
  received : ∀ page state earlier offer later,
    FilePage.machine.Reachable FilePage.Created EventMachine.Machine.anyStep page →
      IsReceiving page tid content.length state →
      page.history = earlier ++ .started offer state.worker :: later →
      (∀ other worker, FileNote.started other worker ∉ later) →
      arrivals later = parsedChunks tid pieces →
      ∀ inputs, inputs.map Prod.fst = inbox state.worker later →
        ∀ sha256 bytesWritten fileSize,
          .done sha256 bytesWritten fileSize ∈ (ReceiveWorker.ready.run digest inputs).posted →
            (ReceiveWorker.ready.run digest inputs).file = content ∧
              sha256 = digest content ∧
              bytesWritten = content.length ∧ fileSize = content.length

/-- A transfer of this id and size completes only if chunks of these shapes arrived. -/
def RefusesOthers (tid : TransferId) (content : Bytes) (pieces : List Bytes) : Prop :=
  ∀ page input,
    FilePage.machine.Reachable FilePage.Created EventMachine.Machine.anyStep page →
      FilePage.machine.enabled page input →
      page.Registers input (hexEncode tid.val) →
      ∃ earlier offer worker later,
        page.history = earlier ++ .started offer worker :: later ∧
          (∀ other otherWorker, FileNote.started other otherWorker ∉ later) ∧
          offer.tid = hexEncode tid.val ∧
          (offer.size = content.length →
            (arrivals later).map ParsedChunk.shape =
              (parsedChunks tid pieces).map ParsedChunk.shape)

/-! ## Chunks on the wire -/

/-- A chunk of which the number fits four bytes is parsed as it was built. -/
theorem parse_buildChunkPlaintext
    {seq : Nat}
    (fits : seq < 256 ^ 4)
    (tid : TransferId)
    (data : Bytes) :
    parseChunkPlaintext (buildChunkPlaintext tid seq data) =
      some { tidHex := hexEncode tid.val, seq, data } := by
  have tidLength : tid.val.length = tidBytes := tid.property
  have seqLength : (littleEndian 4 seq).length = 4 := length_littleEndian 4 seq
  have isHeader : (tid.val ++ littleEndian 4 seq).length = chunkHeaderBytes := by
    rw [List.length_append, tidLength, seqLength]
    rfl
  unfold parseChunkPlaintext buildChunkPlaintext
  rw [if_neg (by rw [List.length_append, isHeader]; omega)]
  congr 2
  · rw [List.append_assoc, List.take_left' tidLength]
  · rw [List.append_assoc, List.drop_left' tidLength, List.take_left' seqLength,
      fromLittleEndian_littleEndian fits]
  · rw [List.drop_left' isHeader]

theorem parsesPieces
    (segmentation : Segmentation.IsSegmentation chunkDataMaxBytes content pieces)
    (fits : content.length ≤ maxFileSizeBytes)
    (tid : TransferId) :
    ParsesPieces tid pieces := by
  have countFits : pieces.length ≤ 256 ^ 4 := by
    have isLimit : chunkDataMaxBytes = 8692 := rfl
    have isMax : maxFileSizeBytes = 104857600 := rfl
    rw [isMax] at fits
    rw [segmentation.length, Segmentation.pieceCount, isLimit]
    omega
  unfold ParsesPieces SendWorker.chunksOf parsedChunks
  apply List.ext_getElem
  · simp
  · intro index inRange _
    simp only [List.length_map, List.length_mapIdx] at inRange
    simp only [List.getElem_map, List.getElem_mapIdx]
    exact parse_buildChunkPlaintext (Nat.lt_of_lt_of_le inRange countFits) tid _

/-! ## Sending -/

theorem sendsPieces
    (segmentation : Segmentation.IsSegmentation chunkDataMaxBytes content pieces)
    (join : segments.flatten = content)
    (digest : Bytes → Text)
    (tid : TransferId) :
    SendsPieces digest tid content segments pieces := by
  intro credit inputs legal worker
  constructor
  · intro isClosed
    obtain ⟨sentPieces, sent, stageHolds⟩ :=
      SendWorker.streams_of_run (SendWorker.streams_of_init tid credit join) legal
    have isClosed : ((SendWorker.machine digest).run
        (SendWorker.init tid segments credit) inputs).stage = .closed := isClosed
    rw [isClosed] at stageHolds
    obtain ⟨sentSegmentation, isFinal⟩ := stageHolds
    have samePieces : sentPieces = pieces :=
      List.eq_iff_flatten_eq.mpr ⟨sentSegmentation.join.trans segmentation.join.symm,
        sentSegmentation.lengths.trans segmentation.lengths.symm⟩
    have sameTid : worker.tid = tid := SendWorker.run_tid inputs
    rw [← samePieces, ← sameTid]
    exact ⟨sent.chunks, isFinal⟩
  · intro allRead enoughCredit
    rw [segmentation.length] at enoughCredit
    exact SendWorker.closed_of_run join legal allRead enoughCredit

/-! ## Accepting -/

/-- Shapes of all pieces carry exactly the size of the file. -/
theorem received_iff_complete
    {history : List FileNote}
    {state : ReceivingState}
    (underway : Underway history state) :
    state.expectedSize ≤ state.networkReceivedBytes ↔
      state.nextExpectedSeq = computeTotalChunks state.expectedSize := by
  obtain ⟨earlier, offer, later, _, _, progress⟩ := underway
  constructor
  · exact progress.complete
  · intro isCount
    rw [progress.received, sum_of_shapes progress.inRange progress.arrived,
      Segmentation.sum_pieceLength, isCount]
    have holdsAll : state.expectedSize ≤
        computeTotalChunks state.expectedSize * chunkDataMaxBytes :=
      Segmentation.pieceCount_mul_ge (by decide)
    omega

theorem acceptsPieces
    (segmentation : Segmentation.IsSegmentation chunkDataMaxBytes content pieces)
    (tid : TransferId) :
    AcceptsPieces tid content pieces := by
  intro page state env reachable created ⟨isActive, isTid, isSize⟩
  have sound := FilePage.sound_of_reachable reachable
  constructor
  · intro room postOk chunk sameTid
    have isSegment : page.segment env (.chunk chunk) = page.files.receiveChunk env chunk := by
      change (if page.files.receiverCreated then _ else _) = _
      rw [created]
      rfl
    rw [← isNextChunk_iff segmentation isTid isSize sameTid]
    constructor
    · rintro ⟨next, goesOn, isNextSeq⟩
      change (page.segment env (.chunk chunk)).incomingActive = _ at goesOn
      rw [isSegment] at goesOn
      rcases receiveChunk_spec page.files env chunk with
        ⟨_, otherTid⟩ | ⟨_, ended⟩ | ⟨active, _, isActive', isNext, _⟩
      · have isReceiving : page.files.getReceivingState = some state := by
          unfold getReceivingState
          rw [isActive]
        exact absurd sameTid (otherTid state isReceiving)
      · rw [ended] at goesOn
        cases goesOn
      · rw [isActive] at isActive'
        cases isActive'
        exact isNext
    · intro isNext
      obtain ⟨goesOn, _, _⟩ := receiveChunk_taking isActive isNext room postOk
      rw [← isSegment] at goesOn
      exact ⟨_, goesOn, (taking_counts state chunk).2.2.1⟩
  · intro sha256
    have isSegment : page.segment env (.envelope (.fileComplete state.tid sha256)) =
        page.files.dispatchComplete state.tid sha256 := by
      change (if page.files.receiverCreated then _ else _) = _
      rw [created]
      rfl
    have isReceiving : page.files.getReceivingState = some state := by
      unfold getReceivingState
      rw [isActive]
    rw [segmentation.length, ← computeTotalChunks_eq, ← isSize,
      ← received_iff_complete (sound.receiving state isActive).2]
    constructor
    · rintro ⟨next, goesOn⟩
      by_contra fewer
      change (page.segment env _).incomingActive = _ at goesOn
      rw [isSegment] at goesOn
      unfold dispatchComplete at goesOn
      rw [isReceiving] at goesOn
      dsimp only at goesOn
      rw [if_neg (not_not.mpr rfl), if_pos (Nat.lt_of_not_le fewer),
        integrityFailureAbort_incomingActive] at goesOn
      cases goesOn
    · intro holdsAll
      refine ⟨(page.files.maybeFinalize { state with senderSha256 := some sha256 }).2, ?_⟩
      change (page.segment env _).incomingActive = _
      rw [isSegment]
      unfold dispatchComplete
      rw [isReceiving]
      dsimp only
      rw [if_neg (not_not.mpr rfl), if_neg (Nat.not_lt.mpr holdsAll)]

/-! ## Storing -/

/-- A message of the inbox stands in the notes. -/
theorem inbox_split
    {worker : Serial}
    {notes : List FileNote}
    {first rest : List ReceiveWorkerIn}
    {message : ReceiveWorkerIn}
    (isInbox : inbox worker notes = first ++ message :: rest) :
    ∃ earlier later,
      notes = earlier ++ .posted worker message :: later ∧ inbox worker earlier = first := by
  unfold inbox at isInbox
  obtain ⟨before, after, rfl, isFirst, isRest⟩ := List.filterMap_eq_append_iff.mp isInbox
  obtain ⟨between, note, later, rfl, noneBetween, isNote, _⟩ :=
    List.filterMap_eq_cons_iff.mp isRest
  cases note with
  | posted target posted =>
      dsimp only at isNote
      split at isNote
      next isTarget =>
        injection isNote with isMessage
        subst isTarget isMessage
        refine ⟨before ++ between, later, by rw [List.append_assoc], ?_⟩
        unfold inbox
        rw [List.filterMap_append, isFirst, List.filterMap_eq_nil_iff.mpr noneBetween,
          List.append_nil]
      next => cases isNote
  | accepted | started | arrived | announced => cases isNote

theorem mem_inbox
    {worker : Serial}
    {notes : List FileNote}
    {message : ReceiveWorkerIn}
    (isNote : FileNote.posted worker message ∈ notes) :
    message ∈ inbox worker notes :=
  List.mem_filterMap.mpr ⟨_, isNote, if_pos rfl⟩

/-- If only one worker gets chunks, its inbox has all of them. -/
theorem chunkMessages_inbox
    {worker : Serial}
    {notes : List FileNote}
    {chunks : List PendingChunk}
    (isPosts : chunkPosts notes = chunks.map (Prod.mk worker)) :
    chunkMessages (inbox worker notes) = chunks := by
  induction notes generalizing chunks with
  | nil =>
      cases chunks with
      | nil => rfl
      | cons => cases isPosts
  | cons note rest inductionHypothesis =>
      cases note with
      | posted target message =>
          have noChunk : chunkMessages [message] = [] →
              chunkMessages (inbox worker (.posted target message :: rest)) =
                chunkMessages (inbox worker rest) := by
            intro isNone
            unfold inbox
            rw [List.filterMap_cons]
            dsimp only
            split
            next => rfl
            next message' isMessage =>
              split at isMessage
              · injection isMessage with isMessage
                subst isMessage
                unfold chunkMessages at isNone ⊢
                rw [← List.singleton_append, List.filterMap_append, isNone, List.nil_append]
              · cases isMessage
          cases message with
          | chunk seq data =>
              cases chunks with
              | nil => cases isPosts
              | cons chunk later =>
                  injection isPosts with isChunk isRest
                  injection isChunk with isTarget isChunk
                  subst isTarget isChunk
                  have isInbox : inbox target (.posted target (.chunk seq data) :: rest) =
                      .chunk seq data :: inbox target rest := by
                    unfold inbox
                    rw [List.filterMap_cons]
                    simp
                  rw [isInbox]
                  exact congrArg (_ :: ·) (inductionHypothesis isRest)
          | init | finalize | abort => exact (noChunk rfl).trans (inductionHypothesis isPosts)
      | accepted | started | arrived | announced => exact inductionHypothesis isPosts

theorem split_unique
    {first second firstLater secondLater : List FileNote}
    {firstOffer secondOffer : PendingOffer}
    {firstWorker secondWorker : Serial}
    (same : first ++ .started firstOffer firstWorker :: firstLater =
      second ++ .started secondOffer secondWorker :: secondLater)
    (noneFirst : ∀ offer worker, FileNote.started offer worker ∉ firstLater)
    (noneSecond : ∀ offer worker, FileNote.started offer worker ∉ secondLater) :
    firstOffer = secondOffer ∧ firstLater = secondLater := by
  rcases List.append_eq_append_iff.mp same with ⟨middle, _, isRest⟩ | ⟨middle, _, isRest⟩
  · cases middle with
    | nil =>
        injection isRest with isStart isLater
        injection isStart with isOffer
        exact ⟨isOffer, isLater⟩
    | cons note middle =>
        injection isRest with _ isLater
        refine absurd ?_ (noneFirst secondOffer secondWorker)
        rw [isLater]
        exact List.mem_append_right _ List.mem_cons_self
  · cases middle with
    | nil =>
        injection isRest with isStart isLater
        injection isStart with isOffer
        exact ⟨isOffer.symm, isLater.symm⟩
    | cons note middle =>
        injection isRest with _ isLater
        refine absurd ?_ (noneSecond firstOffer firstWorker)
        rw [isLater]
        exact List.mem_append_right _ List.mem_cons_self

/-- Before the first finalize an honest worker gets every chunk that arrived. -/
theorem TransferProgress.fed_all
    {offer : PendingOffer}
    {before after : List FileNote}
    {state : ReceivingState}
    (progress : TransferProgress offer (before ++ .posted state.worker .finalize :: after) state)
    (noAbort : .posted state.worker .abort ∉ before) :
    chunkMessages (inbox state.worker before) =
        (arrivals (before ++ .posted state.worker .finalize :: after)).map ParsedChunk.pending := by
  rcases progress.fed before after state.worker rfl with aborted | ⟨isFed, isCount⟩
  · exact absurd aborted noAbort
  · have isArrivals : arrivals (before ++ .posted state.worker .finalize :: after) =
        arrivals before ++ arrivals (.posted state.worker .finalize :: after) :=
      arrivals_append _ _
    have inRange := progress.inRange
    have lengths := congrArg List.length progress.arrived
    rw [isArrivals] at lengths
    simp only [chunkShapes, List.length_map, List.length_append, List.length_range] at lengths
    have noMore : arrivals (.posted state.worker .finalize :: after) = [] := by
      apply List.eq_nil_of_length_eq_zero
      omega
    rw [isArrivals, noMore, List.append_nil]
    apply chunkMessages_inbox
    rw [isFed, List.map_map]
    rfl

theorem storesPieces
    (segmentation : Segmentation.IsSegmentation chunkDataMaxBytes content pieces)
    (digest : Bytes → Text)
    (tid : TransferId) :
    StoresPieces digest tid content pieces where
  stored := (ReceiveWorker.run_healthy segmentation).1
  reported := (ReceiveWorker.run_healthy segmentation).2
  received := by
    intro page state earlier offer later reachable ⟨isActive, isTid, isSize⟩ isHistory noStart
      isArrived inputs isInbox sha256 bytesWritten fileSize isDone
    obtain ⟨_, offer', later', isHistory', _, progress⟩ :=
      ((FilePage.sound_of_reachable reachable).receiving state isActive).2
    obtain ⟨rfl, rfl⟩ := split_unique (isHistory.symm.trans isHistory') noStart progress.noStart
    obtain ⟨first, env, rest, isInputs, feeds, isOpen, rfl, rfl, rfl, isFile⟩ :=
      ReceiveWorker.split_of_done rfl (by simp [ReceiveWorker.ready]) isDone
    rw [isInputs, List.map_append, List.map_cons] at isInbox
    obtain ⟨before, after, rfl, isFirst⟩ := inbox_split isInbox.symm
    have noAbort : FileNote.posted state.worker .abort ∉ before := by
      intro isAbort
      have isMessage := mem_inbox isAbort
      rw [isFirst] at isMessage
      obtain ⟨input, isInput, isMessage⟩ := List.mem_map.mp isMessage
      exact (feeds input isInput).2 isMessage
    have isFed := progress.fed_all noAbort
    rw [isFirst, isArrived, parsedChunks_pending] at isFed
    have stored := ReceiveWorker.run_stored segmentation feeds
      ⟨[], by rw [isFed, List.append_nil]⟩ isOpen
    rw [isFed] at stored
    have stored : (ReceiveWorker.ready.run digest first).Stored pieces := by
      simpa [numbered] using stored
    rw [isFile, stored.file, stored.hashed, stored.bytesWritten, segmentation.join]
    exact ⟨rfl, rfl, rfl, rfl⟩

/-! ## Refusing -/

theorem refusesOthers
    (segmentation : Segmentation.IsSegmentation chunkDataMaxBytes content pieces)
    (tid : TransferId) :
    RefusesOthers tid content pieces := by
  intro page input reachable _ registers
  obtain ⟨earlier, offer, worker, later, _, isHistory, noStart, isTid, _, shapes, _⟩ :=
    (FilePage.step_kept (FilePage.sound_of_reachable reachable)).earned _ registers
  refine ⟨earlier, offer, worker, later, isHistory, noStart, isTid, ?_⟩
  intro isSize
  rw [shapes, parsedChunks_shapes segmentation tid, isSize]

/-! ## Fidelity -/

theorem exists_segmentation (content : Bytes) :
    ∃ pieces, Segmentation.IsSegmentation chunkDataMaxBytes content pieces :=
  ⟨_, consumeIntoChunks_eof (consumeIntoChunks_read [] content)⟩

/--
Every content is sent as one sequence of full chunks and a last one, whatever
pieces the browser delivers.  The receiver parses, accepts and stores exactly
this sequence, completes a transfer to which it is delivered, and completes a
transfer of the file by no other one.
-/
theorem file_transfer_fidelity
    (digest : Bytes → Text)
    (tid : TransferId)
    (content : Bytes)
    (segments : List Bytes)
    (fits : content.length ≤ maxFileSizeBytes)
    (join : segments.flatten = content) :
    ∃ pieces : List Bytes,
      pieces.length = computeTotalChunks content.length ∧
        (∀ index piece, pieces[index]? = some piece →
          (index + 1 < pieces.length → piece.length = chunkDataMaxBytes) ∧
            0 < piece.length ∧ piece.length ≤ chunkDataMaxBytes) ∧
        pieces.flatten = content ∧
        SendsPieces digest tid content segments pieces ∧
        ParsesPieces tid pieces ∧
        AcceptsPieces tid content pieces ∧
        StoresPieces digest tid content pieces ∧
        CompletesPieces digest tid content pieces ∧
        RefusesOthers tid content pieces := by
  obtain ⟨pieces, segmentation⟩ := exists_segmentation content
  refine ⟨pieces, segmentation.length, ?_, segmentation.join,
    sendsPieces segmentation join digest tid, parsesPieces segmentation fits tid,
    acceptsPieces segmentation tid, storesPieces segmentation digest tid,
    completesPieces segmentation digest tid, refusesOthers segmentation tid⟩
  intro index piece isPiece
  obtain ⟨inRange, rfl⟩ := List.getElem?_eq_some_iff.mp isPiece
  have isLength := segmentation.getElem_length inRange
  refine ⟨?_, ?_, ?_⟩
  · intro notLast
    rw [segmentation.length] at notLast
    rw [isLength, Segmentation.pieceLength_of_succ_lt chunkDataMaxBytes_pos notLast]
  · rw [segmentation.length] at inRange
    rw [isLength]
    exact Segmentation.pieceLength_pos chunkDataMaxBytes_pos inRange
  · rw [isLength]
    exact Nat.min_le_left _ _

/-- Three bytes that the browser delivers in three pieces, one of them empty. -/
theorem file_transfer_fidelity_of_three_bytes :
    ∃ pieces : List Bytes,
      pieces.length = computeTotalChunks 3 ∧
        (∀ index piece, pieces[index]? = some piece →
          (index + 1 < pieces.length → piece.length = chunkDataMaxBytes) ∧
            0 < piece.length ∧ piece.length ≤ chunkDataMaxBytes) ∧
        pieces.flatten = [1, 2, 3] ∧
        SendsPieces hexEncode ⟨List.replicate 8 0, rfl⟩ [1, 2, 3] [[1], [], [2, 3]] pieces ∧
        ParsesPieces ⟨List.replicate 8 0, rfl⟩ pieces ∧
        AcceptsPieces ⟨List.replicate 8 0, rfl⟩ [1, 2, 3] pieces ∧
        StoresPieces hexEncode ⟨List.replicate 8 0, rfl⟩ [1, 2, 3] pieces ∧
        CompletesPieces hexEncode ⟨List.replicate 8 0, rfl⟩ [1, 2, 3] pieces ∧
        RefusesOthers ⟨List.replicate 8 0, rfl⟩ [1, 2, 3] pieces :=
  file_transfer_fidelity hexEncode ⟨List.replicate 8 0, rfl⟩ [1, 2, 3] [[1], [], [2, 3]]
    (by decide) rfl

end Unseen
