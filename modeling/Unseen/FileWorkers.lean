import Unseen.FileTransfer
import Unseen.Machine
import Unseen.Segmentation
import Mathlib.Data.List.Induction

namespace Unseen

/-!
# The file workers

The send worker cuts a byte stream into chunks, whatever pieces the browser
delivers, and posts one chunk for each credit.  The receive worker writes each
chunk at its offset and digests the bytes as they come.  A step handles one
message or one settled read, up to the next await.  Both digests are streamed;
`digest` stands for the digest of all the bytes that were fed.
-/

/-- The eight bytes of a transfer id. -/
abbrev TransferId := { bytes : Bytes // bytes.length = tidBytes }

/-! ## Send worker -/

/-- `buildChunkPlaintext` -/
def buildChunkPlaintext (tid : TransferId) (currentSeq : Nat) (data : Bytes) : Bytes :=
  tid.val ++ littleEndian 4 currentSeq ++ data

/-- The `while` loop of `consumeIntoChunks`. -/
def consumeLoop (combined : Bytes) (offset : Nat) (pieces : List Bytes) : List Bytes × Nat :=
  if offset + chunkDataMaxBytes ≤ combined.length then
    consumeLoop combined (offset + chunkDataMaxBytes)
      (pieces ++ [(combined.drop offset).take chunkDataMaxBytes])
  else
    (pieces, offset)
termination_by combined.length - offset
decreasing_by
  have : 0 < chunkDataMaxBytes := by decide
  omega

/-- `consumeIntoChunks`: the pieces to emit and the new pending tail. -/
def consumeIntoChunks (pendingTail input : Bytes) (isEof : Bool) : List Bytes × Bytes :=
  let combined := pendingTail ++ input
  let (pieces, offset) := consumeLoop combined 0 []
  if isEof then
    (if offset < combined.length then pieces ++ [combined.drop offset] else pieces, [])
  else
    (pieces, combined.drop offset)

/-- Where the pipeline of the send worker awaits. -/
inductive SendStage where
  | reading
  | waitingForCredit (piece : Bytes) (rest : List Bytes) (isEof : Bool)
  | closed

/-- The variables of the send worker; `stream` is what its reader will deliver. -/
structure SendWorker where
  tid : TransferId
  stream : List Bytes
  credit : Nat
  seq : Nat
  pendingTail : Bytes
  hashed : Bytes
  stage : SendStage
  posted : List Files.SendWorkerOut

/-- A read of the stream that settles, or a message of the page. -/
inductive SendWorkerInput where
  | read
  | readFailed
  | pull
  | abort
  deriving DecidableEq

namespace SendWorker

/-- The worker after the init message. -/
def init (tid : TransferId) (stream : List Bytes) (credit : Nat) : SendWorker where
  tid := tid
  stream := stream
  credit := credit
  seq := 0
  pendingTail := []
  hashed := []
  stage := .reading
  posted := [.ready]

def post (worker : SendWorker) (message : Files.SendWorkerOut) : SendWorker :=
  { worker with posted := worker.posted ++ [message] }

/-- The end of `runInit`. -/
def close (worker : SendWorker) : SendWorker :=
  { worker.post .closed with stage := .closed }

/-- `emitPiece` once there is credit. -/
def emitPiece (worker : SendWorker) (piece : Bytes) : SendWorker :=
  { worker.post
      (.plaintextChunk worker.seq (buildChunkPlaintext worker.tid worker.seq piece)) with
    hashed := worker.hashed ++ piece
    credit := worker.credit - 1
    seq := worker.seq + 1 }

/-- The `for` loop over the pieces, and what follows it. -/
def emitPieces (digest : Bytes → Text) (worker : SendWorker) (isEof : Bool) :
    List Bytes → SendWorker
  | [] =>
      if isEof then
        (worker.post (.final (digest worker.hashed))).close
      else
        { worker with stage := .reading }
  | piece :: rest =>
      if worker.credit = 0 then
        { worker with stage := .waitingForCredit piece rest isEof }
      else
        (worker.emitPiece piece).emitPieces digest isEof rest

/-- The loop of `runPipeline` once a read has settled. -/
def readSettled (digest : Bytes → Text) (worker : SendWorker) : SendWorker :=
  match worker.stream with
  | [] =>
      let (pieces, tail) := consumeIntoChunks worker.pendingTail [] true
      { worker with pendingTail := tail }.emitPieces digest true pieces
  | value :: later =>
      let (pieces, tail) := consumeIntoChunks worker.pendingTail value false
      { worker with stream := later, pendingTail := tail }.emitPieces digest false pieces

/--
An abort while the worker awaits: a read that is cancelled ends the pipeline,
and a piece that waits for credit is skipped.  If it was the last piece of the
file, the digest of what was posted so far is still posted as the final one.
-/
def abort (digest : Bytes → Text) (worker : SendWorker) : SendWorker :=
  match worker.stage with
  | .reading => worker.close
  | .waitingForCredit _ [] true => (worker.post (.final (digest worker.hashed))).close
  | .waitingForCredit _ _ _ => worker.close
  | .closed => worker

def step (digest : Bytes → Text) (worker : SendWorker) (input : SendWorkerInput) : SendWorker :=
  match input with
  | .read =>
      match worker.stage with
      | .reading => worker.readSettled digest
      | _ => worker
  | .readFailed =>
      match worker.stage with
      | .reading => (worker.post .fatal).close
      | _ => worker
  | .pull =>
      let credited := { worker with credit := worker.credit + 1 }
      match worker.stage with
      | .waitingForCredit piece rest isEof =>
          (credited.emitPiece piece).emitPieces digest isEof rest
      | _ => credited
  | .abort => worker.abort digest

/-- A read settles only while the worker awaits it. -/
def enabled (worker : SendWorker) (input : SendWorkerInput) : Prop :=
  match input with
  | .read | .readFailed => worker.stage = .reading
  | .pull | .abort => True

def machine (digest : Bytes → Text) : EventMachine.Machine SendWorker SendWorkerInput where
  enabled := enabled
  step := step digest

end SendWorker

/-! ## Receive worker -/

/--
What the file system does while one message is handled: how many bytes a write
stores at most, if it does not throw, and whether the end can be reported.
-/
structure FsEnv where
  write : Option Nat
  getSizeOk : Bool
  digestOk : Bool

/-- The variables of the receive worker; `opened` says that `sah` is defined. -/
structure ReceiveWorker where
  opened : Bool
  file : Bytes
  bytesWritten : Nat
  hashed : Bytes
  posted : List Files.ReceiveWorkerOut

namespace ReceiveWorker

/-- The worker once its file is open and empty. -/
def ready : ReceiveWorker where
  opened := true
  file := []
  bytesWritten := 0
  hashed := []
  posted := [.ready]

def post (worker : ReceiveWorker) (message : Files.ReceiveWorkerOut) : ReceiveWorker :=
  { worker with posted := worker.posted ++ [message] }

/-- The access handle is closed, and with it the worker. -/
def close (worker : ReceiveWorker) : ReceiveWorker :=
  { worker.post .closed with opened := false }

/-- `write` of the access handle: a gap before the offset is filled with zeros. -/
def writeAt (file : Bytes) (offset : Nat) (data : Bytes) : Bytes :=
  file.take offset ++ List.replicate (offset - file.length) 0 ++ data ++
    file.drop (offset + data.length)

/-- `handleChunk` -/
def handleChunk (worker : ReceiveWorker) (env : FsEnv) (seq : Nat) (data : Bytes) :
    ReceiveWorker :=
  if !worker.opened then
    worker
  else
    match env.write with
    | none => (worker.post .fatal).close
    | some count =>
        let written := min count data.length
        let stored :=
          { worker with
            file := writeAt worker.file (seq * chunkDataMaxBytes) (data.take written) }
        if written ≠ data.length then
          (stored.post (.shortWrite written data.length)).close
        else
          { stored with
            hashed := stored.hashed ++ data
            bytesWritten := stored.bytesWritten + written }.post (.written seq written)

/-- `handleFinalize` -/
def handleFinalize (digest : Bytes → Text) (worker : ReceiveWorker) (env : FsEnv) :
    ReceiveWorker :=
  if !worker.opened then
    worker
  else if !env.getSizeOk || !env.digestOk then
    (worker.post .fatal).close
  else
    (worker.post (.done (digest worker.hashed) worker.bytesWritten worker.file.length)).close

/-- The message listener; a second init message is ignored. -/
def receive
    (digest : Bytes → Text)
    (worker : ReceiveWorker)
    (input : ReceiveWorkerIn × FsEnv) : ReceiveWorker :=
  match input.1 with
  | .init _ _ => worker
  | .chunk seq data => worker.handleChunk input.2 seq data
  | .finalize => worker.handleFinalize digest input.2
  | .abort => if worker.opened then worker.close else worker

/-- The worker after some messages, in order. -/
def run
    (digest : Bytes → Text)
    (worker : ReceiveWorker)
    (inputs : List (ReceiveWorkerIn × FsEnv)) : ReceiveWorker :=
  inputs.foldl (receive digest) worker

end ReceiveWorker

/-! ## Chunks that are sent -/

section Cutting

variable {combined pendingTail content : Bytes} {offset : Nat} {pieces full : List Bytes}

theorem chunkDataMaxBytes_pos : 0 < chunkDataMaxBytes := by
  decide

/-- The loop cuts off full pieces until no further one is left. -/
theorem consumeLoop_cut
    (inside : offset ≤ combined.length)
    (join : pieces.flatten = combined.take offset)
    (full : ∀ piece ∈ pieces, piece.length = chunkDataMaxBytes) :
    Segmentation.Cut chunkDataMaxBytes combined (consumeLoop combined offset pieces).1
      (combined.drop (consumeLoop combined offset pieces).2) := by
  fun_induction consumeLoop combined offset pieces with
  | case1 offset pieces another inductionHypothesis =>
      apply inductionHypothesis another
      · rw [List.flatten_append, List.flatten_singleton, join, List.take_add]
      · intro piece isPiece
        rcases List.mem_append.mp isPiece with isOld | isNew
        · exact full piece isOld
        · rw [List.mem_singleton.mp isNew, List.length_take, List.length_drop]
          omega
  | case2 offset pieces noOther =>
      refine ⟨?_, full, ?_⟩
      · rw [join, List.take_append_drop]
      · rw [List.length_drop]
        have positive := chunkDataMaxBytes_pos
        omega

theorem consumeIntoChunks_read (pendingTail input : Bytes) :
    Segmentation.Cut chunkDataMaxBytes (pendingTail ++ input)
      (consumeIntoChunks pendingTail input false).1
      (consumeIntoChunks pendingTail input false).2 :=
  consumeLoop_cut (Nat.zero_le _) rfl (by simp)

/-- At the end of the stream the tail becomes the last piece, if there is one. -/
theorem consumeIntoChunks_eof
    (cut : Segmentation.Cut chunkDataMaxBytes content full pendingTail) :
    Segmentation.IsSegmentation chunkDataMaxBytes content
      (full ++ (consumeIntoChunks pendingTail [] true).1) := by
  have next : Segmentation.Cut chunkDataMaxBytes (pendingTail ++ [])
      (consumeLoop (pendingTail ++ []) 0 []).1
      ((pendingTail ++ []).drop (consumeLoop (pendingTail ++ []) 0 []).2) :=
    consumeLoop_cut (Nat.zero_le _) rfl (by simp)
  have whole := cut.append next
  rw [List.append_nil content] at whole
  unfold consumeIntoChunks
  dsimp only
  rw [if_pos rfl]
  split
  next isLeft =>
    rw [← List.append_assoc]
    exact whole.segmentation chunkDataMaxBytes_pos (by simpa using isLeft)
  next noneLeft =>
    rw [List.drop_eq_nil_of_le (Nat.le_of_not_lt noneLeft)] at whole
    exact whole.segmentation_of_nil chunkDataMaxBytes_pos

end Cutting

namespace SendWorker

def chunk? : Files.SendWorkerOut → Option (Nat × Bytes)
  | .plaintextChunk seq data => some (seq, data)
  | _ => none

/-- The chunks the worker has posted, in order. -/
def chunks (worker : SendWorker) : List (Nat × Bytes) :=
  worker.posted.filterMap chunk?

/-- The chunks that some pieces make, numbered from zero. -/
def chunksOf (tid : TransferId) (pieces : List Bytes) : List (Nat × Bytes) :=
  pieces.mapIdx fun seq piece => (seq, buildChunkPlaintext tid seq piece)

/-- The worker has posted these pieces. -/
structure Sent (worker : SendWorker) (pieces : List Bytes) : Prop where
  chunks : worker.chunks = chunksOf worker.tid pieces
  seq : worker.seq = pieces.length
  hashed : worker.hashed = pieces.flatten

variable {digest : Bytes → Text} {worker : SendWorker} {content : Bytes} {pieces : List Bytes}

theorem Sent.emitPiece (sent : worker.Sent pieces) (piece : Bytes) :
    (worker.emitPiece piece).Sent (pieces ++ [piece]) where
  chunks := by
    have isPosted : (worker.emitPiece piece).chunks =
        worker.chunks ++ [(worker.seq, buildChunkPlaintext worker.tid worker.seq piece)] :=
      List.filterMap_append
    rw [isPosted, sent.chunks, sent.seq]
    exact List.mapIdx_concat.symm
  seq := by
    rw [List.length_append, ← sent.seq]
    rfl
  hashed := by
    rw [List.flatten_append, List.flatten_singleton, ← sent.hashed]
    rfl

/-- The pieces still to be emitted complete what has been read so far. -/
def Remaining
    (content : Bytes)
    (worker : SendWorker)
    (pieces rest : List Bytes) : Bool → Prop
  | false =>
      ∃ consumed,
        Segmentation.Cut chunkDataMaxBytes consumed (pieces ++ rest) worker.pendingTail ∧
          consumed ++ worker.stream.flatten = content
  | true => Segmentation.IsSegmentation chunkDataMaxBytes content (pieces ++ rest)

/-- What holds of a worker that is not aborted, wherever it awaits. -/
def Streams (digest : Bytes → Text) (content : Bytes) (worker : SendWorker) : Prop :=
  ∃ pieces, worker.Sent pieces ∧
    match worker.stage with
    | .reading => Remaining content worker pieces [] false
    | .waitingForCredit piece rest isEof =>
        worker.credit = 0 ∧ Remaining content worker pieces (piece :: rest) isEof
    | .closed =>
        Segmentation.IsSegmentation chunkDataMaxBytes content pieces ∧
          .final (digest content) ∈ worker.posted

theorem emitPieces_streams
    {isEof : Bool}
    {rest : List Bytes}
    (sent : worker.Sent pieces)
    (remaining : Remaining content worker pieces rest isEof) :
    Streams digest content (worker.emitPieces digest isEof rest) := by
  induction rest generalizing worker pieces with
  | nil =>
      cases isEof with
      | false => exact ⟨pieces, ⟨sent.chunks, sent.seq, sent.hashed⟩, remaining⟩
      | true =>
          have segmentation : Segmentation.IsSegmentation chunkDataMaxBytes content pieces := by
            simpa [Remaining] using remaining
          refine ⟨pieces, ⟨?_, sent.seq, sent.hashed⟩, segmentation, ?_⟩
          · rw [← show worker.tid = (worker.emitPieces digest true []).tid from rfl,
              ← sent.chunks]
            simp [chunks, emitPieces, close, post, chunk?]
          · rw [← segmentation.join, ← sent.hashed]
            simp [emitPieces, close, post]
  | cons piece rest inductionHypothesis =>
      unfold emitPieces
      split
      next noCredit =>
        refine ⟨pieces, ⟨sent.chunks, sent.seq, sent.hashed⟩, noCredit, ?_⟩
        cases isEof <;> exact remaining
      next =>
        apply inductionHypothesis (sent.emitPiece piece)
        cases isEof with
        | false => simpa [Remaining, emitPiece, post] using remaining
        | true => simpa [Remaining] using remaining

/-- The worker is neither aborted nor does a read fail. -/
def Undisturbed (_ : SendWorker) (input : SendWorkerInput) : Prop :=
  input = .read ∨ input = .pull

theorem step_streams
    {input : SendWorkerInput}
    (streams : Streams digest content worker)
    (isEnabled : worker.enabled input)
    (undisturbed : worker.Undisturbed input) :
    Streams digest content (worker.step digest input) := by
  obtain ⟨pieces, sent, stageHolds⟩ := streams
  rcases undisturbed with rfl | rfl
  · have isReading : worker.stage = .reading := isEnabled
    rw [isReading] at stageHolds
    obtain ⟨consumed, cut, join⟩ := stageHolds
    rw [List.append_nil] at cut
    unfold step
    rw [isReading]
    change Streams digest content (worker.readSettled digest)
    unfold readSettled
    split
    next isEmpty =>
      have taken : ({ worker with
          pendingTail := (consumeIntoChunks worker.pendingTail [] true).2 } :
          SendWorker).Sent pieces :=
        ⟨sent.chunks, sent.seq, sent.hashed⟩
      apply emitPieces_streams taken
      rw [isEmpty, List.flatten_nil, List.append_nil] at join
      exact consumeIntoChunks_eof (join ▸ cut)
    next value later isStream =>
      have taken : ({ worker with
          stream := later
          pendingTail := (consumeIntoChunks worker.pendingTail value false).2 } :
          SendWorker).Sent pieces :=
        ⟨sent.chunks, sent.seq, sent.hashed⟩
      apply emitPieces_streams taken
      refine ⟨consumed ++ value, cut.append (consumeIntoChunks_read _ _), ?_⟩
      rw [List.append_assoc, ← join, isStream, List.flatten_cons]
  · unfold step
    dsimp only
    split
    next piece rest isEof isWaiting =>
      rw [isWaiting] at stageHolds
      have credited : ({ worker with credit := worker.credit + 1 } : SendWorker).Sent pieces :=
        ⟨sent.chunks, sent.seq, sent.hashed⟩
      apply emitPieces_streams (credited.emitPiece piece)
      cases isEof with
      | false => simpa [Remaining, emitPiece, post] using stageHolds.2
      | true => simpa [Remaining] using stageHolds.2
    next notWaiting =>
      refine ⟨pieces, ⟨sent.chunks, sent.seq, sent.hashed⟩, ?_⟩
      cases isStage : worker.stage with
      | reading =>
          rw [isStage] at stageHolds
          simpa [isStage, Remaining] using stageHolds
      | closed =>
          rw [isStage] at stageHolds
          simpa [isStage] using stageHolds
      | waitingForCredit piece rest isEof => exact absurd isStage (notWaiting piece rest isEof)

theorem streams_of_run
    {inputs : List SendWorkerInput}
    (streams : Streams digest content worker)
    (legal : (machine digest).Legal Undisturbed worker inputs) :
    Streams digest content ((machine digest).run worker inputs) :=
  legal.invariant (Streams digest content)
    (fun _ _ holds isEnabled undisturbed => step_streams holds isEnabled undisturbed) streams

theorem streams_of_init
    {segments : List Bytes}
    (tid : TransferId)
    (credit : Nat)
    (join : segments.flatten = content) :
    Streams digest content (init tid segments credit) :=
  ⟨[], ⟨rfl, rfl, rfl⟩, [], .nil chunkDataMaxBytes_pos, join⟩

theorem emitPieces_tid (isEof : Bool) (rest : List Bytes) :
    (worker.emitPieces digest isEof rest).tid = worker.tid := by
  induction rest generalizing worker with
  | nil =>
      unfold emitPieces
      split <;> rfl
  | cons piece rest inductionHypothesis =>
      unfold emitPieces
      split
      · rfl
      · rw [inductionHypothesis]
        rfl

theorem step_tid (input : SendWorkerInput) : (worker.step digest input).tid = worker.tid := by
  cases input with
  | read =>
      unfold step readSettled
      dsimp only
      split
      · split <;> exact emitPieces_tid _ _
      · rfl
  | readFailed =>
      unfold step
      dsimp only
      split <;> rfl
  | pull =>
      unfold step
      dsimp only
      split
      · exact emitPieces_tid _ _
      · rfl
  | abort =>
      unfold step abort
      dsimp only
      split <;> rfl

theorem run_tid (inputs : List SendWorkerInput) :
    ((machine digest).run worker inputs).tid = worker.tid := by
  induction inputs generalizing worker with
  | nil => rfl
  | cons input rest inductionHypothesis => exact inductionHypothesis.trans (step_tid input)

/-! ### Credits and reads -/

theorem emitPieces_balance (isEof : Bool) (rest : List Bytes) :
    (worker.emitPieces digest isEof rest).seq + (worker.emitPieces digest isEof rest).credit =
      worker.seq + worker.credit := by
  induction rest generalizing worker with
  | nil =>
      unfold emitPieces
      split <;> rfl
  | cons piece rest inductionHypothesis =>
      unfold emitPieces
      split
      · rfl
      next hasCredit =>
        rw [inductionHypothesis]
        change worker.seq + 1 + (worker.credit - 1) = _
        omega

/-- A pull adds a credit, and a posted chunk uses one up. -/
theorem step_balance (input : SendWorkerInput) :
    (worker.step digest input).seq + (worker.step digest input).credit =
      worker.seq + worker.credit + if input = .pull then 1 else 0 := by
  cases input with
  | read =>
      unfold step readSettled
      dsimp only
      split
      · split
        · exact emitPieces_balance _ _
        · exact emitPieces_balance _ _
      · rfl
  | readFailed =>
      unfold step
      dsimp only
      split <;> rfl
  | pull =>
      unfold step
      dsimp only
      split
      · rw [emitPieces_balance, if_pos rfl]
        change worker.seq + 1 + (worker.credit + 1 - 1) = _
        omega
      · rfl
  | abort =>
      unfold step abort
      dsimp only
      split <;> rfl

theorem run_balance (inputs : List SendWorkerInput) :
    ((machine digest).run worker inputs).seq + ((machine digest).run worker inputs).credit =
      worker.seq + worker.credit + inputs.count .pull := by
  induction inputs generalizing worker with
  | nil => rfl
  | cons input rest inductionHypothesis =>
      change ((machine digest).run (worker.step digest input) rest).seq +
        ((machine digest).run (worker.step digest input) rest).credit = _
      rw [inductionHypothesis, step_balance, List.count_cons]
      simp only [beq_iff_eq]
      omega

/-- The stream has not ended, as far as the worker knows. -/
def InStream : SendStage → Prop
  | .reading => True
  | .waitingForCredit _ _ isEof => isEof = false
  | .closed => False

theorem emitPieces_inStream
    {isEof : Bool}
    {rest : List Bytes}
    (inStream : InStream (worker.emitPieces digest isEof rest).stage) :
    isEof = false ∧ (worker.emitPieces digest isEof rest).stream = worker.stream := by
  induction rest generalizing worker with
  | nil =>
      unfold emitPieces at inStream ⊢
      split
      next atEof =>
        rw [if_pos atEof] at inStream
        cases inStream
      next notEof => exact ⟨by simpa using notEof, rfl⟩
  | cons piece rest inductionHypothesis =>
      unfold emitPieces at inStream ⊢
      split
      next noCredit =>
        rw [if_pos noCredit] at inStream
        exact ⟨inStream, rfl⟩
      next hasCredit =>
        rw [if_neg hasCredit] at inStream
        exact inductionHypothesis inStream

/-- Within the stream, each read takes one piece of it. -/
theorem step_inStream
    {input : SendWorkerInput}
    (isEnabled : worker.enabled input)
    (inStream : InStream (worker.step digest input).stage) :
    InStream worker.stage ∧
      worker.stream.length =
        (worker.step digest input).stream.length + if input = .read then 1 else 0 := by
  cases input with
  | read =>
      have isReading : worker.stage = .reading := isEnabled
      have isStep : worker.step digest .read = worker.readSettled digest := by
        unfold step
        rw [isReading]
      rw [isStep] at inStream ⊢
      refine ⟨isReading ▸ trivial, ?_⟩
      unfold readSettled at inStream ⊢
      split at inStream
      next => cases (emitPieces_inStream inStream).1
      next value later isStream =>
        have sameStream := (emitPieces_inStream inStream).2
        rw [isStream]
        exact congrArg (fun stream => stream.length + 1) sameStream.symm
  | readFailed =>
      have isReading : worker.stage = .reading := isEnabled
      unfold step at inStream
      rw [isReading] at inStream
      cases inStream
  | pull =>
      unfold step at inStream ⊢
      dsimp only at inStream ⊢
      split
      next piece rest isEof isWaiting =>
        rw [isWaiting] at inStream
        obtain ⟨notEof, sameStream⟩ := emitPieces_inStream inStream
        rw [isWaiting, sameStream]
        exact ⟨notEof, rfl⟩
      next notWaiting =>
        split at inStream
        next piece rest isEof isWaiting => exact absurd isWaiting (notWaiting piece rest isEof)
        next => exact ⟨inStream, rfl⟩
  | abort =>
      unfold step abort at inStream
      dsimp only at inStream
      split at inStream
      · cases inStream
      · cases inStream
      · cases inStream
      next isClosed =>
        rw [isClosed] at inStream
        cases inStream

theorem run_inStream
    {inputs : List SendWorkerInput}
    {allowed : SendWorker → SendWorkerInput → Prop}
    (legal : (machine digest).Legal allowed worker inputs)
    (inStream : InStream ((machine digest).run worker inputs).stage) :
    InStream worker.stage ∧
      worker.stream.length =
        ((machine digest).run worker inputs).stream.length + inputs.count .read := by
  induction inputs generalizing worker with
  | nil => exact ⟨inStream, rfl⟩
  | cons input rest inductionHypothesis =>
      obtain ⟨isEnabled, _, legalRest⟩ := legal
      obtain ⟨inStreamNext, readRest⟩ := inductionHypothesis legalRest inStream
      obtain ⟨inStreamNow, readNow⟩ := step_inStream isEnabled inStreamNext
      refine ⟨inStreamNow, ?_⟩
      change _ = ((machine digest).run (worker.step digest input) rest).stream.length + _
      change (worker.step digest input).stream.length = _ at readRest
      rw [List.count_cons]
      simp only [beq_iff_eq]
      change _ = ((machine digest).run (worker.step digest input) rest).stream.length + _
        at readRest
      omega

/-- Read to its end and with a credit for each chunk, the worker is done. -/
theorem closed_of_run
    {inputs : List SendWorkerInput}
    {tid : TransferId}
    {segments : List Bytes}
    {credit : Nat}
    (join : segments.flatten = content)
    (legal : (machine digest).Legal Undisturbed (init tid segments credit) inputs)
    (allRead : segments.length < inputs.count .read)
    (enoughCredit :
      Segmentation.pieceCount chunkDataMaxBytes content.length ≤ credit + inputs.count .pull) :
    ((machine digest).run (init tid segments credit) inputs).stage = .closed := by
  obtain ⟨pieces, sent, stageHolds⟩ := streams_of_run (streams_of_init tid credit join) legal
  have balance : ((machine digest).run (init tid segments credit) inputs).seq +
      ((machine digest).run (init tid segments credit) inputs).credit =
        0 + credit + inputs.count .pull :=
    run_balance inputs
  have notInStream : ¬ InStream ((machine digest).run (init tid segments credit) inputs).stage := by
    intro inStream
    have reads := (run_inStream legal inStream).2
    change segments.length = _ at reads
    omega
  cases isStage : ((machine digest).run (init tid segments credit) inputs).stage with
  | closed => rfl
  | reading =>
      rw [isStage] at notInStream
      exact absurd trivial notInStream
  | waitingForCredit piece rest isEof =>
      rw [isStage] at notInStream stageHolds
      cases isEof with
      | false => exact absurd rfl notInStream
      | true =>
          obtain ⟨noCredit, segmentation⟩ := stageHolds
          have count := segmentation.length
          rw [List.length_append, List.length_cons] at count
          rw [noCredit, sent.seq] at balance
          omega

end SendWorker

/-! ## Chunks that are stored -/

/-- The chunks among the messages to a receive worker, in order. -/
def chunkMessages (messages : List ReceiveWorkerIn) : List PendingChunk :=
  messages.filterMap fun message =>
    match message with
    | .chunk seq data => some { seq, data }
    | _ => none

/-- Pieces as chunks, numbered from zero. -/
def numbered (pieces : List Bytes) : List PendingChunk :=
  pieces.mapIdx fun seq data => { seq, data }

/-- The messages that hand numbered pieces to a receive worker. -/
def feedMessages (pieces : List Bytes) : List ReceiveWorkerIn :=
  (numbered pieces).map fun chunk => .chunk chunk.seq chunk.data

namespace ReceiveWorker

variable {digest : Bytes → Text} {worker : ReceiveWorker} {content : Bytes} {pieces : List Bytes}
  {inputs : List (ReceiveWorkerIn × FsEnv)}

theorem writeAt_end (file data : Bytes) : writeAt file file.length data = file ++ data := by
  unfold writeAt
  rw [List.take_length, Nat.sub_self, List.replicate_zero, List.append_nil,
    List.drop_eq_nil_of_le (Nat.le_add_right _ _), List.append_nil]

/-- Without an open file all messages are ignored. -/
theorem receive_of_closed
    (closed : worker.opened = false)
    (input : ReceiveWorkerIn × FsEnv) :
    worker.receive digest input = worker := by
  obtain ⟨message, env⟩ := input
  cases message <;> simp [receive, handleChunk, handleFinalize, closed]

theorem run_of_closed (closed : worker.opened = false) : worker.run digest inputs = worker := by
  induction inputs with
  | nil => rfl
  | cons input rest inductionHypothesis =>
      change (worker.receive digest input).run digest rest = worker
      rw [receive_of_closed closed]
      exact inductionHypothesis

/-- The file holds these pieces, all of which were digested and counted. -/
structure Stored (worker : ReceiveWorker) (stored : List Bytes) : Prop where
  file : worker.file = stored.flatten
  hashed : worker.hashed = stored.flatten
  bytesWritten : worker.bytesWritten = stored.flatten.length

/-- The next piece is written behind the ones before, or the file is closed. -/
theorem Stored.handleChunk
    {count : Nat}
    (segmentation : Segmentation.IsSegmentation chunkDataMaxBytes content pieces)
    (inRange : count < pieces.length)
    (stored : worker.Stored (pieces.take count))
    (env : FsEnv)
    (wasOpen : worker.opened = true)
    (isOpen : (worker.handleChunk env count pieces[count]).opened = true) :
    (worker.handleChunk env count pieces[count]).Stored (pieces.take (count + 1)) := by
  have isOffset : count * chunkDataMaxBytes = worker.file.length := by
    rw [stored.file, segmentation.take_flatten_length chunkDataMaxBytes_pos inRange]
  have isTaken : (pieces.take (count + 1)).flatten =
      (pieces.take count).flatten ++ pieces[count] := by
    rw [List.take_succ_eq_append_getElem inRange, List.flatten_append, List.flatten_singleton]
  unfold ReceiveWorker.handleChunk at isOpen ⊢
  simp only [wasOpen, Bool.not_true, Bool.false_eq_true, if_false] at isOpen ⊢
  split at isOpen
  · cases isOpen
  next count' isWrite =>
    split at isOpen
    · cases isOpen
    next whole =>
      rw [if_neg whole]
      have isWhole := not_not.mp whole
      constructor
      · change writeAt worker.file _ (List.take (min count' (pieces[count]).length) _) = _
        rw [isWhole, List.take_length, isOffset, writeAt_end, stored.file, isTaken]
      · change worker.hashed ++ pieces[count] = _
        rw [stored.hashed, isTaken]
      · change worker.bytesWritten + min count' (pieces[count]).length = _
        rw [isWhole, stored.bytesWritten, isTaken, List.length_append]

/-- Neither finalize nor abort. -/
def Feeds (message : ReceiveWorkerIn) : Prop :=
  message ≠ .finalize ∧ message ≠ .abort

/-- An open file stays open until a write fails, a finalize or an abort. -/
theorem opened_of_receive
    {input : ReceiveWorkerIn × FsEnv}
    (isOpen : (worker.receive digest input).opened = true) :
    worker.opened = true := by
  cases wasOpen : worker.opened with
  | true => rfl
  | false =>
      rw [receive_of_closed wasOpen, wasOpen] at isOpen
      cases isOpen

theorem run_stored
    (segmentation : Segmentation.IsSegmentation chunkDataMaxBytes content pieces)
    (feeds : ∀ input ∈ inputs, Feeds input.1)
    (inOrder : chunkMessages (inputs.map Prod.fst) <+: numbered pieces)
    (isOpen : (ready.run digest inputs).opened = true) :
    (ready.run digest inputs).Stored
      (pieces.take (chunkMessages (inputs.map Prod.fst)).length) := by
  induction inputs using List.reverseRecOn with
  | nil => exact ⟨rfl, rfl, rfl⟩
  | append_singleton inputs input inductionHypothesis =>
      have isRun : ready.run digest (inputs ++ [input]) =
          (ready.run digest inputs).receive digest input := by
        unfold run
        rw [List.foldl_append]
        rfl
      have isMessages : chunkMessages ((inputs ++ [input]).map Prod.fst) =
          chunkMessages (inputs.map Prod.fst) ++ chunkMessages [input.1] := by
        unfold chunkMessages
        rw [List.map_append, List.filterMap_append]
        rfl
      rw [isRun] at isOpen ⊢
      rw [isMessages] at inOrder ⊢
      have wasOpen := opened_of_receive isOpen
      have stored := inductionHypothesis
        (fun other isOther => feeds other (List.mem_append_left _ isOther))
        ((List.prefix_append _ _).trans inOrder) wasOpen
      obtain ⟨message, env⟩ := input
      cases message with
      | init tidHex expectedSize =>
          have noChunk : chunkMessages [.init tidHex expectedSize] = [] := rfl
          rw [noChunk, List.append_nil]
          exact stored
      | finalize => exact absurd rfl (feeds (.finalize, env) (by simp)).1
      | abort => exact absurd rfl (feeds (.abort, env) (by simp)).2
      | chunk seq data =>
          have isLast : chunkMessages [.chunk seq data] = [{ seq, data }] := rfl
          rw [isLast] at inOrder ⊢
          generalize chunkMessages (inputs.map Prod.fst) = earlier at inOrder stored ⊢
          obtain ⟨rest, isNumbered⟩ := inOrder
          have isCount := congrArg List.length isNumbered
          have isNext := congrArg (fun chunks => chunks[earlier.length]?) isNumbered
          simp only [numbered, List.length_append, List.length_cons, List.length_nil,
            List.length_mapIdx] at isCount
          have inRange : earlier.length < pieces.length := by omega
          simp only [numbered, List.append_assoc, List.singleton_append, List.getElem?_mapIdx,
            List.getElem?_append_right (Nat.le_refl _), Nat.sub_self, List.getElem?_cons_zero,
            List.getElem?_eq_getElem inRange, Option.map_some, Option.some.injEq] at isNext
          cases isNext
          rw [List.length_append, List.length_singleton]
          exact stored.handleChunk segmentation inRange env wasOpen isOpen

theorem done_of_handleChunk
    {env : FsEnv}
    {seq : Nat}
    {data : Bytes}
    {sha256 : Text}
    {bytesWritten fileSize : Nat}
    (isDone : .done sha256 bytesWritten fileSize ∈ (worker.handleChunk env seq data).posted) :
    .done sha256 bytesWritten fileSize ∈ worker.posted := by
  unfold ReceiveWorker.handleChunk at isDone
  split at isDone
  · exact isDone
  · split at isDone
    · simpa [post, close] using isDone
    · dsimp only at isDone
      split at isDone
      · simpa [post, close] using isDone
      · simpa [post] using isDone

/-- The worker reports a file at the first finalize, if all went well until then. -/
theorem split_of_done
    {sha256 : Text}
    {bytesWritten fileSize : Nat}
    (wasOpen : worker.opened = true)
    (notYet : .done sha256 bytesWritten fileSize ∉ worker.posted)
    (isDone : .done sha256 bytesWritten fileSize ∈ (worker.run digest inputs).posted) :
    ∃ first env rest,
      inputs = first ++ (.finalize, env) :: rest ∧
        (∀ input ∈ first, Feeds input.1) ∧
        (worker.run digest first).opened = true ∧
        sha256 = digest (worker.run digest first).hashed ∧
        bytesWritten = (worker.run digest first).bytesWritten ∧
        fileSize = (worker.run digest first).file.length ∧
        (worker.run digest inputs).file = (worker.run digest first).file := by
  induction inputs generalizing worker with
  | nil => exact absurd isDone notYet
  | cons input rest inductionHypothesis =>
      have fed : Feeds input.1 → (worker.receive digest input).opened = true →
          .done sha256 bytesWritten fileSize ∉ (worker.receive digest input).posted →
          ∃ first env later,
            input :: rest = first ++ (.finalize, env) :: later ∧
              (∀ input ∈ first, Feeds input.1) ∧
              (worker.run digest first).opened = true ∧
              sha256 = digest (worker.run digest first).hashed ∧
              bytesWritten = (worker.run digest first).bytesWritten ∧
              fileSize = (worker.run digest first).file.length ∧
              (worker.run digest (input :: rest)).file = (worker.run digest first).file := by
        intro feedsInput isOpen stillNotYet
        obtain ⟨first, env, later, isRest, feeds, isSplit⟩ :=
          inductionHypothesis isOpen stillNotYet isDone
        refine ⟨input :: first, env, later, by rw [isRest]; rfl, ?_, isSplit⟩
        intro other isOther
        rcases List.mem_cons.mp isOther with rfl | isFirst
        · exact feedsInput
        · exact feeds other isFirst
      have closes : (worker.receive digest input).opened = false →
          .done sha256 bytesWritten fileSize ∈ (worker.receive digest input).posted ∧
            (worker.run digest (input :: rest)).file = (worker.receive digest input).file := by
        intro closed
        change _ ∈ ((worker.receive digest input).run digest rest).posted at isDone
        rw [run_of_closed closed] at isDone
        refine ⟨isDone, ?_⟩
        change ((worker.receive digest input).run digest rest).file = _
        rw [run_of_closed closed]
      obtain ⟨message, env⟩ := input
      cases message with
      | init tidHex expectedSize => exact fed ⟨nofun, nofun⟩ wasOpen notYet
      | chunk seq data =>
          have stillNotYet : .done sha256 bytesWritten fileSize ∉
              (worker.receive digest (.chunk seq data, env)).posted :=
            fun isPosted => notYet (done_of_handleChunk isPosted)
          cases isOpen : (worker.receive digest (.chunk seq data, env)).opened with
          | false => exact absurd (closes isOpen).1 stillNotYet
          | true => exact fed ⟨nofun, nofun⟩ isOpen stillNotYet
      | abort =>
          have isClosed : worker.receive digest (.abort, env) = worker.close := by
            unfold receive
            dsimp only
            rw [if_pos wasOpen]
          rw [isClosed] at closes
          have isPosted := (closes rfl).1
          simp only [close, post, List.mem_append, List.mem_singleton, reduceCtorEq, or_false]
            at isPosted
          exact absurd isPosted notYet
      | finalize =>
          have isFinalized : worker.receive digest (.finalize, env) =
              worker.handleFinalize digest env := rfl
          unfold handleFinalize at isFinalized
          rw [wasOpen] at isFinalized
          simp only [Bool.not_true, Bool.false_eq_true, if_false] at isFinalized
          split at isFinalized
          · rw [isFinalized] at closes
            have isPosted := (closes rfl).1
            simp only [close, post, List.mem_append, List.mem_singleton, reduceCtorEq, or_false]
              at isPosted
            exact absurd isPosted notYet
          · rw [isFinalized] at closes
            obtain ⟨isPosted, isFile⟩ := closes rfl
            simp only [close, post, List.mem_append, List.mem_singleton, reduceCtorEq, or_false]
              at isPosted
            rcases isPosted with before | isReport
            · exact absurd before notYet
            · injection isReport with isSha isWritten isSize
              exact ⟨[], env, rest, rfl, by simp, wasOpen, isSha, isWritten, isSize, isFile⟩

/-- A file system on which nothing fails. -/
def healthy : FsEnv where
  write := some chunkDataMaxBytes
  getSizeOk := true
  digestOk := true

theorem opened_of_healthy
    {messages : List ReceiveWorkerIn}
    (wasOpen : worker.opened = true)
    (feeds : ∀ message ∈ messages, Feeds message)
    (short : ∀ chunk ∈ chunkMessages messages, chunk.data.length ≤ chunkDataMaxBytes) :
    (worker.run digest (messages.map fun message => (message, healthy))).opened = true := by
  induction messages generalizing worker with
  | nil => exact wasOpen
  | cons message rest inductionHypothesis =>
      have feedsRest : ∀ other ∈ rest, Feeds other := fun other isOther =>
        feeds other (List.mem_cons_of_mem _ isOther)
      cases message with
      | init tidHex expectedSize => exact inductionHypothesis wasOpen feedsRest short
      | finalize => exact absurd rfl (feeds .finalize List.mem_cons_self).1
      | abort => exact absurd rfl (feeds .abort List.mem_cons_self).2
      | chunk seq data =>
          have isShort : data.length ≤ chunkDataMaxBytes :=
            short { seq, data } List.mem_cons_self
          have staysOpen : (worker.handleChunk healthy seq data).opened = true := by
            unfold ReceiveWorker.handleChunk
            rw [wasOpen]
            simp [healthy, post, isShort]
          exact inductionHypothesis staysOpen feedsRest fun chunk isChunk =>
            short chunk (List.mem_cons_of_mem _ isChunk)

theorem chunkMessages_numbered (pieces : List PendingChunk) :
    chunkMessages (pieces.map fun chunk => .chunk chunk.seq chunk.data) = pieces := by
  induction pieces with
  | nil => rfl
  | cons chunk rest inductionHypothesis => exact congrArg (chunk :: ·) inductionHypothesis

/-- Fed with the numbered pieces and finalized, the worker reports the content. -/
theorem run_healthy
    (segmentation : Segmentation.IsSegmentation chunkDataMaxBytes content pieces) :
    let worker := ready.run digest
      ((feedMessages pieces ++ [ReceiveWorkerIn.finalize]).map fun message => (message, healthy))
    worker.file = content ∧
      .done (digest content) content.length content.length ∈ worker.posted := by
  intro worker
  let messages := feedMessages pieces
  let inputs := messages.map fun message => (message, healthy)
  have isMessages : inputs.map Prod.fst = messages := by
    simp [inputs, Function.comp_def]
  have isChunks : chunkMessages messages = numbered pieces := chunkMessages_numbered _
  have feeds : ∀ message ∈ messages, Feeds message := by
    intro message isMessage
    obtain ⟨chunk, _, rfl⟩ := List.mem_map.mp isMessage
    exact ⟨nofun, nofun⟩
  have isOpen : (ready.run digest inputs).opened = true := by
    apply opened_of_healthy rfl feeds
    intro chunk isChunk
    rw [isChunks] at isChunk
    obtain ⟨index, inRange, rfl⟩ := List.mem_iff_getElem.mp isChunk
    simp only [numbered, List.length_mapIdx] at inRange
    simp only [numbered, List.getElem_mapIdx]
    rw [segmentation.getElem_length inRange]
    exact Nat.min_le_left _ _
  have stored : (ready.run digest inputs).Stored pieces := by
    have feedsInputs : ∀ input ∈ inputs, Feeds input.1 := by
      intro input isInput
      obtain ⟨message, isMessage, rfl⟩ := List.mem_map.mp isInput
      exact feeds message isMessage
    have all := run_stored segmentation feedsInputs
      ⟨[], by rw [isMessages, isChunks, List.append_nil]⟩ isOpen
    rw [isMessages, isChunks] at all
    simpa [numbered] using all
  have isWorker : worker =
      ((ready.run digest inputs).post (.done (digest (ready.run digest inputs).hashed)
        (ready.run digest inputs).bytesWritten (ready.run digest inputs).file.length)).close := by
    have isRun : worker = (ready.run digest inputs).handleFinalize digest healthy := by
      simp only [worker, List.map_append, run, List.foldl_append]
      rfl
    rw [isRun]
    unfold handleFinalize
    rw [isOpen]
    rfl
  rw [isWorker, stored.hashed, stored.bytesWritten, stored.file, segmentation.join]
  constructor
  · change (ready.run digest inputs).file = content
    rw [stored.file, segmentation.join]
  · simp [close, post]

end ReceiveWorker

end Unseen
