import Unseen.IpKey
import Unseen.Machine
import Unseen.Markdown
import Unseen.OrderedMap
import Unseen.StaticPaths

open EventMachine

namespace Unseen.Static

/-!
# Files served over HTTP

Tags and compressed bodies are computed once for each file and kept in three maps
that all requests share.  A request waits for the file system and for the digest,
so other requests are handled between any two of its steps.
-/

/-! ## Requests and responses -/

structure Request where
  pathname : Text
  ifNoneMatch : Option Text
  acceptEncoding : Option Text
deriving DecidableEq

structure Response where
  status : Nat
  headers : List (Text × Text)
  body : Option Bytes
deriving DecidableEq

inductive Encoding where
  | br
  | gzip
deriving DecidableEq

/-- The directory of the client, its files, and the functions of the runtime that
look at them. -/
structure Site where
  clientDistDir : AbsolutePath
  files : Text → Option Bytes
  fileType : Text → Text
  digest : Bytes → Bytes
  gzipSync : Bytes → Bytes
  brotliCompressSync : Bytes → Bytes
  runtime : Runtime

namespace Encoding

def text : Encoding → Text
  | br => Json.ascii "br".toList
  | gzip => Json.ascii "gzip".toList

end Encoding

/-! ## Conditional requests and encodings -/

/-- `acceptsEncoding` -/
def acceptsEncoding (runtime : Runtime) (request : Request) (encoding : Encoding) : Bool :=
  ((request.acceptEncoding.getD []).splitOn Json.comma).any fun part =>
    encoding.text.isPrefixOf (runtime.toLowerCase (Markdown.trim part))

/-- `negotiateEncoding` -/
def negotiateEncoding (runtime : Runtime) (request : Request) : Option Encoding :=
  if acceptsEncoding runtime request .br then some .br
  else if acceptsEncoding runtime request .gzip then some .gzip
  else none

/-- `compress` -/
def compress (site : Site) : Encoding → Bytes → Bytes
  | .br => site.brotliCompressSync
  | .gzip => site.gzipSync

/-- `hexDigest` -/
def hexDigest (bytes : Bytes) : Text :=
  hexEncode bytes

def weakMark : Text := Json.ascii "W/".toList

/-- The tag of a file whose digest is given. -/
def etagOf (digest : Bytes) : Text :=
  weakMark ++ Json.quotationMark :: (hexDigest digest ++ [Json.quotationMark])

/-- `normalizeEtag` -/
def normalizeEtag (raw : Text) : Text :=
  if weakMark.isPrefixOf raw then raw.drop 2 else raw

/-- `etagMatches` -/
def etagMatches (clientHeader : Option Text) (serverEtag : Text) : Bool :=
  match clientHeader with
  | none => false
  | some header =>
      (header.splitOn Json.comma).any fun part =>
        normalizeEtag (Markdown.trim part) = normalizeEtag serverEtag

/-- `COMPRESS_EXTENSIONS` -/
def compressExtensions : List Text :=
  [ Json.ascii ".js".toList, Json.ascii ".css".toList, Json.ascii ".svg".toList,
    Json.ascii ".html".toList ]

/-- `cacheControlFor` -/
def cacheControlFor (immutable : Bool) : Text :=
  if immutable then Json.ascii "public, max-age=31536000, immutable".toList
  else Json.ascii "no-cache".toList

def cacheControlName : Text := Json.ascii "cache-control".toList
def etagName : Text := Json.ascii "etag".toList
def contentEncodingName : Text := Json.ascii "content-encoding".toList
def contentLengthName : Text := Json.ascii "content-length".toList
def contentTypeName : Text := Json.ascii "content-type".toList
def varyName : Text := Json.ascii "vary".toList
def acceptEncodingName : Text := Json.ascii "accept-encoding".toList

/-! ## Answers -/

/-- `notFound` -/
def notFound : Response where
  status := 404
  headers := []
  body := some ((Json.ascii "Not found".toList).map UInt16.toUInt8)

/-- `handleHealthz`, for the verdict of the limiter. -/
def handleHealthz (allowed : Bool) : Response :=
  if allowed then
    { status := 200
      headers := [(contentTypeName, Json.ascii "text/plain; charset=utf-8".toList)]
      body := some ((Json.ascii "ok".toList).map UInt16.toUInt8) }
  else
    { status := 429
      headers := []
      body := some ((Json.ascii "rate_limited".toList).map UInt16.toUInt8) }

/-- The headers of every answer with a file. -/
def fileHeaders (immutable : Bool) (etag : Text) : List (Text × Text) :=
  [(cacheControlName, cacheControlFor immutable), (etagName, etag)]

/-- The type of a file, when it has one. -/
def typeHeader (site : Site) (file : AbsolutePath) : List (Text × Text) :=
  if site.fileType file.text = [] then [] else [(contentTypeName, site.fileType file.text)]

def notModified (headers : List (Text × Text)) : Response where
  status := 304
  headers := headers
  body := none

def compressedFile
    (site : Site) (file : AbsolutePath) (headers : List (Text × Text))
    (encoding : Encoding) (payload : Bytes) : Response where
  status := 200
  headers := headers ++
    [ (contentEncodingName, encoding.text),
      (contentLengthName, Json.decimal payload.length),
      (varyName, acceptEncodingName) ] ++ typeHeader site file
  body := some payload

/-- A file as it is; the type of its answer is that of the file. -/
def plainFile
    (site : Site) (file : AbsolutePath) (headers : List (Text × Text)) (raw : Bytes) :
    Response where
  status := 200
  headers := headers ++ typeHeader site file
  body := some raw

/-- The encoding of the answer with a file. -/
def encodingFor (site : Site) (file : AbsolutePath) (request : Request) : Option Encoding :=
  if site.runtime.toLowerCase file.extname ∈ compressExtensions then
    negotiateEncoding site.runtime request
  else
    none

/-! ## Steps of a request -/

/-- What a request waits for. -/
inductive Stage where
  /-- `file.exists()` -/
  | exists
  /-- `file.bytes()` of `computeEtag` -/
  | reading
  /-- The digest of what was read. -/
  | digesting (raw : Bytes)
  /-- The result of `computeEtag`. -/
  | tagged (etag : Text)
  /-- `file.bytes()` for a body to be compressed. -/
  | compressing (etag : Text) (encoding : Encoding)

/-- A request for a file that has not been answered. -/
structure Task where
  request : Request
  file : AbsolutePath
  immutable : Bool
  stage : Stage

structure Server where
  etagCache : OrderedMap Text Text
  gzipCache : OrderedMap Text Bytes
  brotliCache : OrderedMap Text Bytes
  tasks : List Task
  answered : List (Request × Response)

namespace Server

def initial : Server where
  etagCache := OrderedMap.empty
  gzipCache := OrderedMap.empty
  brotliCache := OrderedMap.empty
  tasks := []
  answered := []

def answer (server : Server) (request : Request) (response : Response) : Server :=
  { server with answered := server.answered ++ [(request, response)] }

def await (server : Server) (task : Task) (stage : Stage) : Server :=
  { server with tasks := server.tasks ++ [{ task with stage := stage }] }

def payloads (server : Server) : Encoding → OrderedMap Text Bytes
  | .br => server.brotliCache
  | .gzip => server.gzipCache

def keepPayload (server : Server) (encoding : Encoding) (file : Text) (payload : Bytes) : Server :=
  match encoding with
  | .br => { server with brotliCache := server.brotliCache.set file payload }
  | .gzip => { server with gzipCache := server.gzipCache.set file payload }

/-- `/healthz` -/
def healthzPath : Text := Json.ascii "/healthz".toList

/-- `handleHttpRequest`, to its first wait; the limiter is asked for `/healthz`
only. -/
def handleHttpRequest (site : Site) (server : Server) (request : Request) (allowed : Bool) :
    Server :=
  if request.pathname = healthzPath then
    server.answer request (handleHealthz allowed)
  else
    match requestedFile site.clientDistDir request.pathname with
    | none => server.answer request notFound
    | some (file, immutable) =>
        { server with tasks := server.tasks ++ [⟨request, file, immutable, .exists⟩] }

/-- `computeEtag`, to its first wait. -/
def computeEtag (server : Server) (task : Task) : Server :=
  match server.etagCache.get task.file.text with
  | some cached => server.await task (.tagged cached)
  | none => server.await task .reading

/-- `respondWithFile`, from the tag on. -/
def respondTagged (site : Site) (server : Server) (task : Task) (etag : Text) : Server :=
  let headers := fileHeaders task.immutable etag
  if etagMatches task.request.ifNoneMatch etag then
    server.answer task.request (notModified headers)
  else
    match encodingFor site task.file task.request with
    | some encoding =>
        match (server.payloads encoding).get task.file.text with
        | some payload =>
            server.answer task.request (compressedFile site task.file headers encoding payload)
        | none => server.await task (.compressing etag encoding)
    | none =>
        server.answer task.request
          (plainFile site task.file headers ((site.files task.file.text).getD []))

/-- What a request does when its wait is over. -/
def resume (site : Site) (server : Server) (task : Task) : Server :=
  match task.stage with
  | .exists =>
      if (site.files task.file.text).isSome then server.computeEtag task
      else server.answer task.request notFound
  | .reading => server.await task (.digesting ((site.files task.file.text).getD []))
  | .digesting raw =>
      let etag := etagOf (site.digest raw)
      { server with etagCache := server.etagCache.set task.file.text etag }.await task
        (.tagged etag)
  | .tagged etag => respondTagged site server task etag
  | .compressing etag encoding =>
      let payload := compress site encoding ((site.files task.file.text).getD [])
      (server.keepPayload encoding task.file.text payload).answer task.request
        (compressedFile site task.file (fileHeaders task.immutable etag) encoding payload)

end Server

inductive Event where
  | arrives (request : Request) (allowed : Bool)
  /-- The wait of a task is over. -/
  | settles (index : Nat)
  /-- The file system fails a task, which is answered by the handler of errors. -/
  | fails (index : Nat)

/-- Requests arrive at any time, and waits end in any order. -/
def serving (site : Site) : Machine Server Event where
  enabled server event :=
    match event with
    | .arrives _ _ => True
    | .settles index => index < server.tasks.length
    | .fails index => index < server.tasks.length
  step server event :=
    match event with
    | .arrives request allowed => server.handleHttpRequest site request allowed
    | .settles index =>
        match server.tasks[index]? with
        | none => server
        | some task => { server with tasks := server.tasks.eraseIdx index }.resume site task
    | .fails index => { server with tasks := server.tasks.eraseIdx index }

/-! ## Answers without caches -/

/-- The answer with a file, when everything is computed for it. -/
def fileResponse
    (site : Site) (file : AbsolutePath) (immutable : Bool) (raw : Bytes) (request : Request) :
    Response :=
  let etag := etagOf (site.digest raw)
  let headers := fileHeaders immutable etag
  if etagMatches request.ifNoneMatch etag then
    notModified headers
  else
    match encodingFor site file request with
    | some encoding => compressedFile site file headers encoding (compress site encoding raw)
    | none => plainFile site file headers raw

/-- The answer to a request for a file, as a function of the site. -/
def respond (site : Site) (request : Request) : Response :=
  match requestedFile site.clientDistDir request.pathname with
  | none => notFound
  | some (file, immutable) =>
      match site.files file.text with
      | none => notFound
      | some raw => fileResponse site file immutable raw request

/-- What is answered: the verdict of the limiter for `/healthz`, and the answer
without caches for every other pathname. -/
def Answers (site : Site) (request : Request) (response : Response) : Prop :=
  if request.pathname = Server.healthzPath then
    ∃ allowed, response = handleHealthz allowed
  else
    response = respond site request

/-! ## What caches and tasks hold -/

/-- A task past the check that its file exists. -/
def Stage.Sound (site : Site) (task : Task) (raw : Bytes) : Stage → Prop
  | .exists => True
  | .reading => True
  | .digesting read => read = raw
  | .tagged etag => etag = etagOf (site.digest raw)
  | .compressing etag encoding =>
      etag = etagOf (site.digest raw) ∧
        etagMatches task.request.ifNoneMatch etag = false ∧
        encodingFor site task.file task.request = some encoding

structure Task.Sound (site : Site) (task : Task) : Prop where
  notHealthz : task.request.pathname ≠ Server.healthzPath
  requested : requestedFile site.clientDistDir task.request.pathname =
    some (task.file, task.immutable)
  stage : task.stage = .exists ∨
    ∃ raw, site.files task.file.text = some raw ∧ task.stage.Sound site task raw

/-- Tags and payloads are those of the files, and so are all answers. -/
structure Server.Sound (site : Site) (server : Server) : Prop where
  etags : server.etagCache.Memoizes fun file =>
    (site.files file).map fun raw => etagOf (site.digest raw)
  payloads : ∀ encoding, (server.payloads encoding).Memoizes fun file =>
    (site.files file).map (compress site encoding)
  tasks : ∀ task ∈ server.tasks, task.Sound site
  answered : ∀ answered ∈ server.answered, Answers site answered.1 answered.2

namespace Server

variable {site : Site} {server : Server} {task : Task}

theorem Sound.answer
    (sound : server.Sound site)
    {request : Request}
    {response : Response}
    (isAnswer : Answers site request response) :
    (server.answer request response).Sound site where
  etags := sound.etags
  payloads := sound.payloads
  tasks := sound.tasks
  answered := by
    intro answered isAnswered
    rcases List.mem_append.mp isAnswered with earlier | now
    · exact sound.answered answered earlier
    · rw [List.mem_singleton.mp now]
      exact isAnswer

/-- A task may wait for what it is sound to wait for. -/
theorem Sound.await
    (sound : server.Sound site)
    (isTask : task.Sound site)
    {raw : Bytes}
    (isFile : site.files task.file.text = some raw)
    {stage : Stage}
    (isStage : stage.Sound site task raw) :
    (server.await task stage).Sound site where
  etags := sound.etags
  payloads := sound.payloads
  tasks := by
    intro other isOther
    rcases List.mem_append.mp isOther with earlier | now
    · exact sound.tasks other earlier
    · rw [List.mem_singleton.mp now]
      refine ⟨isTask.notHealthz, isTask.requested, .inr ⟨raw, isFile, ?_⟩⟩
      cases stage <;> exact isStage
  answered := sound.answered

theorem Sound.erase
    (sound : server.Sound site)
    (index : Nat) :
    { server with tasks := server.tasks.eraseIdx index }.Sound site where
  etags := sound.etags
  payloads := sound.payloads
  tasks := fun task isTask => sound.tasks task (List.mem_of_mem_eraseIdx isTask)
  answered := sound.answered

theorem Sound.keepEtag
    (sound : server.Sound site)
    {file : Text}
    {raw : Bytes}
    (isFile : site.files file = some raw) :
    { server with
      etagCache := server.etagCache.set file (etagOf (site.digest raw)) }.Sound site where
  etags := sound.etags.set (by rw [isFile]; rfl)
  payloads := sound.payloads
  tasks := sound.tasks
  answered := sound.answered

theorem Sound.keepPayload
    (sound : server.Sound site)
    {file : Text}
    {raw : Bytes}
    (isFile : site.files file = some raw)
    (encoding : Encoding) :
    (server.keepPayload encoding file (compress site encoding raw)).Sound site := by
  have computed : (site.files file).map (compress site encoding) =
      some (compress site encoding raw) := by
    rw [isFile]
    rfl
  cases encoding with
  | br =>
      refine ⟨sound.etags, ?_, sound.tasks, sound.answered⟩
      intro other
      cases other with
      | br => exact (sound.payloads .br).set computed
      | gzip => exact sound.payloads .gzip
  | gzip =>
      refine ⟨sound.etags, ?_, sound.tasks, sound.answered⟩
      intro other
      cases other with
      | br => exact sound.payloads .br
      | gzip => exact (sound.payloads .gzip).set computed

end Server

/-- The answer of a task whose file is known. -/
theorem Task.Sound.answers
    {site : Site}
    {task : Task}
    (sound : task.Sound site)
    {raw : Bytes}
    (isFile : site.files task.file.text = some raw) :
    Answers site task.request (fileResponse site task.file task.immutable raw task.request) := by
  rw [Answers, if_neg sound.notHealthz, respond]
  simp only [sound.requested, isFile]

namespace Server

variable {site : Site} {server : Server} {task : Task}

theorem Sound.handleHttpRequest
    (sound : server.Sound site)
    (request : Request)
    (allowed : Bool) :
    (server.handleHttpRequest site request allowed).Sound site := by
  unfold Server.handleHttpRequest
  split
  · rename_i isHealthz
    refine sound.answer ?_
    rw [Answers, if_pos isHealthz]
    exact ⟨allowed, rfl⟩
  · rename_i notHealthz
    split
    · rename_i isNone
      refine sound.answer ?_
      rw [Answers, if_neg notHealthz, respond, isNone]
    · rename_i file immutable isSome
      refine ⟨sound.etags, sound.payloads, ?_, sound.answered⟩
      intro task isTask
      rcases List.mem_append.mp isTask with earlier | now
      · exact sound.tasks task earlier
      · rw [List.mem_singleton.mp now]
        exact ⟨notHealthz, isSome, .inl rfl⟩

theorem Sound.computeEtag
    (sound : server.Sound site)
    (isTask : task.Sound site)
    {raw : Bytes}
    (isFile : site.files task.file.text = some raw) :
    (server.computeEtag task).Sound site := by
  unfold Server.computeEtag
  split
  · rename_i cached isCached
    have computed := sound.etags _ _ isCached
    simp only [isFile, Option.map_some, Option.some.injEq] at computed
    exact sound.await isTask isFile computed.symm
  · exact sound.await isTask isFile trivial

/-- From the right tag on, the answer is the one without caches, or the task goes on
to compress. -/
theorem Sound.respondTagged
    (sound : server.Sound site)
    (isTask : task.Sound site)
    {raw : Bytes}
    (isFile : site.files task.file.text = some raw) :
    (server.respondTagged site task (etagOf (site.digest raw))).Sound site := by
  have answers := isTask.answers isFile
  unfold fileResponse at answers
  unfold Server.respondTagged
  split
  · rename_i isMatch
    rw [if_pos isMatch] at answers
    exact sound.answer answers
  · rename_i noMatch
    rw [if_neg noMatch] at answers
    cases isEncoding : encodingFor site task.file task.request with
    | none =>
        simp only [isEncoding, isFile, Option.getD_some] at answers ⊢
        exact sound.answer answers
    | some encoding =>
        simp only [isEncoding] at answers ⊢
        cases isPayload : (server.payloads encoding).get task.file.text with
        | none =>
            exact sound.await isTask isFile ⟨rfl, Bool.eq_false_iff.mpr noMatch, isEncoding⟩
        | some payload =>
            have computed := sound.payloads encoding _ _ isPayload
            simp only [isFile, Option.map_some, Option.some.injEq] at computed
            rw [computed] at answers
            exact sound.answer answers

/-- One step of a task, case by case over what it waited for. -/
theorem Sound.resume
    (sound : server.Sound site)
    (isTask : task.Sound site) :
    (server.resume site task).Sound site := by
  obtain ⟨request, file, immutable, stage⟩ := task
  have isStage := isTask.stage
  unfold Server.resume
  cases stage with
  | «exists» =>
      cases isFile : site.files file.text with
      | none =>
          simp only [Option.isSome_none, Bool.false_eq_true, if_false]
          refine sound.answer ?_
          rw [Answers, if_neg isTask.notHealthz, respond]
          simp only [isTask.requested, isFile]
      | some raw =>
          simp only [Option.isSome_some, if_true]
          exact sound.computeEtag isTask isFile
  | reading =>
      obtain ⟨raw, isFile, -⟩ := isStage.resolve_left (by simp)
      simp only [isFile, Option.getD_some]
      exact sound.await isTask isFile rfl
  | digesting read =>
      obtain ⟨raw, isFile, isRead⟩ := isStage.resolve_left (by simp)
      cases isRead
      exact (sound.keepEtag isFile).await isTask isFile rfl
  | tagged etag =>
      obtain ⟨raw, isFile, isTag⟩ := isStage.resolve_left (by simp)
      cases isTag
      exact sound.respondTagged isTask isFile
  | compressing etag encoding =>
      obtain ⟨raw, isFile, rfl, noMatch, isEncoding⟩ := isStage.resolve_left (by simp)
      have answers := isTask.answers isFile
      have notMatching : ¬ etagMatches request.ifNoneMatch (etagOf (site.digest raw)) = true := by
        rw [noMatch]
        exact Bool.false_ne_true
      rw [fileResponse, if_neg notMatching, isEncoding] at answers
      simp only [isFile, Option.getD_some]
      exact (sound.keepPayload isFile encoding).answer answers

end Server

theorem serving_sound
    {site : Site}
    {server : Server}
    (reachable : (serving site).Reachable (· = Server.initial) Machine.anyStep server) :
    server.Sound site := by
  refine reachable.invariant (fun start isStart => ?_) (fun server event sound _ _ => ?_)
  · subst isStart
    refine ⟨OrderedMap.memoizes_empty _, ?_, by simp [Server.initial], by simp [Server.initial]⟩
    intro encoding
    cases encoding <;> exact OrderedMap.memoizes_empty _
  · cases event with
    | arrives request allowed => exact sound.handleHttpRequest request allowed
    | settles index =>
        cases isTask : server.tasks[index]? with
        | none =>
            simp only [serving, isTask]
            exact sound
        | some task =>
            simp only [serving, isTask]
            exact (sound.erase index).resume (sound.tasks task (List.mem_of_getElem? isTask))
    | fails index => exact sound.erase index

/-- In whatever order requests arrive and their waits end, every request is answered
as if nothing were cached; one for `/healthz` at once, with the verdict it arrived with. -/
theorem answers_uncached
    {site : Site}
    {server : Server}
    (reachable : (serving site).Reachable (· = Server.initial) Machine.anyStep server) :
    (∀ answered ∈ server.answered, Answers site answered.1 answered.2) ∧
      ∀ request allowed, request.pathname = Server.healthzPath →
        (serving site).step server (.arrives request allowed) =
          server.answer request (handleHealthz allowed) :=
  ⟨(serving_sound reachable).answered, fun _ _ isHealthz => if_pos isHealthz⟩

/-! ## Two requests that share a tag -/

/-- `/srv` -/
def smallRoot : AbsolutePath where
  segments := [Json.ascii "srv".toList]
  normal := by decide

/-- A site with one page, whose digest is its first byte. -/
def smallSite : Site where
  clientDistDir := smallRoot
  files path := if path = Json.ascii "/srv/index.html".toList then some [0x3C, 0x70] else none
  fileType _ := []
  digest raw := raw.take 1
  gzipSync raw := 0x1F :: raw
  brotliCompressSync raw := 0xCE :: raw
  runtime := ⟨fun _ => 0, fun text => text.map lowerUnit⟩

def smallRequest : Request where
  pathname := [slash]
  ifNoneMatch := none
  acceptEncoding := some (Json.ascii "deflate, GZIP;q=0.5".toList)

def smallRevalidation : Request :=
  { smallRequest with
    ifNoneMatch := some (Json.ascii "\"3b\", W/\"3c\"".toList) }

instance (site : Site) (server : Server) (event : Event) :
    Decidable ((serving site).enabled server event) :=
  match event with
  | .arrives _ _ => inferInstanceAs (Decidable True)
  | .settles _ => inferInstanceAs (Decidable (_ < _))
  | .fails _ => inferInstanceAs (Decidable (_ < _))

/-- The second request arrives while the first one computes the tag. -/
def smallRun : List Event :=
  [ .arrives smallRequest true, .settles 0, .settles 0, .arrives smallRevalidation true,
    .settles 0, .settles 0, .settles 0, .settles 0, .settles 0 ]

theorem smallRun_reachable :
    (serving smallSite).Reachable (· = Server.initial) Machine.anyStep
      ((serving smallSite).run Server.initial smallRun) := by
  refine Machine.Reachable.run (.start rfl) ?_
  decide

/-- The tag of the small page. -/
def smallTag : Text := Json.ascii "W/\"3c\"".toList

/-- The small page, compressed. -/
def smallAnswer : Response :=
  compressedFile smallSite (smallRoot.join indexName) (fileHeaders false smallTag) .gzip
    [0x1F, 0x3C, 0x70]

theorem smallRequest_answered :
    (smallRequest, smallAnswer) ∈ ((serving smallSite).run Server.initial smallRun).answered := by
  decide

theorem answers_uncached_small : Answers smallSite smallRequest smallAnswer :=
  (answers_uncached smallRun_reachable).1 _ smallRequest_answered

/-! ## Asking again with a tag -/

theorem eq_of_mem_fileHeaders
    {immutable : Bool}
    {etag tag : Text}
    (isTag : (etagName, tag) ∈ fileHeaders immutable etag) :
    tag = etag := by
  have others : etagName ≠ cacheControlName := by decide
  simpa [fileHeaders, others] using isTag

theorem etagName_notMem_typeHeader
    {site : Site}
    {file : AbsolutePath}
    {tag : Text} :
    (etagName, tag) ∉ typeHeader site file := by
  have others : etagName ≠ contentTypeName := by decide
  unfold typeHeader
  split <;> simp [others]

/-- The tag in the headers of an answer is that of the file. -/
theorem eq_of_mem_fileResponse
    {site : Site}
    {file : AbsolutePath}
    {immutable : Bool}
    {raw : Bytes}
    {request : Request}
    {tag : Text}
    (isTag : (etagName, tag) ∈ (fileResponse site file immutable raw request).headers) :
    tag = etagOf (site.digest raw) := by
  by_cases isMatch : etagMatches request.ifNoneMatch (etagOf (site.digest raw)) = true
  · rw [fileResponse, if_pos isMatch] at isTag
    exact eq_of_mem_fileHeaders isTag
  · rw [fileResponse, if_neg isMatch] at isTag
    cases isEncoding : encodingFor site file request with
    | none =>
        rw [isEncoding] at isTag
        rcases List.mem_append.mp isTag with isTag | isType
        · exact eq_of_mem_fileHeaders isTag
        · exact absurd isType etagName_notMem_typeHeader
    | some encoding =>
        have others : etagName ≠ contentEncodingName ∧ etagName ≠ contentLengthName ∧
            etagName ≠ varyName := by
          decide
        rw [isEncoding] at isTag
        rcases List.mem_append.mp isTag with isTag | isType
        · rcases List.mem_append.mp isTag with isTag | isTag
          · exact eq_of_mem_fileHeaders isTag
          · simp [others] at isTag
        · exact absurd isType etagName_notMem_typeHeader

/-- A tag is sent with a file only. -/
theorem Answers.tagged
    {site : Site}
    {request : Request}
    {response : Response}
    (answers : Answers site request response)
    {tag : Text}
    (isTag : (etagName, tag) ∈ response.headers) :
    request.pathname ≠ Server.healthzPath ∧ ∃ file immutable raw,
      requestedFile site.clientDistDir request.pathname = some (file, immutable) ∧
        site.files file.text = some raw ∧ tag = etagOf (site.digest raw) := by
  unfold Answers at answers
  split at answers
  · obtain ⟨allowed, rfl⟩ := answers
    have others : etagName ≠ contentTypeName := by decide
    cases allowed <;> simp [handleHealthz, others] at isTag
  · rename_i notHealthz
    refine ⟨notHealthz, ?_⟩
    subst answers
    unfold respond at isTag
    split at isTag
    · cases isTag
    · rename_i file immutable isRequested
      split at isTag
      · cases isTag
      · rename_i raw isFile
        exact ⟨file, immutable, raw, isRequested, isFile, eq_of_mem_fileResponse isTag⟩

/-- A client that lists a tag it was once given is told, at any later time and by
whatever server state, that the file has not changed. -/
theorem revalidates
    {site : Site}
    {server : Server}
    (reachable : (serving site).Reachable (· = Server.initial) Machine.anyStep server)
    {first second : Request}
    {given answer : Response}
    (isFirst : (first, given) ∈ server.answered)
    (isSecond : (second, answer) ∈ server.answered)
    (samePath : second.pathname = first.pathname)
    {tag header : Text}
    (isTag : (etagName, tag) ∈ given.headers)
    (isHeader : second.ifNoneMatch = some header)
    (isListed : tag ∈ (header.splitOn Json.comma).map Markdown.trim) :
    answer.status = 304 ∧ answer.body = none ∧ (etagName, tag) ∈ answer.headers := by
  have sound := serving_sound reachable
  obtain ⟨notHealthz, file, immutable, raw, isRequested, isFile, rfl⟩ :=
    (sound.answered _ isFirst).tagged isTag
  have isAnswer : Answers site second answer := sound.answered _ isSecond
  rw [Answers, samePath, if_neg notHealthz, respond, samePath, isRequested] at isAnswer
  have isMatch : etagMatches second.ifNoneMatch (etagOf (site.digest raw)) = true := by
    obtain ⟨part, isPart, isTrimmed⟩ := List.mem_map.mp isListed
    rw [isHeader, etagMatches, List.any_eq_true]
    exact ⟨part, isPart, by rw [isTrimmed]; exact decide_eq_true rfl⟩
  simp only [isFile, fileResponse, isMatch, if_true] at isAnswer
  subst isAnswer
  exact ⟨rfl, rfl, List.mem_cons_of_mem _ List.mem_cons_self⟩

theorem revalidates_small :
    (notModified (fileHeaders false smallTag)).status = 304 ∧
      (notModified (fileHeaders false smallTag)).body = none ∧
      (etagName, smallTag) ∈ (notModified (fileHeaders false smallTag)).headers := by
  have isSecond : (smallRevalidation, notModified (fileHeaders false smallTag)) ∈
      ((serving smallSite).run Server.initial smallRun).answered := by
    decide
  exact revalidates smallRun_reachable smallRequest_answered isSecond rfl
    (List.mem_cons_of_mem _ List.mem_cons_self) rfl (by decide)

end Unseen.Static
