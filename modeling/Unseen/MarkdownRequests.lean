import Unseen.Machine
import Unseen.Markdown

namespace Unseen.Markdown

open EventMachine

/-!
# Markdown requests

The messages of a page are parsed by one worker.  A call first awaits that the
worker is ready, then posts its source under a fresh number and waits for the
answer, for its own timer, or for another call's timer to discard the worker
under it.

A call keeps what it read when it began: the worker it awaits may have been
discarded, and replaced, by the time it goes on.
-/

/-- What a `parseMarkdown` call awaits, or what it returned. -/
inductive Stage where
  /-- the worker's first message -/
  | awaitingReady (worker : Nat)
  /-- the answer to a request, or its timer -/
  | posted (worker id : Nat)
  | resolved (ast : Ast)

/-- A `parseMarkdown` call. -/
structure Call where
  source : Text
  stage : Stage

/-- A promise that has been resolved stays as it is. -/
def Call.resolveWith (ast : Ast) (call : Call) : Call :=
  match call.stage with
  | .resolved _ => call
  | _ => { call with stage := .resolved ast }

/-- An entry of the pending map: the call whose promise it resolves. -/
structure PendingRequest where
  id : Nat
  call : Nat
  deriving DecidableEq

/-- `WorkerRequest` -/
structure WorkerRequest where
  id : Nat
  source : Text
  deriving DecidableEq

/-- `WorkerState`, together with the requests the worker has not answered. -/
structure WorkerState where
  pending : List PendingRequest
  ready : Option Bool
  inbox : List WorkerRequest

/-- An armed timer of a request, with what its callback captured. -/
structure Timer where
  id : Nat
  call : Nat
  worker : Nat
  deriving DecidableEq

/-- The variables of the module, its workers in the order of their creation, and its calls. -/
structure Host where
  canUseWorker : Bool
  nextRequestId : Nat
  state : Option Nat
  workers : List WorkerState
  timers : List Timer
  calls : List Call

inductive Event where
  | prewarmed
  | called (source : Text)
  /-- `workerReady` settles. -/
  | readySettled (worker : Nat) (ready : Bool)
  /-- A call whose worker is ready, or will not be, goes on. -/
  | wentOn (call : Nat)
  /-- The worker's answer to a request arrives. -/
  | answered (worker : Nat) (request : WorkerRequest)
  | timedOut (timer : Timer)

namespace Host

/-- A page that has parsed nothing yet. -/
def initial (canUseWorker : Bool) : Host where
  canUseWorker := canUseWorker
  nextRequestId := 0
  state := none
  workers := []
  timers := []
  calls := []

/-- `spawnWorker` -/
def spawnWorker (host : Host) : Host :=
  { host with
    state := some host.workers.length
    workers := host.workers ++ [{ pending := [], ready := none, inbox := [] }] }

/-- `ensureWorker`; the state is the number of a worker. -/
def ensureWorker (host : Host) : Host × Nat :=
  match host.state with
  | some worker => (host, worker)
  | none => (host.spawnWorker, host.workers.length)

/-- `resolve` on the promise of a call -/
def resolve (host : Host) (call : Nat) (ast : Ast) : Host :=
  { host with calls := host.calls.modify call (Call.resolveWith ast) }

/-- `bombFallback` -/
def bombFallback (source : Text) : Ast where
  nodes := [.text source]
  bombFallback := true
  source := source

/-- `clearTimeout` on the timer of a request. -/
def clearTimeout (host : Host) (id : Nat) : Host :=
  { host with timers := host.timers.filter fun timer => timer.id ≠ id }

/-- What `terminateAndReset` does with one entry of the pending map. -/
def abandon (host : Host) (pending : PendingRequest) : Host :=
  (host.clearTimeout pending.id).resolve pending.call (bombFallback [])

/-- `terminateAndReset` -/
def terminateAndReset (host : Host) : Host :=
  match host.state with
  | none => host
  | some current =>
      match host.workers[current]? with
      | none => host
      | some worker => worker.pending.foldl abandon { host with state := none }

/-- `pending.delete` on a worker's map. -/
def deletePending (host : Host) (worker id : Nat) : Host :=
  { host with
    workers := host.workers.modify worker fun entry =>
      { entry with pending := entry.pending.filter fun pending => pending.id ≠ id } }

/-- `parseMarkdown` up to its first await. -/
def parseMarkdown (unicode : Unicode) (host : Host) (source : Text) : Host :=
  if host.canUseWorker then
    let ensured := host.ensureWorker
    { ensured.1 with calls := ensured.1.calls ++ [⟨source, .awaitingReady ensured.2⟩] }
  else
    { host with
      calls := host.calls ++ [⟨source, .resolved (parseMarkdownString unicode source)⟩] }

/-- `parseMarkdown` once its worker is ready: the request is posted. -/
def post (host : Host) (call : Nat) (source : Text) (current : Nat) : Host :=
  let id := host.nextRequestId
  { host with
    nextRequestId := id + 1
    timers := host.timers ++ [⟨id, call, current⟩]
    workers := host.workers.modify current fun worker =>
      { worker with
        pending := worker.pending ++ [⟨id, call⟩]
        inbox := worker.inbox ++ [⟨id, source⟩] }
    calls := host.calls.modify call fun entry => { entry with stage := .posted current id } }

/-- `parseMarkdown` when its worker does not get ready. -/
def giveUp (host : Host) (call : Nat) (source : Text) (current : Nat) : Host :=
  (if host.state = some current then host.terminateAndReset else host).resolve call
    (bombFallback source)

/-- `parseMarkdown` after the worker's readiness was decided. -/
def wentOn (host : Host) (call : Nat) : Host :=
  match host.calls[call]? with
  | some ⟨source, .awaitingReady current⟩ =>
      match (host.workers[current]?).bind WorkerState.ready with
      | some true => host.post call source current
      | some false => host.giveUp call source current
      | none => host
  | _ => host

/-- `handleWorkerResponse` -/
def handleWorkerResponse (host : Host) (id : Nat) (ast : Ast) : Host :=
  match host.state with
  | none => host
  | some current =>
      match (host.workers[current]?).bind fun worker =>
          worker.pending.find? fun pending => pending.id = id with
      | none => host
      | some pending =>
          ((host.deletePending current id).clearTimeout id).resolve pending.call ast

/-- The worker answers with the parsed source. -/
def answered (unicode : Unicode) (host : Host) (worker : Nat) (request : WorkerRequest) : Host :=
  { host with
    workers := host.workers.modify worker fun entry =>
      { entry with inbox := entry.inbox.filter fun other => other.id ≠ request.id }
  }.handleWorkerResponse request.id (parseMarkdownString unicode request.source)

/-- The callback of a request's timer. -/
def timedOut (host : Host) (timer : Timer) (source : Text) : Host :=
  let resolved :=
    ((host.clearTimeout timer.id).deletePending timer.worker timer.id).resolve timer.call
      (bombFallback source)
  if resolved.state = some timer.worker then resolved.terminateAndReset else resolved

/-- The events that can occur; an answer may still arrive from a discarded worker. -/
def canOccur (host : Host) : Event → Bool
  | .prewarmed => true
  | .called _ => true
  | .readySettled worker _ => (host.workers[worker]?).any fun entry => entry.ready.isNone
  | .wentOn call =>
      match host.calls[call]? with
      | some ⟨_, .awaitingReady worker⟩ =>
          (host.workers[worker]?).any fun entry => entry.ready.isSome
      | _ => false
  | .answered worker request =>
      (host.workers[worker]?).any fun entry => entry.inbox.contains request
  | .timedOut timer => host.timers.contains timer

def step (unicode : Unicode) (host : Host) : Event → Host
  | .prewarmed => if host.canUseWorker then host.ensureWorker.1 else host
  | .called source => parseMarkdown unicode host source
  | .readySettled worker ready =>
      { host with
        workers := host.workers.modify worker fun entry => { entry with ready := some ready } }
  | .wentOn call => host.wentOn call
  | .answered worker request => answered unicode host worker request
  | .timedOut timer =>
      match host.calls[timer.call]? with
      | some call => host.timedOut timer call.source
      | none => host

end Host

/-- The markdown module of a page. -/
def requests (unicode : Unicode) : Machine Host Event where
  enabled := fun host event => host.canOccur event = true
  step := Host.step unicode

def Host.IsInitial (host : Host) : Prop :=
  ∃ canUseWorker, host = .initial canUseWorker

instance (unicode : Unicode) (host : Host) (event : Event) :
    Decidable ((requests unicode).enabled host event) :=
  inferInstanceAs (Decidable (host.canOccur event = true))

namespace Host

variable {unicode : Unicode} {host : Host} {owner : Nat → Nat}

/-! ## What a call was given -/

/-- The source of a call. -/
def sourceOf (host : Host) (call : Nat) : Option Text :=
  (host.calls[call]?).map Call.source

/-- The tree carries the sanitised source of the call. -/
def Fits (unicode : Unicode) (host : Host) (call : Nat) (ast : Ast) : Prop :=
  ∀ source, host.sourceOf call = some source → ast.source = sanitizeUnicode unicode source

/-- Every returned tree carries the sanitised source of its own call. -/
def Faithful (unicode : Unicode) (host : Host) : Prop :=
  ∀ (index : Nat) (call : Call) (ast : Ast),
    host.calls[index]? = some call → call.stage = .resolved ast →
      ast.source = sanitizeUnicode unicode call.source

/-- The event that resolves a call, if nothing else does before. -/
def WaitsFor (host : Host) (index : Nat) : Stage → Prop
  | .awaitingReady worker => worker < host.workers.length
  | .posted worker id => ⟨id, index, worker⟩ ∈ host.timers
  | .resolved _ => True

/-- Every request number was given to one call, which is known by it everywhere. -/
structure Sound (owner : Nat → Nat) (host : Host) : Prop where
  timers : ∀ timer ∈ host.timers, timer.call = owner timer.id ∧ timer.id < host.nextRequestId
  pending : ∀ worker ∈ host.workers, ∀ pending ∈ worker.pending,
    pending.call = owner pending.id ∧ pending.id < host.nextRequestId
  inbox : ∀ worker ∈ host.workers, ∀ request ∈ worker.inbox,
    request.id < host.nextRequestId ∧ host.sourceOf (owner request.id) = some request.source
  waits : ∀ (index : Nat) (call : Call), host.calls[index]? = some call →
    host.WaitsFor index call.stage
  current : ∀ worker, host.state = some worker → worker < host.workers.length

theorem sound_initial (canUseWorker : Bool) : Sound owner (initial canUseWorker) where
  timers := nofun
  pending := nofun
  inbox := nofun
  waits := by intro index call isCall; cases isCall
  current := nofun

/-! ## Resolving one call -/

@[simp]
theorem source_resolveWith (ast : Ast) (call : Call) :
    (call.resolveWith ast).source = call.source := by
  unfold Call.resolveWith
  split <;> rfl

theorem stage_resolveWith (ast : Ast) (call : Call) :
    (∃ earlier, call.stage = .resolved earlier ∧ call.resolveWith ast = call) ∨
      (call.resolveWith ast).stage = .resolved ast := by
  unfold Call.resolveWith
  split
  · case h_1 earlier isResolved => exact .inl ⟨earlier, isResolved, rfl⟩
  · exact .inr rfl

/-- A call after another one, or itself, was resolved. -/
theorem calls_resolve
    {call index : Nat}
    {ast : Ast}
    {entry : Call}
    (isCall : (host.resolve call ast).calls[index]? = some entry) :
    ∃ before, host.calls[index]? = some before ∧
      ((call = index ∧ entry = before.resolveWith ast) ∨ (call ≠ index ∧ entry = before)) := by
  simp only [resolve, List.getElem?_modify, Option.map_eq_map, Option.map_eq_some_iff] at isCall
  obtain ⟨before, wasCall, isEntry⟩ := isCall
  refine ⟨before, wasCall, ?_⟩
  by_cases isOwn : call = index
  · exact .inl ⟨isOwn, by simpa [isOwn] using isEntry.symm⟩
  · exact .inr ⟨isOwn, by simpa [isOwn] using isEntry.symm⟩

@[simp]
theorem sourceOf_resolve (host : Host) (call index : Nat) (ast : Ast) :
    (host.resolve call ast).sourceOf index = host.sourceOf index := by
  simp only [sourceOf, resolve, List.getElem?_modify, Option.map_eq_map, Option.map_map]
  congr 1
  funext entry
  by_cases isOwn : call = index <;> simp [isOwn]

/-- What has been returned stays returned. -/
def Final (before after : Host) : Prop :=
  ∀ (index : Nat) (call : Call) (ast : Ast),
    before.calls[index]? = some call → call.stage = .resolved ast →
      after.calls[index]? = some call

theorem Final.refl (host : Host) : Final host host :=
  fun _ _ _ isCall _ => isCall

theorem Final.trans {first second third : Host}
    (earlier : Final first second) (later : Final second third) : Final first third :=
  fun index call ast isCall isResolved =>
    later index call ast (earlier index call ast isCall isResolved) isResolved

/-- Only calls that have not returned are changed. -/
theorem final_modify
    {call : Nat}
    {change : Call → Call}
    (keeps : ∀ entry ast, host.calls[call]? = some entry → entry.stage = .resolved ast →
      change entry = entry) :
    Final host { host with calls := host.calls.modify call change } := by
  intro index entry ast isCall isResolved
  simp only [List.getElem?_modify, isCall, Option.map_eq_map, Option.map_some]
  by_cases isOwn : call = index
  · rw [if_pos isOwn, keeps entry ast (isOwn ▸ isCall) isResolved]
  · rw [if_neg isOwn]

theorem final_resolve (host : Host) (call : Nat) (ast : Ast) :
    Final host (host.resolve call ast) :=
  final_modify fun entry earlier _ isResolved => by
    rcases stage_resolveWith ast entry with ⟨_, _, isSame⟩ | isNew
    · exact isSame
    · simp [Call.resolveWith, isResolved]

theorem Faithful.resolve
    {call : Nat}
    {ast : Ast}
    (faithful : Faithful unicode host)
    (fits : Fits unicode host call ast) :
    Faithful unicode (host.resolve call ast) := by
  intro index entry returned isCall isResolved
  obtain ⟨before, wasCall, ⟨rfl, rfl⟩ | ⟨-, rfl⟩⟩ := calls_resolve isCall
  · rw [source_resolveWith]
    rcases stage_resolveWith ast before with ⟨earlier, wasResolved, isSame⟩ | isNew
    · rw [isSame] at isResolved
      exact faithful call before returned wasCall isResolved
    · rw [isNew] at isResolved
      cases isResolved
      exact fits before.source (by simp [sourceOf, wasCall])
  · exact faithful index entry returned wasCall isResolved

theorem Sound.resolve (sound : Sound owner host) (call : Nat) (ast : Ast) :
    Sound owner (host.resolve call ast) where
  timers := sound.timers
  pending := sound.pending
  inbox := fun worker isWorker request isRequest => by
    rw [sourceOf_resolve]
    exact sound.inbox worker isWorker request isRequest
  waits := by
    intro index entry isCall
    obtain ⟨before, wasCall, ⟨-, rfl⟩ | ⟨-, rfl⟩⟩ := calls_resolve isCall
    · rcases stage_resolveWith ast before with ⟨earlier, wasResolved, isSame⟩ | isNew
      · rw [isSame, wasResolved]
        trivial
      · rw [isNew]
        trivial
    · have waited := sound.waits index entry wasCall
      cases isStage : entry.stage <;> rw [isStage] at waited <;> exact waited
  current := sound.current

/-- A request is settled: its timer is cleared and its call is resolved. -/
theorem Sound.settle
    {id : Nat}
    {ast : Ast}
    (sound : Sound owner host) :
    Sound owner ((host.clearTimeout id).resolve (owner id) ast) where
  timers := fun timer isTimer => sound.timers timer (List.mem_filter.mp isTimer).1
  pending := sound.pending
  inbox := fun worker isWorker request isRequest => by
    rw [sourceOf_resolve]
    exact sound.inbox worker isWorker request isRequest
  waits := by
    intro index entry isCall
    obtain ⟨before, wasCall, ⟨rfl, rfl⟩ | ⟨isOther, rfl⟩⟩ := calls_resolve isCall
    · rcases stage_resolveWith ast before with ⟨earlier, wasResolved, isSame⟩ | isNew
      · rw [isSame, wasResolved]
        trivial
      · rw [isNew]
        trivial
    · have waited := sound.waits index entry wasCall
      cases isStage : entry.stage with
      | awaitingReady worker =>
          rw [isStage] at waited
          exact waited
      | posted worker own =>
          rw [isStage] at waited
          have isOwner : index = owner own := (sound.timers _ waited).1
          refine List.mem_filter.mpr ⟨waited, decide_eq_true ?_⟩
          rintro rfl
          exact isOther isOwner.symm
      | resolved returned => trivial
  current := sound.current

/-- The abandoned requests of a worker are settled one after the other. -/
theorem abandoned
    (unicode : Unicode)
    {requests : List PendingRequest}
    (sound : Sound owner host)
    (own : ∀ pending ∈ requests, pending.call = owner pending.id) :
    Sound owner (requests.foldl abandon host) ∧ Final host (requests.foldl abandon host) ∧
      (Faithful unicode host →
        (∀ pending ∈ requests, Fits unicode host pending.call (bombFallback [])) →
          Faithful unicode (requests.foldl abandon host)) := by
  induction requests generalizing host with
  | nil => exact ⟨sound, .refl host, fun faithful _ => faithful⟩
  | cons pending rest inductionHypothesis =>
      have isOwner := own pending List.mem_cons_self
      have settled : Sound owner (host.abandon pending) := by
        rw [abandon, isOwner]
        exact sound.settle
      have isFinal : Final host (host.abandon pending) :=
        final_resolve (host.clearTimeout pending.id) pending.call _
      obtain ⟨soundAfter, finalAfter, faithfulAfter⟩ := inductionHypothesis settled
        fun other isOther => own other (List.mem_cons_of_mem _ isOther)
      refine ⟨soundAfter, isFinal.trans finalAfter, fun faithful fits => ?_⟩
      have cleared : Faithful unicode (host.clearTimeout pending.id) := faithful
      have abandonedFaithful : Faithful unicode (host.abandon pending) :=
        cleared.resolve (fits pending List.mem_cons_self)
      refine faithfulAfter abandonedFaithful fun other isOther source isSource => ?_
      rw [abandon, sourceOf_resolve] at isSource
      exact fits other (List.mem_cons_of_mem _ isOther) source isSource

/-! ## Discarding the worker -/

theorem sourceOf_abandoned (requests : List PendingRequest) (host : Host) (call : Nat) :
    (requests.foldl abandon host).sourceOf call = host.sourceOf call := by
  induction requests generalizing host with
  | nil => rfl
  | cons pending rest inductionHypothesis =>
      rw [List.foldl_cons, inductionHypothesis, abandon, sourceOf_resolve]
      rfl

theorem sourceOf_terminateAndReset (host : Host) (call : Nat) :
    host.terminateAndReset.sourceOf call = host.sourceOf call := by
  unfold Host.terminateAndReset
  split
  · rfl
  · split
    · rfl
    · rw [sourceOf_abandoned]
      rfl

theorem Sound.terminateAndReset
    (sound : Sound owner host)
    (unicode : Unicode) :
    Sound owner host.terminateAndReset ∧ Final host host.terminateAndReset ∧
      (Faithful unicode host →
        (∀ current worker, host.state = some current → host.workers[current]? = some worker →
          ∀ pending ∈ worker.pending, Fits unicode host pending.call (bombFallback [])) →
        Faithful unicode host.terminateAndReset) := by
  unfold Host.terminateAndReset
  split
  · exact ⟨sound, .refl host, fun faithful _ => faithful⟩
  · case h_2 current isCurrent =>
      split
      · exact ⟨sound, .refl host, fun faithful _ => faithful⟩
      · case h_2 worker isWorker =>
          have cleared : Sound owner { host with state := none } :=
            ⟨sound.timers, sound.pending, sound.inbox, sound.waits, nofun⟩
          obtain ⟨soundAfter, finalAfter, faithfulAfter⟩ :=
            abandoned unicode cleared fun pending isPending =>
              (sound.pending worker (List.mem_of_getElem? isWorker) pending isPending).1
          exact ⟨soundAfter, finalAfter, fun faithful fits =>
            faithfulAfter faithful (fits current worker isCurrent isWorker)⟩

/-! ## The workers -/

theorem mem_modify
    {α : Type}
    {list : List α}
    {index : Nat}
    {change : α → α}
    {entry : α}
    (isEntry : entry ∈ list.modify index change) :
    ∃ before ∈ list, entry = before ∨ entry = change before := by
  obtain ⟨place, isPlace⟩ := List.mem_iff_getElem?.mp isEntry
  simp only [List.getElem?_modify, Option.map_eq_map, Option.map_eq_some_iff] at isPlace
  obtain ⟨before, wasPlace, isChanged⟩ := isPlace
  refine ⟨before, List.mem_of_getElem? wasPlace, ?_⟩
  split at isChanged
  · exact .inr isChanged.symm
  · exact .inl isChanged.symm

/-- A worker forgets requests; how it stands otherwise is of no account. -/
theorem Sound.modifyWorker
    (sound : Sound owner host)
    (worker : Nat)
    {change : WorkerState → WorkerState}
    (fewerPending : ∀ entry, ∀ pending ∈ (change entry).pending, pending ∈ entry.pending)
    (fewerRequests : ∀ entry, ∀ request ∈ (change entry).inbox, request ∈ entry.inbox) :
    Sound owner { host with workers := host.workers.modify worker change } where
  timers := sound.timers
  pending := by
    intro entry isWorker pending isPending
    obtain ⟨before, wasWorker, rfl | rfl⟩ := mem_modify isWorker
    · exact sound.pending _ wasWorker pending isPending
    · exact sound.pending before wasWorker pending (fewerPending before pending isPending)
  inbox := by
    intro entry isWorker request isRequest
    obtain ⟨before, wasWorker, rfl | rfl⟩ := mem_modify isWorker
    · exact sound.inbox _ wasWorker request isRequest
    · exact sound.inbox before wasWorker request (fewerRequests before request isRequest)
  waits := by
    intro index call isCall
    have waited := sound.waits index call isCall
    cases isStage : call.stage with
    | awaitingReady awaited =>
        rw [isStage] at waited
        exact Nat.lt_of_lt_of_eq waited (List.length_modify _ _ _).symm
    | posted awaited id =>
        rw [isStage] at waited
        exact waited
    | resolved ast => trivial
  current := fun current isCurrent =>
    Nat.lt_of_lt_of_eq (sound.current current isCurrent) (List.length_modify _ _ _).symm

theorem Sound.ensureWorker (sound : Sound owner host) :
    Sound owner host.ensureWorker.1 := by
  unfold Host.ensureWorker
  split
  · exact sound
  · refine ⟨sound.timers, ?_, ?_, ?_, ?_⟩
    · intro entry isWorker pending isPending
      rcases List.mem_append.mp isWorker with wasWorker | isNew
      · exact sound.pending entry wasWorker pending isPending
      · rw [List.mem_singleton.mp isNew] at isPending
        cases isPending
    · intro entry isWorker request isRequest
      rcases List.mem_append.mp isWorker with wasWorker | isNew
      · exact sound.inbox entry wasWorker request isRequest
      · rw [List.mem_singleton.mp isNew] at isRequest
        cases isRequest
    · intro index call isCall
      have waited := sound.waits index call isCall
      cases isStage : call.stage with
      | awaitingReady awaited =>
          rw [isStage] at waited
          exact Nat.lt_of_lt_of_le waited (List.length_append ▸ Nat.le_add_right _ _)
      | posted awaited id =>
          rw [isStage] at waited
          exact waited
      | resolved ast => trivial
    · intro worker isCurrent
      cases isCurrent
      simp [spawnWorker]

theorem Sound.ensureWorker_lt (sound : Sound owner host) :
    host.ensureWorker.2 < host.ensureWorker.1.workers.length := by
  unfold Host.ensureWorker
  split
  · case h_1 worker isCurrent => exact sound.current worker isCurrent
  · simp [Host.spawnWorker]

theorem ensureWorker_calls (host : Host) : host.ensureWorker.1.calls = host.calls := by
  unfold Host.ensureWorker
  split <;> rfl

/-! ## The segments of a call -/

theorem getElem?_append_some
    {α : Type}
    {list : List α}
    {last entry : α}
    {index : Nat}
    (isEntry : (list ++ [last])[index]? = some entry) :
    list[index]? = some entry ∨ (index = list.length ∧ entry = last) := by
  rcases Nat.lt_trichotomy index list.length with before | rfl | after
  · rw [List.getElem?_append_left before] at isEntry
    exact .inl isEntry
  · rw [List.getElem?_concat_length] at isEntry
    exact .inr ⟨rfl, (Option.some.inj isEntry).symm⟩
  · rw [List.getElem?_eq_none (by simp; omega)] at isEntry
    cases isEntry

theorem sourceOf_append {call : Call} {index : Nat} {source : Text}
    (isSource : host.sourceOf index = some source) :
    { host with calls := host.calls ++ [call] }.sourceOf index = some source := by
  simp only [sourceOf, Option.map_eq_some_iff] at isSource ⊢
  obtain ⟨entry, isCall, isText⟩ := isSource
  have isBefore : index < host.calls.length := (List.getElem?_eq_some_iff.mp isCall).1
  exact ⟨entry, by rw [List.getElem?_append_left isBefore, isCall], isText⟩

/-- A new call awaits its worker, or has returned at once. -/
theorem Sound.newCall
    {call : Call}
    (sound : Sound owner host)
    (waits : host.WaitsFor host.calls.length call.stage) :
    Sound owner { host with calls := host.calls ++ [call] } where
  timers := sound.timers
  pending := sound.pending
  inbox := fun worker isWorker request isRequest =>
    ⟨(sound.inbox worker isWorker request isRequest).1,
      sourceOf_append (sound.inbox worker isWorker request isRequest).2⟩
  waits := by
    intro index entry isCall
    have waited : host.WaitsFor index entry.stage := by
      rcases getElem?_append_some isCall with wasCall | ⟨rfl, rfl⟩
      · exact sound.waits index entry wasCall
      · exact waits
    cases isStage : entry.stage <;> rw [isStage] at waited <;> exact waited
  current := sound.current

theorem Faithful.newCall
    {call : Call}
    (faithful : Faithful unicode host)
    (fits : ∀ ast, call.stage = .resolved ast → ast.source = sanitizeUnicode unicode call.source) :
    Faithful unicode { host with calls := host.calls ++ [call] } := by
  intro index entry ast isCall isResolved
  rcases getElem?_append_some isCall with wasCall | ⟨-, rfl⟩
  · exact faithful index entry ast wasCall isResolved
  · exact fits ast isResolved

theorem final_newCall (call : Call) :
    Final host { host with calls := host.calls ++ [call] } := by
  intro index entry ast isCall _
  have isBefore : index < host.calls.length := (List.getElem?_eq_some_iff.mp isCall).1
  rw [List.getElem?_append_left isBefore, isCall]

/-- The request number that is given out next belongs to the call that takes it. -/
theorem Sound.post
    {call current : Nat}
    {source : Text}
    (sound : Sound owner host)
    (isSource : host.sourceOf call = some source) :
    Sound (Function.update owner host.nextRequestId call) (host.post call source current) where
  timers := by
    intro timer isTimer
    rcases List.mem_append.mp isTimer with wasTimer | isNew
    · obtain ⟨isOwner, isOld⟩ := sound.timers timer wasTimer
      rw [Function.update_of_ne (Nat.ne_of_lt isOld)]
      exact ⟨isOwner, Nat.lt_succ_of_lt isOld⟩
    · rw [List.mem_singleton.mp isNew, Function.update_self]
      exact ⟨rfl, Nat.lt_succ_self _⟩
  pending := by
    intro entry isWorker pending isPending
    have isOld (before : WorkerState) (wasWorker : before ∈ host.workers)
        (wasPending : pending ∈ before.pending) :
        pending.call = Function.update owner host.nextRequestId call pending.id ∧
          pending.id < host.nextRequestId + 1 := by
      obtain ⟨isOwner, isOld⟩ := sound.pending before wasWorker pending wasPending
      rw [Function.update_of_ne (Nat.ne_of_lt isOld)]
      exact ⟨isOwner, Nat.lt_succ_of_lt isOld⟩
    obtain ⟨before, wasWorker, rfl | rfl⟩ := mem_modify isWorker
    · exact isOld _ wasWorker isPending
    · rcases List.mem_append.mp isPending with wasPending | isNew
      · exact isOld before wasWorker wasPending
      · rw [List.mem_singleton.mp isNew, Function.update_self]
        exact ⟨rfl, Nat.lt_succ_self _⟩
  inbox := by
    have sameSource (index : Nat) :
        (host.post call source current).sourceOf index = host.sourceOf index := by
      simp only [sourceOf, Host.post, List.getElem?_modify, Option.map_eq_map, Option.map_map]
      congr 1
      funext entry
      by_cases isOwn : call = index <;> simp [isOwn]
    intro entry isWorker request isRequest
    rw [sameSource]
    have isOld (before : WorkerState) (wasWorker : before ∈ host.workers)
        (wasRequest : request ∈ before.inbox) :
        request.id < host.nextRequestId + 1 ∧
          host.sourceOf (Function.update owner host.nextRequestId call request.id) =
            some request.source := by
      obtain ⟨isOld, isOwner⟩ := sound.inbox before wasWorker request wasRequest
      rw [Function.update_of_ne (Nat.ne_of_lt isOld)]
      exact ⟨Nat.lt_succ_of_lt isOld, isOwner⟩
    obtain ⟨before, wasWorker, rfl | rfl⟩ := mem_modify isWorker
    · exact isOld _ wasWorker isRequest
    · rcases List.mem_append.mp isRequest with wasRequest | isNew
      · exact isOld before wasWorker wasRequest
      · rw [List.mem_singleton.mp isNew, Function.update_self]
        exact ⟨Nat.lt_succ_self _, isSource⟩
  waits := by
    intro index entry isCall
    simp only [Host.post, List.getElem?_modify, Option.map_eq_map, Option.map_eq_some_iff] at isCall
    obtain ⟨before, wasCall, isEntry⟩ := isCall
    by_cases isOwn : call = index
    · rw [if_pos isOwn] at isEntry
      rw [← isEntry, ← isOwn]
      exact List.mem_append_right _ List.mem_cons_self
    · rw [if_neg isOwn] at isEntry
      have waited := sound.waits index before wasCall
      rw [← isEntry]
      cases isStage : before.stage with
      | awaitingReady awaited =>
          rw [isStage] at waited
          exact Nat.lt_of_lt_of_eq waited (List.length_modify _ _ _).symm
      | posted awaited id =>
          rw [isStage] at waited
          exact List.mem_append_left _ waited
      | resolved ast => trivial
  current := fun current isCurrent =>
    Nat.lt_of_lt_of_eq (sound.current current isCurrent) (List.length_modify _ _ _).symm

/-- What holds before and after a segment. -/
structure Step (unicode : Unicode) (harmless : Prop) (before after : Host) : Prop where
  sound : ∃ owner, Sound owner after
  final : Final before after
  faithful : harmless → Faithful unicode before → Faithful unicode after

theorem Step.refl {harmless : Prop} (sound : Sound owner host) :
    Step unicode harmless host host :=
  ⟨⟨owner, sound⟩, .refl host, fun _ faithful => faithful⟩

theorem Step.mono
    {harmless wider : Prop}
    {after : Host}
    (step : Step unicode harmless host after)
    (implies : wider → harmless) :
    Step unicode wider host after :=
  ⟨step.sound, step.final, fun isWider => step.faithful (implies isWider)⟩

/-- A call that has not returned posts its request. -/
theorem post_step
    {call current : Nat}
    {source : Text}
    (sound : Sound owner host)
    (isCall : host.calls[call]? = some ⟨source, .awaitingReady current⟩) :
    Step unicode True host (host.post call source current) where
  sound := ⟨_, sound.post (by simp [sourceOf, isCall])⟩
  final := final_modify fun entry ast isEntry isResolved => by
    rw [isCall] at isEntry
    cases isEntry
    cases isResolved
  faithful := by
    intro _ faithful index entry ast isEntry isResolved
    simp only [Host.post, List.getElem?_modify, Option.map_eq_map, Option.map_eq_some_iff]
      at isEntry
    obtain ⟨before, wasCall, isChanged⟩ := isEntry
    by_cases isOwn : call = index
    · rw [if_pos isOwn] at isChanged
      rw [← isChanged] at isResolved
      cases isResolved
    · rw [if_neg isOwn] at isChanged
      rw [← isChanged] at isResolved ⊢
      exact faithful index before ast wasCall isResolved

/-! ## Which fallbacks do no harm -/

/-- The sanitiser leaves the text as it is. -/
def isSanitised (unicode : Unicode) (source : Text) : Bool :=
  sanitizeUnicode unicode source == source

/-- The sanitiser leaves nothing of the source of a pending request. -/
def isBlank (unicode : Unicode) (host : Host) (pending : PendingRequest) : Bool :=
  (host.sourceOf pending.call).all fun source => sanitizeUnicode unicode source == []

/-- Discarding a worker resolves no request, but possibly one, with a wrong text. -/
def losesNothing (unicode : Unicode) (host : Host) (worker : Nat) (own : Option Nat) : Bool :=
  host.state != some worker ||
    (host.workers[worker]?).all fun entry =>
      entry.pending.all fun pending => some pending.id == own || isBlank unicode host pending

/-- A fallback that is due shows the text of its own call, and discards nobody else's. -/
def harmless (unicode : Unicode) (host : Host) : Event → Bool
  | .wentOn call =>
      match host.calls[call]? with
      | some ⟨source, .awaitingReady worker⟩ =>
          (host.workers[worker]?).bind WorkerState.ready != some false ||
            (isSanitised unicode source && losesNothing unicode host worker none)
      | _ => true
  | .timedOut timer =>
      (host.sourceOf timer.call).all (isSanitised unicode) &&
        losesNothing unicode host timer.worker (some timer.id)
  | _ => true

theorem fits_of_isBlank
    {pending : PendingRequest}
    (blank : isBlank unicode host pending) :
    Fits unicode host pending.call (bombFallback []) := by
  intro source isSource
  rw [isBlank, isSource, Option.all_some, beq_iff_eq] at blank
  exact blank.symm

theorem fits_of_isSanitised
    {call : Nat}
    {source : Text}
    (isSource : host.sourceOf call = some source)
    (sanitised : isSanitised unicode source) :
    Fits unicode host call (bombFallback source) := by
  intro other isOther
  rw [isSource] at isOther
  cases isOther
  exact (beq_iff_eq.mp sanitised).symm

theorem losesNothing_spec
    {worker : Nat}
    {own : Option Nat}
    (nothing : losesNothing unicode host worker own)
    (isCurrent : host.state = some worker)
    {entry : WorkerState}
    (isWorker : host.workers[worker]? = some entry) :
    ∀ pending ∈ entry.pending, some pending.id ≠ own →
      Fits unicode host pending.call (bombFallback []) := by
  intro pending isPending isOther
  simp only [losesNothing, isCurrent, bne_self_eq_false, Bool.false_or, isWorker, Option.all_some,
    List.all_eq_true, Bool.or_eq_true, beq_iff_eq] at nothing
  rcases nothing pending isPending with isOwn | blank
  · exact absurd isOwn isOther
  · exact fits_of_isBlank blank

/-! ## The steps -/

/-- A call whose worker does not get ready. -/
theorem giveUp_step
    {call current : Nat}
    {source : Text}
    (sound : Sound owner host)
    (isCall : host.calls[call]? = some ⟨source, .awaitingReady current⟩) :
    Step unicode (isSanitised unicode source ∧ losesNothing unicode host current none)
      host (host.giveUp call source current) := by
  have isSource : host.sourceOf call = some source := by simp [sourceOf, isCall]
  unfold Host.giveUp
  split
  · case isTrue isCurrent =>
      obtain ⟨soundAfter, finalAfter, faithfulAfter⟩ :=
        sound.terminateAndReset unicode
      refine ⟨⟨owner, soundAfter.resolve _ _⟩, finalAfter.trans (final_resolve _ _ _), ?_⟩
      rintro ⟨sanitised, nothing⟩ faithful
      have reset := faithfulAfter faithful fun worker entry isState isWorker pending isPending => by
        rw [isCurrent] at isState
        cases isState
        exact losesNothing_spec nothing isCurrent isWorker pending isPending nofun
      exact reset.resolve (fits_of_isSanitised (by rw [sourceOf_terminateAndReset, isSource])
        sanitised)
  · refine ⟨⟨owner, sound.resolve _ _⟩, final_resolve _ _ _, ?_⟩
    rintro ⟨sanitised, -⟩ faithful
    exact faithful.resolve (fits_of_isSanitised isSource sanitised)

theorem wentOn_step (sound : Sound owner host) (call : Nat) :
    Step unicode (harmless unicode host (.wentOn call)) host (host.wentOn call) := by
  unfold Host.wentOn
  split
  · case h_1 source current isCall =>
      split
      · exact (post_step sound isCall).mono fun _ => trivial
      · case h_2 isReady =>
          refine (giveUp_step sound isCall).mono fun isHarmless => ?_
          simpa [harmless, isCall, isReady] using isHarmless
      · exact .refl sound
  · exact .refl sound

/-- The pending map leads from a request number to the call that has it. -/
theorem handleWorkerResponse_step
    {id : Nat}
    {ast : Ast}
    (sound : Sound owner host)
    (fits : Fits unicode host (owner id) ast) :
    Step unicode True host (host.handleWorkerResponse id ast) := by
  unfold Host.handleWorkerResponse
  split
  · exact .refl sound
  · case h_2 current isCurrent =>
      split
      · exact .refl sound
      · case h_2 pending isPending =>
          obtain ⟨worker, isWorker, isFound⟩ := Option.bind_eq_some_iff.mp isPending
          have isId := List.find?_some isFound
          rw [decide_eq_true_eq] at isId
          have isOwner : pending.call = owner id := by
            rw [← isId]
            exact (sound.pending worker (List.mem_of_getElem? isWorker) pending
              (List.mem_of_find?_eq_some isFound)).1
          have deleted : Sound owner (host.deletePending current id) :=
            sound.modifyWorker current (fun _ _ isOther => (List.mem_filter.mp isOther).1)
              (fun _ _ isRequest => isRequest)
          rw [isOwner]
          refine ⟨⟨owner, deleted.settle⟩, final_resolve _ _ _, fun _ faithful => ?_⟩
          have cleared : Faithful unicode ((host.deletePending current id).clearTimeout id) :=
            faithful
          exact cleared.resolve fits

/-- The answer of the worker is for the call whose number it carries. -/
theorem answered_step
    {worker : Nat}
    {request : WorkerRequest}
    {entry : WorkerState}
    (sound : Sound owner host)
    (isWorker : host.workers[worker]? = some entry)
    (isRequest : request ∈ entry.inbox) :
    Step unicode True host (answered unicode host worker request) := by
  have isSource := (sound.inbox entry (List.mem_of_getElem? isWorker) request isRequest).2
  have taken : Sound owner { host with
      workers := host.workers.modify worker fun entry =>
        { entry with inbox := entry.inbox.filter fun other => other.id ≠ request.id } } :=
    sound.modifyWorker worker (fun _ _ isPending => isPending)
      (fun _ _ isOther => (List.mem_filter.mp isOther).1)
  have fits : Fits unicode host (owner request.id)
      (parseMarkdownString unicode request.source) := by
    intro source isOther
    rw [isSource] at isOther
    cases isOther
    rfl
  have responded := handleWorkerResponse_step taken fits
  exact ⟨responded.sound, responded.final, responded.faithful⟩

/-- The callback of a timer, up to the discarding of the worker. -/
theorem Sound.timerResolved
    {timer : Timer}
    (sound : Sound owner host)
    (isTimer : timer ∈ host.timers)
    (ast : Ast) :
    Sound owner
      (((host.clearTimeout timer.id).deletePending timer.worker timer.id).resolve timer.call
        ast) := by
  have isOwner := (sound.timers timer isTimer).1
  have deleted : Sound owner (host.deletePending timer.worker timer.id) :=
    sound.modifyWorker timer.worker (fun _ _ isOther => (List.mem_filter.mp isOther).1)
      (fun _ _ isRequest => isRequest)
  have settled : Sound owner
      (((host.deletePending timer.worker timer.id).clearTimeout timer.id).resolve
        (owner timer.id) ast) := deleted.settle
  rw [← isOwner] at settled
  exact settled

/-- A timer resolves its own call, and discards the worker under the others. -/
theorem timedOut_step
    {timer : Timer}
    {source : Text}
    (sound : Sound owner host)
    (isTimer : timer ∈ host.timers)
    (isSource : host.sourceOf timer.call = some source) :
    Step unicode (harmless unicode host (.timedOut timer)) host (host.timedOut timer source) := by
  let resolved : Host :=
    ((host.clearTimeout timer.id).deletePending timer.worker timer.id).resolve timer.call
      (bombFallback source)
  have soundResolved : Sound owner resolved := sound.timerResolved isTimer _
  have finalResolved : Final host resolved :=
    final_resolve ((host.clearTimeout timer.id).deletePending timer.worker timer.id) _ _
  have faithfulResolved (faithful : Faithful unicode host)
      (sanitised : isSanitised unicode source) : Faithful unicode resolved := by
    have cleared : Faithful unicode
        ((host.clearTimeout timer.id).deletePending timer.worker timer.id) := faithful
    exact cleared.resolve (fits_of_isSanitised isSource sanitised)
  have isHarmless (harmlessStep : harmless unicode host (.timedOut timer)) :
      isSanitised unicode source ∧
        losesNothing unicode host timer.worker (some timer.id) := by
    rw [harmless, isSource, Option.all_some, Bool.and_eq_true] at harmlessStep
    exact harmlessStep
  change Step unicode _ host
    (if resolved.state = some timer.worker then resolved.terminateAndReset else resolved)
  split
  · case isTrue isCurrent =>
      obtain ⟨soundAfter, finalAfter, faithfulAfter⟩ :=
        soundResolved.terminateAndReset unicode
      refine ⟨⟨owner, soundAfter⟩, finalResolved.trans finalAfter, fun harmlessStep faithful => ?_⟩
      obtain ⟨sanitised, nothing⟩ := isHarmless harmlessStep
      refine faithfulAfter (faithfulResolved faithful sanitised) ?_
      intro worker entry isState isWorker pending isPending other isOther
      rw [isCurrent] at isState
      cases isState
      -- what the worker still has pending are the requests of other timers
      simp only [resolved, Host.resolve, deletePending, Host.clearTimeout,
        List.getElem?_modify_eq, Option.map_eq_map, Option.map_eq_some_iff] at isWorker
      obtain ⟨before, wasWorker, rfl⟩ := isWorker
      obtain ⟨wasPending, otherId⟩ := List.mem_filter.mp isPending
      rw [sourceOf_resolve] at isOther
      exact losesNothing_spec nothing isCurrent wasWorker pending wasPending
        (by simpa using otherId) other isOther
  · exact ⟨⟨owner, soundResolved⟩, finalResolved, fun harmlessStep faithful =>
      faithfulResolved faithful (isHarmless harmlessStep).1⟩

theorem ensureWorker_step (unicode : Unicode) (sound : Sound owner host) :
    Step unicode True host host.ensureWorker.1 where
  sound := ⟨owner, sound.ensureWorker⟩
  final := fun index call ast isCall _ => by rw [ensureWorker_calls, isCall]
  faithful := fun _ faithful index call ast isCall isResolved => by
    rw [ensureWorker_calls] at isCall
    exact faithful index call ast isCall isResolved

theorem parseMarkdown_step (sound : Sound owner host) (source : Text) :
    Step unicode True host (parseMarkdown unicode host source) := by
  unfold Host.parseMarkdown
  split
  · have ensured := ensureWorker_step unicode sound
    exact ⟨⟨owner, sound.ensureWorker.newCall sound.ensureWorker_lt⟩,
      ensured.final.trans (final_newCall _),
      fun _ faithful => (ensured.faithful trivial faithful).newCall nofun⟩
  · refine ⟨⟨owner, sound.newCall trivial⟩, final_newCall _, fun _ faithful => ?_⟩
    refine faithful.newCall fun ast isResolved => ?_
    cases isResolved
    rfl

theorem step_spec
    {event : Event}
    (sound : Sound owner host)
    (enabled : (requests unicode).enabled host event) :
    Step unicode (harmless unicode host event) host (step unicode host event) := by
  cases event with
  | prewarmed =>
      rw [step]
      split
      · exact (ensureWorker_step unicode sound).mono fun _ => trivial
      · exact .refl sound
  | called source => exact (parseMarkdown_step sound source).mono fun _ => trivial
  | readySettled worker ready =>
      exact ⟨⟨owner, sound.modifyWorker worker (fun _ _ isPending => isPending)
        (fun _ _ isRequest => isRequest)⟩, .refl host, fun _ faithful => faithful⟩
  | wentOn call => exact wentOn_step sound call
  | answered worker request =>
      change (host.workers[worker]?).any _ = true at enabled
      rw [Option.any_eq_true] at enabled
      obtain ⟨entry, isWorker, isRequest⟩ := enabled
      exact (answered_step sound isWorker (List.contains_iff_mem.mp isRequest)).mono
        fun _ => trivial
  | timedOut timer =>
      have isTimer : timer ∈ host.timers := List.contains_iff_mem.mp enabled
      rw [step]
      split
      · case h_1 call isCall =>
          exact timedOut_step sound isTimer (by simp [sourceOf, isCall])
      · exact .refl sound

/-! ## No call is forgotten -/

/-- The call has returned a tree. -/
def HasReturned (host : Host) (index : Nat) : Prop :=
  ∃ call ast, host.calls[index]? = some call ∧ call.stage = .resolved ast

theorem HasReturned.keep
    {after : Host}
    {index : Nat}
    (returned : host.HasReturned index)
    (isFinal : Final host after) :
    after.HasReturned index :=
  let ⟨call, ast, isCall, isResolved⟩ := returned
  ⟨call, ast, isFinal index call ast isCall isResolved, isResolved⟩

theorem sound_of_reachable
    {allowed : Host → Event → Prop}
    (reachable : (requests unicode).Reachable IsInitial allowed host) :
    ∃ owner, Sound owner host := by
  induction reachable with
  | start isInitial =>
      obtain ⟨canUseWorker, rfl⟩ := isInitial
      exact ⟨id, sound_initial canUseWorker⟩
  | next _ isEnabled _ inductionHypothesis =>
      obtain ⟨owner, sound⟩ := inductionHypothesis
      exact (step_spec sound isEnabled).sound

end Host

/-! ## A timeout under another request -/

instance (unicode : Unicode) (host : Host) (event : Event) :
    Decidable (Host.harmless unicode host event = true) :=
  inferInstanceAs (Decidable (_ = true))

end Unseen.Markdown
