import Unseen.Machine
import Unseen.WebLocks
import Unseen.Wire

namespace Unseen.Opfs

open EventMachine WebLocks

/-!
# Sweeping the session directories

Every session keeps its received files in a directory of the origin's private
file system.  Booting tabs remove the directories that no live tab holds a
lock for, and so does a page restored from the back/forward cache.  The tabs
of one origin share the lock manager and the directories; everything else
belongs to one document.

A directory's name is the name of its liveness lock.  The manager rejects names
that begin with a hyphen, and the rejection is swallowed, so a directory with
such a name has no lock at all.
-/

/-! ## Directory names -/

/-- The digits of the base64url alphabet. -/
def base64urlDigit (value : Nat) : UInt16 :=
  if value < 26 then UInt16.ofNat (0x41 + value)
  else if value < 52 then UInt16.ofNat (0x61 + (value - 26))
  else if value < 62 then UInt16.ofNat (0x30 + (value - 52))
  else if value = 62 then 0x2d
  else 0x5f

/-- `base64urlEncode`: three bytes make four digits, and there is no padding. -/
def base64urlEncode : List UInt8 → Text
  | [] => []
  | [first] =>
      [base64urlDigit (first.toNat / 4), base64urlDigit (first.toNat % 4 * 16)]
  | [first, second] =>
      [base64urlDigit (first.toNat / 4),
        base64urlDigit (first.toNat % 4 * 16 + second.toNat / 16),
        base64urlDigit (second.toNat % 16 * 4)]
  | first :: second :: third :: rest =>
      base64urlDigit (first.toNat / 4) ::
        base64urlDigit (first.toNat % 4 * 16 + second.toNat / 16) ::
        base64urlDigit (second.toNat % 16 * 4 + third.toNat / 64) ::
        base64urlDigit (third.toNat % 64) ::
        base64urlEncode rest

/-- `OPAQUE_DIR_LENGTH` -/
def opaqueDirLength : Nat := 8

/-- The bytes that `deriveOpaqueDirName` derives from a room secret. -/
structure DirId where
  bytes : List UInt8
  length_eq : bytes.length = opaqueDirLength

/-- `deriveOpaqueDirName`, once the bytes are derived. -/
def opaqueDirName (id : DirId) : Text :=
  base64urlEncode id.bytes

/-- The characters that `OPAQUE_DIR_RE` allows. -/
def isOpaqueDirChar (unit : UInt16) : Bool :=
  (0x41 ≤ unit && unit ≤ 0x5a) || (0x61 ≤ unit && unit ≤ 0x7a) ||
    (0x30 ≤ unit && unit ≤ 0x39) || unit == 0x5f || unit == 0x2d

/-- `OPAQUE_DIR_RE` -/
def isOpaqueDirName (name : Text) : Bool :=
  name.length == 11 && name.all isOpaqueDirChar

/-- `OPFS_LOCK_NAME`: `X_TbN9q4-pZ`. -/
def opfsLockName : Text :=
  [0x58, 0x5f, 0x54, 0x62, 0x4e, 0x39, 0x71, 0x34, 0x2d, 0x70, 0x5a]

/-- A request for a lock of this name is rejected. -/
def isRejectedLockName (name : Text) : Bool :=
  name.head? == some 0x2d

/-! ## The origin -/

inductive LockUse where
  | liveness
  | task
  | other
  deriving DecidableEq

/-- Requests are numbered over the whole origin. -/
structure LockId where
  lockUse : LockUse
  serial : Nat
  deriving DecidableEq

abbrev LockRequest := Request LockId Nat Text

/-- The functions that take the lock of the directories. -/
inductive Job where
  | bootSweepOpfs (sessionDir : Text)
  | purgeSessionDir (sessionDir : Text)
  | sweepAllOpaqueDirsForBfcache
  deriving DecidableEq

inductive Stage where
  /-- Awaits the liveness lock. -/
  | acquiring
  /-- Awaits the lock of the directories. -/
  | locking
  /-- Runs in the callback of the lock, before the query. -/
  | holding
  /-- Visits the directories, with the names that the query gave. -/
  | sweeping (live : List Text)
  deriving DecidableEq

/-- A running call; its request is the one it awaits or whose lock it holds. -/
structure Task where
  document : Nat
  job : Job
  stage : Stage
  request : LockId
  deriving DecidableEq

structure Origin where
  locks : Manager LockId Nat Text
  directories : List Text
  /-- The live documents. -/
  documents : List Nat
  nextDocument : Nat
  nextSerial : Nat
  /-- `heldLivenessDirs` of every live document. -/
  heldLivenessDirs : List (Nat × Text)
  /-- The directories for which `bootSweepOpfs` has returned enabled. -/
  enabledDirs : List (Nat × Text)
  tasks : List Task
  deriving DecidableEq

inductive Event where
  | documentOpened
  | documentDied (document : Nat)
  | called (document : Nat) (job : Job)
  /-- Another part of the client asks for a lock. -/
  | otherRequested (document : Nat) (name : Text) (mode : Mode)
  | otherReleased (serial : Nat)
  /-- The manager grants a request, and the callback starts. -/
  | granted (request : LockRequest)
  | queried (task : Task)
  /-- A sweep comes to an entry that it is to remove. -/
  | visited (task : Task) (name : Text) (removed : Bool)
  /-- The callback settles; what it still had to do did or did not succeed. -/
  | settled (task : Task) (ok : Bool)
  /-- Another part of the client creates a directory. -/
  | directoryCreated (name : Text)
  deriving DecidableEq

namespace Origin

/-- An origin without documents. -/
def empty : Origin where
  locks := .empty
  directories := []
  documents := []
  nextDocument := 0
  nextSerial := 0
  heldLivenessDirs := []
  enabledDirs := []
  tasks := []

/-- `navigator.locks.request` -/
def requestLock
    (origin : Origin)
    (lockUse : LockUse)
    (document : Nat)
    (name : Text)
    (mode : Mode) : Origin :=
  { origin with
    locks := origin.locks.request ⟨⟨lockUse, origin.nextSerial⟩, document, name, mode⟩
    nextSerial := origin.nextSerial + 1 }

/-- A call comes to its request for the lock of the directories. -/
def requestOpfsLock (origin : Origin) (document : Nat) (job : Job) : Origin :=
  { origin.requestLock .task document opfsLockName .exclusive with
    tasks := origin.tasks ++ [⟨document, job, .locking, ⟨.task, origin.nextSerial⟩⟩] }

/--
`holdDirLivenessLock` and what follows it: a name that the document already
has in its set is not requested again, a rejected one counts as acquired, and
any other one is awaited.
-/
def bootSweepOpfs (origin : Origin) (document : Nat) (sessionDir : Text) : Origin :=
  if (document, sessionDir) ∈ origin.heldLivenessDirs then
    origin.requestOpfsLock document (.bootSweepOpfs sessionDir)
  else if isRejectedLockName sessionDir then
    { origin with
      heldLivenessDirs := origin.heldLivenessDirs ++ [(document, sessionDir)]
    }.requestOpfsLock document (.bootSweepOpfs sessionDir)
  else
    { origin.requestLock .liveness document sessionDir .shared with
      heldLivenessDirs := origin.heldLivenessDirs ++ [(document, sessionDir)]
      tasks := origin.tasks ++
        [⟨document, .bootSweepOpfs sessionDir, .acquiring, ⟨.liveness, origin.nextSerial⟩⟩] }

def call (origin : Origin) (document : Nat) : Job → Origin
  | .bootSweepOpfs sessionDir => origin.bootSweepOpfs document sessionDir
  | job => origin.requestOpfsLock document job

/-- A document is gone with its locks and everything it ran. -/
def documentDied (origin : Origin) (document : Nat) : Origin :=
  { origin with
    locks := origin.locks.drop document
    documents := origin.documents.filter (fun other => other ≠ document)
    heldLivenessDirs := origin.heldLivenessDirs.filter (fun entry => entry.1 ≠ document)
    enabledDirs := origin.enabledDirs.filter (fun entry => entry.1 ≠ document)
    tasks := origin.tasks.filter (fun task => task.document ≠ document) }

/-- The calls but one; a call is known by its request. -/
def otherTasks (origin : Origin) (task : Task) : List Task :=
  origin.tasks.filter fun other => other.request ≠ task.request

def setStage (origin : Origin) (task : Task) (stage : Stage) : Origin :=
  { origin with tasks := origin.otherTasks task ++ [{ task with stage := stage }] }

/-- The task whose callback the grant of a request starts. -/
def awaiting (origin : Origin) (request : LockRequest) (stage : Stage) : Option Task :=
  origin.tasks.find? fun task =>
    task.request = request.id ∧ task.document = request.client ∧ task.stage = stage

/-- The callback of a lock starts: the call awaiting it goes on. -/
def goOn (origin : Origin) (request : LockRequest) : Origin :=
  match request.id.lockUse with
  | .other => origin
  | .liveness =>
      -- `markAcquired` lets the boot sweep go on to the lock of the directories.
      match origin.awaiting request .acquiring with
      | none => origin
      | some task =>
          { origin with tasks := origin.otherTasks task
          }.requestOpfsLock task.document task.job
  | .task =>
      match origin.awaiting request .locking with
      | none => origin
      | some task => origin.setStage task .holding

def granted (origin : Origin) (request : LockRequest) : Origin :=
  { origin with locks := origin.locks.grant request }.goOn request

/-- `queryLiveLockNames` -/
def queried (origin : Origin) (task : Task) : Origin :=
  origin.setStage task (.sweeping origin.locks.names)

/-- The callback settles, and its lock is released. -/
def finish (origin : Origin) (task : Task) : Origin :=
  { origin with
    locks := origin.locks.release task.request
    tasks := origin.otherTasks task }

def createDirectory (origin : Origin) (name : Text) : Origin :=
  { origin with
    directories := if name ∈ origin.directories then origin.directories
      else origin.directories ++ [name] }

def removeEntry (origin : Origin) (name : Text) : Origin :=
  { origin with directories := origin.directories.filter (fun other => other ≠ name) }

/--
A boot sweep creates its directory at the end and returns enabled, a purge
removes its directory, and the other sweep has nothing left to do.
-/
def settled (origin : Origin) (task : Task) (ok : Bool) : Origin :=
  if ok then
    match task.job with
    | .bootSweepOpfs sessionDir =>
        { origin.createDirectory sessionDir with
          enabledDirs := origin.enabledDirs ++ [(task.document, sessionDir)] }.finish task
    | .purgeSessionDir sessionDir => (origin.removeEntry sessionDir).finish task
    | .sweepAllOpaqueDirsForBfcache => origin.finish task
  else
    origin.finish task

/-- The sweep's condition on the entries that it removes. -/
def MayRemove (origin : Origin) (task : Task) (name : Text) : Prop :=
  match task.stage with
  | .sweeping live =>
      name ∈ origin.directories ∧ isOpaqueDirName name ∧
        task.job ≠ .bootSweepOpfs name ∧ name ∉ live
  | _ => False

instance (origin : Origin) (task : Task) (name : Text) :
    Decidable (origin.MayRemove task name) :=
  match isStage : task.stage with
  | .sweeping live =>
      decidable_of_iff
        (name ∈ origin.directories ∧ isOpaqueDirName name ∧
          task.job ≠ .bootSweepOpfs name ∧ name ∉ live)
        (by simp [MayRemove, isStage])
  | .acquiring | .locking | .holding => isFalse (by simp [MayRemove, isStage])

/-- A purge settles in its callback, a sweep that succeeds after its query. -/
def maySettle (task : Task) (ok : Bool) : Bool :=
  match task.job, task.stage with
  | .purgeSessionDir _, .holding => true
  | .purgeSessionDir _, _ => false
  | _, .sweeping _ => true
  | _, .holding => !ok
  | _, _ => false

/-- A sweep queries the manager first of all in its callback. -/
def mayQuery (task : Task) : Bool :=
  match task.job, task.stage with
  | .purgeSessionDir _, _ => false
  | _, .holding => true
  | _, _ => false

def Enabled (origin : Origin) : Event → Prop
  | .documentOpened => True
  | .documentDied document => document ∈ origin.documents
  | .called document _ => document ∈ origin.documents
  | .otherRequested document name _ =>
      document ∈ origin.documents ∧ isRejectedLockName name = false
  | .otherReleased serial => ∃ holder ∈ origin.locks.held, holder.id = ⟨.other, serial⟩
  | .granted request => origin.locks.Grantable request
  | .queried task => task ∈ origin.tasks ∧ mayQuery task
  | .visited task name _ => task ∈ origin.tasks ∧ origin.MayRemove task name
  | .settled task ok => task ∈ origin.tasks ∧ maySettle task ok
  | .directoryCreated _ => True

def step (origin : Origin) : Event → Origin
  | .documentOpened =>
      { origin with
        documents := origin.documents ++ [origin.nextDocument]
        nextDocument := origin.nextDocument + 1 }
  | .documentDied document => origin.documentDied document
  | .called document job => origin.call document job
  | .otherRequested document name mode => origin.requestLock .other document name mode
  | .otherReleased serial => { origin with locks := origin.locks.release ⟨.other, serial⟩ }
  | .granted request => origin.granted request
  | .queried task => origin.queried task
  | .visited _ name removed => if removed then origin.removeEntry name else origin
  | .settled task ok => origin.settled task ok
  | .directoryCreated name => origin.createDirectory name

end Origin

/-- The tabs of an origin with their lock manager and directories. -/
def tabs : Machine Origin Event where
  enabled := Origin.Enabled
  step := Origin.step

def Origin.Reachable (origin : Origin) : Prop :=
  tabs.Reachable (fun start => start = .empty) Machine.anyStep origin

/--
No sweep removes the directory once the boot of a session has returned it
enabled, and as long as the session's document lives, unless the sweep is one of
that document's own.
-/
def SweepSafe (sessionDir : Text) : Prop :=
  ∀ origin : Origin, origin.Reachable →
    ∀ document, (document, sessionDir) ∈ origin.enabledDirs →
      ∀ task ∈ origin.tasks, origin.MayRemove task sessionDir → task.document = document

/-! ## Tasks in the callback of their lock -/

/-- The call runs in the callback of the lock of the directories. -/
def Task.InCallback (task : Task) : Prop :=
  task.stage = .holding ∨ ∃ live, task.stage = .sweeping live

theorem inCallback_of_maySettle {task : Task} {ok : Bool} (may : Origin.maySettle task ok) :
    task.InCallback := by
  rcases task with ⟨document, job, stage, request⟩
  cases stage with
  | acquiring | locking => cases job <;> cases may
  | holding => exact .inl rfl
  | sweeping live => exact .inr ⟨live, rfl⟩

theorem holding_of_mayQuery {task : Task} (may : Origin.mayQuery task) :
    task.stage = .holding := by
  rcases task with ⟨document, job, stage, request⟩
  cases stage with
  | holding => rfl
  | acquiring | locking | sweeping => cases job <;> cases may

namespace Origin

variable {origin after : Origin} {task : Task}

/--
What the rest of the origin keeps for a running call: the entry of a boot's own
directory, the lock of a callback, and the names a sweep has to leave alone.
-/
structure Keeps (origin : Origin) (task : Task) : Prop where
  booting : ∀ sessionDir, task.job = .bootSweepOpfs sessionDir →
    (task.document, sessionDir) ∈ origin.heldLivenessDirs
  holds : task.InCallback →
    ∃ holder ∈ origin.locks.held,
      holder.id = task.request ∧ holder.client = task.document ∧ holder.id.lockUse = .task
  sees : ∀ live, task.stage = .sweeping live →
    ∀ entry ∈ origin.enabledDirs, isRejectedLockName entry.2 = false → entry.2 ∈ live

/-- Every directory that has a lock is guarded by it, and one call at a time sweeps. -/
structure Guarded (origin : Origin) : Prop where
  lawful : origin.locks.Lawful
  taskLocks : ∀ request, origin.locks.Listed request → request.id.lockUse = .task →
    request.name = opfsLockName ∧ request.mode = .exclusive
  liveness : ∀ entry ∈ origin.heldLivenessDirs, isRejectedLockName entry.2 = false →
    ∃ request, origin.locks.Listed request ∧
      request.id.lockUse = .liveness ∧ request.client = entry.1 ∧ request.name = entry.2
  enabledHeld : ∀ entry ∈ origin.enabledDirs, entry ∈ origin.heldLivenessDirs
  tasks : ∀ task ∈ origin.tasks, origin.Keeps task

theorem mem_otherTasks {other : Task} (isOther : other ∈ origin.otherTasks task) :
    other ∈ origin.tasks ∧ other.request ≠ task.request :=
  ⟨(List.mem_filter.mp isOther).1, of_decide_eq_true (List.mem_filter.mp isOther).2⟩

theorem mem_of_awaiting {request : LockRequest} {stage : Stage}
    (isAwaiting : origin.awaiting request stage = some task) :
    task ∈ origin.tasks ∧ task.request = request.id ∧ task.document = request.client := by
  have isTask := List.mem_of_find?_eq_some isAwaiting
  have isCallback := List.find?_some isAwaiting
  rw [decide_eq_true_eq] at isCallback
  exact ⟨isTask, isCallback.1, isCallback.2.1⟩

theorem guarded_empty : empty.Guarded where
  lawful := by intro first isFirst; cases isFirst
  taskLocks := fun _ listed => listed.elim nofun nofun
  liveness := by intro entry isEntry; cases isEntry
  enabledHeld := by intro entry isEntry; cases isEntry
  tasks := by intro task isTask; cases isTask

theorem Keeps.mono
    (keeps : origin.Keeps task)
    (sameLocks : ∀ holder ∈ origin.locks.held,
      holder.id = task.request → holder.client = task.document → holder ∈ after.locks.held)
    (sameHeld : (∀ sessionDir, (task.document, sessionDir) ∈ origin.heldLivenessDirs →
      (task.document, sessionDir) ∈ after.heldLivenessDirs))
    (sameEnabled : ∀ entry ∈ after.enabledDirs, entry ∈ origin.enabledDirs) :
    after.Keeps task where
  booting := fun sessionDir isBoot => sameHeld sessionDir (keeps.booting sessionDir isBoot)
  holds := fun inCallback =>
    let ⟨holder, isHeld, isRequest, isDocument, isTask⟩ := keeps.holds inCallback
    ⟨holder, sameLocks holder isHeld isRequest isDocument, isRequest, isDocument, isTask⟩
  sees := fun live isSweeping entry isEnabled =>
    keeps.sees live isSweeping entry (sameEnabled entry isEnabled)

namespace Guarded

/-- The lock of the directories is exclusive, so two callbacks are the same one's. -/
theorem alone
    (guarded : origin.Guarded)
    {other : Task}
    (isTask : task ∈ origin.tasks)
    (isOther : other ∈ origin.tasks)
    (inCallback : task.InCallback)
    (otherInCallback : other.InCallback) :
    other.request = task.request := by
  obtain ⟨holder, isHeld, isRequest, -, isUse⟩ := (guarded.tasks task isTask).holds inCallback
  obtain ⟨second, isSecond, secondRequest, -, secondUse⟩ :=
    (guarded.tasks other isOther).holds otherInCallback
  have ⟨holderName, holderMode⟩ := guarded.taskLocks holder (.inl isHeld) isUse
  have ⟨secondName, _⟩ := guarded.taskLocks second (.inl isSecond) secondUse
  have sameId : holder.id = second.id :=
    guarded.lawful holder isHeld second isSecond (holderName.trans secondName.symm) holderMode
  rw [← isRequest, ← secondRequest, sameId]

theorem setTasks
    (guarded : origin.Guarded)
    {tasks : List Task}
    (keeps : ∀ task ∈ tasks, origin.Keeps task) :
    { origin with tasks := tasks }.Guarded where
  lawful := guarded.lawful
  taskLocks := guarded.taskLocks
  liveness := guarded.liveness
  enabledHeld := guarded.enabledHeld
  tasks := fun task isTask =>
    (keeps task isTask).mono (fun _ isHeld _ _ => isHeld) (fun _ isDir => isDir)
      (fun _ isEnabled => isEnabled)

/-- Which directories there are is of no account, nor are the documents' numbers. -/
theorem setDirectories
    (guarded : origin.Guarded)
    (directories : List Text)
    (documents : List Nat)
    (nextDocument : Nat) :
    { origin with
      directories := directories
      documents := documents
      nextDocument := nextDocument }.Guarded where
  lawful := guarded.lawful
  taskLocks := guarded.taskLocks
  liveness := guarded.liveness
  enabledHeld := guarded.enabledHeld
  tasks := fun task isTask =>
    (guarded.tasks task isTask).mono (fun _ isHeld _ _ => isHeld) (fun _ isDir => isDir)
      (fun _ isEnabled => isEnabled)

theorem requestLock
    (guarded : origin.Guarded)
    {lockUse : LockUse}
    {document : Nat}
    {name : Text}
    {mode : Mode}
    (taskLock : lockUse = .task → name = opfsLockName ∧ mode = .exclusive) :
    (origin.requestLock lockUse document name mode).Guarded where
  lawful := guarded.lawful
  taskLocks := by
    intro request listed isTask
    rcases Manager.listed_request listed with wasListed | rfl
    · exact guarded.taskLocks request wasListed isTask
    · exact taskLock isTask
  liveness := fun entry isEntry accepted =>
    let ⟨request, listed, isLiveness⟩ := guarded.liveness entry isEntry accepted
    ⟨request, listed.request _, isLiveness⟩
  enabledHeld := guarded.enabledHeld
  tasks := fun task isTask =>
    (guarded.tasks task isTask).mono (fun _ isHeld _ _ => isHeld) (fun _ isDir => isDir)
      (fun _ isEnabled => isEnabled)

/-- A call that is about to wait for the lock of the directories. -/
theorem requestOpfsLock
    (guarded : origin.Guarded)
    {document : Nat}
    {job : Job}
    (booting : ∀ sessionDir, job = .bootSweepOpfs sessionDir →
      (document, sessionDir) ∈ origin.heldLivenessDirs) :
    (origin.requestOpfsLock document job).Guarded := by
  have requested : (origin.requestLock .task document opfsLockName .exclusive).Guarded :=
    guarded.requestLock fun _ => ⟨rfl, rfl⟩
  refine requested.setTasks fun task isTask => ?_
  rcases List.mem_append.mp isTask with wasTask | isNew
  · exact requested.tasks task wasTask
  · rw [List.mem_singleton.mp isNew]
    exact {
      booting := booting
      holds := by rintro (isHolding | ⟨live, isSweeping⟩) <;> contradiction
      sees := by intro live isSweeping; contradiction }

/-- A document notes a directory whose lock is listed, or can never be. -/
theorem noteHeld
    (guarded : origin.Guarded)
    (document : Nat)
    (sessionDir : Text)
    (listed : isRejectedLockName sessionDir = false →
      ∃ request, origin.locks.Listed request ∧ request.id.lockUse = .liveness ∧
        request.client = document ∧ request.name = sessionDir) :
    { origin with
      heldLivenessDirs := origin.heldLivenessDirs ++ [(document, sessionDir)] }.Guarded where
  lawful := guarded.lawful
  taskLocks := guarded.taskLocks
  liveness := by
    intro entry isEntry accepted
    rcases List.mem_append.mp isEntry with wasEntry | isNew
    · exact guarded.liveness entry wasEntry accepted
    · rw [List.mem_singleton.mp isNew] at accepted ⊢
      exact listed accepted
  enabledHeld := fun entry isEnabled =>
    List.mem_append_left _ (guarded.enabledHeld entry isEnabled)
  tasks := fun task isTask =>
    (guarded.tasks task isTask).mono (fun _ isHeld _ _ => isHeld)
      (fun _ isDir => List.mem_append_left _ isDir) (fun _ isEnabled => isEnabled)

theorem bootSweepOpfs
    (guarded : origin.Guarded)
    (document : Nat)
    (sessionDir : Text) :
    (origin.bootSweepOpfs document sessionDir).Guarded := by
  unfold Origin.bootSweepOpfs
  split
  · case isTrue isHeld =>
      refine guarded.requestOpfsLock fun other isBoot => ?_
      cases isBoot
      exact isHeld
  · case isFalse notHeld =>
      split
      · case isTrue isRejected =>
          have noted := guarded.noteHeld document sessionDir
            (fun accepted => by rw [isRejected] at accepted; cases accepted)
          refine noted.requestOpfsLock fun other isBoot => ?_
          cases isBoot
          exact List.mem_append_right _ List.mem_cons_self
      · case isFalse notRejected =>
          have requested : (origin.requestLock .liveness document sessionDir .shared).Guarded :=
            guarded.requestLock nofun
          have noted := requested.noteHeld document sessionDir
            (fun _ => ⟨_, Manager.listed_of_request, rfl, rfl, rfl⟩)
          refine noted.setTasks fun task isTask => ?_
          rcases List.mem_append.mp isTask with wasTask | isNew
          · exact noted.tasks task wasTask
          · rw [List.mem_singleton.mp isNew]
            exact {
              booting := fun other isBoot => by
                cases isBoot
                exact List.mem_append_right _ List.mem_cons_self
              holds := by rintro (isHolding | ⟨live, isSweeping⟩) <;> contradiction
              sees := by intro live isSweeping; contradiction }

theorem call (guarded : origin.Guarded) (document : Nat) (job : Job) :
    (origin.call document job).Guarded := by
  cases job with
  | bootSweepOpfs sessionDir => exact guarded.bootSweepOpfs document sessionDir
  | purgeSessionDir sessionDir => exact guarded.requestOpfsLock nofun
  | sweepAllOpaqueDirsForBfcache => exact guarded.requestOpfsLock nofun

/-- What is left belongs to other documents, whose locks stay. -/
theorem documentDied (guarded : origin.Guarded) (document : Nat) :
    (origin.documentDied document).Guarded where
  lawful := guarded.lawful.drop document
  taskLocks := fun request listed => guarded.taskLocks request (Manager.listed_drop listed)
  liveness := by
    intro entry isEntry accepted
    obtain ⟨wasEntry, isOther⟩ := List.mem_filter.mp isEntry
    obtain ⟨request, listed, isLiveness, isDocument, isName⟩ :=
      guarded.liveness entry wasEntry accepted
    have otherClient : request.client ≠ document := by
      rw [isDocument]
      exact of_decide_eq_true isOther
    exact ⟨request, listed.drop otherClient, isLiveness, isDocument, isName⟩
  enabledHeld := by
    intro entry isEnabled
    obtain ⟨wasEnabled, isOther⟩ := List.mem_filter.mp isEnabled
    exact List.mem_filter.mpr ⟨guarded.enabledHeld entry wasEnabled, isOther⟩
  tasks := by
    intro task isTask
    obtain ⟨wasTask, isOther⟩ := List.mem_filter.mp isTask
    refine (guarded.tasks task wasTask).mono ?_ ?_ ?_
    · intro holder isHeld _ isDocument
      exact List.mem_filter.mpr ⟨isHeld, isDocument.symm ▸ isOther⟩
    · exact fun sessionDir isDir => List.mem_filter.mpr ⟨isDir, isOther⟩
    · exact fun entry isEnabled => (List.mem_filter.mp isEnabled).1

/-- The grant alone, before the callback starts. -/
theorem grant
    (guarded : origin.Guarded)
    {request : LockRequest}
    (grantable : origin.locks.Grantable request) :
    { origin with locks := origin.locks.grant request }.Guarded where
  lawful := guarded.lawful.grant grantable
  taskLocks := fun other listed =>
    guarded.taskLocks other (Manager.listed_grant listed grantable.mem_pending)
  liveness := fun entry isEntry accepted =>
    let ⟨lock, listed, isLiveness⟩ := guarded.liveness entry isEntry accepted
    ⟨lock, listed.grant request, isLiveness⟩
  enabledHeld := guarded.enabledHeld
  tasks := fun task isTask =>
    (guarded.tasks task isTask).mono (fun _ isHeld _ _ => List.mem_append_left _ isHeld)
      (fun _ isDir => isDir) (fun _ isEnabled => isEnabled)

/-- A call goes on to another stage, about which the rest is as it has to be. -/
theorem setStage
    (guarded : origin.Guarded)
    {stage : Stage}
    (keeps : origin.Keeps { task with stage := stage }) :
    (origin.setStage task stage).Guarded := by
  refine guarded.setTasks fun other isOther => ?_
  rcases List.mem_append.mp isOther with wasTask | isNew
  · exact guarded.tasks other (mem_otherTasks wasTask).1
  · rw [List.mem_singleton.mp isNew]
    exact keeps

theorem goOn
    (guarded : origin.Guarded)
    {request : LockRequest}
    (isHeld : request ∈ origin.locks.held) :
    (origin.goOn request).Guarded := by
  unfold Origin.goOn
  split
  · exact guarded
  · split
    · exact guarded
    · case h_2 task isAwaiting =>
        obtain ⟨isTask, -, -⟩ := mem_of_awaiting isAwaiting
        have others : { origin with tasks := origin.otherTasks task }.Guarded :=
          guarded.setTasks fun other isOther => guarded.tasks other (mem_otherTasks isOther).1
        exact others.requestOpfsLock (guarded.tasks task isTask).booting
  · case h_3 isTaskLock =>
      split
      · exact guarded
      · case h_2 task isAwaiting =>
          obtain ⟨isTask, isRequest, isDocument⟩ := mem_of_awaiting isAwaiting
          exact guarded.setStage {
            booting := (guarded.tasks task isTask).booting
            holds := fun _ => ⟨request, isHeld, isRequest.symm, isDocument.symm, isTaskLock⟩
            sees := by intro live isSweeping; contradiction }

theorem granted
    (guarded : origin.Guarded)
    {request : LockRequest}
    (grantable : origin.locks.Grantable request) :
    (origin.granted request).Guarded :=
  (guarded.grant grantable).goOn (List.mem_append_right _ List.mem_cons_self)

/-- The query lists the liveness lock of every live session that has one. -/
theorem queried
    (guarded : origin.Guarded)
    (isTask : task ∈ origin.tasks)
    (isHolding : task.stage = .holding) :
    (origin.queried task).Guarded := by
  refine guarded.setStage {
    booting := (guarded.tasks task isTask).booting
    holds := fun _ => (guarded.tasks task isTask).holds (.inl isHolding)
    sees := ?_ }
  rintro live isSweeping entry isEnabled accepted
  cases isSweeping
  obtain ⟨request, listed, -, -, isName⟩ :=
    guarded.liveness entry (guarded.enabledHeld entry isEnabled) accepted
  exact isName ▸ listed.name_mem

/-- A lock is released that no liveness and no other callback rests on. -/
theorem release
    (guarded : origin.Guarded)
    {id : LockId}
    (notLiveness : id.lockUse ≠ .liveness)
    (unused : ∀ task ∈ origin.tasks, task.InCallback → task.request ≠ id) :
    { origin with locks := origin.locks.release id }.Guarded where
  lawful := guarded.lawful.release id
  taskLocks := fun request listed => guarded.taskLocks request (Manager.listed_release listed)
  liveness := fun entry isEntry accepted =>
    let ⟨request, listed, isLiveness, isEntryLock⟩ := guarded.liveness entry isEntry accepted
    ⟨request, listed.release fun isId => notLiveness (isId ▸ isLiveness), isLiveness, isEntryLock⟩
  enabledHeld := guarded.enabledHeld
  tasks := fun task isTask => {
    booting := (guarded.tasks task isTask).booting
    holds := fun inCallback =>
      let ⟨holder, isHeld, isRequest, isTaskLock⟩ := (guarded.tasks task isTask).holds inCallback
      have notReleased : holder.id ≠ id := isRequest ▸ unused task isTask inCallback
      ⟨holder, List.mem_filter.mpr ⟨isHeld, decide_eq_true notReleased⟩, isRequest, isTaskLock⟩
    sees := (guarded.tasks task isTask).sees }

theorem finish
    (guarded : origin.Guarded)
    (isTask : task ∈ origin.tasks)
    (inCallback : task.InCallback) :
    (origin.finish task).Guarded := by
  obtain ⟨holder, -, isRequest, -, isTaskLock⟩ := (guarded.tasks task isTask).holds inCallback
  have others : { origin with tasks := origin.otherTasks task }.Guarded :=
    guarded.setTasks fun other isOther => guarded.tasks other (mem_otherTasks isOther).1
  refine others.release ?_ fun other isOther _ => (mem_otherTasks isOther).2
  rw [← isRequest, isTaskLock]
  exact nofun

/--
A boot returns enabled.  No other call is in its callback, so no sweep has
looked at the locks before the directory is there.
-/
theorem enable
    (guarded : origin.Guarded)
    {sessionDir : Text}
    (isTask : task ∈ origin.tasks)
    (inCallback : task.InCallback)
    (isBoot : task.job = .bootSweepOpfs sessionDir) :
    ({ origin with
      enabledDirs := origin.enabledDirs ++ [(task.document, sessionDir)] }.finish task).Guarded := by
  have finished := guarded.finish isTask inCallback
  refine { finished with enabledHeld := ?_, tasks := ?_ }
  · intro entry isEnabled
    rcases List.mem_append.mp isEnabled with wasEnabled | isNew
    · exact guarded.enabledHeld entry wasEnabled
    · rw [List.mem_singleton.mp isNew]
      exact (guarded.tasks task isTask).booting sessionDir isBoot
  · intro other isOther
    obtain ⟨wasTask, isOtherRequest⟩ := mem_otherTasks isOther
    have keeps := finished.tasks other isOther
    exact {
      booting := keeps.booting
      holds := keeps.holds
      sees := fun live isSweeping => absurd
        (guarded.alone isTask wasTask inCallback (.inr ⟨live, isSweeping⟩))
        isOtherRequest }

theorem settled
    (guarded : origin.Guarded)
    {ok : Bool}
    (isTask : task ∈ origin.tasks)
    (inCallback : task.InCallback) :
    (origin.settled task ok).Guarded := by
  unfold Origin.settled
  split
  · split
    · case h_1 sessionDir isBoot =>
        exact (guarded.setDirectories _ _ _).enable isTask inCallback isBoot
    · exact (guarded.setDirectories _ _ _).finish isTask inCallback
    · exact guarded.finish isTask inCallback
  · exact guarded.finish isTask inCallback

theorem step
    (guarded : origin.Guarded)
    (event : Event)
    (enabled : origin.Enabled event) :
    (origin.step event).Guarded := by
  cases event with
  | documentOpened => exact guarded.setDirectories _ _ _
  | documentDied document => exact guarded.documentDied document
  | called document job => exact guarded.call document job
  | otherRequested document name mode => exact guarded.requestLock nofun
  | otherReleased serial =>
      refine guarded.release nofun fun task isTask inCallback isOther => ?_
      obtain ⟨holder, -, isRequest, -, isTaskLock⟩ := (guarded.tasks task isTask).holds inCallback
      rw [isRequest, isOther] at isTaskLock
      cases isTaskLock
  | granted request => exact guarded.granted enabled
  | queried task => exact guarded.queried enabled.1 (holding_of_mayQuery enabled.2)
  | visited task name removed =>
      cases removed with
      | true => exact guarded.setDirectories _ _ _
      | false => exact guarded
  | settled task ok => exact guarded.settled enabled.1 (inCallback_of_maySettle enabled.2)
  | directoryCreated name => exact guarded.setDirectories _ _ _

end Guarded

theorem guarded_of_reachable (reachable : origin.Reachable) : origin.Guarded :=
  Machine.Reachable.invariant (fun _ isEmpty => isEmpty ▸ guarded_empty)
    (fun _ event guarded isEnabled _ => guarded.step event isEnabled) reachable

end Origin

/-- A directory whose lock the manager accepts is in the query of every sweep. -/
theorem sweepSafe_of_accepted
    {sessionDir : Text}
    (accepted : isRejectedLockName sessionDir = false) :
    SweepSafe sessionDir := by
  intro origin reachable document isEnabled task isTask mayRemove
  have guarded := Origin.guarded_of_reachable reachable
  unfold Origin.MayRemove at mayRemove
  split at mayRemove
  · case h_1 live isSweeping =>
      have isLive := (guarded.tasks task isTask).sees live isSweeping _ isEnabled accepted
      exact absurd isLive mayRemove.2.2.2
  · cases mayRemove

/-! ## A rejected name has no lock -/

/-- The first tab boots. -/
def bootRun (sessionDir : Text) : List Event :=
  [.documentOpened,
    .called 0 (.bootSweepOpfs sessionDir),
    .granted ⟨⟨.task, 0⟩, 0, opfsLockName, .exclusive⟩,
    .queried ⟨0, .bootSweepOpfs sessionDir, .holding, ⟨.task, 0⟩⟩,
    .settled ⟨0, .bootSweepOpfs sessionDir, .sweeping [opfsLockName], ⟨.task, 0⟩⟩ true]

/-- A session whose directory has no lock. -/
def bootedOrigin (sessionDir : Text) : Origin where
  locks := .empty
  directories := [sessionDir]
  documents := [0]
  nextDocument := 1
  nextSerial := 1
  heldLivenessDirs := [(0, sessionDir)]
  enabledDirs := [(0, sessionDir)]
  tasks := []

/-- A second tab is restored from the back/forward cache. -/
def bfcacheRun : List Event :=
  [.documentOpened,
    .called 1 .sweepAllOpaqueDirsForBfcache,
    .granted ⟨⟨.task, 1⟩, 1, opfsLockName, .exclusive⟩,
    .queried ⟨1, .sweepAllOpaqueDirsForBfcache, .holding, ⟨.task, 1⟩⟩]

/-- The sweep is about to visit the first tab's directory. -/
def sweptOrigin (sessionDir : Text) : Origin where
  locks := ⟨[⟨⟨.task, 1⟩, 1, opfsLockName, .exclusive⟩], []⟩
  directories := [sessionDir]
  documents := [0, 1]
  nextDocument := 2
  nextSerial := 2
  heldLivenessDirs := [(0, sessionDir)]
  enabledDirs := [(0, sessionDir)]
  tasks := [⟨1, .sweepAllOpaqueDirsForBfcache, .sweeping [opfsLockName], ⟨.task, 1⟩⟩]

theorem bootedOrigin_reachable (rest : Text) : (bootedOrigin (0x2d :: rest)).Reachable := by
  have start : Origin.empty.Reachable := .start rfl
  have legal : tabs.Legal Machine.anyStep .empty (bootRun (0x2d :: rest)) :=
    ⟨trivial, trivial, List.mem_cons_self, trivial, ⟨rfl, nofun⟩, trivial,
      ⟨List.mem_cons_self, rfl⟩, trivial, ⟨List.mem_cons_self, rfl⟩, trivial, trivial⟩
  exact Machine.Reachable.run start legal

theorem sweptOrigin_reachable (rest : Text) : (sweptOrigin (0x2d :: rest)).Reachable := by
  have legal : tabs.Legal Machine.anyStep (bootedOrigin (0x2d :: rest)) bfcacheRun :=
    ⟨trivial, trivial, List.mem_cons_of_mem _ List.mem_cons_self, trivial, ⟨rfl, nofun⟩, trivial,
      ⟨List.mem_cons_self, rfl⟩, trivial, trivial⟩
  exact Machine.Reachable.run (bootedOrigin_reachable rest) legal

/-- A sweep removes the directory of a live session whose name is rejected. -/
theorem not_sweepSafe_of_rejected
    {sessionDir : Text}
    (isOpaque : isOpaqueDirName sessionDir)
    (isRejected : isRejectedLockName sessionDir) :
    ¬SweepSafe sessionDir := by
  rcases sessionDir with _ | ⟨unit, rest⟩
  · cases isRejected
  · obtain rfl : unit = 0x2d := by simpa [isRejectedLockName] using isRejected
    intro isSafe
    have isOwn : 1 = 0 :=
      isSafe _ (sweptOrigin_reachable rest) 0 List.mem_cons_self _ List.mem_cons_self
        ⟨List.mem_cons_self, isOpaque, nofun, by simp [opfsLockName]⟩
    cases isOwn

/-! ## The names that are derived -/

/-- The first byte of a directory id. -/
def DirId.first (id : DirId) : UInt8 :=
  id.bytes.headD 0

theorem isOpaqueDirChar_base64urlDigit :
    ∀ value < 64, isOpaqueDirChar (base64urlDigit value) := by
  decide

theorem base64urlDigit_eq_hyphen :
    ∀ value < 64, base64urlDigit value = 0x2d ↔ value = 62 := by
  decide

theorem all_base64urlEncode (bytes : List UInt8) :
    (base64urlEncode bytes).all isOpaqueDirChar := by
  have isChar (value : Nat) (small : value < 64) := isOpaqueDirChar_base64urlDigit value small
  induction bytes using base64urlEncode.induct with
  | case1 => rfl
  | case2 first =>
      have := first.toNat_lt
      simp only [base64urlEncode, List.all_cons, List.all_nil, Bool.and_true, Bool.and_eq_true]
      exact ⟨isChar _ (by omega), isChar _ (by omega)⟩
  | case3 first second =>
      have := first.toNat_lt
      have := second.toNat_lt
      simp only [base64urlEncode, List.all_cons, List.all_nil, Bool.and_true, Bool.and_eq_true]
      exact ⟨isChar _ (by omega), isChar _ (by omega), isChar _ (by omega)⟩
  | case4 first second third rest inductionHypothesis =>
      have := first.toNat_lt
      have := second.toNat_lt
      have := third.toNat_lt
      simp only [base64urlEncode, List.all_cons, Bool.and_eq_true]
      exact ⟨isChar _ (by omega), isChar _ (by omega), isChar _ (by omega), isChar _ (by omega),
        inductionHypothesis⟩

/-- Without padding, every byte takes four thirds of a digit, rounded up. -/
theorem length_base64urlEncode (bytes : List UInt8) :
    (base64urlEncode bytes).length = (4 * bytes.length + 2) / 3 := by
  induction bytes using base64urlEncode.induct with
  | case1 => rfl
  | case2 first => simp [base64urlEncode]
  | case3 first second => simp [base64urlEncode]
  | case4 first second third rest inductionHypothesis =>
      simp only [base64urlEncode, List.length_cons, inductionHypothesis]
      omega

theorem isOpaqueDirName_opaqueDirName (id : DirId) : isOpaqueDirName (opaqueDirName id) := by
  have lengthIs : (opaqueDirName id).length = 11 := by
    rw [opaqueDirName, length_base64urlEncode, id.length_eq]
    rfl
  simp only [isOpaqueDirName, lengthIs, beq_self_eq_true, Bool.true_and]
  exact all_base64urlEncode id.bytes

/-- The first digit is made of the upper six bits of the first byte. -/
theorem head_base64urlEncode (first : UInt8) (rest : List UInt8) :
    (base64urlEncode (first :: rest)).head? = some (base64urlDigit (first.toNat / 4)) := by
  rcases rest with _ | ⟨second, _ | ⟨third, rest⟩⟩ <;> rfl

theorem isRejected_opaqueDirName_iff (id : DirId) :
    isRejectedLockName (opaqueDirName id) ↔ 0xf8 ≤ id.first ∧ id.first ≤ 0xfb := by
  rcases id with ⟨bytes, length_eq⟩
  cases bytes with
  | nil => cases length_eq
  | cons first rest =>
      have bound := first.toNat_lt
      have isHyphen := base64urlDigit_eq_hyphen (first.toNat / 4) (by omega)
      have firstIs : (⟨first :: rest, length_eq⟩ : DirId).first = first := rfl
      simp only [isRejectedLockName, opaqueDirName, head_base64urlEncode, firstIs, beq_iff_eq,
        Option.some.injEq, isHyphen, UInt8.le_iff_toNat_le, UInt8.reduceToNat]
      omega

/-! ## Which directories are safe -/

/--
A live session's directory is out of reach of the other tabs' sweeps exactly if
the first byte that was derived for it does not make a name with a leading
hyphen.
-/
theorem sweepSafe_opaqueDirName_iff (id : DirId) :
    SweepSafe (opaqueDirName id) ↔ ¬(0xf8 ≤ id.first ∧ id.first ≤ 0xfb) := by
  rw [← isRejected_opaqueDirName_iff]
  constructor
  · intro isSafe isRejected
    exact not_sweepSafe_of_rejected (isOpaqueDirName_opaqueDirName id) isRejected isSafe
  · intro notRejected
    exact sweepSafe_of_accepted (Bool.eq_false_iff.mpr notRejected)

theorem not_sweepSafe_of_every_id : ¬∀ id : DirId, SweepSafe (opaqueDirName id) := by
  intro everySafe
  have isSafe := everySafe ⟨[0xf8, 0, 0, 0, 0, 0, 0, 0], rfl⟩
  exact not_sweepSafe_of_rejected rfl rfl isSafe

end Unseen.Opfs
