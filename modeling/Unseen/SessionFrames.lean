import Unseen.SessionStep

namespace Unseen

/-!
# What the shared operations leave unchanged

The operations that queue sends, run file segments or hand over to the next
queued frame touch a few components of the client only.  Proofs about the other
components use these lemmas and never look inside the file machines.
-/

/-- A send that was asked for by the file machines. -/
def SendTask.IsFile (task : SendTask) : Prop :=
  ∃ continuation, task.continuation = .file continuation

/-- A microtask that file effects can schedule. -/
def Job.IsFile : Job → Prop
  | .outboundNext => True
  | .settle (.file _) sent => sent = false
  | _ => False

/-- An action the log or the workers see, and nobody else. -/
def Act.IsQuiet : Act → Prop
  | .systemMessage _ => True
  | .file _ => True
  | _ => False

namespace Client

/-- Only the outbound queue, the microtasks, the file state and quiet actions
differ between two clients. -/
structure FileFrame (before after : Client) : Prop where
  page : after.page = before.page
  store : after.store = before.store
  signals : after.signals = before.signals
  vars : after.vars = before.vars
  link : after.link = before.link
  handshake : after.handshake = before.handshake
  inbound : after.inbound = before.inbound
  sending : after.outbound.sending = before.outbound.sending
  queue :
    ∃ tasks, after.outbound.queue = before.outbound.queue ++ tasks ∧
      ∀ task ∈ tasks, task.IsFile
  jobs :
    ∃ scheduled, after.jobs = before.jobs ++ scheduled ∧
      ∀ job ∈ scheduled, job.IsFile
  out :
    ∃ acts, after.out = before.out ++ acts ∧ ∀ act ∈ acts, act.IsQuiet

namespace FileFrame

theorem refl (client : Client) : FileFrame client client where
  page := rfl
  store := rfl
  signals := rfl
  vars := rfl
  link := rfl
  handshake := rfl
  inbound := rfl
  sending := rfl
  queue := ⟨[], by simp⟩
  jobs := ⟨[], by simp⟩
  out := ⟨[], by simp⟩

theorem trans
    {first second third : Client}
    (early : FileFrame first second)
    (late : FileFrame second third) : FileFrame first third := by
  obtain ⟨earlyTasks, earlyQueue, earlyFile⟩ := early.queue
  obtain ⟨lateTasks, lateQueue, lateFile⟩ := late.queue
  obtain ⟨earlyJobs, earlyScheduled, earlyJobFile⟩ := early.jobs
  obtain ⟨lateJobs, lateScheduled, lateJobFile⟩ := late.jobs
  obtain ⟨earlyActs, earlyOut, earlyQuiet⟩ := early.out
  obtain ⟨lateActs, lateOut, lateQuiet⟩ := late.out
  exact
    { page := late.page.trans early.page
      store := late.store.trans early.store
      signals := late.signals.trans early.signals
      vars := late.vars.trans early.vars
      link := late.link.trans early.link
      handshake := late.handshake.trans early.handshake
      inbound := late.inbound.trans early.inbound
      sending := late.sending.trans early.sending
      queue := by
        refine ⟨earlyTasks ++ lateTasks, by simp [lateQueue, earlyQueue], ?_⟩
        intro task member
        exact (List.mem_append.mp member).elim (earlyFile task) (lateFile task)
      jobs := by
        refine ⟨earlyJobs ++ lateJobs, by simp [lateScheduled, earlyScheduled], ?_⟩
        intro job member
        exact (List.mem_append.mp member).elim (earlyJobFile job) (lateJobFile job)
      out := by
        refine ⟨earlyActs ++ lateActs, by simp [lateOut, earlyOut], ?_⟩
        intro act member
        exact (List.mem_append.mp member).elim (earlyQuiet act) (lateQuiet act) }

/-- A quiet action is all that an operation does. -/
theorem act
    (client : Client)
    {action : Act}
    (quiet : action.IsQuiet) : FileFrame client (client.act action) :=
  { refl client with
    out := ⟨[action], rfl, by simpa using quiet⟩ }

/-- Queueing a send of the file machines. -/
theorem enqueue
    (client : Client)
    {task : SendTask}
    (isFile : task.IsFile) : FileFrame client (client.enqueueRelaySend task) := by
  unfold enqueueRelaySend
  split
  · exact
      { refl client with
        queue := ⟨[task], rfl, by simpa using isFile⟩ }
  · exact
      { refl client with
        queue := ⟨[task], rfl, by simpa using isFile⟩
        jobs := ⟨[.outboundNext], rfl, by simp [Job.IsFile]⟩ }

/-- Refusing a send of the file machines. -/
theorem refuse
    (client : Client)
    (continuation : FileCont) :
    FileFrame client (client.schedule (.settle (.file continuation) false)) :=
  { refl client with
    jobs := ⟨[.settle (.file continuation) false], rfl, by simp [Job.IsFile]⟩ }

end FileFrame

/-- One file effect touches what `FileFrame` says. -/
theorem applyFileEffect_frame (client : Client) (effect : FileEffect) :
    FileFrame client (client.applyFileEffect effect) := by
  cases effect with
  | sendEnvelope envelope continuation =>
      simp only [applyFileEffect]
      split
      · unfold sendEncoded
        split
        · exact .refl client
        · exact .enqueue client ⟨continuation, rfl⟩
      · exact .refuse client continuation
  | sendChunk plaintext continuation =>
      simp only [applyFileEffect]
      split
      · exact .enqueue client ⟨continuation, rfl⟩
      · exact .refuse client continuation
  | appendSystemEvent event => exact .act client trivial
  | appendFileMessage tid outgoing => exact .act client trivial
  | postToSendWorker worker message => exact .act client trivial
  | postToReceiveWorker worker message => exact .act client trivial
  | terminateWorker worker => exact .act client trivial
  | cleanupOpfs tid => exact .act client trivial

/-- A list of file effects touches what `FileFrame` says. -/
theorem foldl_applyFileEffect_frame
    (effects : List FileEffect)
    (client : Client) :
    FileFrame client (effects.foldl applyFileEffect client) := by
  induction effects generalizing client with
  | nil => exact .refl client
  | cons effect rest inductionHypothesis =>
      exact (applyFileEffect_frame client effect).trans
        (inductionHypothesis (client.applyFileEffect effect))

/-- Running a file segment touches what `FileFrame` says. -/
theorem runFiles_frame (client : Client) (segment : Files → Files) :
    FileFrame client (client.runFiles segment) := by
  have effects :=
    foldl_applyFileEffect_frame (segment client.files).effects
      { client with files := { segment client.files with effects := [] } }
  exact
    { page := effects.page
      store := effects.store
      signals := effects.signals
      vars := effects.vars
      link := effects.link
      handshake := effects.handshake
      inbound := effects.inbound
      sending := effects.sending
      queue := effects.queue
      jobs := effects.jobs
      out := effects.out }

/-- Two optional file segments in a row touch what `FileFrame` says. -/
theorem twoFileSegments_frame
    (client : Client)
    (senderSegment receiverSegment : Files → Files) :
    FileFrame client
      (let senderDone :=
        if client.files.senderCreated then client.runFiles senderSegment else client
      if senderDone.files.receiverCreated then
        senderDone.runFiles receiverSegment
      else
        senderDone) := by
  have senderFrame :
      FileFrame client
        (if client.files.senderCreated then client.runFiles senderSegment
          else client) := by
    split
    · exact runFiles_frame client senderSegment
    · exact .refl client
  simp only
  generalize
    (if client.files.senderCreated then client.runFiles senderSegment
      else client) = senderDone at senderFrame ⊢
  split
  · exact senderFrame.trans (runFiles_frame senderDone receiverSegment)
  · exact senderFrame

theorem shutdownFiles_frame (client : Client) :
    FileFrame client client.shutdownFiles :=
  twoFileSegments_frame client _ _

theorem cancelFilesForRekey_frame (client : Client) :
    FileFrame client client.cancelFilesForRekey :=
  twoFileSegments_frame client _ _

theorem cancelTransfer_frame (client : Client) :
    FileFrame client client.cancelTransfer :=
  twoFileSegments_frame client _ _

theorem runPageHideListeners_frame (client : Client) :
    FileFrame client client.runPageHideListeners :=
  twoFileSegments_frame client _ _

theorem tellFilesClosed_frame (client : Client) :
    FileFrame client client.tellFilesClosed :=
  twoFileSegments_frame client _ _

/-! ## Inversion of the record writes -/

/-- The client after a record was written. -/
def recordWritten (client : Client) (record : StoredSession) : Client :=
  { client with
    store.storage := some record
    out := client.out ++ [.writeRecord record] }

/-- A record write throws and changes nothing, or stores the record of a live
session. -/
theorem writeRecord_cases (client : Client) (record : StoredSession) :
    client.writeRecord record = (client, false) ∨
      client.vars.terminated = false ∧
        client.writeRecord record = (client.recordWritten record, true) := by
  unfold writeRecord
  cases live : client.vars.terminated with
  | true => simp
  | false =>
      simp only [Bool.false_eq_true, ↓reduceIte]
      split
      · exact Or.inr ⟨trivial, rfl⟩
      · exact Or.inl rfl

/-- The client after a mirror changed its record, whether or not it was stored. -/
def mirrorChanged
    (client : Client)
    (mirror : MirrorId)
    (change : StoredSession → StoredSession) : Client :=
  { client with store.mirrors := client.store.mirrors.modify mirror change }

/-- Flushing a mirror changes its record and may store it. -/
theorem flushMirror_cases
    (client : Client)
    (mirror : MirrorId)
    (change : StoredSession → StoredSession) :
    client.flushMirror mirror change = (client.mirrorChanged mirror change, false) ∨
      ∃ record,
        client.store.mirrors[mirror]? = some record ∧
          client.vars.terminated = false ∧
          client.flushMirror mirror change =
            ((client.mirrorChanged mirror change).recordWritten (change record),
              true) := by
  unfold flushMirror
  simp only [List.getElem?_modify_eq]
  cases held : client.store.mirrors[mirror]? with
  | none => exact Or.inl rfl
  | some record =>
      rcases writeRecord_cases (client.mirrorChanged mirror change) (change record) with
        refused | ⟨live, written⟩
      · exact Or.inl refused
      · exact Or.inr ⟨record, rfl, live, written⟩

/-- The client after `persistWrappedSessionKey` stored a record and mirrored it. -/
def recordInstalled (client : Client) (record : StoredSession) : Client :=
  ((client.recordWritten record).mirrorStoredSession record).1.updateActive fun context =>
    { context with mirror := some client.store.mirrors.length }

/-- Persisting the session key ends the session or installs a new record. -/
theorem persistWrappedSessionKey_cases
    (client : Client)
    (keyToWrap : CryptoKey)
    (wrapKey : WrapKey)
    (modePhase : ModePhase)
    (credentialId : CredentialId)
    (ok : Bool) :
    (∃ reason,
      client.persistWrappedSessionKey keyToWrap wrapKey modePhase credentialId ok =
        (client.terminate reason, false)) ∨
      ∃ active wrapped,
        client.vars.internal.context? = some active ∧
          wrapSessionKey keyToWrap wrapKey = some wrapped ∧
          client.vars.terminated = false ∧
          client.persistWrappedSessionKey keyToWrap wrapKey modePhase credentialId ok =
            (client.recordInstalled
              (wrappedRecord active wrapped modePhase credentialId), true) := by
  unfold persistWrappedSessionKey
  split
  · exact Or.inl ⟨_, rfl⟩
  · rename_i wrapped wrapping
    have wrappedEq : wrapSessionKey keyToWrap wrapKey = some wrapped := by
      split at wrapping
      · exact wrapping
      · cases wrapping
    cases context : client.vars.internal.context? with
    | none => exact Or.inl ⟨_, rfl⟩
    | some active =>
        rcases writeRecord_cases client
            (wrappedRecord active wrapped modePhase credentialId) with
          refused | ⟨live, written⟩
        · exact Or.inl ⟨.storageFail, by simp [refused]⟩
        · exact Or.inr ⟨active, wrapped, rfl, wrappedEq, live, by simp [written]; rfl⟩

/-! ## What ending the session leaves alone -/

/-- A session ended between two clients: its pending work is still there. -/
structure EndFrame (before after : Client) : Prop where
  page : after.page = before.page
  mirrors : after.store.mirrors = before.store.mirrors
  storage : after.store.storage = before.store.storage ∨ after.store.storage = none
  state :
    after.signals.sessionState = .fatalEnding ∨ after.signals.sessionState = .terminated
  sessionMode : after.signals.sessionMode = before.signals.sessionMode
  peerMode : after.signals.peerMode = before.signals.peerMode
  terminated : after.vars.terminated = true
  claim : after.vars.claim = before.vars.claim ∨ after.vars.claim = .released
  internal :
    after.vars.internal = before.vars.internal ∨ after.vars.internal = .preActive
  stored : after.vars.stored = before.vars.stored
  returned : after.vars.returned = before.vars.returned
  resumeAttempt : after.vars.resumeAttempt = before.vars.resumeAttempt
  upgrades : after.vars.upgrades = before.vars.upgrades
  rekeyInFlight : after.vars.rekeyInFlight = before.vars.rekeyInFlight
  pendingRekeyPair : after.vars.pendingRekeyPair = before.vars.pendingRekeyPair
  reconnectTimer : after.link.reconnectTimer = none
  socket :
    after.link.socket =
      before.link.socket.map fun socket =>
        { socket with
          readyState := if socket.readyState = .closed then .closed else .closing }
  handshake : after.handshake = before.handshake
  inbound : after.inbound = before.inbound
  sending : after.outbound.sending = before.outbound.sending
  queue :
    ∃ tasks, after.outbound.queue = before.outbound.queue ++ tasks ∧
      ∀ task ∈ tasks, task.IsFile
  jobs :
    ∃ scheduled, after.jobs = before.jobs ++ scheduled ∧
      ∀ job ∈ scheduled, job.IsFile

theorem beginTermination_frame (client : Client) (reason : TerminateReason) :
    (client.beginTermination reason).vars = { client.vars with terminated := true } ∧
      (client.beginTermination reason).link =
        { client.link with
          reconnectTimer := none
          socket :=
            client.link.socket.map fun socket =>
              { socket with
                readyState := if socket.readyState = .closed then .closed else .closing } } ∧
      (client.beginTermination reason).page = client.page ∧
      (client.beginTermination reason).store = client.store ∧
      (client.beginTermination reason).signals = client.signals ∧
      (client.beginTermination reason).handshake = client.handshake ∧
      (client.beginTermination reason).inbound = client.inbound ∧
      (client.beginTermination reason).outbound = client.outbound ∧
      (client.beginTermination reason).jobs = client.jobs := by
  have closed :
      ∀ begun : Client,
        begun.closeConnection.vars = begun.vars ∧
          begun.closeConnection.link =
            { begun.link with
              socket :=
                begun.link.socket.map fun socket =>
                  { socket with
                    readyState :=
                      if socket.readyState = .closed then .closed else .closing } } ∧
          begun.closeConnection.page = begun.page ∧
          begun.closeConnection.store = begun.store ∧
          begun.closeConnection.signals = begun.signals ∧
          begun.closeConnection.handshake = begun.handshake ∧
          begun.closeConnection.inbound = begun.inbound ∧
          begun.closeConnection.outbound = begun.outbound ∧
          begun.closeConnection.jobs = begun.jobs := by
    intro begun
    unfold closeConnection
    split
    · rename_i noSocket
      refine ⟨rfl, ?_, rfl, rfl, rfl, rfl, rfl, rfl, rfl⟩
      simp only [noSocket, Option.map_none]
      rw [← noSocket]
    · rename_i socket held
      refine ⟨rfl, ?_, rfl, rfl, rfl, rfl, rfl, rfl, rfl⟩
      simp [held]
  exact closed _

/-- Ending a live session. -/
theorem terminate_frame
    {client : Client}
    (live : client.vars.terminated = false)
    (reason : TerminateReason) : EndFrame client (client.terminate reason) := by
  obtain ⟨vars, link, page, store, signals, handshake, inbound, outbound, jobs⟩ :=
    beginTermination_frame client reason
  unfold terminate
  simp only [live, Bool.false_eq_true, ↓reduceIte]
  generalize client.beginTermination reason = begun at *
  split
  · exact
      { page := page
        mirrors := by simp only [act, setState, store]
        storage := Or.inl (by simp only [act, setState, store])
        state := Or.inl rfl
        sessionMode := by simp only [act, setState, signals]
        peerMode := by simp only [act, setState, signals]
        terminated := by simp only [act, setState, vars]
        claim := Or.inl (by simp only [act, setState, vars])
        internal := Or.inl (by simp only [act, setState, vars])
        stored := by simp only [act, setState, vars]
        returned := by simp only [act, setState, vars]
        resumeAttempt := by simp only [act, setState, vars]
        upgrades := by simp only [act, setState, vars]
        rekeyInFlight := by simp only [act, setState, vars]
        pendingRekeyPair := by simp only [act, setState, vars]
        reconnectTimer := by simp only [act, setState, link]
        socket := by simp only [act, setState, link]
        handshake := handshake
        inbound := inbound
        sending := by simp only [act, setState, outbound]
        queue := ⟨[], by simp [act, setState, outbound]⟩
        jobs := ⟨[], by simp [act, setState, jobs]⟩ }
  · have frame := shutdownFiles_frame (begun.setState .terminated)
    have signalled :
        ∀ down : Client,
          down.signalCredential.vars = down.vars ∧
            down.signalCredential.link = down.link ∧
            down.signalCredential.page = down.page ∧
            down.signalCredential.store = down.store ∧
            down.signalCredential.signals = down.signals ∧
            down.signalCredential.handshake = down.handshake ∧
            down.signalCredential.inbound = down.inbound ∧
            down.signalCredential.outbound = down.outbound ∧
            down.signalCredential.jobs = down.jobs := by
      intro down
      unfold signalCredential
      split <;> exact ⟨rfl, rfl, rfl, rfl, rfl, rfl, rfl, rfl, rfl⟩
    obtain ⟨sVars, sLink, sPage, sStore, sSignals, sHandshake, sInbound, sOutbound,
      sJobs⟩ := signalled (begun.setState .terminated).shutdownFiles
    obtain ⟨tasks, queueEq, tasksFile⟩ := frame.queue
    obtain ⟨scheduled, jobsEq, jobsFile⟩ := frame.jobs
    have finalVars :
        (begun.finalizeTermination.act (.terminated reason)).vars =
          { client.vars with
            terminated := true
            claim := .released
            currentWrapKey := none
            internal := .preActive } := by
      simp only [finalizeTermination, clearStoredSession, act, sVars, frame.vars]
      simp only [setState, vars]
    have finalLink :
        (begun.finalizeTermination.act (.terminated reason)).link = begun.link := by
      simp only [finalizeTermination, clearStoredSession, act, sLink, frame.link]
      rfl
    have finalSignals :
        (begun.finalizeTermination.act (.terminated reason)).signals =
          { begun.signals with sessionState := .terminated } := by
      simp only [finalizeTermination, clearStoredSession, act, sSignals, frame.signals]
      rfl
    exact
      { page := by
          simp only [finalizeTermination, clearStoredSession, act, sPage, frame.page]
          exact page
        mirrors := by
          simp only [finalizeTermination, clearStoredSession, act, sStore, frame.store]
          simp only [setState, store]
        storage := Or.inr rfl
        state := Or.inr (by rw [finalSignals])
        sessionMode := by rw [finalSignals, signals]
        peerMode := by rw [finalSignals, signals]
        terminated := by rw [finalVars]
        claim := Or.inr (by rw [finalVars])
        internal := Or.inr (by rw [finalVars])
        stored := by rw [finalVars]
        returned := by rw [finalVars]
        resumeAttempt := by rw [finalVars]
        upgrades := by rw [finalVars]
        rekeyInFlight := by rw [finalVars]
        pendingRekeyPair := by rw [finalVars]
        reconnectTimer := by rw [finalLink, link]
        socket := by rw [finalLink, link]
        handshake := by
          simp only [finalizeTermination, clearStoredSession, act, sHandshake,
            frame.handshake]
          exact handshake
        inbound := by
          simp only [finalizeTermination, clearStoredSession, act, sInbound, frame.inbound]
          exact inbound
        sending := by
          simp only [finalizeTermination, clearStoredSession, act, sOutbound, frame.sending]
          simp only [setState, outbound]
        queue := by
          refine ⟨tasks, ?_, tasksFile⟩
          simp only [finalizeTermination, clearStoredSession, act, sOutbound, queueEq]
          simp only [setState, outbound]
        jobs := by
          refine ⟨scheduled, ?_, jobsFile⟩
          simp only [finalizeTermination, clearStoredSession, act, sJobs, jobsEq]
          simp only [setState, jobs] }

/-- `terminate` does nothing to an ended session and ends a live one. -/
theorem terminate_cases (client : Client) (reason : TerminateReason) :
    (client.vars.terminated = true ∧ client.terminate reason = client) ∨
      (client.vars.terminated = false ∧ EndFrame client (client.terminate reason)) := by
  cases ended : client.vars.terminated with
  | true => exact Or.inl ⟨rfl, by simp [terminate, ended]⟩
  | false => exact Or.inr ⟨rfl, terminate_frame ended reason⟩

end Client

end Unseen
