import Unseen.SessionFrames

namespace Unseen

/-!
# Pages that have not been connected

Until its first connection is opened a page claims the room and, if it found a
stored record, asks for the passkey.  Nothing of the session runs meanwhile: a
page is either `Offline` or `Connected`, and once connected it stays so until it
is reloaded.
-/

namespace Client

/-- No connection was opened yet: nothing but the file machines can run. -/
structure Offline (client : Client) : Prop where
  internal : client.vars.internal = .preActive
  upgrades : client.vars.upgrades = []
  socket : client.link.socket = none
  reconnectTimer : client.link.reconnectTimer = none
  handshakeSend : client.handshake.handshakeSend = none
  handler : client.inbound.handler = none
  inboundQueue : client.inbound.queue = []
  idle : client.inbound.busy = false
  sending : client.outbound.sending = none
  queue : ∀ task ∈ client.outbound.queue, task.IsFile
  jobs : ∀ job ∈ client.jobs, job.IsFile
  unclaimed :
    client.vars.claim = .requested →
      client.vars.resumeAttempt = false ∧ client.signals.sessionState ≠ .resumeLocked
  attempting :
    client.vars.resumeAttempt = true → client.signals.sessionState ≠ .resumeLocked

/-- A page past its claim that waits for no passkey: it has been connected. -/
def Connected (client : Client) : Prop :=
  client.vars.claim ≠ .requested ∧
    client.vars.resumeAttempt = false ∧
    client.signals.sessionState ≠ .resumeLocked

/-- A page that just loaded is offline. -/
theorem Offline.boot
    (device nextDraw now : Nat)
    (storage : Option StoredSession)
    (normalizeNfc : Text → Text) :
    Offline (Client.boot device nextDraw now storage normalizeNfc) where
  internal := rfl
  upgrades := rfl
  socket := rfl
  reconnectTimer := rfl
  handshakeSend := rfl
  handler := rfl
  inboundQueue := rfl
  idle := rfl
  sending := rfl
  queue := by simp [Client.boot]
  jobs := by simp [Client.boot]
  unclaimed := by
    intro _
    refine ⟨rfl, ?_⟩
    simp only [Client.boot]
    generalize (_ : Option StoredSession).isNone = fresh
    cases fresh <;> simp
  attempting := by simp [Client.boot]

namespace Offline

variable {client : Client}

theorem frame
    {after : Client}
    (offline : Offline client)
    (frame : FileFrame client after) : Offline after := by
  obtain ⟨tasks, queueEq, tasksFile⟩ := frame.queue
  obtain ⟨scheduled, jobsEq, jobsFile⟩ := frame.jobs
  exact
    { internal := by rw [frame.vars]; exact offline.internal
      upgrades := by rw [frame.vars]; exact offline.upgrades
      socket := by rw [frame.link]; exact offline.socket
      reconnectTimer := by rw [frame.link]; exact offline.reconnectTimer
      handshakeSend := by rw [frame.handshake]; exact offline.handshakeSend
      handler := by rw [frame.inbound]; exact offline.handler
      inboundQueue := by rw [frame.inbound]; exact offline.inboundQueue
      idle := by rw [frame.inbound]; exact offline.idle
      sending := by rw [frame.sending]; exact offline.sending
      queue := by
        intro task member
        rw [queueEq] at member
        exact (List.mem_append.mp member).elim (offline.queue task) (tasksFile task)
      jobs := by
        intro job member
        rw [jobsEq] at member
        exact (List.mem_append.mp member).elim (offline.jobs job) (jobsFile job)
      unclaimed := by rw [frame.vars, frame.signals]; exact offline.unclaimed
      attempting := by rw [frame.vars, frame.signals]; exact offline.attempting }

/-- Ending the session leaves the page offline. -/
theorem terminate
    (offline : Offline client)
    (reason : TerminateReason) : Offline (client.terminate reason) := by
  rcases terminate_cases client reason with ⟨-, same⟩ | ⟨-, frame⟩
  · rw [same]
    exact offline
  · obtain ⟨tasks, queueEq, tasksFile⟩ := frame.queue
    obtain ⟨scheduled, jobsEq, jobsFile⟩ := frame.jobs
    have unlocked : (client.terminate reason).signals.sessionState ≠ .resumeLocked := by
      rcases frame.state with state | state <;> simp [state]
    exact
      { internal := by
          rcases frame.internal with same | gone
          · rw [same]; exact offline.internal
          · exact gone
        upgrades := by rw [frame.upgrades]; exact offline.upgrades
        socket := by rw [frame.socket, offline.socket]; rfl
        reconnectTimer := frame.reconnectTimer
        handshakeSend := by rw [frame.handshake]; exact offline.handshakeSend
        handler := by rw [frame.inbound]; exact offline.handler
        inboundQueue := by rw [frame.inbound]; exact offline.inboundQueue
        idle := by rw [frame.inbound]; exact offline.idle
        sending := by rw [frame.sending]; exact offline.sending
        queue := by
          intro task member
          rw [queueEq] at member
          exact (List.mem_append.mp member).elim (offline.queue task) (tasksFile task)
        jobs := by
          intro job member
          rw [jobsEq] at member
          exact (List.mem_append.mp member).elim (offline.jobs job) (jobsFile job)
        unclaimed := by
          intro requested
          rcases frame.claim with same | released
          · rw [frame.resumeAttempt]
            exact ⟨(offline.unclaimed (same ▸ requested)).1, unlocked⟩
          · rw [released] at requested
            cases requested
        attempting := fun _ => unlocked }

/-- Without a socket a queued send is refused. -/
theorem runRelaySendTask
    (offline : Offline client)
    (task : SendTask) :
    client.runRelaySendTask task = client.settleSend task.continuation false := by
  simp [Client.runRelaySendTask, offline.socket]

theorem settleSend
    (offline : Offline client)
    (continuation : FileCont) : Offline (client.settleSend (.file continuation) false) := by
  have jobs := offline.jobs
  unfold Client.settleSend
  simp only
  split <;>
    exact
      { offline with
        jobs := by simpa [schedule, or_imp, forall_and, Job.IsFile] using jobs }

/-- A microtask of an offline page runs a file segment or refuses a send. -/
theorem runJob (offline : Offline client) :
    Offline client.runJob ∧
      client.runJob.vars = client.vars ∧
      client.runJob.store = client.store ∧
      client.runJob.signals = client.signals ∧
      ∃ acts, client.runJob.out = client.out ++ acts ∧ ∀ act ∈ acts, act.IsQuiet := by
  unfold Client.runJob
  split
  · exact ⟨offline, rfl, rfl, rfl, [], by simp⟩
  · rename_i job rest jobsEq
    have jobFile : job.IsFile := offline.jobs job (by simp [jobsEq])
    have taken : Offline { client with jobs := rest } :=
      { offline with
        jobs := fun later member => offline.jobs later (by simp [jobsEq, member]) }
    cases job with
    | outboundNext =>
        simp only [runOutbound]
        split
        · exact ⟨{ taken with }, rfl, rfl, rfl, [], by simp⟩
        · rename_i task waiting queueEq
          have held : client.outbound.queue = task :: waiting := queueEq
          have taskFile : task.IsFile := offline.queue task (by simp [held])
          have dequeued : Offline { client with jobs := rest, outbound.queue := waiting } :=
            { taken with
              queue := fun later member => offline.queue later (by simp [held, member]) }
          obtain ⟨continuation, continuationEq⟩ := taskFile
          rw [dequeued.runRelaySendTask task, continuationEq]
          refine ⟨dequeued.settleSend continuation, ?_⟩
          unfold Client.settleSend
          simp only
          split <;> exact ⟨rfl, rfl, rfl, [], by simp [schedule]⟩
    | inboundNext => exact jobFile.elim
    | settle continuation sent =>
        cases continuation with
        | file continuation =>
            have frame :=
              runFiles_frame { client with jobs := rest }
                fun files => files.resume client.fileEnv continuation sent
            exact ⟨taken.frame frame, frame.vars, frame.store, frame.signals, frame.out⟩
        | _ => exact jobFile.elim

theorem closeConnection (offline : Offline client) : client.closeConnection = client := by
  unfold Client.closeConnection
  rw [offline.socket]

theorem finalizeTermination
    (offline : Offline client) : Offline client.finalizeTermination := by
  have state : Offline (client.setState .terminated) :=
    { offline with
      unclaimed := fun requested => ⟨(offline.unclaimed requested).1, by simp [setState]⟩
      attempting := by simp [setState] }
  have down := state.frame (shutdownFiles_frame _)
  have signalled : Offline (client.setState .terminated).shutdownFiles.signalCredential := by
    unfold signalCredential
    split
    · exact { down with }
    · exact down
  exact
    { signalled with
      internal := rfl
      unclaimed := by simp [Client.finalizeTermination] }

theorem markHiding (offline : Offline client) : Offline client.markHiding := by
  have marked : Offline { client with page.pageHiding := true } := { offline with }
  exact marked.frame (runPageHideListeners_frame _)

/-- The first connection was opened; nothing else of the page is running yet. -/
structure Connects (before after : Client) : Prop where
  connected : Connected after
  inbound : after.inbound = before.inbound
  outbound : after.outbound = before.outbound
  jobs : after.jobs = before.jobs
  terminated : after.vars.terminated = before.vars.terminated
  fatalTimer : after.vars.fatalTimer = before.vars.fatalTimer

/-- The claim leaves the page offline, or connects a page that found no record. -/
theorem claimDecided
    (offline : Offline client)
    (requested : client.vars.claim = .requested)
    (granted : Bool) :
    Offline (client.claimDecided granted) ∨
      client.vars.stored = none ∧
        client.claimDecided granted =
          { { client with vars.claim := .held }.openWith .create with vars.returned := true } := by
  obtain ⟨decided, unlocked⟩ := offline.unclaimed requested
  unfold Client.claimDecided
  split
  · exact Or.inl { offline.terminate .duplicateTab with }
  · simp only
    split
    · exact Or.inl
        { offline with
          unclaimed := by simp
          attempting := fun _ => unlocked }
    · rename_i unstored
      exact Or.inr ⟨unstored, rfl⟩

/-- The passkey leaves the page offline, or resumes the live session it unwrapped. -/
theorem resumeDecided
    (offline : Offline client)
    (attempting : client.vars.resumeAttempt = true)
    (outcome : PasskeyResume) :
    Offline (client.resumeDecided outcome) ∨
      ∃ record resumedKey,
        client.vars.stored = some record ∧
          client.vars.terminated = false ∧
          unwrapSessionKey record.k (deriveWrapKey record.cid)
              (resumeKeyExtractable record.modePhase) = some resumedKey ∧
          client.resumeDecided outcome =
            { client with
              vars.resumeAttempt := false
              vars.returned := true }.resumeWith record resumedKey := by
  have claimed : client.vars.claim ≠ .requested := by
    intro requested
    rw [(offline.unclaimed requested).1] at attempting
    cases attempting
  have settled :
      Offline { client with vars.resumeAttempt := false, vars.returned := true } :=
    { offline with
      unclaimed := fun requested => absurd requested claimed
      attempting := by simp }
  unfold Client.resumeDecided
  split
  · exact Or.inl offline
  · rename_i record isStored
    simp only
    split
    · split
      · exact Or.inl settled
      · exact Or.inl
          { settled with
            unclaimed := fun requested => absurd requested claimed
            attempting := by simp [setState] }
    · exact Or.inl (settled.terminate _)
    · exact Or.inl (settled.terminate _)
    · split
      · exact Or.inl (settled.terminate _)
      · rename_i resumedKey unwrapped
        split
        · exact Or.inl { settled with }
        · rename_i live
          exact Or.inr ⟨record, resumedKey, isStored, by simpa using live, unwrapped, rfl⟩

/-- All other events leave an offline page offline. -/
theorem stays
    (offline : Offline client)
    {input : Input}
    (isEnabled : client.enabled input)
    (notClaim : ∀ granted, input.event ≠ .claimDecided granted)
    (notResume : ∀ outcome, input.event ≠ .resumeDecided outcome) :
    Offline (client.handle input.event) := by
  obtain ⟨event, oracle⟩ := input
  have files :
      ∀ segment (created : Bool),
        Offline (if created then client.runFiles segment else client) := by
    intro segment created
    split
    · exact offline.frame (runFiles_frame client segment)
    · exact offline
  cases event with
  | job => exact offline.runJob.1
  | claimDecided granted => exact absurd rfl (notClaim granted)
  | resumeDecided outcome => exact absurd rfl (notResume outcome)
  | send body t =>
      have notActive : client.vars.internal.isActive = false := by
        rw [offline.internal]
        rfl
      simp only [Client.handle, Client.send, notActive]
      exact offline.terminate _
  | sendFile file tid => exact files _ _
  | cancelTransfer => exact offline.frame (cancelTransfer_frame client)
  | acceptFileOffer => exact files _ _
  | declineFileOffer => exact files _ _
  | upgradeToPrf =>
      have notActive : client.vars.internal.isActive = false := by
        rw [offline.internal]
        rfl
      simp only [Client.handle, Client.upgradeToPrf, notActive, Bool.not_false,
        Bool.or_true, ↓reduceIte]
      exact offline
  | retryResume =>
      simp only [Client.handle, Client.retryResume]
      split
      · exact offline
      · rename_i guard
        have locked : client.signals.sessionState = .resumeLocked := by simp_all
        exact
          { offline with
            unclaimed := fun requested =>
              absurd locked (offline.unclaimed requested).2
            attempting := by simp [setState] }
  | terminate reason => exact offline.terminate reason
  | fatalTimer =>
      have disarmed : Offline { client with vars.fatalTimer := none } := { offline with }
      exact disarmed.finalizeTermination
  | file event =>
      exact offline.frame
        (runFiles_frame client fun files => files.handle client.fileEnv event)
  | visible =>
      simp only [Client.handle, becameVisible, offline.socket]
      split
      · exact offline
      · split <;> exact offline
  | beforeUnload => exact offline.markHiding
  | pageHide persisted =>
      simp only [Client.handle, pageHide, offline.markHiding.closeConnection, ite_self]
      exact offline.markHiding
  | pageShow persisted =>
      have shown : Offline { client with page.pageHiding := false } := { offline with }
      simp only [Client.handle, pageShow, bfcacheGuard]
      split
      · split
        · exact shown
        · exact
            { shown with
              unclaimed := fun requested =>
                ⟨(offline.unclaimed requested).1, by simp [setState]⟩
              attempting := by simp [setState] }
      · exact shown
  | elapse ms => exact { offline with }
  | reload => exact Offline.boot _ _ _ _ _
  | _ =>
      simp [enabled, canOccur, socketIn, isDue, handlerAt, upgradeAt, offline.upgrades,
        offline.socket, offline.reconnectTimer, offline.handshakeSend, offline.handler,
        offline.sending] at isEnabled

/-- Every event leaves an offline page offline or connects it. -/
theorem handle
    (offline : Offline client)
    {input : Input}
    (isEnabled : client.enabled input) :
    Offline (client.handle input.event) ∨ Connects client (client.handle input.event) := by
  obtain ⟨event, oracle⟩ := input
  cases event with
  | claimDecided granted =>
      have requested : client.vars.claim = .requested := by
        simpa using (Bool.and_eq_true_iff.mp isEnabled).2
      obtain ⟨decided, unlocked⟩ := offline.unclaimed requested
      rcases offline.claimDecided requested granted with still | ⟨-, opens⟩
      · exact Or.inl still
      · refine Or.inr ?_
        simp only [Client.handle, opens]
        exact
          { connected := ⟨by simp [Client.openWith], decided, unlocked⟩
            inbound := rfl
            outbound := rfl
            jobs := rfl
            terminated := rfl
            fatalTimer := rfl }
  | resumeDecided outcome =>
      have attempting : client.vars.resumeAttempt = true := by
        simpa using (Bool.and_eq_true_iff.mp isEnabled).2
      have claimed : client.vars.claim ≠ .requested := by
        intro requested
        rw [(offline.unclaimed requested).1] at attempting
        cases attempting
      rcases offline.resumeDecided attempting outcome with
        still | ⟨record, resumedKey, -, -, -, resumes⟩
      · exact Or.inl still
      · refine Or.inr ?_
        simp only [Client.handle, resumes]
        exact
          { connected := ⟨claimed, rfl, offline.attempting attempting⟩
            inbound := rfl
            outbound := rfl
            jobs := rfl
            terminated := rfl
            fatalTimer := rfl }
  | _ => exact Or.inl (offline.stays isEnabled (by simp) (by simp))

end Offline

end Client

end Unseen
