import Unseen.Offline
import Unseen.Termination

namespace Unseen

/-!
# Runs of an ended session

The termination invariant is lifted from one segment to whole runs.  A page
goes through two phases: it boots until its claim of the room is decided, and
nothing can end the session before that; from then on every segment is calm.
What a reload finds of an ended session is settled by the same invariant.
-/

namespace Client

/-! ## Before the claim is decided -/

/-- The claim of the room is not decided: nothing can end the session yet. -/
structure Booting (client : Client) : Prop extends Offline client where
  claim : client.vars.claim = .requested
  live : client.vars.terminated = false
  returned : client.vars.returned = false
  fatalTimer : client.vars.fatalTimer = none

/-- A segment of a booting page performs no action that ends a session. -/
def LiveOnly (client : Client) : Prop :=
  ∀ action ∈ client.out, action.isTermination = false

theorem LiveOnly.append
    {before after : Client}
    (live : LiveOnly before)
    (extension : ∃ acts, after.out = before.out ++ acts ∧ ∀ act ∈ acts, act.IsQuiet) :
    LiveOnly after := by
  obtain ⟨acts, outEq, quiet⟩ := extension
  intro action member
  rw [outEq] at member
  exact (List.mem_append.mp member).elim (live action)
    fun isNew => (quiet action isNew).harmless.2

namespace Booting

variable {client : Client}

theorem boot
    (device nextDraw now : Nat)
    (storage : Option StoredSession)
    (normalizeNfc : Text → Text) :
    Booting (Client.boot device nextDraw now storage normalizeNfc) :=
  { Offline.boot device nextDraw now storage normalizeNfc with
    claim := rfl
    live := rfl
    returned := rfl
    fatalTimer := rfl }

theorem of_vars
    {after : Client}
    (booting : Booting client)
    (offline : Offline after)
    (vars : after.vars = client.vars) : Booting after :=
  { offline with
    claim := by rw [vars]; exact booting.claim
    live := by rw [vars]; exact booting.live
    returned := by rw [vars]; exact booting.returned
    fatalTimer := by rw [vars]; exact booting.fatalTimer }

theorem frame
    {after : Client}
    (booting : Booting client)
    (frame : FileFrame client after) : Booting after :=
  booting.of_vars (booting.toOffline.frame frame) frame.vars

/-- While the claim is open, everything but its decision and a reload keeps the
page booting. -/
theorem handle
    (booting : Booting client)
    (quiet : LiveOnly client)
    {input : Input}
    (isEnabled : client.enabled input)
    (undecided : ∀ granted, input.event ≠ .claimDecided granted)
    (notReload : input.event ≠ .reload) :
    Booting (client.handle input.event) ∧ LiveOnly (client.handle input.event) := by
  obtain ⟨event, oracle⟩ := input
  have hidden : Booting client.markHiding ∧ LiveOnly client.markHiding := by
    have frame := runPageHideListeners_frame { client with page.pageHiding := true }
    exact
      ⟨booting.of_vars booting.toOffline.markHiding frame.vars,
        LiveOnly.append (by exact quiet) frame.out⟩
  cases event with
  | job =>
      obtain ⟨offline, vars, -, -, out⟩ := booting.toOffline.runJob
      exact ⟨booting.of_vars offline vars, quiet.append out⟩
  | file event =>
      have frame := runFiles_frame client fun files => files.handle client.fileEnv event
      exact ⟨booting.frame frame, quiet.append frame.out⟩
  | visible =>
      have unchanged : client.becameVisible = client := by
        simp [becameVisible, booting.live, booting.socket]
      simp only [Client.handle, unchanged]
      exact ⟨booting, quiet⟩
  | beforeUnload => exact hidden
  | pageHide persisted =>
      simp only [Client.handle, pageHide, hidden.1.toOffline.closeConnection, ite_self]
      exact hidden
  | pageShow persisted =>
      have shown : Booting { client with page.pageHiding := false } := { booting with }
      simp only [Client.handle, pageShow, bfcacheGuard]
      split
      · split
        · exact ⟨shown, quiet⟩
        · refine
            ⟨{ shown with
                unclaimed := fun requested =>
                  ⟨(booting.unclaimed requested).1, by simp [Client.setState]⟩
                attempting := by simp [Client.setState] }, ?_⟩
          simpa [LiveOnly, Client.setState, Client.act, or_imp, forall_and,
            Act.isTermination] using quiet
      · exact ⟨shown, quiet⟩
  | elapse ms => exact ⟨{ booting with }, quiet⟩
  | claimDecided granted => exact absurd rfl (undecided granted)
  | reload => exact absurd rfl notReload
  | _ =>
      have decided := (booting.unclaimed booting.claim).1
      simp [enabled, canOccur, socketIn, isDue, handlerAt, upgradeAt, booting.returned,
        decided, booting.upgrades, booting.fatalTimer, booting.socket,
        booting.reconnectTimer, booting.handshakeSend, booting.handler,
        booting.sending] at isEnabled

/-- Deciding the claim ends the booting phase; a refused claim ends the session. -/
theorem claimDecided
    (booting : Booting client)
    (empty : client.out = [])
    {start : SegmentStart}
    (notEnded : start.ended = false)
    (sameState : start.state = client.signals.sessionState)
    (sameStorage : start.storage = client.store.storage)
    (granted : Bool) : Calm start (client.claimDecided granted) := by
  have begun :
      CalmView .held start false client.vars.fatalTimer client.store.storage
        client.signals.sessionState client.out :=
    { started := by simp
      stays := by simp [notEnded]
      ended := by simp
      disposed := by simp
      kept := by simp [notEnded]
      split := ⟨[], [], by simp [empty], by simp, by simp, fun _ => rfl, fun _ => rfl⟩
      told := by simp [empty, sameState, sameStorage, stateAfter, recordAfter]
      left := by simp }
  have held : Calm start { client with vars.claim := .held } := by
    unfold Calm
    rw [booting.live]
    exact begun
  unfold Client.claimDecided
  cases granted with
  | false => exact terminate_calm begun booting.live (.inr rfl)
  | true =>
      simp only [Bool.not_true, Bool.false_eq_true, ↓reduceIte]
      split
      · exact held
      · exact held.openWith booting.live .create

end Booting

/-! ## After the claim is decided -/

/-- What holds between two segments once the claim was decided. -/
structure Running (client : Client) : Prop where
  started : client.vars.claim ≠ .requested
  ended :
    client.vars.terminated = true →
      client.signals.sessionState = .fatalEnding ∨
        client.signals.sessionState = .terminated
  disposed :
    client.vars.terminated = true →
      client.vars.fatalTimer = none → client.store.storage = none

/-- The event is the end of the ending buffer. -/
def Event.isFatalTimer : Event → Bool
  | .fatalTimer => true
  | _ => false

theorem isFatalTimer_iff (event : Event) : event.isFatalTimer = true ↔ event = .fatalTimer := by
  cases event <;> simp [Event.isFatalTimer]

/-- What the segment of an event finds. -/
def segmentStart (client : Client) (event : Event) : SegmentStart where
  ended := client.vars.terminated
  fires := event.isFatalTimer
  state := client.signals.sessionState
  fatalTimer := client.vars.fatalTimer
  storage := client.store.storage

namespace Running

variable {client : Client}

theorem of_calm
    {start : SegmentStart}
    (calm : Calm start client) : Running client where
  started := calm.started
  ended := calm.ended
  disposed := calm.disposed

/-- A segment begins calm. -/
theorem calm
    (running : Running client)
    (empty : client.out = [])
    (event : Event) : Calm (client.segmentStart event) client where
  started := running.started
  stays := id
  ended := running.ended
  disposed := running.disposed
  kept := fun _ => .inl ⟨rfl, rfl⟩
  split := ⟨[], [], by simp [empty], by simp, by simp, fun _ => rfl, fun _ => rfl⟩
  told := fun _ => by
    rw [empty]
    exact ⟨rfl, rfl⟩
  left := fun isTerminated notBefore => absurd (notBefore.symm.trans isTerminated) (by simp)

end Running

/-- Every state of a page is booting or running. -/
def Phase (client : Client) : Prop :=
  Booting client ∨ Running client

/-- One step of a page that is not reloaded, seen by an ended session. -/
structure CalmStep (before : Client) (event : Event) (after : Client) : Prop where
  phase : Phase after
  stays : before.vars.terminated = true → after.vars.terminated = true
  kept :
    before.vars.terminated = true →
      (after.store.storage = before.store.storage ∧
          after.vars.fatalTimer = before.vars.fatalTimer) ∨
        (event.isFatalTimer = true ∧ after.store.storage = none)
  split :
    ∃ live quiet,
      after.out = live ++ quiet ∧
        (∀ action ∈ live, action.isTermination = false) ∧
        (∀ action ∈ quiet, action.resurrects = false) ∧
        (after.vars.terminated = false → quiet = []) ∧
        (before.vars.terminated = true → live = [])
  left :
    after.vars.terminated = true → before.vars.terminated = false → event.isFatalTimer = false →
      ∃ acts reason,
        EndsWith after.out acts reason ∧
          Leaves reason (stateAfter before.signals.sessionState acts)
            (recordAfter before.store.storage acts) after.vars.fatalTimer after.store.storage

theorem CalmStep.of_calm
    {before after : Client}
    {event : Event}
    (calm : Calm (before.segmentStart event) after) : CalmStep before event after where
  phase := .inr (Running.of_calm calm)
  stays := calm.stays
  kept := calm.kept
  split := calm.split
  left := calm.left

/-- The step lemma: no segment of an ended session brings it back. -/
theorem step_calm
    {client : Client}
    (phase : Phase client)
    {input : Input}
    (isEnabled : client.enabled input)
    (notReload : input.event ≠ .reload) : CalmStep client input.event (client.step input) := by
  rcases phase with booting | running
  · have fresh : Booting { client with out := [], page.oracle := input.oracle } :=
      { booting with }
    have empty : LiveOnly { client with out := [], page.oracle := input.oracle } := by
      simp [LiveOnly]
    by_cases decided : ∃ granted, input.event = .claimDecided granted
    · obtain ⟨granted, eventEq⟩ := decided
      apply CalmStep.of_calm
      rw [step, eventEq]
      exact fresh.claimDecided rfl booting.live rfl rfl granted
    · have undecided : ∀ granted, input.event ≠ .claimDecided granted :=
        fun granted eventEq => decided ⟨granted, eventEq⟩
      obtain ⟨after, liveOnly⟩ := fresh.handle empty isEnabled undecided notReload
      exact
        { phase := Or.inl after
          stays := by simp [booting.live]
          kept := by simp [booting.live]
          split :=
            ⟨_, [], (List.append_nil _).symm, liveOnly, by simp, fun _ => rfl,
              by simp [booting.live]⟩
          left := fun isTerminated => absurd (after.live.symm.trans isTerminated) (by simp) }
  · have fresh : Running { client with out := [], page.oracle := input.oracle } :=
      { running with }
    have undecided : ∀ granted, input.event ≠ .claimDecided granted := by
      intro granted eventEq
      rw [enabled, eventEq] at isEnabled
      have requested : client.vars.claim = .requested := by
        simpa using (Bool.and_eq_true_iff.mp isEnabled).2
      exact running.started requested
    have begun := fresh.calm rfl input.event
    exact CalmStep.of_calm
      (begun.handle undecided notReload fun isTimer => by rw [segmentStart, isTimer]; rfl)

/-- Every state of every run is booting or running, reloads included. -/
theorem phase_of_reachable
    {client : Client}
    (reachable : machine.Reachable Booted EventMachine.Machine.anyStep client) :
    Phase client := by
  apply reachable.invariant
  · rintro state ⟨device, nextDraw, now, storage, normalizeNfc, rfl⟩
    exact Or.inl (.boot device nextDraw now storage normalizeNfc)
  · intro state input phase isEnabled _
    by_cases reloads : input.event = .reload
    · simp only [machine, step, reloads, handle]
      exact Or.inl (.boot _ _ _ _ _)
    · exact (step_calm phase isEnabled reloads).phase

/-! ## Termination is absorbing -/

/-- The event reloads the page. -/
def Event.isReload : Event → Bool
  | .reload => true
  | _ => false

/-- The page is not reloaded: the run is one life of the client. -/
def sameLife (_client : Client) (input : Input) : Prop :=
  input.event.isReload = false

instance (client : Client) (input : Input) : Decidable (client.sameLife input) :=
  inferInstanceAs (Decidable (input.event.isReload = false))

theorem sameLife.notReload
    {client : Client}
    {input : Input}
    (same : client.sameLife input) : input.event ≠ .reload := by
  intro reloads
  rw [sameLife, reloads] at same
  cases same

/-- From an ended session only states of an ended session are reached. -/
theorem run_of_terminated
    {client : Client}
    (phase : Phase client)
    (terminated : client.vars.terminated = true)
    {inputs : List Input}
    (legal : machine.Legal sameLife client inputs) :
    Phase (machine.run client inputs) ∧
      (machine.run client inputs).vars.terminated = true ∧
      ((machine.run client inputs).store.storage = client.store.storage ∨
        (machine.run client inputs).store.storage = none) := by
  refine
    EventMachine.Machine.Legal.invariant
      (fun later =>
        Phase later ∧ later.vars.terminated = true ∧
          (later.store.storage = client.store.storage ∨ later.store.storage = none))
      ?_ legal ⟨phase, terminated, Or.inl rfl⟩
  · intro later input inv isEnabled notReload
    obtain ⟨laterPhase, laterTerminated, laterStorage⟩ := inv
    have calm := step_calm laterPhase isEnabled notReload.notReload
    refine ⟨calm.phase, calm.stays laterTerminated, ?_⟩
    rcases calm.kept laterTerminated with ⟨same, -⟩ | ⟨-, gone⟩
    · rw [machine, same]
      exact laterStorage
    · exact Or.inr gone

/-- No action of a run from an ended session brings it back. -/
theorem observations_of_terminated
    {client : Client}
    (phase : Phase client)
    (terminated : client.vars.terminated = true)
    {inputs : List Input}
    (legal : machine.Legal sameLife client inputs) :
    ∀ action ∈ machine.observations Client.out client inputs,
      action.resurrects = false := by
  refine
    EventMachine.Machine.Legal.observations_good Client.out
      (fun action => action.resurrects = false)
      (fun later => Phase later ∧ later.vars.terminated = true) ?_ legal
      ⟨phase, terminated⟩
  · intro later input inv isEnabled notReload
    have calm := step_calm inv.1 isEnabled notReload.notReload
    obtain ⟨live, quiet, outEq, -, quietOk, -, noLive⟩ := calm.split
    refine ⟨⟨calm.phase, calm.stays inv.2⟩, ?_⟩
    intro action member
    rw [show (machine.step later input).out = _ from outEq, noLive inv.2] at member
    exact quietOk action (by simpa using member)

/-- The session state shows that the session ended. -/
theorem state_of_terminated
    {client : Client}
    (phase : Phase client)
    (terminated : client.vars.terminated = true) :
    client.signals.sessionState = .fatalEnding ∨
      client.signals.sessionState = .terminated := by
  rcases phase with booting | running
  · rw [booting.live] at terminated
    cases terminated
  · exact running.ended terminated

/-- A mark that is not in the first part of a list is in the second. -/
theorem mark_in_second
    {first second before after : List Act}
    {mark : Act}
    (notFirst : mark ∉ first)
    (split : first ++ second = before ++ mark :: after) :
    ∃ between, second = between ++ mark :: after := by
  rcases List.append_eq_append_iff.mp split with
    ⟨middle, -, secondEq⟩ | ⟨middle, firstEq, markEq⟩
  · exact ⟨middle, secondEq⟩
  · cases middle with
    | nil => exact ⟨[], by simpa using markEq.symm⟩
    | cons head others =>
        have isMark : mark = head := by simp_all
        exact absurd (by rw [firstEq, isMark]; simp) notFirst

/-- Every action after the mark of a termination is one of an ended session. -/
theorem observations_after_termination
    {client : Client}
    (phase : Phase client)
    {inputs : List Input}
    (legal : machine.Legal sameLife client inputs)
    {before after : List Act}
    {reason : TerminateReason}
    (observed :
      machine.observations Client.out client inputs =
        before ++ .terminated reason :: after) :
    ∀ action ∈ after, action.resurrects = false := by
  induction inputs generalizing client before with
  | nil => simp [EventMachine.Machine.observations] at observed
  | cons input rest inductionHypothesis =>
      obtain ⟨isEnabled, notReload, legalRest⟩ := legal
      have calm := step_calm phase isEnabled notReload.notReload
      obtain ⟨live, quiet, outEq, liveOk, quietOk, noQuiet, -⟩ := calm.split
      have now : (machine.step client input).out = live ++ quiet := outEq
      rw [EventMachine.Machine.observations, now, List.append_assoc] at observed
      have notLive : .terminated reason ∉ live := by
        intro member
        cases liveOk _ member
      obtain ⟨between, restEq⟩ := mark_in_second notLive observed
      cases terminated : (machine.step client input).vars.terminated with
      | false =>
          rw [noQuiet terminated, List.nil_append] at restEq
          exact inductionHypothesis calm.phase legalRest restEq
      | true =>
          have later := observations_of_terminated calm.phase terminated legalRest
          intro action member
          have inRest :
              action ∈
                quiet ++
                  machine.observations Client.out (machine.step client input) rest := by
            rw [restEq]
            simp [member]
          exact (List.mem_append.mp inRest).elim (quietOk action) (later action)

/--
Once `terminate` returned, the client performs no action that would bring the
session back, in its whole remaining life and whatever was pending: it writes no
record, encrypts nothing, opens no connection and sets no live state.  A session
that has ended stays ended, in its terminal states, and its record is at most
removed.
-/
theorem termination_is_absorbing
    {client : Client}
    (reachable : machine.Reachable Booted EventMachine.Machine.anyStep client)
    {inputs : List Input}
    (legal : machine.Legal sameLife client inputs) :
    (∀ before reason after,
      machine.observations Client.out client inputs =
          before ++ .terminated reason :: after →
        ∀ action ∈ after, action.resurrects = false) ∧
    (client.vars.terminated = true →
      (∀ action ∈ machine.observations Client.out client inputs,
        action.resurrects = false) ∧
      (machine.run client inputs).vars.terminated = true ∧
      ((machine.run client inputs).signals.sessionState = .fatalEnding ∨
        (machine.run client inputs).signals.sessionState = .terminated) ∧
      ((machine.run client inputs).store.storage = client.store.storage ∨
        (machine.run client inputs).store.storage = none)) := by
  have phase := phase_of_reachable reachable
  refine ⟨fun before reason after => observations_after_termination phase legal, ?_⟩
  intro terminated
  obtain ⟨laterPhase, laterTerminated, laterStorage⟩ :=
    run_of_terminated phase terminated legal
  exact
    ⟨observations_of_terminated phase terminated legal, laterTerminated,
      state_of_terminated laterPhase laterTerminated, laterStorage⟩

/-- The key is being wrapped for a passkey when the user ends the session. -/
def terminatedWhileWrapping : List Input :=
  establish peerPublicKey ++
    [ plain .upgradeToPrf,
      plain (.upgradeRegistered 0 (.ok 7)),
      plain (.terminate .userPanic),
      plain (.upgradeWrapped 0 true) ]

/-- The law for a session that ends while its key is being wrapped. -/
theorem termination_is_absorbing_while_wrapping :
    (machine.run freshPage terminatedWhileWrapping).vars.terminated = true ∧
      ∀ before reason after,
        machine.observations Client.out freshPage terminatedWhileWrapping =
            before ++ .terminated reason :: after →
          ∀ action ∈ after, action.resurrects = false :=
  ⟨by decide +kernel,
    (termination_is_absorbing (.start ⟨0, 0, 0, none, id, rfl⟩)
      (by decide +kernel)).1⟩

/-! ## A reload after termination -/

/-- `startSession` on the reloaded page finds a record to resume from. -/
def reloadResumes (client : Client) : Prop :=
  client.reload.vars.stored ≠ none

/-- A page that finds this record resumes from it: a rekey mark forbids it. -/
def isResumable (storage : Option StoredSession) : Bool :=
  storage.any fun record => !record.rekeyInProgress

theorem reloadResumes_iff (client : Client) :
    client.reloadResumes ↔ isResumable client.store.storage = true := by
  unfold reloadResumes isResumable reload boot
  cases client.store.storage with
  | none => simp
  | some record => cases marked : record.rekeyInProgress <;> simp [marked]

/-- A reload that does not resume leaves no record for a later one. -/
theorem reload_storage
    {client : Client}
    (notResumed : ¬client.reloadResumes) : client.reload.store.storage = none := by
  unfold reloadResumes at notResumed
  exact Decidable.not_not.mp notResumed

/-- The end of the ending buffer removes the record. -/
theorem storage_of_fatalTimer
    (client : Client)
    {input : Input}
    (isTimer : input.event.isFatalTimer = true) : (client.step input).store.storage = none := by
  obtain ⟨event, oracle⟩ := input
  cases event with
  | fatalTimer => exact (finalizeTermination_spec _).2.2.2.1
  | _ => cases isTimer

/-- An ended session keeps its record until the buffer has elapsed. -/
theorem storage_of_terminated
    {client : Client}
    (phase : Phase client)
    (terminated : client.vars.terminated = true)
    {inputs : List Input}
    (legal : machine.Legal sameLife client inputs) :
    (machine.run client inputs).store.storage =
      if inputs.any fun input => input.event.isFatalTimer then none else client.store.storage := by
  induction inputs generalizing client with
  | nil => rfl
  | cons input rest inductionHypothesis =>
      obtain ⟨isEnabled, notReload, legalRest⟩ := legal
      have calm := step_calm phase isEnabled notReload.notReload
      have laterTerminated := calm.stays terminated
      have later := inductionHypothesis calm.phase laterTerminated legalRest
      rw [EventMachine.Machine.run, List.any_cons]
      refine later.trans ?_
      cases isTimer : input.event.isFatalTimer with
      | true =>
          have gone := storage_of_fatalTimer client isTimer
          simp [gone]
      | false =>
          rcases calm.kept terminated with ⟨same, -⟩ | ⟨fires, -⟩
          · rw [Bool.false_or, same]
          · rw [isTimer] at fires
            cases fires

theorem liveOnly_boot
    (device nextDraw now : Nat)
    (storage : Option StoredSession)
    (normalizeNfc : Text → Text) :
    LiveOnly (boot device nextDraw now storage normalizeNfc) := by
  intro action member
  simp only [boot, List.mem_append, List.mem_cons, List.not_mem_nil, or_false,
    List.mem_ite_nil_right] at member
  rcases member with ⟨-, rfl⟩ | rfl | rfl
  all_goals rfl

/-- A segment in which `terminate` ended a live session, and what it left. -/
theorem left_of_endReason
    {client : Client}
    (phase : Phase client)
    (live : client.vars.terminated = false)
    {input : Input}
    (isEnabled : client.enabled input)
    {reason : TerminateReason}
    (ends : endReason (client.step input).out = some reason) :
    Phase (client.step input) ∧
      (client.step input).vars.terminated = true ∧
      Leaves reason
        (stateAfter client.signals.sessionState (beforeEnding (client.step input).out))
        (recordAfter client.store.storage (beforeEnding (client.step input).out))
        (client.step input).vars.fatalTimer (client.step input).store.storage := by
  have notReload : input.event ≠ .reload := by
    intro reloads
    rw [step, reloads] at ends
    have noMark := liveOnly_boot client.page.device client.page.nextDraw 0
      client.store.storage client.files.normalizeNfc
    exact absurd ((endReason_eq_none noMark).symm.trans ends) (by simp)
  have calm := step_calm phase isEnabled notReload
  have ended : (client.step input).vars.terminated = true := by
    by_contra notEnded
    obtain ⟨acts, quiet, outEq, actsOk, -, noQuiet, -⟩ := calm.split
    rw [noQuiet (Bool.eq_false_iff.mpr notEnded), List.append_nil] at outEq
    rw [outEq, endReason_eq_none actsOk] at ends
    cases ends
  have notTimer : input.event.isFatalTimer = false := by
    obtain ⟨event, oracle⟩ := input
    cases event with
    | fatalTimer =>
        have same := (finalizeTermination_spec
          { client with out := [], page.oracle := oracle, vars.fatalTimer := none }).2.1
        exact absurd ((ended.symm.trans same).trans live) (by simp)
    | _ => rfl
  obtain ⟨acts, found, endsWith, leaves⟩ := calm.left ended live notTimer
  rw [endsWith.endReason_eq, Option.some.injEq] at ends
  rw [endsWith.beforeEnding_eq, ← ends]
  exact ⟨calm.phase, ended, leaves⟩

/--
In a segment `terminate` ends a live session for a reason.  When the page is reloaded,
at any later time, the ended session is not resumed, and no record is left that a later
load could resume it from, exactly when `terminate` did not wait (its reason is an instant
one, or the session state it found is not among those it waits in), or found no unmarked
record, or the buffer it started has elapsed.
-/
theorem reload_after_termination_iff
    {client : Client}
    (reachable : machine.Reachable Booted EventMachine.Machine.anyStep client)
    (live : client.vars.terminated = false)
    {input : Input}
    (isEnabled : machine.enabled client input)
    (reason : TerminateReason)
    (ends : endReason (machine.step client input).out = some reason)
    {inputs : List Input}
    (legal : machine.Legal sameLife (machine.step client input) inputs) :
    (¬(machine.run (machine.step client input) inputs).reloadResumes ∧
        (machine.run (machine.step client input) inputs).reload.store.storage = none) ↔
      waitsToEnd reason (stateAfter client.signals.sessionState
          (beforeEnding (machine.step client input).out)) = false ∨
        isResumable (recordAfter client.store.storage
          (beforeEnding (machine.step client input).out)) = false ∨
        ∃ later ∈ inputs, later.event = .fatalTimer := by
  obtain ⟨phase, ended, leaves⟩ :=
    left_of_endReason (phase_of_reachable reachable) live isEnabled ends
  have kept := storage_of_terminated phase ended legal
  have elapsed : (∃ later ∈ inputs, later.event = .fatalTimer) ↔
      (inputs.any fun later => later.event.isFatalTimer) = true := by
    simp only [List.any_eq_true, isFatalTimer_iff]
  have settles (page : Client) :
      (¬page.reloadResumes ∧ page.reload.store.storage = none) ↔
        isResumable page.store.storage = false := by
    rw [and_iff_left_of_imp reload_storage, reloadResumes_iff, Bool.not_eq_true]
  rw [settles, elapsed]
  change isResumable (machine.run (client.step input) inputs).store.storage = false ↔ _
  rw [kept]
  unfold Leaves at leaves
  split at leaves
  next waits =>
    obtain ⟨-, same⟩ := leaves
    rw [same]
    cases inputs.any fun later => later.event.isFatalTimer with
    | true => simp [isResumable]
    | false => simpa [machine] using fun notWaiting => absurd (waits.symm.trans notWaiting) (by simp)
  next notWaiting =>
    rw [leaves, ite_self]
    exact iff_of_true rfl (.inl (Bool.eq_false_iff.mpr notWaiting))

/-- A stored session that ends because the peer left. -/
def peerLeftAfterUpgrade : List Input :=
  establish peerPublicKey ++ upgradeAlone 7 ++
    [plain (.socketFrame .peerLeft)]

/-- After the ending buffer elapsed a reload does not resume the session. -/
theorem reload_after_termination_buffer_elapsed :
    ¬(machine.run
        (machine.step (machine.run freshPage (establish peerPublicKey ++ upgradeAlone 7))
          (plain (.socketFrame .peerLeft)))
        [plain (.elapse 3000), plain .fatalTimer]).reloadResumes :=
  ((reload_after_termination_iff
    (EventMachine.Machine.Reachable.run (.start ⟨0, 0, 0, none, id, rfl⟩) (by decide +kernel))
    (by decide +kernel) (by decide +kernel) .peerGone (by decide +kernel) (by decide +kernel)).mpr
    (.inr (.inr ⟨plain .fatalTimer, by simp, rfl⟩))).1

/-- While the ending buffer is running a reload resumes the ended session. -/
theorem reload_during_buffer_resumes :
    ¬∀ client, machine.Reachable Booted EventMachine.Machine.anyStep client →
      client.vars.terminated = true → ¬client.reloadResumes := by
  intro claimed
  refine claimed (machine.run freshPage peerLeftAfterUpgrade) ?_ (by decide +kernel) ?_
  · exact EventMachine.Machine.Reachable.run (.start ⟨0, 0, 0, none, id, rfl⟩)
      (by decide +kernel)
  · rw [reloadResumes_iff]
    decide +kernel

end Client

end Unseen
