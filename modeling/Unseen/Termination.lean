import Unseen.SessionFrames

namespace Unseen

/-!
# Termination is absorbing

`terminate` sets a flag that every continuation of the session has to respect.
The invariant `Calm` follows one synchronous segment: once the flag is set, the
session state is terminal, the stored record is gone as soon as no ending
buffer is running, and every action after `terminate` returned is one that an
ended session may still perform.
-/

/-- Actions that would bring an ended session back. -/
def Act.resurrects : Act → Bool
  | .writeRecord _ => true
  | .encrypt _ _ _ => true
  | .openConnection _ _ => true
  | .setState state => state != .fatalEnding && state != .terminated
  | _ => false

/-- The action marks the return of a `terminate` call that ended the session. -/
def Act.isTermination : Act → Bool
  | .terminated _ => true
  | _ => false

/-- The action neither writes the session state nor touches the record, and an ended session
may perform it. -/
def Act.isSilent : Act → Bool
  | .setState _ | .writeRecord _ | .clearRecord | .encrypt _ _ _ | .openConnection _ _
  | .terminated _ => false
  | _ => true

/-- The session state that an action writes. -/
def Act.writtenState : Act → Option SessionState
  | .setState state => some state
  | _ => none

/-- What an action leaves in storage, if it touches the record. -/
def Act.leftRecord : Act → Option (Option StoredSession)
  | .writeRecord record => some (some record)
  | .clearRecord => some none
  | _ => none

/-- The reason of a call of `terminate` that ended the session. -/
def Act.endReason : Act → Option TerminateReason
  | .terminated reason => some reason
  | _ => none

/-- A silent act leaves alone what termination is about. -/
theorem Act.spec_of_isSilent
    {action : Act}
    (silent : action.isSilent = true) :
    action.resurrects = false ∧ action.isTermination = false ∧ action.writtenState = none ∧
      action.leftRecord = none := by
  cases action <;> simp_all [isSilent, resurrects, isTermination, writtenState, leftRecord]

/-- Quiet acts of the files and the frames are silent. -/
theorem Act.IsQuiet.silent
    {action : Act}
    (quiet : action.IsQuiet) :
    action.isSilent = true := by
  cases action <;> simp_all [Act.IsQuiet, Act.isSilent]

theorem Act.IsQuiet.harmless
    {action : Act}
    (quiet : action.IsQuiet) :
    action.resurrects = false ∧ action.isTermination = false :=
  ⟨(spec_of_isSilent quiet.silent).1, (spec_of_isSilent quiet.silent).2.1⟩

/-! ## What a segment has done -/

/-- The session state after some actions. -/
def stateAfter (state : SessionState) (actions : List Act) : SessionState :=
  actions.foldl (fun state action => action.writtenState.getD state) state

/-- The stored record after some actions. -/
def recordAfter (storage : Option StoredSession) (actions : List Act) : Option StoredSession :=
  actions.foldl (fun storage action => action.leftRecord.getD storage) storage

theorem stateAfter_append (state : SessionState) (first second : List Act) :
    stateAfter state (first ++ second) = stateAfter (stateAfter state first) second :=
  List.foldl_append

theorem recordAfter_append (storage : Option StoredSession) (first second : List Act) :
    recordAfter storage (first ++ second) = recordAfter (recordAfter storage first) second :=
  List.foldl_append

/-- The reason for which a segment ended the session. -/
def endReason (actions : List Act) : Option TerminateReason :=
  actions.findSome? Act.endReason

/-- What a segment did before `terminate` wrote the final state, which is the last state
written before its mark. -/
def beforeEnding (actions : List Act) : List Act :=
  ((actions.takeWhile fun action => !action.isTermination).reverse.dropWhile
    fun action => action.writtenState.isNone).tail.reverse

/-- Only the act that ends the session gives a reason. -/
theorem isTermination_iff (action : Act) :
    action.isTermination = false ↔ action.endReason = none := by
  cases action <;> simp [Act.isTermination, Act.endReason]

theorem endReason_eq_none
    {actions : List Act}
    (notTermination : ∀ action ∈ actions, action.isTermination = false) :
    endReason actions = none :=
  List.findSome?_eq_none_iff.mpr fun action member =>
    (isTermination_iff action).mp (notTermination action member)

/-- The part of a segment before the call of `terminate` that ended the session, that call,
and the part after it. -/
structure EndsWith
    (actions before : List Act)
    (reason : TerminateReason) : Prop where
  split :
    ∃ final ending after,
      actions = before ++ .setState final :: (ending ++ .terminated reason :: after) ∧
        ∀ action ∈ ending, action.writtenState = none ∧ action.isTermination = false
  live : ∀ action ∈ before, action.isTermination = false

namespace EndsWith

variable {actions before : List Act} {reason : TerminateReason}

/-- Acts that follow leave the first end where it is. -/
theorem append
    (ends : EndsWith actions before reason)
    (later : List Act) : EndsWith (actions ++ later) before reason := by
  obtain ⟨final, ending, after, rfl, areEnding⟩ := ends.split
  exact ⟨⟨final, ending, after ++ later, by simp, areEnding⟩, ends.live⟩

/-- What stands before the end is found from the whole list. -/
theorem beforeEnding_eq (ends : EndsWith actions before reason) :
    beforeEnding actions = before := by
  obtain ⟨final, ending, after, rfl, areEnding⟩ := ends.split
  have notMarks : ∀ action ∈ before ++ .setState final :: ending,
      (!action.isTermination) = true := by
    intro action member
    rw [Bool.not_eq_true']
    rcases List.mem_append.mp member with inBefore | inEnding
    · exact ends.live action inBefore
    · rcases List.mem_cons.mp inEnding with rfl | inEnding
      · rfl
      · exact (areEnding action inEnding).2
  have notStates : ∀ action ∈ ending.reverse, action.writtenState.isNone = true := by
    intro action member
    rw [(areEnding action (List.mem_reverse.mp member)).1]
    rfl
  have untilMark :
      (before ++ .setState final :: (ending ++ .terminated reason :: after)).takeWhile
          (fun action => !action.isTermination) =
        before ++ .setState final :: ending := by
    rw [← List.cons_append, ← List.append_assoc, List.takeWhile_append_of_pos notMarks,
      List.takeWhile_cons_of_neg (by simp [Act.isTermination]), List.append_nil]
  rw [beforeEnding, untilMark, List.reverse_append, List.reverse_cons, List.append_assoc,
    List.dropWhile_append_of_pos notStates, List.singleton_append,
    List.dropWhile_cons_of_neg (by simp [Act.writtenState]), List.tail_cons,
    List.reverse_reverse]

/-- The reason of the end is found from the whole list. -/
theorem endReason_eq (ends : EndsWith actions before reason) :
    endReason actions = some reason := by
  obtain ⟨final, ending, after, rfl, areEnding⟩ := ends.split
  have noneBefore := endReason_eq_none ends.live
  have noneEnding := endReason_eq_none fun action member => (areEnding action member).2
  rw [endReason] at noneBefore noneEnding ⊢
  rw [List.findSome?_append, noneBefore, Option.none_or, List.findSome?_cons_of_isNone rfl,
    List.findSome?_append, noneEnding]
  rfl

end EndsWith

/-- The later list of actions adds only silent actions. -/
def SilentExtension (before after : List Act) : Prop :=
  ∃ actions, after = before ++ actions ∧ ∀ action ∈ actions, action.isSilent = true

namespace SilentExtension

theorem refl (out : List Act) : SilentExtension out out :=
  ⟨[], by simp⟩

theorem trans
    {first second third : List Act}
    (early : SilentExtension first second)
    (late : SilentExtension second third) : SilentExtension first third := by
  obtain ⟨earlyActs, rfl, earlySilent⟩ := early
  obtain ⟨lateActs, rfl, lateSilent⟩ := late
  refine ⟨earlyActs ++ lateActs, by simp, ?_⟩
  intro action member
  exact (List.mem_append.mp member).elim (earlySilent action) (lateSilent action)

/-- One silent act extends silently. -/
theorem single
    (out : List Act)
    {action : Act}
    (silent : action.isSilent = true) :
    SilentExtension out (out ++ [action]) :=
  ⟨[action], rfl, by simp [silent]⟩

/-- Silent acts write no state. -/
theorem stateAfter_eq
    {before after : List Act}
    (extension : SilentExtension before after)
    (state : SessionState) :
    stateAfter state after = stateAfter state before := by
  obtain ⟨actions, rfl, silent⟩ := extension
  rw [stateAfter_append]
  induction actions with
  | nil => rfl
  | cons action rest inductionHypothesis =>
      obtain ⟨isSilent, restSilent⟩ := List.forall_mem_cons.mp silent
      rw [stateAfter, List.foldl_cons, (Act.spec_of_isSilent isSilent).2.2.1]
      exact inductionHypothesis restSilent

/-- Silent acts write no record. -/
theorem recordAfter_eq
    {before after : List Act}
    (extension : SilentExtension before after)
    (storage : Option StoredSession) :
    recordAfter storage after = recordAfter storage before := by
  obtain ⟨actions, rfl, silent⟩ := extension
  rw [recordAfter_append]
  induction actions with
  | nil => rfl
  | cons action rest inductionHypothesis =>
      obtain ⟨isSilent, restSilent⟩ := List.forall_mem_cons.mp silent
      rw [recordAfter, List.foldl_cons, (Act.spec_of_isSilent isSilent).2.2.2]
      exact inductionHypothesis restSilent

end SilentExtension

/-- `terminate` waits for the buffer before it finalizes. -/
def waitsToEnd (reason : TerminateReason) (state : SessionState) : Bool :=
  !Client.isInstantTermination reason && Client.isActiveOrReconnecting state

/-- What `terminate` leaves of the record it found: all of it while its buffer runs. -/
def Leaves
    (reason : TerminateReason)
    (state : SessionState)
    (found : Option StoredSession)
    (fatalTimer : Option Nat)
    (storage : Option StoredSession) : Prop :=
  if waitsToEnd reason state then fatalTimer.isSome = true ∧ storage = found else storage = none

/-! ## The invariant -/

/-- What a segment finds when it begins; `fires` when it is the end of the ending buffer. -/
structure SegmentStart where
  ended : Bool
  fires : Bool
  state : SessionState
  fatalTimer : Option Nat
  storage : Option StoredSession

/-- The components of a client that termination is about, in a segment. -/
structure CalmView
    (claim : ClaimStage)
    (start : SegmentStart)
    (terminated : Bool)
    (fatalTimer : Option Nat)
    (storage : Option StoredSession)
    (state : SessionState)
    (out : List Act) : Prop where
  started : claim ≠ .requested
  stays : start.ended = true → terminated = true
  ended : terminated = true → state = .fatalEnding ∨ state = .terminated
  disposed : terminated = true → fatalTimer = none → storage = none
  kept :
    start.ended = true →
      (storage = start.storage ∧ fatalTimer = start.fatalTimer) ∨
        (start.fires = true ∧ storage = none)
  split :
    ∃ live quiet,
      out = live ++ quiet ∧
        (∀ action ∈ live, action.isTermination = false) ∧
        (∀ action ∈ quiet, action.resurrects = false) ∧
        (terminated = false → quiet = []) ∧
        (start.ended = true → live = [])
  told :
    terminated = false →
      state = stateAfter start.state out ∧ storage = recordAfter start.storage out
  left :
    terminated = true → start.ended = false → start.fires = false →
      ∃ before reason,
        EndsWith out before reason ∧
          Leaves reason (stateAfter start.state before) (recordAfter start.storage before)
            fatalTimer storage

namespace CalmView

variable
  {claim : ClaimStage}
  {start : SegmentStart}
  {terminated : Bool}
  {fatalTimer : Option Nat}
  {storage : Option StoredSession}
  {state : SessionState}
  {out : List Act}

/-- Silent actions can always follow. -/
theorem append_silent
    (calm : CalmView claim start terminated fatalTimer storage state out)
    {after : List Act}
    (extension : SilentExtension out after) :
    CalmView claim start terminated fatalTimer storage state after := by
  have sameState := extension.stateAfter_eq start.state
  have sameRecord := extension.recordAfter_eq start.storage
  obtain ⟨actions, rfl, silent⟩ := extension
  obtain ⟨live, quiet, rfl, liveOk, quietOk, noQuiet, noLive⟩ := calm.split
  refine
    { started := calm.started
      stays := calm.stays
      ended := calm.ended
      disposed := calm.disposed
      kept := calm.kept
      split := ?_
      told := ?_
      left := ?_ }
  · cases isTerminated : terminated with
    | true =>
        refine ⟨live, quiet ++ actions, by simp, liveOk, ?_, by simp, noLive⟩
        intro action member
        rcases List.mem_append.mp member with inQuiet | inActions
        · exact quietOk action inQuiet
        · exact (Act.spec_of_isSilent (silent action inActions)).1
    | false =>
        obtain rfl := noQuiet isTerminated
        refine ⟨live ++ actions, [], by simp, ?_, by simp, fun _ => rfl, ?_⟩
        · intro action member
          rcases List.mem_append.mp member with inLive | inActions
          · exact liveOk action inLive
          · exact (Act.spec_of_isSilent (silent action inActions)).2.1
        · intro before
          rw [calm.stays before] at isTerminated
          cases isTerminated
  · intro isLive
    rw [sameState, sameRecord]
    exact calm.told isLive
  · intro isTerminated notBefore notFires
    obtain ⟨before, reason, ends, leaves⟩ := calm.left isTerminated notBefore notFires
    exact ⟨before, reason, ends.append actions, leaves⟩

/-- A live session may perform any action. -/
theorem append_live
    (calm : CalmView claim start false fatalTimer storage state out)
    {actions : List Act}
    (notTermination : ∀ action ∈ actions, action.isTermination = false)
    (newTimer : Option Nat)
    {newStorage : Option StoredSession}
    {newState : SessionState}
    (isStorage : newStorage = recordAfter storage actions)
    (isState : newState = stateAfter state actions) :
    CalmView claim start false newTimer newStorage newState (out ++ actions) := by
  obtain ⟨sameState, sameRecord⟩ := calm.told rfl
  obtain ⟨live, quiet, rfl, liveOk, -, noQuiet, -⟩ := calm.split
  obtain rfl := noQuiet rfl
  refine
    { started := calm.started
      stays := calm.stays
      ended := by simp
      disposed := by simp
      kept := fun before => absurd (calm.stays before) (by simp)
      split := ⟨live ++ actions, [], by simp, ?_, by simp, fun _ => rfl, ?_⟩
      told := fun _ => ?_
      left := by simp }
  · intro action member
    rcases List.mem_append.mp member with inLive | inActions
    · exact liveOk action inLive
    · exact notTermination action inActions
  · intro before
    cases calm.stays before
  · rw [isState, isStorage, sameState, sameRecord, stateAfter_append _ (live ++ []),
      recordAfter_append _ (live ++ [])]
    exact ⟨rfl, rfl⟩

/-- A live session may end: `terminate` writes its final state, and until it returns
performs only actions that an ended session may perform. -/
theorem terminate
    (calm : CalmView claim start false fatalTimer storage state out)
    {begun : List Act}
    (extension : SilentExtension out begun)
    (reason : TerminateReason)
    {final : SessionState}
    (isFinal : final = .fatalEnding ∨ final = .terminated)
    {ending after : List Act}
    (areEnding : ∀ action ∈ ending,
      action.writtenState = none ∧ action.isTermination = false ∧ action.resurrects = false)
    (afterEq : after = begun ++ .setState final :: (ending ++ [.terminated reason]))
    {newClaim : ClaimStage}
    {newTimer : Option Nat}
    {newStorage : Option StoredSession}
    (stillStarted : newClaim ≠ .requested)
    (leaves : Leaves reason state storage newTimer newStorage) :
    CalmView newClaim start true newTimer newStorage final after := by
  obtain ⟨sameState, sameRecord⟩ := calm.told rfl
  have begunState := extension.stateAfter_eq start.state
  have begunRecord := extension.recordAfter_eq start.storage
  obtain ⟨actions, rfl, silent⟩ := extension
  obtain ⟨live, quiet, rfl, liveOk, -, noQuiet, -⟩ := calm.split
  obtain rfl := noQuiet rfl
  rw [List.append_nil] at *
  subst afterEq
  have notEnded : start.ended = false :=
    Bool.eq_false_iff.mpr fun before => absurd (calm.stays before) (by simp)
  refine
    { started := stillStarted
      stays := fun _ => rfl
      ended := fun _ => isFinal
      disposed := ?_
      kept := fun before => by rw [notEnded] at before; cases before
      split :=
        ⟨live, actions ++ .setState final :: (ending ++ [.terminated reason]), by simp, liveOk,
          ?_, by simp, fun before => by rw [notEnded] at before; cases before⟩
      told := by simp
      left := fun _ _ _ =>
        ⟨live ++ actions, reason, ⟨⟨final, ending, [], rfl, ?_⟩, ?_⟩, ?_⟩ }
  · intro _ noTimer
    unfold Leaves at leaves
    split at leaves
    · rw [noTimer] at leaves
      cases leaves.1
    · exact leaves
  · intro action member
    simp only [List.mem_append, List.mem_cons, List.not_mem_nil, or_false] at member
    rcases member with inActions | rfl | inEnding | rfl
    · exact (Act.spec_of_isSilent (silent action inActions)).1
    · rcases isFinal with rfl | rfl <;> rfl
    · exact (areEnding action inEnding).2.2
    · rfl
  · exact fun action member => ⟨(areEnding action member).1, (areEnding action member).2.1⟩
  · intro action member
    rcases List.mem_append.mp member with inLive | inActions
    · exact liveOk action inLive
    · exact (Act.spec_of_isSilent (silent action inActions)).2.1
  · rw [begunState, begunRecord, ← sameState, ← sameRecord]
    exact leaves

end CalmView

namespace Client

/-- Effects of the file machines are silent. -/
theorem FileFrame.silent
    {before after : Client}
    (frame : FileFrame before after) : SilentExtension before.out after.out := by
  obtain ⟨actions, out, quiet⟩ := frame.out
  exact ⟨actions, out, fun action member => (quiet action member).silent⟩

/-- The termination invariant of a client in the middle of a segment. -/
def Calm (start : SegmentStart) (client : Client) : Prop :=
  CalmView client.vars.claim start client.vars.terminated client.vars.fatalTimer
    client.store.storage client.signals.sessionState client.out

namespace Calm

variable {start : SegmentStart} {client : Client}

/-- A silent act keeps the segment calm. -/
theorem act
    (calm : Calm start client)
    {action : Act}
    (silent : action.isSilent = true) :
    Calm start (client.act action) :=
  calm.append_silent (.single client.out silent)

theorem system
    (calm : Calm start client)
    (event : SystemEventKind) : Calm start (client.system event) :=
  calm.act rfl

theorem frame
    {after : Client}
    (calm : Calm start client)
    (frame : FileFrame client after) : Calm start after := by
  unfold Calm
  rw [frame.vars, frame.store, frame.signals]
  exact calm.append_silent frame.silent

/-- A segment of the file machines keeps the segment calm. -/
theorem runFiles
    (calm : Calm start client)
    (segment : Files → Files) : Calm start (client.runFiles segment) :=
  calm.frame (runFiles_frame client segment)

/-- A live session may change its state. -/
theorem setState
    (calm : Calm start client)
    (live : client.vars.terminated = false)
    (state : SessionState) : Calm start (client.setState state) := by
  unfold Calm at calm ⊢
  simp only [Client.setState]
  rw [live] at calm ⊢
  exact calm.append_live (by simp [Act.isTermination]) _ rfl rfl

/-- Every session may enter the terminated state. -/
theorem setTerminated
    (calm : Calm start client) :
    Calm start (client.setState .terminated) := by
  cases live : client.vars.terminated with
  | false => exact calm.setState live .terminated
  | true =>
      obtain ⟨liveActs, quiet, outEq, liveOk, quietOk, -, noLive⟩ := calm.split
      exact
        { started := calm.started
          stays := calm.stays
          ended := fun _ => .inr rfl
          disposed := calm.disposed
          kept := calm.kept
          split := by
            refine ⟨liveActs, quiet ++ [.setState .terminated], ?_, liveOk, ?_, ?_, noLive⟩
            · simp [Client.setState, outEq]
            · intro action member
              rcases List.mem_append.mp member with inQuiet | isNew
              · exact quietOk action inQuiet
              · rw [List.mem_singleton.mp isNew]
                rfl
            · intro isLive
              exact absurd (live.symm.trans isLive) (by simp)
          told := fun isLive => absurd (live.symm.trans isLive) (by simp)
          left := by
            intro isTerminated notBefore notFires
            obtain ⟨before, reason, ends, leaves⟩ := calm.left isTerminated notBefore notFires
            exact ⟨before, reason, ends.append _, leaves⟩ }

/-- Closing the connection writes no state and no record. -/
theorem closeConnection
    (calm : Calm start client) : Calm start client.closeConnection := by
  unfold Client.closeConnection
  split
  · exact calm
  · exact calm.act rfl

theorem enqueueRelaySend
    (calm : Calm start client)
    (task : SendTask) : Calm start (client.enqueueRelaySend task) := by
  unfold Client.enqueueRelaySend
  split <;> exact calm

theorem sendEncoded
    (calm : Calm start client)
    (envelope : PlaintextEnvelope)
    (continuation : SendCont) :
    Calm start (client.sendEncoded envelope continuation) := by
  unfold Client.sendEncoded
  split
  · exact calm
  · exact calm.enqueueRelaySend _

theorem sendModeFrame
    (calm : Calm start client)
    (kind : RelayKind)
    (payload : Plaintext)
    (continuation : SendCont) :
    Calm start (client.sendModeFrame kind payload continuation) :=
  calm.enqueueRelaySend _

end Calm

/-- The credential's sync writes neither variables nor signals. -/
theorem signalCredential_spec (client : Client) :
    client.signalCredential.vars = client.vars ∧
      client.signalCredential.signals = client.signals ∧
      SilentExtension client.out client.signalCredential.out := by
  unfold signalCredential
  split
  · exact ⟨rfl, rfl, .single client.out rfl⟩
  · exact ⟨rfl, rfl, .refl client.out⟩

/-- Closing the connection touches the socket only. -/
theorem closeConnection_spec (client : Client) :
    client.closeConnection.vars = client.vars ∧
      client.closeConnection.store = client.store ∧
      client.closeConnection.signals = client.signals ∧
      SilentExtension client.out client.closeConnection.out := by
  unfold closeConnection
  split
  · exact ⟨rfl, rfl, rfl, .refl client.out⟩
  · exact ⟨rfl, rfl, rfl, .single client.out rfl⟩

/-- Finalizing ends the state, performs silent actions and clears the record. -/
theorem finalizeTermination_spec (client : Client) :
    client.finalizeTermination.vars.claim = .released ∧
      client.finalizeTermination.vars.terminated = client.vars.terminated ∧
      client.finalizeTermination.vars.fatalTimer = client.vars.fatalTimer ∧
      client.finalizeTermination.store.storage = none ∧
      client.finalizeTermination.signals.sessionState = .terminated ∧
      ∃ actions,
        client.finalizeTermination.out =
            client.out ++ .setState .terminated :: (actions ++ [.clearRecord]) ∧
          ∀ action ∈ actions, action.isSilent = true := by
  have frame := shutdownFiles_frame (client.setState .terminated)
  obtain ⟨signalVars, signalSignals, signalOut⟩ :=
    signalCredential_spec (client.setState .terminated).shutdownFiles
  refine ⟨rfl, ?_, ?_, rfl, ?_, ?_⟩
  · simp only [finalizeTermination, clearStoredSession, signalVars, frame.vars]
    rfl
  · simp only [finalizeTermination, clearStoredSession, signalVars, frame.vars]
    rfl
  · simp only [finalizeTermination, clearStoredSession, signalSignals, frame.signals]
    rfl
  · obtain ⟨actions, isOut, silent⟩ := frame.silent.trans signalOut
    refine ⟨actions, ?_, silent⟩
    change (client.setState .terminated).shutdownFiles.signalCredential.out ++ [.clearRecord] = _
    rw [isOut]
    simp [Client.setState]

/-- `beginTermination` keeps the claim and the record: it closes, stops the timers and tells
the reason. -/
theorem beginTermination_spec (client : Client) (reason : TerminateReason) :
    (client.beginTermination reason).vars.claim = client.vars.claim ∧
      (client.beginTermination reason).vars.terminated = true ∧
      (client.beginTermination reason).store.storage = client.store.storage ∧
      (client.beginTermination reason).signals.sessionState = client.signals.sessionState ∧
      SilentExtension client.out (client.beginTermination reason).out := by
  unfold beginTermination
  obtain ⟨closeVars, closeStore, closeSignals, closeOut⟩ :=
    closeConnection_spec
      ({ client with vars.terminated := true }.system
        (if reason = TerminateReason.duplicateTab then .duplicateTabBlocked
          else .sessionEnded)).clearReconnectTimer
  refine ⟨by rw [closeVars]; rfl, by rw [closeVars]; rfl, by rw [closeStore]; rfl,
    by rw [closeSignals]; rfl, ?_⟩
  exact (SilentExtension.single client.out rfl).trans closeOut

/-- A live session ends by `terminate`, in a segment whose claim may still be open. -/
theorem terminate_calm
    {client : Client}
    {claim : ClaimStage}
    {start : SegmentStart}
    (calm : CalmView claim start false client.vars.fatalTimer client.store.storage
      client.signals.sessionState client.out)
    (live : client.vars.terminated = false)
    {reason : TerminateReason}
    (claimed : client.vars.claim ≠ .requested ∨ isInstantTermination reason = true) :
    Client.Calm start (client.terminate reason) := by
  obtain ⟨begunClaim, begunTerminated, begunStorage, begunState, begunOut⟩ :=
    beginTermination_spec client reason
  unfold Client.terminate
  simp only [live, Bool.false_eq_true, ↓reduceIte, begunState]
  split
  next waits =>
    have isWaiting : waitsToEnd reason client.signals.sessionState = true := waits
    unfold Calm
    simp only [Client.act, Client.setState, begunClaim, begunTerminated, begunStorage]
    refine calm.terminate begunOut reason (.inl rfl)
      (List.forall_mem_nil _) (by simp) ?_ ?_
    · rcases claimed with started | instant
      · exact started
      · rw [instant] at waits
        cases waits
    · rw [Leaves, if_pos isWaiting]
      exact ⟨rfl, rfl⟩
  next atOnce =>
    have notWaiting : ¬ waitsToEnd reason client.signals.sessionState = true := atOnce
    obtain ⟨finalClaim, finalTerminated, -, finalStorage, finalState, actions, finalOut, silent⟩ :=
      finalizeTermination_spec (client.beginTermination reason)
    unfold Calm
    simp only [Client.act, finalClaim, finalTerminated, begunTerminated, finalStorage,
      finalState]
    have areEnding : ∀ action ∈ actions ++ [.clearRecord], action.writtenState = none ∧
        action.isTermination = false ∧ action.resurrects = false := by
      intro action member
      rcases List.mem_append.mp member with inActions | isClear
      · have spec := Act.spec_of_isSilent (silent action inActions)
        exact ⟨spec.2.2.1, spec.2.1, spec.1⟩
      · rw [List.mem_singleton.mp isClear]
        exact ⟨rfl, rfl, rfl⟩
    refine calm.terminate begunOut reason (.inr rfl) areEnding (by rw [finalOut]; simp) (by simp) ?_
    rw [Leaves, if_neg notWaiting]

namespace Calm

variable {start : SegmentStart} {client : Client}

/-- `terminate` finalizes at once, or leaves the record it found and starts the buffer. -/
theorem terminate
    (calm : Calm start client)
    (reason : TerminateReason) : Calm start (client.terminate reason) := by
  cases live : client.vars.terminated with
  | true =>
      unfold Client.terminate
      simpa [live] using calm
  | false =>
      have started := calm.started
      unfold Calm at calm
      rw [live] at calm
      exact terminate_calm calm live (.inl started)

/-- The callback of the ending buffer finalizes. -/
theorem fatalTimerFired
    (calm : Calm start client)
    (fires : start.fires = true) : Calm start client.fatalTimerFired := by
  obtain ⟨finalClaim, finalTerminated, -, finalStorage, finalState, actions, finalOut, silent⟩ :=
    finalizeTermination_spec { client with vars.fatalTimer := none }
  obtain ⟨live, quiet, outEq, liveOk, quietOk, noQuiet, noLive⟩ := calm.split
  have finalActs : ∀ action ∈ .setState .terminated :: (actions ++ [.clearRecord]),
      action.resurrects = false ∧ action.isTermination = false := by
    intro action member
    simp only [List.mem_cons, List.mem_append, List.not_mem_nil, or_false] at member
    rcases member with rfl | inActions | rfl
    · exact ⟨rfl, rfl⟩
    · exact ⟨(Act.spec_of_isSilent (silent action inActions)).1, (Act.spec_of_isSilent (silent action inActions)).2.1⟩
    · exact ⟨rfl, rfl⟩
  unfold Client.fatalTimerFired Calm
  rw [finalClaim, finalTerminated, finalStorage, finalState, finalOut]
  refine
    { started := by simp
      stays := calm.stays
      ended := fun _ => .inr rfl
      disposed := fun _ _ => rfl
      kept := fun _ => .inr ⟨fires, rfl⟩
      split := ?_
      told := fun _ => ?_
      left := fun _ _ notFires => by rw [fires] at notFires; cases notFires }
  · cases isTerminated : client.vars.terminated with
    | true =>
        refine ⟨live, quiet ++ .setState .terminated :: (actions ++ [.clearRecord]), ?_, liveOk,
          ?_, by simp, noLive⟩
        · simp [outEq]
        · intro action member
          rcases List.mem_append.mp member with inQuiet | isFinal
          · exact quietOk action inQuiet
          · exact (finalActs action isFinal).1
    | false =>
        obtain rfl := noQuiet isTerminated
        refine ⟨live ++ .setState .terminated :: (actions ++ [.clearRecord]), [], ?_, ?_, by simp,
          fun _ => rfl, ?_⟩
        · simp [outEq]
        · intro action member
          rcases List.mem_append.mp member with inLive | isFinal
          · exact liveOk action inLive
          · exact (finalActs action isFinal).2
        · intro before
          exact absurd ((calm.stays before).symm.trans isTerminated) (by simp)
  · have silentExtension : SilentExtension (client.out ++ [.setState .terminated])
        (client.out ++ [.setState .terminated] ++ actions) := ⟨actions, rfl, silent⟩
    have sameState := silentExtension.stateAfter_eq start.state
    have isSplit : client.out ++ .setState .terminated :: (actions ++ [.clearRecord]) =
        client.out ++ [.setState .terminated] ++ actions ++ [.clearRecord] := by simp
    rw [isSplit, stateAfter_append, recordAfter_append _ _ [.clearRecord], sameState,
      stateAfter_append _ client.out]
    exact ⟨rfl, rfl⟩

/-! ### Writing the record -/

/-- A record is written by live sessions only. -/
theorem recordWritten
    (calm : Calm start client)
    (live : client.vars.terminated = false)
    (record : StoredSession) : Calm start (client.recordWritten record) := by
  unfold Calm at calm ⊢
  simp only [Client.recordWritten]
  rw [live] at calm ⊢
  exact calm.append_live (by simp [Act.isTermination]) _ rfl rfl

/-- A mirror's update fails, or writes the record with one field changed. -/
theorem flushMirror
    (calm : Calm start client)
    (mirror : MirrorId)
    (change : StoredSession → StoredSession) :
    Calm start (client.flushMirror mirror change).1 := by
  have changed : Calm start (client.mirrorChanged mirror change) := calm
  rcases flushMirror_cases client mirror change with refused | ⟨record, -, live, written⟩
  · rw [refused]
    exact changed
  · rw [written]
    exact changed.recordWritten live _

end Calm

/-- A mirror's update writes no variables. -/
theorem flushMirror_vars
    (client : Client)
    (mirror : MirrorId)
    (change : StoredSession → StoredSession) :
    (client.flushMirror mirror change).1.vars = client.vars := by
  rcases flushMirror_cases client mirror change with refused | ⟨record, -, -, written⟩
  · rw [refused]
    rfl
  · rw [written]
    rfl

namespace Calm

variable {start : SegmentStart} {client : Client}

/-- An allocated counter is mirrored into the record before its frame is encrypted. -/
theorem allocateSendCounter
    (calm : Calm start client)
    (active : ActiveContext)
    (kind : RelayKind) :
    Calm start (client.allocateSendCounter active kind).1 := by
  have stored :=
    allocateCounter_store (active.mirror.map setCounterSend) (Calm start)
      (by
        intro persist member store counter holds
        obtain ⟨mirror, -, rfl⟩ := Option.map_eq_some_iff.mp member
        exact holds.flushMirror mirror _)
      active.sendState kind calm
  exact stored

end Calm

/-- A counter that cannot be persisted does not end the session: its send does. -/
theorem allocateSendCounter_terminated
    (client : Client)
    (active : ActiveContext)
    (kind : RelayKind) :
    (client.allocateSendCounter active kind).1.vars.terminated =
      client.vars.terminated :=
  allocateCounter_store (active.mirror.map setCounterSend)
    (fun stored => stored.vars.terminated = client.vars.terminated)
    (by
      intro persist member store counter holds
      obtain ⟨mirror, -, rfl⟩ := Option.map_eq_some_iff.mp member
      rw [← holds]
      exact congrArg Vars.terminated (flushMirror_vars store mirror _))
    active.sendState kind rfl

namespace Calm

variable {start : SegmentStart} {client : Client}

/-! ### Connections -/

/-- A connection is opened by live sessions only. -/
theorem openWith
    (calm : Calm start client)
    (live : client.vars.terminated = false)
    (intent : HelloIntent) : Calm start (client.openWith intent) := by
  unfold Calm at calm ⊢
  simp only [Client.openWith]
  rw [live] at calm ⊢
  exact calm.append_live (by simp [Act.isTermination]) _ rfl rfl

/-- A rejoin opens a connection. -/
theorem reopenAsJoiner
    (calm : Calm start client)
    (live : client.vars.terminated = false) :
    Calm start client.reopenAsJoiner := by
  have closedLive : client.closeConnection.vars.terminated = false := by
    rw [(closeConnection_spec client).1]
    exact live
  exact (calm.closeConnection.setState closedLive .connecting).openWith closedLive .join

/-- A frame that is written to a connection is silent. -/
theorem sendOn
    (calm : Calm start client)
    (gen : Nat)
    (frame : ClientFrame) : Calm start (client.sendOn gen frame) := by
  unfold Client.sendOn
  split
  · exact calm
  · split
    · exact calm.act rfl
    · exact calm

/-- A lost connection arms the timer, or ends the session. -/
theorem scheduleReconnect
    (calm : Calm start client)
    (live : client.vars.terminated = false) :
    Calm start client.scheduleReconnect := by
  unfold Client.scheduleReconnect
  simp only
  split
  · split
    · exact calm.terminate _
    · exact (show Calm start
        { client with
          link.reconnectStartMs := client.page.now
          link.reconnectAttempt := 0 } from calm).terminate _
  · split
    · exact calm.setState live .reconnecting
    · exact calm.setState live .reconnecting

/-- The reconnect timer of an ended session opens nothing. -/
theorem reconnectTimerFired
    (calm : Calm start client) : Calm start client.reconnectTimerFired := by
  unfold Client.reconnectTimerFired
  simp only
  split
  · exact calm
  · rename_i live
    have isLive : client.vars.terminated = false := by simpa using live
    split
    · exact openWith (by exact calm) (by exact isLive) .resume
    · exact openWith (by exact calm) (by exact isLive) .resume

/-- Live sessions become active. -/
theorem transitionToActive
    (calm : Calm start client)
    (live : client.vars.terminated = false)
    (active : ActiveContext) : Calm start (client.transitionToActive active) := by
  have entered : Calm start { client with vars.internal := .active active } := calm
  exact entered.setState live .active

/-! ### The inbound queue and the handshake -/

theorem finishHandler
    (calm : Calm start client) : Calm start client.finishHandler := by
  unfold Client.finishHandler
  simp only
  split <;> exact calm

theorem enqueueInbound
    (calm : Calm start client)
    (task : InboundTask) : Calm start (client.enqueueInbound task) := by
  unfold Client.enqueueInbound
  simp only
  split <;> exact calm

/-- The ephemeral key pair is drawn once. -/
theorem ensureEphemeral
    (calm : Calm start client) : Calm start client.ensureEphemeral.1 := by
  unfold Client.ensureEphemeral
  split <;> exact calm

/-- The local half of a handshake is sent once; out of place it ends the session. -/
theorem sendLocalHandshake
    (calm : Calm start client) : Calm start client.sendLocalHandshake := by
  unfold Client.sendLocalHandshake
  split
  · exact calm
  · split
    · exact calm.terminate _
    · split
      · exact calm.ensureEphemeral
      · exact calm.terminate _

/-- The wrapped local half is dropped where the session has ended meanwhile. -/
theorem handshakeWrapped
    (calm : Calm start client)
    (ok : Bool) : Calm start (client.handshakeWrapped ok) := by
  unfold Client.handshakeWrapped
  split
  · rename_i gen pair _ _
    simp only
    split
    · exact calm
    · rename_i usable
      have live : client.vars.terminated = false := by simp_all
      have settled : Calm start { client with handshake.handshakeSend := none } := calm
      have sent := settled.sendOn gen (.handshake (.wrapped pair))
      have sentLive :
          ({ client with handshake.handshakeSend := none }.sendOn gen
            (.handshake (.wrapped pair))).vars.terminated = false := by
        unfold Client.sendOn
        split
        · exact live
        · split <;> exact live
      split
      · exact sent.setState sentLive .handshaking
      · exact sent
  · exact calm

/-- A handshake frame waits for its key, or ends the session. -/
theorem handleHandshakeFrame
    (calm : Calm start client)
    (ciphertext : HandshakeCiphertext) :
    Calm start (client.handleHandshakeFrame ciphertext) := by
  unfold Client.handleHandshakeFrame
  split
  · exact calm.sendLocalHandshake.ensureEphemeral
  · exact (calm.terminate _).finishHandler

/-- A derived session is installed only where it has not ended meanwhile. -/
theorem handshakeDerived
    (calm : Calm start client)
    (ciphertext : HandshakeCiphertext)
    (pair : Draw)
    (ok : Bool) : Calm start (client.handshakeDerived ciphertext pair ok) := by
  unfold Client.handshakeDerived
  split
  · exact (calm.terminate _).finishHandler
  · split
    · exact (calm.terminate _).finishHandler
    · split
      · exact calm.finishHandler
      · rename_i sessionKey _ live
        have shown : Calm start (client.act (.onSas (some sessionKey))) :=
          calm.act rfl
        simp only
        split
        · exact (shown.terminate _).finishHandler
        · have isLive : client.vars.terminated = false := by simpa using live
          exact ((shown.transitionToActive isLive _).system _).finishHandler

/-! ### Upgrade and rekey -/

/-- An installed record is written by live sessions only. -/
theorem recordInstalled
    (calm : Calm start client)
    (live : client.vars.terminated = false)
    (record : StoredSession) : Calm start (client.recordInstalled record) :=
  calm.recordWritten live record

end Calm

namespace Calm

variable {start : SegmentStart} {client : Client}

/-- The mark of a rekey is written into the record, if there is one. -/
theorem markRekeyInProgress
    (calm : Calm start client)
    (active : ActiveContext) :
    Calm start (client.markRekeyInProgress active).1 := by
  unfold Client.markRekeyInProgress
  split
  · exact calm
  · exact calm.flushMirror _ _

/-- Whoever asked for a rekey is answered, or goes on. -/
theorem rekeyCallerDone
    (calm : Calm start client)
    (origin : RekeyOrigin) : Calm start (client.rekeyCallerDone origin) := by
  cases origin with
  | upgrade => exact calm
  | handler => exact calm.finishHandler

/-- Both parties enter a rekey alike. -/
theorem beginRekey
    (calm : Calm start client)
    (live : client.vars.terminated = false)
    (active : ActiveContext) :
    Calm start
      ((({ client with vars.rekeyInFlight := true }.setState
        .rekeying).cancelFilesForRekey).markRekeyInProgress active).1 := by
  have inFlight : Calm start { client with vars.rekeyInFlight := true } := calm
  have begun := inFlight.setState live .rekeying
  exact (begun.frame (cancelFilesForRekey_frame _)).markRekeyInProgress active

/-- A rekey starts in live sessions only. -/
theorem startRekeyIfInitiator
    (calm : Calm start client)
    (origin : RekeyOrigin) : Calm start (client.startRekeyIfInitiator origin) := by
  unfold Client.startRekeyIfInitiator
  split
  · exact calm.rekeyCallerDone origin
  · rename_i guard
    have live : client.vars.terminated = false := by simp_all
    split
    · exact calm.rekeyCallerDone origin
    · rename_i active _
      have begun := calm.beginRekey live active
      simp only
      split
      · rename_i refused result
        rw [result] at begun
        exact (begun.terminate _).rekeyCallerDone origin
      · rename_i marked result
        rw [result] at begun
        split
        · exact begun.rekeyCallerDone origin
        · cases origin <;> exact begun

/-- A key pair that was drawn after the end is dropped. -/
theorem rekeyKeygenDone
    (calm : Calm start client)
    (origin : RekeyOrigin)
    (pair : Draw)
    (ok : Bool) : Calm start (client.rekeyKeygenDone origin pair ok) := by
  unfold Client.rekeyKeygenDone
  split
  · exact (calm.terminate _).rekeyCallerDone origin
  · have pending : Calm start { client with vars.pendingRekeyPair := some pair } := calm
    cases origin <;> exact pending.sendModeFrame _ _ _

/-- A completed rekey becomes active. -/
theorem completeRekey
    (calm : Calm start client)
    (live : client.vars.terminated = false) : Calm start client.completeRekey := by
  have landed : Calm start { client with vars.rekeyInFlight := false } := calm
  exact ((landed.setState live .active).system _).sendModeFrame _ _ _

/-- A rekeyed key is committed at once, or after its record was wrapped. -/
theorem commitRekey
    (calm : Calm start client)
    (newSessionKey : SessionKey) : Calm start (client.commitRekey newSessionKey) := by
  unfold Client.commitRekey
  split
  · exact calm.finishHandler
  · rename_i live
    have isLive : client.vars.terminated = false := by simpa using live
    simp only
    split
    · exact calm
    · exact completeRekey (by exact calm) isLive

/-- A wrapped record is stored only where the session has not ended meanwhile. -/
theorem commitWrapped
    (calm : Calm start client)
    (newSessionKey : SessionKey)
    (wrapKey : WrapKey)
    (credentialId : CredentialId)
    (ok : Bool) :
    Calm start (client.commitWrapped newSessionKey wrapKey credentialId ok) := by
  unfold Client.commitWrapped
  rcases persistWrappedSessionKey_cases client
      { material := newSessionKey, extractable := true } wrapKey .hardened credentialId
      ok with ⟨reason, refused⟩ | ⟨active, wrapped, -, -, live, installed⟩
  · rw [refused]
    exact (calm.terminate reason).finishHandler
  · rw [installed]
    exact (calm.recordInstalled live _).completeRekey live

/-- A `rekey_init` of the peer is answered in live sessions only. -/
theorem handleRekeyInit
    (calm : Calm start client)
    (live : client.vars.terminated = false)
    (active : ActiveContext)
    (peerPub : PublicKey) :
    Calm start (client.handleRekeyInit active peerPub) := by
  unfold Client.handleRekeyInit
  split
  · exact (calm.terminate _).finishHandler
  · have begun := calm.beginRekey live active
    simp only
    split
    · rename_i refused result
      rw [result] at begun
      exact (begun.terminate _).finishHandler
    · rename_i marked result
      rw [result] at begun
      exact begun

/-- The answer is sent only where the session has not ended meanwhile. -/
theorem rekeyInitDerived
    (calm : Calm start client)
    (pair : Draw)
    (peerPub : PublicKey)
    (outcome : RekeyOutcome) :
    Calm start (client.rekeyInitDerived pair peerPub outcome) := by
  unfold Client.rekeyInitDerived
  split
  · exact (calm.terminate _).finishHandler
  · exact (calm.terminate _).finishHandler
  · split
    · exact (calm.terminate _).finishHandler
    · exact calm.sendModeFrame _ _ _

/-- A `rekey_ack` without a pending key pair ends the session. -/
theorem handleRekeyAck
    (calm : Calm start client)
    (active : ActiveContext)
    (peerPub : PublicKey) :
    Calm start (client.handleRekeyAck active peerPub) := by
  unfold Client.handleRekeyAck
  split
  · exact (calm.terminate _).finishHandler
  · split
    · exact (calm.terminate _).finishHandler
    · exact calm

/-- The last step of a rekey is taken only where the session has not ended meanwhile. -/
theorem rekeyAckDerived
    (calm : Calm start client)
    (pair : Draw)
    (peerPub : PublicKey)
    (ok : Bool) : Calm start (client.rekeyAckDerived pair peerPub ok) := by
  unfold Client.rekeyAckDerived
  split
  · exact (calm.terminate _).finishHandler
  · have cleared : Calm start { client with vars.pendingRekeyPair := none } := calm
    exact cleared.commitRekey _

theorem handleModeUpgraded
    (calm : Calm start client) : Calm start client.handleModeUpgraded := by
  have upgraded : Calm start { client with signals.peerMode := .prf } := calm
  unfold Client.handleModeUpgraded
  simp only
  split
  · exact upgraded.startRekeyIfInitiator .handler
  · exact (upgraded.system _).finishHandler

/-- `upgradeToPrf` returns at once in an ended session. -/
theorem upgradeToPrf
    (calm : Calm start client) : Calm start client.upgradeToPrf := by
  unfold Client.upgradeToPrf
  split
  · exact calm
  · rename_i guard
    exact calm.setState (by simp_all) .upgradingLocal

/-- A passkey that was registered after the end is reported as unknown. -/
theorem upgradeRegistered
    (calm : Calm start client)
    (index : Nat)
    (outcome : RegisterOutcome) :
    Calm start (client.upgradeRegistered index outcome) := by
  have settled :
      Calm start
        { client with vars.upgrades := client.vars.upgrades.eraseIdx index } := calm
  unfold Client.upgradeRegistered
  simp only
  split
  · split
    · exact settled.act rfl
    · exact settled
  · rename_i guard
    have live : client.vars.terminated = false := by simpa using guard
    split
    · exact (settled.setState live .active).system _
    · exact (settled.setState live .active).system _
    · split
      · exact settled
      · exact calm

/-- A wrapped key is stored only where the session has not ended meanwhile. -/
theorem upgradeWrapped
    (calm : Calm start client)
    (index : Nat)
    (sessionKey : CryptoKey)
    (wrapKey : WrapKey)
    (credentialId : CredentialId)
    (ok : Bool) :
    Calm start
      (client.upgradeWrapped index sessionKey wrapKey credentialId ok) := by
  have settled :
      Calm start
        { client with vars.upgrades := client.vars.upgrades.eraseIdx index } := calm
  unfold Client.upgradeWrapped
  rcases persistWrappedSessionKey_cases
      { client with vars.upgrades := client.vars.upgrades.eraseIdx index }
      sessionKey wrapKey .soft credentialId ok with
    ⟨reason, refused⟩ | ⟨active, wrapped, -, -, live, installed⟩
  · rw [refused]
    exact settled.terminate reason
  · rw [installed]
    have stored := settled.recordInstalled live (wrappedRecord active wrapped .soft credentialId)
    generalize storedEq :
      { client with vars.upgrades := client.vars.upgrades.eraseIdx index }.recordInstalled
        (wrappedRecord active wrapped .soft credentialId) = persisted at stored
    have persistedLive : persisted.vars.terminated = false := by
      rw [← storedEq]
      exact live
    have prf : Calm start { persisted with signals.sessionMode := .prf } := stored
    exact ((prf.setState persistedLive .active).system _).sendModeFrame _ _ _

/-! ### Relay frames -/

/-- A relay frame waits for its turn, in live sessions only. -/
theorem handleRelay
    (calm : Calm start client)
    (frame : RelayFrame) : Calm start (client.handleRelay frame) := by
  have taken :
      ∀ active, Calm start (client.handleRelayWith active frame) := by
    intro active
    unfold Client.handleRelayWith
    simp only
    split
    · exact finishHandler (by exact calm)
    · exact calm
  unfold Client.handleRelay
  split
  · exact (calm.terminate _).finishHandler
  · exact taken _
  · exact taken _

/-- What an envelope does in a live session. -/
theorem handleEnvelope
    (calm : Calm start client)
    (live : client.vars.terminated = false)
    (envelope : PlaintextEnvelope) :
    Calm start (client.handleEnvelope envelope) := by
  unfold Client.handleEnvelope
  split
  · exact (calm.act rfl).finishHandler
  · split
    · exact (calm.terminate _).finishHandler
    · exact calm.sendEncoded _ _
  · split
    · split
      · exact (calm.terminate _).finishHandler
      · have answered : Calm start { client with vars.pendingResumeId := none } := calm
        exact (answered.transitionToActive live _).finishHandler
    · exact (calm.terminate _).finishHandler
  · exact (calm.runFiles _).finishHandler

/-- An opened message counts only where the session has not ended meanwhile. -/
theorem messageDecrypted
    (calm : Calm start client)
    (frame : RelayFrame)
    (mode : CounterMode)
    (state : ReceiveState)
    (mirror : Option MirrorId) :
    Calm start (client.messageDecrypted frame mode state mirror) := by
  have persisted :=
    decryptIncoming_store (mirror.map setCounterRecv) (Calm start)
      (by
        intro persist member store counter holds
        obtain ⟨held, -, rfl⟩ := Option.map_eq_some_iff.mp member
        exact holds.flushMirror held _)
      state frame.nonce frame.ciphertext mode calm
  unfold Client.messageDecrypted
  generalize
    decryptIncoming (mirror.map setCounterRecv) client state frame.nonce
      frame.ciphertext mode = decrypted at persisted
  obtain ⟨stored, recvState, result⟩ := decrypted
  simp only at persisted ⊢
  split
  · exact persisted.finishHandler
  · rename_i guard
    have live : stored.vars.terminated = false := by simpa using guard
    split
    · rename_i envelope counter
      have counted :
          Calm start
            (stored.updateActive fun context =>
              { context with counterRecv := recvState.counterRecv }) := persisted
      have accepted :
          Calm start
            ((stored.updateActive fun context =>
              { context with counterRecv := recvState.counterRecv }).act
                (.accept state.sessionKey counter .msg (.envelope envelope))) :=
        counted.act rfl
      exact accepted.handleEnvelope live _
    · exact (persisted.terminate _).finishHandler

/-- An opened chunk counts only where the session has not ended meanwhile. -/
theorem chunkDecrypted
    (calm : Calm start client)
    (frame : RelayFrame)
    (mode : CounterMode)
    (state : ReceiveState) :
    Calm start (client.chunkDecrypted frame mode state) := by
  unfold Client.chunkDecrypted
  split
  · rename_i recvState plaintext counter _
    have counted :
        Calm start
          (client.updateActive fun context =>
            { context with counterRecv := recvState.counterRecv }) := calm
    have synced :
        Calm start
          ((client.updateActive fun context =>
            { context with counterRecv := recvState.counterRecv }).act
              (.accept state.sessionKey counter .chunk plaintext)) :=
      counted.act rfl
    simp only
    split
    · split
      · exact (synced.terminate _).finishHandler
      · exact (synced.runFiles _).finishHandler
    · exact (synced.terminate _).finishHandler
  · exact (calm.terminate _).finishHandler

/-- What a payload of the mode and rekey protocols does in a live session. -/
theorem handleModePayload
    (calm : Calm start client)
    (live : client.vars.terminated = false)
    (kind : RelayKind)
    (payload : Plaintext) :
    Calm start (client.handleModePayload kind payload) := by
  unfold Client.handleModePayload
  split
  · exact calm.finishHandler
  · split
    · split
      · exact calm.handleModeUpgraded
      · exact (calm.terminate _).finishHandler
    · split
      · exact calm.handleRekeyInit live _ _
      · exact (calm.terminate _).finishHandler
    · split
      · exact calm.handleRekeyAck _ _
      · exact (calm.terminate _).finishHandler
    · split
      · exact calm.finishHandler
      · exact (calm.terminate _).finishHandler

/-- An opened mode frame counts only where the session has not ended meanwhile. -/
theorem modeFrameDecrypted
    (calm : Calm start client)
    (frame : RelayFrame)
    (mode : CounterMode)
    (state : ReceiveState) :
    Calm start (client.modeFrameDecrypted frame mode state) := by
  unfold Client.modeFrameDecrypted
  split
  · rename_i payload counter _
    have counted :
        Calm start
          (client.updateActive fun context => { context with counterRecv := counter }) :=
      calm
    have accepted :
        Calm start
          ((client.updateActive fun context => { context with counterRecv := counter }).act
            (.accept state.sessionKey counter frame.kind payload)) :=
      counted.act rfl
    simp only
    split
    · exact accepted.finishHandler
    · rename_i guard
      exact accepted.handleModePayload (by simpa using guard) _ _
  · exact (calm.terminate _).finishHandler

/-- Opened frames of any kind, by their kind. -/
theorem frameDecrypted
    (calm : Calm start client)
    (frame : RelayFrame)
    (mode : CounterMode)
    (state : ReceiveState)
    (mirror : Option MirrorId) :
    Calm start (client.frameDecrypted frame mode state mirror) := by
  unfold Client.frameDecrypted
  split
  · exact calm.messageDecrypted frame mode state mirror
  · exact calm.chunkDecrypted frame mode state
  · exact calm.modeFrameDecrypted frame mode state

/-- The inbound chain takes up its next frame, or drops it. -/
theorem runInbound
    (calm : Calm start client) : Calm start client.runInbound := by
  unfold Client.runInbound
  split
  · exact calm
  · rename_i task rest _
    have taken : Calm start { client with inbound.queue := rest } := calm
    simp only
    split
    · exact taken.finishHandler
    · split
      · exact taken.handleHandshakeFrame _
      · exact taken.handleRelay _

/-! ### The outbound serializer -/

/-- The caller of a send is answered in a segment of its own. -/
theorem settleSend
    (calm : Calm start client)
    (continuation : SendCont)
    (sent : Bool) : Calm start (client.settleSend continuation sent) := by
  unfold Client.settleSend
  simp only
  split <;> exact calm

/-- A task that starts after the end is refused by its checks. -/
theorem runRelaySendTask
    (calm : Calm start client)
    (task : SendTask) : Calm start (client.runRelaySendTask task) := by
  unfold Client.runRelaySendTask
  split
  · exact calm.settleSend _ _
  · rename_i guard
    have live : client.vars.terminated = false := by simpa using guard
    split
    · rename_i socket active _ _
      split
      · exact calm.settleSend _ _
      · have allocated := calm.allocateSendCounter active task.kind
        have stillLive := allocateSendCounter_terminated client active task.kind
        rw [live] at stillLive
        split
        · rename_i refused result
          rw [result] at allocated
          exact (allocated.terminate _).settleSend _ _
        · rename_i after counter result
          rw [result] at allocated stillLive
          split
          · exact (allocated.terminate _).settleSend _ _
          · unfold Calm at allocated ⊢
            simp only [Client.act]
            simp only at stillLive
            rw [stillLive] at allocated ⊢
            exact allocated.append_live (by simp [Act.isTermination]) _ rfl rfl
    · exact calm.settleSend _ _

theorem runOutbound
    (calm : Calm start client) : Calm start client.runOutbound := by
  unfold Client.runOutbound
  split
  · exact calm
  · rename_i task rest _
    have taken : Calm start { client with outbound.queue := rest } := calm
    exact taken.runRelaySendTask task

/-- An encrypted frame is handed to the connection that its task had found. -/
theorem sendSettled
    (calm : Calm start client)
    (flight : InFlight)
    (outcome : SendOutcome) : Calm start (client.sendSettled flight outcome) := by
  have settled : Calm start { client with outbound.sending := none } := calm
  unfold Client.sendSettled
  split
  · exact (settled.sendOn _ _).settleSend _ _
  · exact (settled.terminate _).settleSend _ _
  · exact (settled.terminate _).settleSend _ _

/-- Callers of a send check the end before they write. -/
theorem resumeSend
    (calm : Calm start client)
    (continuation : SendCont)
    (sent : Bool) : Calm start (client.resumeSend continuation sent) := by
  unfold Client.resumeSend
  split
  · exact calm
  · split
    · exact calm.act rfl
    · exact calm
  · split
    · exact calm.finishHandler
    · rename_i guard
      have live : client.vars.terminated = false := by simpa using guard
      exact ((calm.setState live .active).system _).finishHandler
  · split
    · exact calm.startRekeyIfInitiator .upgrade
    · exact calm
  · split
    · exact calm.commitRekey _
    · exact calm.finishHandler
  · exact calm.finishHandler
  · exact calm.runFiles _

theorem runJob
    (calm : Calm start client) : Calm start client.runJob := by
  unfold Client.runJob
  split
  · exact calm
  · rename_i job rest _
    have taken : Calm start { client with jobs := rest } := calm
    simp only
    split
    · exact taken.runOutbound
    · exact taken.runInbound
    · exact taken.resumeSend _ _

/-! ### Server frames, the socket and the page -/

theorem sendResumeProbe
    (calm : Calm start client) : Calm start client.sendResumeProbe := by
  have drawn :
      Calm start { client.draw.1 with vars.pendingResumeId := some client.draw.2 } :=
    calm
  exact drawn.sendEncoded (.resume client.draw.2) .discard

/-- What the server tells, in any state of the session. -/
theorem handleServerFrame
    (calm : Calm start client)
    (frame : ServerFrame) : Calm start (client.handleServerFrame frame) := by
  unfold Client.handleServerFrame
  split
  · exact calm
  · rename_i guard
    have live : client.vars.terminated = false := by simpa using guard
    split
    · rename_i role
      have named : Calm start { client with signals.myRole := some role } := calm
      simp only
      split
      · exact named.sendResumeProbe
      · split
        · exact (named.setState live .waitingForPeer).system _
        · exact named.sendLocalHandshake
    · unfold onPeerJoined
      have removed :
          Calm start (client.act (.removeSystemMessage .waitingForPeer)) :=
        calm.act rfl
      simp only
      split
      · exact removed.sendLocalHandshake
      · split
        · exact removed
        · exact removed
    · exact calm.enqueueInbound _
    · exact calm.enqueueInbound _
    · unfold onPeerDisconnected
      split
      · exact calm.terminate _
      · split
        · exact calm.terminate _
        · have left := calm.setState live .peerReconnecting
          exact system (by exact left) _
    · exact calm.terminate _
    · split
      · exact calm.reopenAsJoiner live
      · exact calm.terminate _

theorem socketOpened
    (calm : Calm start client) : Calm start client.socketOpened := by
  unfold Client.socketOpened
  split
  · exact calm
  · rename_i socket _
    simp only
    split
    · exact calm
    · have opened :
          Calm start
            { client with link.socket := some { socket with readyState := .opened } } :=
        calm
      exact opened.sendOn _ _

/-- A close is not acted upon after the end, nor while the page is hiding. -/
theorem socketClosed
    (calm : Calm start client)
    (kind : CloseKind) : Calm start (client.socketClosed kind) := by
  unfold Client.socketClosed
  split
  · exact calm
  · rename_i socket _
    have closed :
        Calm start
          { client with
            link.socket := some { socket with readyState := .closed } } := calm
    simp only
    split
    · exact closed
    · rename_i guard
      have live : client.vars.terminated = false := by simp_all
      have frame :=
        tellFilesClosed_frame
          { client with link.socket := some { socket with readyState := .closed } }
      have told := closed.frame frame
      have toldLive := congrArg Vars.terminated frame.vars
      split
      · exact told.scheduleReconnect (toldLive.trans live)
      · exact told.terminate _

/-- The outcome of a resume is dropped where the session has ended meanwhile. -/
theorem resumeDecided
    (calm : Calm start client)
    (outcome : PasskeyResume) : Calm start (client.resumeDecided outcome) := by
  unfold Client.resumeDecided
  split
  · exact calm
  · rename_i storedRecord _
    have settled :
        Calm start
          { client with vars.resumeAttempt := false, vars.returned := true } := calm
    simp only
    split
    · split
      · exact settled
      · rename_i guard
        exact settled.setState (by simpa using guard) .resumeLocked
    · exact settled.terminate _
    · exact settled.terminate _
    · split
      · exact settled.terminate _
      · split
        · exact settled.act rfl
        · rename_i guard
          have live : client.vars.terminated = false := by simpa using guard
          have shown : Calm start (client.act (.onSas storedRecord.sas)) :=
            calm.act rfl
          unfold Client.resumeWith
          exact openWith (by exact shown) (by exact live) .resume

/-- A retry is possible only in RESUME_LOCKED. -/
theorem retryResume
    (calm : Calm start client) : Calm start client.retryResume := by
  unfold Client.retryResume
  split
  · exact calm
  · rename_i guard
    exact calm.setState (by simp_all) .resuming

theorem send
    (calm : Calm start client)
    (body t : Text) : Calm start (client.send body t) := by
  unfold Client.send
  split
  · exact calm.sendEncoded _ _
  · exact calm.terminate _

/-- A page that becomes visible without an open connection ends its session. -/
theorem becameVisible
    (calm : Calm start client) : Calm start client.becameVisible := by
  unfold Client.becameVisible
  split
  · exact calm
  · split
    · exact calm
    · split
      · exact calm
      · split
        · exact calm
        · exact calm.terminate _

theorem markHiding
    (calm : Calm start client) : Calm start client.markHiding := by
  have marked : Calm start { client with page.pageHiding := true } := calm
  exact marked.frame (runPageHideListeners_frame _)

/-- A page that hides cancels its transfers; its record stays. -/
theorem pageHide
    (calm : Calm start client)
    (persisted : Bool) : Calm start (client.pageHide persisted) := by
  unfold Client.pageHide
  simp only
  split
  · exact calm.markHiding
  · exact calm.markHiding.closeConnection

/-- A page from the cache that was persisted is told terminated. -/
theorem pageShow
    (calm : Calm start client)
    (persisted : Bool) : Calm start (client.pageShow persisted) := by
  have shown : Calm start { client with page.pageHiding := false } := calm
  unfold Client.pageShow
  simp only
  split
  · unfold bfcacheGuard
    split
    · exact shown
    · exact (shown.act rfl).setTerminated
  · exact shown

theorem sendFile
    (calm : Calm start client)
    (segment : Files → Files)
    (created : Bool) :
    Calm start (if created then client.runFiles segment else client) := by
  split
  · exact calm.runFiles _
  · exact calm

/-- Every event keeps the invariant; a claim is decided before it holds and a
reload begins another life of the page. -/
theorem handle
    (calm : Calm start client)
    {event : Event}
    (notClaim : ∀ granted, event ≠ .claimDecided granted)
    (notReload : event ≠ .reload)
    (fires : event = .fatalTimer → start.fires = true) : Calm start (client.handle event) := by
  cases event with
  | job => exact calm.runJob
  | claimDecided granted => exact absurd rfl (notClaim granted)
  | resumeDecided outcome => exact calm.resumeDecided outcome
  | send body t => exact calm.send body t
  | sendFile file tid => exact calm.sendFile _ _
  | cancelTransfer => exact calm.frame (cancelTransfer_frame client)
  | acceptFileOffer => exact calm.sendFile _ _
  | declineFileOffer => exact calm.sendFile _ _
  | upgradeToPrf => exact calm.upgradeToPrf
  | retryResume => exact calm.retryResume
  | terminate reason => exact calm.terminate reason
  | socketOpened => exact calm.socketOpened
  | socketFrame frame => exact calm.handleServerFrame frame
  | socketClosing => exact calm
  | socketClosed kind => exact calm.socketClosed kind
  | socketBuffered amount => exact calm
  | protocolError kind =>
      simp only [Client.handle, onProtocolError]
      split
      · exact calm
      · exact calm.terminate _
  | handshakeWrapped ok => exact calm.handshakeWrapped ok
  | handshakeDerived ok =>
      simp only [Client.handle]
      split
      · exact calm.handshakeDerived _ _ ok
      · exact calm
  | decrypted =>
      simp only [Client.handle]
      split
      · exact calm.frameDecrypted _ _ _ _
      · exact calm
  | upgradeRegistered index outcome => exact calm.upgradeRegistered index outcome
  | upgradeWrapped index ok =>
      simp only [Client.handle]
      split
      · exact calm.upgradeWrapped index _ _ _ ok
      · exact calm
  | upgradeKeygen index ok =>
      simp only [Client.handle]
      split
      · have taken :
            Calm start
              { client with vars.upgrades := client.vars.upgrades.eraseIdx index } := calm
        exact taken.rekeyKeygenDone .upgrade _ ok
      · exact calm
  | rekeyKeygen ok =>
      simp only [Client.handle]
      split
      · exact calm.rekeyKeygenDone .handler _ ok
      · exact calm
  | rekeyInitDerived outcome =>
      simp only [Client.handle]
      split
      · exact calm.rekeyInitDerived _ _ outcome
      · exact calm
  | rekeyAckDerived ok =>
      simp only [Client.handle]
      split
      · exact calm.rekeyAckDerived _ _ ok
      · exact calm
  | commitWrapped ok =>
      simp only [Client.handle]
      split
      · exact calm.commitWrapped _ _ _ ok
      · exact calm
  | sendSettled outcome =>
      simp only [Client.handle]
      split
      · exact calm.sendSettled _ outcome
      · exact calm
  | reconnectTimer => exact calm.reconnectTimerFired
  | fatalTimer => exact calm.fatalTimerFired (fires rfl)
  | file event => exact calm.runFiles _
  | visible => exact calm.becameVisible
  | beforeUnload => exact calm.markHiding
  | pageHide persisted => exact calm.pageHide persisted
  | pageShow persisted => exact calm.pageShow persisted
  | elapse ms => exact calm
  | reload => exact absurd rfl notReload

end Calm

end Client

end Unseen
