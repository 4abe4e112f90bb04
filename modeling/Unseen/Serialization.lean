import Mathlib.Data.List.Perm.Subperm
import Unseen.Offline

namespace Unseen

/-!
# Frames are handled one at a time

The inbound chain runs one frame handler after the other: a handler that awaits
a send is resumed by exactly one continuation, and the next frame is started by
exactly one microtask, after the handler returned.

Everything that happens beside the chain, from a key press to a timer, leaves
the chain alone (`AsideFrame`).  Inside the chain a handler's segment runs in
the state `Handling` and ends with one of the ways to hand over.
-/

/-- The continuation belongs to a frame handler that awaits its send. -/
def SendCont.waits : SendCont → Bool
  | .resumeAck => true
  | .rekeyAck _ => true
  | .handlerDone => true
  | _ => false

/-- The continuation a microtask resumes. -/
def Job.cont? : Job → Option SendCont
  | .settle continuation _ => some continuation
  | _ => none

/-- The microtask starts the next queued frame. -/
def Job.startsFrame : Job → Bool
  | .inboundNext => true
  | _ => false

namespace Client

/-- The pending continuations of frame handlers. -/
def waiters (client : Client) : List SendCont :=
  (client.jobs.filterMap Job.cont?).filter SendCont.waits ++
    ((client.outbound.queue.map SendTask.continuation).filter SendCont.waits ++
      (client.outbound.sending.map fun flight =>
        flight.task.continuation).toList.filter SendCont.waits)

/-- The number of microtasks that will start a queued frame. -/
def starts (client : Client) : Nat :=
  client.jobs.countP Job.startsFrame

/-- What the active context knows of the peer's direction. -/
def received (client : Client) : Option (Nat × CryptoKey) :=
  client.vars.internal.context?.map fun active =>
    (active.counterRecv, active.sessionKey)

/-- The ending buffer runs only in a session that has ended. -/
def Armed (client : Client) : Prop :=
  client.vars.fatalTimer ≠ none → client.vars.terminated = true

/-- The running handler is the same, and the session context keeps its receive
counter and key unless the session ended. -/
structure ChainFrame (before after : Client) : Prop where
  handler : after.inbound.handler = before.inbound.handler
  busy : after.inbound.busy = before.inbound.busy
  starts : after.starts = before.starts
  terminated : before.vars.terminated = true → after.vars.terminated = true
  received : after.vars.terminated = true ∨ after.received = before.received
  connected : Connected before → Connected after
  armed : Armed before → Armed after

theorem ChainFrame.trans
    {first second third : Client}
    (early : ChainFrame first second)
    (late : ChainFrame second third) : ChainFrame first third where
  handler := late.handler.trans early.handler
  busy := late.busy.trans early.busy
  starts := late.starts.trans early.starts
  terminated := fun ended => late.terminated (early.terminated ended)
  received := by
    rcases late.received with ended | same
    · exact Or.inl ended
    · rcases early.received with ended | kept
      · exact Or.inl (late.terminated ended)
      · exact Or.inr (same.trans kept)
  connected := fun online => late.connected (early.connected online)
  armed := fun held => late.armed (early.armed held)

/-- Nothing of the inbound chain differs between two clients. -/
structure AsideFrame (before after : Client) : Prop extends ChainFrame before after where
  waiters : after.waiters.Subperm before.waiters

namespace AsideFrame

theorem refl (client : Client) : AsideFrame client client where
  handler := rfl
  busy := rfl
  waiters := List.Subperm.refl _
  starts := rfl
  terminated := id
  received := Or.inr rfl
  connected := id
  armed := id

theorem trans
    {first second third : Client}
    (early : AsideFrame first second)
    (late : AsideFrame second third) : AsideFrame first third :=
  { early.toChainFrame.trans late.toChainFrame with
    waiters := late.waiters.trans early.waiters }

variable (client : Client)

theorem act (action : Act) : AsideFrame client (client.act action) :=
  { refl client with }

theorem system (event : SystemEventKind) : AsideFrame client (client.system event) :=
  { refl client with }

theorem draw : AsideFrame client client.draw.1 :=
  { refl client with }

theorem setState
    (state : SessionState)
    (unlocked : state ≠ .resumeLocked) : AsideFrame client (client.setState state) :=
  { refl client with
    connected := fun online => ⟨online.1, online.2.1, unlocked⟩ }

/-- Changing the context without its receive counter and key. -/
theorem updateActive
    (change : ActiveContext → ActiveContext)
    (keeps :
      ∀ active, (change active).counterRecv = active.counterRecv ∧
        (change active).sessionKey = active.sessionKey) :
    AsideFrame client (client.updateActive change) := by
  have same : (client.updateActive change).received = client.received := by
    simp only [Client.received, Client.updateActive, InternalState.context?_mapContext,
      Option.map_map]
    congr 1
    funext active
    simp [keeps active]
  exact
    { refl client with
      received := Or.inr same }

end AsideFrame

/-! ### Waiters and starts under appending -/

theorem waiters_schedule
    (client : Client)
    (job : Job)
    (plain : ∀ continuation, job.cont? = some continuation → continuation.waits = false) :
    (client.schedule job).waiters = client.waiters := by
  unfold waiters schedule
  simp only [List.filterMap_append, List.filter_append, List.append_assoc]
  cases cont : job.cont? with
  | none => simp [cont]
  | some continuation => simp [cont, plain continuation cont]

theorem starts_schedule
    (client : Client)
    (job : Job)
    (plain : job.startsFrame = false) : (client.schedule job).starts = client.starts := by
  simp [starts, schedule, plain]

/-- File segments are beside the inbound chain. -/
theorem FileFrame.aside
    {before after : Client}
    (frame : FileFrame before after) : AsideFrame before after := by
  obtain ⟨tasks, queueEq, tasksFile⟩ := frame.queue
  obtain ⟨scheduled, jobsEq, jobsFile⟩ := frame.jobs
  have noTaskWaits :
      (tasks.map SendTask.continuation).filter SendCont.waits = [] := by
    simp only [List.filter_eq_nil_iff, List.mem_map]
    rintro continuation ⟨task, member, rfl⟩
    obtain ⟨fileContinuation, continuationEq⟩ := tasksFile task member
    simp [continuationEq, SendCont.waits]
  have noJobWaits :
      (scheduled.filterMap Job.cont?).filter SendCont.waits = [] := by
    simp only [List.filter_eq_nil_iff, List.mem_filterMap]
    rintro continuation ⟨job, member, contEq⟩
    have isFile := jobsFile job member
    cases job with
    | settle settled sent =>
        cases settled <;> simp_all [Job.IsFile, Job.cont?, SendCont.waits]
        obtain rfl := contEq
        simp
    | _ => simp [Job.cont?] at contEq
  have noStart : scheduled.countP Job.startsFrame = 0 := by
    rw [List.countP_eq_zero]
    intro job member
    have isFile := jobsFile job member
    cases job <;> simp_all [Job.IsFile, Job.startsFrame]
  refine
    { handler := by rw [frame.inbound]
      busy := by rw [frame.inbound]
      waiters := ?_
      starts := ?_
      terminated := by rw [frame.vars]; exact id
      received := Or.inr (by rw [Client.received, frame.vars]; rfl)
      connected := by
        unfold Connected
        rw [frame.vars, frame.signals]
        exact id
      armed := by
        unfold Armed
        rw [frame.vars]
        exact id }
  · simp only [Client.starts, jobsEq, List.countP_append, noStart, Nat.add_zero]
  · have same : after.waiters = before.waiters := by
      simp only [Client.waiters, queueEq, jobsEq, frame.sending, List.filterMap_append,
        List.map_append, List.filter_append, noTaskWaits, noJobWaits, List.append_nil]
    rw [same]

namespace AsideFrame

variable (client : Client)

theorem runFiles (segment : Files → Files) : AsideFrame client (client.runFiles segment) :=
  (runFiles_frame client segment).aside

/-- Queueing a send no handler waits for. -/
theorem enqueueRelaySend
    {task : SendTask}
    (plain : task.continuation.waits = false) :
    AsideFrame client (client.enqueueRelaySend task) := by
  have queued :
      ({ client with outbound.queue := client.outbound.queue ++ [task] } : Client).waiters =
        client.waiters := by
    simp [Client.waiters, plain]
  unfold Client.enqueueRelaySend
  simp only
  split
  · exact { refl client with waiters := by rw [queued] }
  · have scheduled :
        ({ client with
            outbound.queue := client.outbound.queue ++ [task],
            outbound.busy := true }.schedule .outboundNext).waiters = client.waiters := by
      rw [waiters_schedule _ _ (by simp [Job.cont?])]
      exact queued
    have started :
        ({ client with
            outbound.queue := client.outbound.queue ++ [task],
            outbound.busy := true }.schedule .outboundNext).starts = client.starts :=
      starts_schedule _ _ rfl
    exact
      { refl client with
        waiters := by rw [scheduled]
        starts := started }

theorem sendEncoded
    (envelope : PlaintextEnvelope)
    {continuation : SendCont}
    (plain : continuation.waits = false) :
    AsideFrame client (client.sendEncoded envelope continuation) := by
  unfold Client.sendEncoded
  split
  · exact refl client
  · exact enqueueRelaySend client plain

theorem sendModeFrame
    (kind : RelayKind)
    (payload : Plaintext)
    {continuation : SendCont}
    (plain : continuation.waits = false) :
    AsideFrame client (client.sendModeFrame kind payload continuation) :=
  enqueueRelaySend client plain

theorem closeConnection : AsideFrame client client.closeConnection := by
  unfold Client.closeConnection
  split
  · exact refl client
  · exact { refl client with }

theorem signalCredential : AsideFrame client client.signalCredential := by
  unfold Client.signalCredential
  split
  · exact act client _
  · exact refl client

theorem clearStoredSession : AsideFrame client client.clearStoredSession :=
  { refl client with }

/-- Finalizing leaves the inbound chain alone once the session has ended. -/
theorem finalizeTermination
    (ended : client.vars.terminated = true) :
    AsideFrame client client.finalizeTermination := by
  have before :
      AsideFrame client
        (client.setState .terminated).shutdownFiles.signalCredential.clearStoredSession :=
    (((setState client _ (by simp)).trans (shutdownFiles_frame _).aside).trans
      (signalCredential _)).trans (clearStoredSession _)
  refine before.trans { refl _ with received := ?_, connected := ?_ }
  · exact Or.inl (before.terminated ended)
  · intro online
    exact ⟨by simp [Client.finalizeTermination], online.2⟩

theorem clearReconnectTimer : AsideFrame client client.clearReconnectTimer :=
  { refl client with }

theorem beginTermination (reason : TerminateReason) :
    AsideFrame client (client.beginTermination reason) := by
  have ended : AsideFrame client { client with vars.terminated := true } :=
    { refl client with
      terminated := fun _ => rfl
      received := Or.inl rfl
      armed := fun _ _ => rfl }
  exact ((ended.trans (system _ _)).trans (clearReconnectTimer _)).trans (closeConnection _)

theorem beginTermination_terminated (reason : TerminateReason) :
    (client.beginTermination reason).vars.terminated = true := by
  unfold Client.beginTermination
  exact (closeConnection _).terminated rfl

theorem terminate (reason : TerminateReason) :
    AsideFrame client (client.terminate reason) := by
  unfold Client.terminate
  split
  · exact refl client
  · have begun := beginTermination client reason
    have ended := beginTermination_terminated client reason
    simp only
    split
    · exact (begun.trans (setState _ .fatalEnding (by simp))).trans
        { refl ((client.beginTermination reason).setState .fatalEnding) with
          armed := fun _ _ => ended }
    · exact (begun.trans (finalizeTermination _ ended)).trans (act _ _)

end AsideFrame

/-- `terminate` leaves the session ended. -/
@[simp]
theorem terminate_terminated (client : Client) (reason : TerminateReason) :
    (client.terminate reason).vars.terminated = true := by
  cases ended : client.vars.terminated with
  | true => exact (AsideFrame.terminate client reason).terminated ended
  | false =>
      have begun := AsideFrame.beginTermination_terminated client reason
      unfold Client.terminate
      simp only [ended, Bool.false_eq_true, ↓reduceIte]
      split
      · exact begun
      · exact (AsideFrame.finalizeTermination _ begun).terminated begun

namespace AsideFrame

variable (client : Client)

/-! ### The stored record and the counters -/

theorem recordWritten (record : StoredSession) :
    AsideFrame client (client.recordWritten record) :=
  { refl client with }

theorem flushMirror
    (mirror : MirrorId)
    (change : StoredSession → StoredSession) :
    AsideFrame client (client.flushMirror mirror change).1 := by
  have changed : AsideFrame client (client.mirrorChanged mirror change) :=
    { refl client with }
  rcases flushMirror_cases client mirror change with refused | ⟨record, -, -, written⟩
  · rw [refused]
    exact changed
  · rw [written]
    exact changed.trans (recordWritten _ _)

theorem allocateSendCounter
    (active : ActiveContext)
    (kind : RelayKind) :
    AsideFrame client (client.allocateSendCounter active kind).1 := by
  have stored :=
    allocateCounter_store (active.mirror.map setCounterSend) (AsideFrame client)
      (by
        intro persist member store counter holds
        obtain ⟨mirror, -, rfl⟩ := Option.map_eq_some_iff.mp member
        exact holds.trans (flushMirror store mirror _))
      active.sendState kind (refl client)
  exact stored.trans (updateActive _ _ fun _ => ⟨rfl, rfl⟩)

theorem recordInstalled (record : StoredSession) :
    AsideFrame client (client.recordInstalled record) := by
  have mirrored :
      AsideFrame client ((client.recordWritten record).mirrorStoredSession record).1 :=
    { refl client with }
  exact mirrored.trans (updateActive _ _ fun _ => ⟨rfl, rfl⟩)

theorem markRekeyInProgress (active : ActiveContext) :
    AsideFrame client (client.markRekeyInProgress active).1 := by
  unfold Client.markRekeyInProgress
  split
  · exact refl client
  · exact flushMirror client _ _

/-! ### Connections -/

theorem openWith (intent : HelloIntent) : AsideFrame client (client.openWith intent) :=
  { refl client with }

theorem reopenAsJoiner : AsideFrame client client.reopenAsJoiner :=
  ((closeConnection client).trans (setState _ _ (by simp))).trans (openWith _ _)

theorem sendOn (gen : Nat) (frame : ClientFrame) :
    AsideFrame client (client.sendOn gen frame) := by
  unfold Client.sendOn
  split
  · exact refl client
  · split
    · exact act client _
    · exact refl client

theorem scheduleReconnect : AsideFrame client client.scheduleReconnect := by
  unfold Client.scheduleReconnect
  simp only
  have episode :
      AsideFrame client
        (if client.signals.sessionState = .reconnecting ∨
            client.signals.sessionState = .resuming then
          client
        else
          { client with
            link.reconnectStartMs := client.page.now
            link.reconnectAttempt := 0 }) := by
    split
    · exact refl client
    · exact { refl client with }
  split
  · exact episode.trans (terminate _ _)
  · exact (episode.trans (setState _ .reconnecting (by simp))).trans
      { refl (Client.setState _ .reconnecting) with }

theorem reconnectTimerFired : AsideFrame client client.reconnectTimerFired := by
  unfold Client.reconnectTimerFired
  simp only
  split
  · exact { refl client with }
  · split
    · rename_i active internalEq
      refine { refl client with received := Or.inr ?_ }
      simp [Client.received, Client.openWith, InternalState.context?,
        show client.vars.internal = .active active from internalEq]
    · exact { refl client with }

/-- The ending buffer only runs in a session that has ended. -/
theorem fatalTimerFired
    (ended : client.vars.terminated = true) : AsideFrame client client.fatalTimerFired := by
  have disarmed : AsideFrame client { client with vars.fatalTimer := none } :=
    { refl client with armed := fun _ _ => ended }
  exact disarmed.trans (finalizeTermination _ ended)

/-! ### Handshake -/

theorem ensureEphemeral : AsideFrame client client.ensureEphemeral.1 := by
  unfold Client.ensureEphemeral
  split
  · exact refl client
  · exact { refl client with }

theorem sendLocalHandshake : AsideFrame client client.sendLocalHandshake := by
  unfold Client.sendLocalHandshake
  split
  · exact refl client
  · split
    · exact terminate client _
    · split
      · exact (ensureEphemeral client).trans { refl client.ensureEphemeral.1 with }
      · exact terminate client _

theorem handshakeWrapped (ok : Bool) : AsideFrame client (client.handshakeWrapped ok) := by
  unfold Client.handshakeWrapped
  split
  · rename_i gen pair _ _
    have settled : AsideFrame client { client with handshake.handshakeSend := none } :=
      { refl client with }
    simp only
    split
    · exact settled
    · have sent := settled.trans (sendOn _ gen (.handshake (.wrapped pair)))
      split
      · exact sent.trans (setState _ _ (by simp))
      · exact sent
  · exact refl client

/-! ### Upgrade and rekey of an upgrade call -/

/-- The step of both parties into a rekey. -/
theorem beginRekey (active : ActiveContext) :
    AsideFrame client
      ((({ client with vars.rekeyInFlight := true }.setState
        .rekeying).cancelFilesForRekey).markRekeyInProgress active).1 := by
  have inFlight : AsideFrame client { client with vars.rekeyInFlight := true } :=
    { refl client with }
  exact ((inFlight.trans (setState _ _ (by simp))).trans
    (cancelFilesForRekey_frame _).aside).trans (markRekeyInProgress _ active)

theorem startRekeyIfInitiator :
    AsideFrame client (client.startRekeyIfInitiator .upgrade) := by
  unfold Client.startRekeyIfInitiator
  split
  · exact refl client
  · split
    · exact refl client
    · rename_i active _
      have begun := beginRekey client active
      simp only
      split
      · rename_i refused result
        rw [result] at begun
        exact begun.trans (terminate _ _)
      · rename_i marked result
        rw [result] at begun
        split
        · exact begun
        · exact begun.trans { refl marked with }

theorem rekeyKeygenDone (pair : Draw) (ok : Bool) :
    AsideFrame client (client.rekeyKeygenDone .upgrade pair ok) := by
  unfold Client.rekeyKeygenDone
  split
  · exact terminate client _
  · have pending : AsideFrame client { client with vars.pendingRekeyPair := some pair } :=
      { refl client with }
    exact pending.trans (sendModeFrame _ _ _ rfl)

theorem upgradeToPrf : AsideFrame client client.upgradeToPrf := by
  unfold Client.upgradeToPrf
  split
  · exact refl client
  · exact (setState client .upgradingLocal (by simp)).trans
      { refl (client.setState .upgradingLocal) with }

theorem upgradeRegistered (index : Nat) (outcome : RegisterOutcome) :
    AsideFrame client (client.upgradeRegistered index outcome) := by
  have settled :
      AsideFrame client
        { client with vars.upgrades := client.vars.upgrades.eraseIdx index } :=
    { refl client with }
  unfold Client.upgradeRegistered
  simp only
  split
  · split
    · exact settled.trans (act _ _)
    · exact settled
  · split
    · exact (settled.trans (setState _ _ (by simp))).trans (system _ _)
    · exact (settled.trans (setState _ _ (by simp))).trans (system _ _)
    · split
      · exact settled
      · exact { refl client with }

theorem upgradeWrapped
    (index : Nat)
    (sessionKey : CryptoKey)
    (wrapKey : WrapKey)
    (credentialId : CredentialId)
    (ok : Bool) :
    AsideFrame client
      (client.upgradeWrapped index sessionKey wrapKey credentialId ok) := by
  have settled :
      AsideFrame client
        { client with vars.upgrades := client.vars.upgrades.eraseIdx index } :=
    { refl client with }
  unfold Client.upgradeWrapped
  rcases persistWrappedSessionKey_cases
      { client with vars.upgrades := client.vars.upgrades.eraseIdx index }
      sessionKey wrapKey .soft credentialId ok with
    ⟨reason, refused⟩ | ⟨active, wrapped, -, -, -, installed⟩
  · rw [refused]
    exact settled.trans (terminate _ _)
  · rw [installed]
    have stored :=
      settled.trans (recordInstalled _ (wrappedRecord active wrapped .soft credentialId))
    generalize
      { client with vars.upgrades := client.vars.upgrades.eraseIdx index }.recordInstalled
        (wrappedRecord active wrapped .soft credentialId) = persisted at stored
    have prf : AsideFrame persisted { persisted with signals.sessionMode := .prf } :=
      { refl persisted with }
    exact (((stored.trans prf).trans (setState _ _ (by simp))).trans (system _ _)).trans
      (sendModeFrame _ _ _ rfl)

/-! ### The outbound serializer -/

/-- A settled send hands its continuation to a microtask. -/
theorem waiters_settle (continuation : SendCont) (sent : Bool) :
    (client.schedule (.settle continuation sent)).waiters.Perm
      ([continuation].filter SendCont.waits ++ client.waiters) := by
  have moved :
      (client.schedule (.settle continuation sent)).waiters =
        (client.jobs.filterMap Job.cont?).filter SendCont.waits ++
          ([continuation].filter SendCont.waits ++
            ((client.outbound.queue.map SendTask.continuation).filter SendCont.waits ++
              (client.outbound.sending.map fun flight =>
                flight.task.continuation).toList.filter SendCont.waits)) := by
    simp only [Client.waiters, Client.schedule, List.filterMap_append, List.filter_append,
      List.append_assoc]
    rfl
  rw [moved]
  exact List.perm_append_comm_assoc _ _ _

/-- Settling a send is beside the chain if the continuation was pending before. -/
theorem settleSend
    {before : Client}
    (chain : ChainFrame before client)
    (continuation : SendCont)
    (sent : Bool)
    (waiters :
      ([continuation].filter SendCont.waits ++ client.waiters).Subperm before.waiters) :
    AsideFrame before (client.settleSend continuation sent) := by
  have settled :
      ∀ next : Client, AsideFrame client next → next.waiters = client.waiters →
        AsideFrame before (next.schedule (.settle continuation sent)) := by
    intro next aside same
    have started := starts_schedule next (.settle continuation sent) rfl
    have perm := (waiters_settle next continuation sent).subperm
    rw [same] at perm
    exact
      { handler := aside.handler.trans chain.handler
        busy := aside.busy.trans chain.busy
        waiters := perm.trans waiters
        starts := (started.trans aside.starts).trans chain.starts
        terminated := fun ended => aside.terminated (chain.terminated ended)
        received := (chain.trans aside.toChainFrame).received
        connected := fun online => aside.connected (chain.connected online)
        armed := fun held => aside.armed (chain.armed held) }
  unfold Client.settleSend
  simp only
  split
  · exact settled _ { refl client with } rfl
  · have scheduled := waiters_schedule client .outboundNext (by simp [Job.cont?])
    exact settled _
      { refl client with
        waiters := by rw [scheduled]
        starts := starts_schedule client _ rfl }
      scheduled

/-- The serializer takes a task out of its queue. -/
theorem taken
    {task : SendTask}
    {rest : List SendTask}
    (queueEq : client.outbound.queue = task :: rest) :
    ([task.continuation].filter SendCont.waits ++
      ({ client with outbound.queue := rest } : Client).waiters).Perm client.waiters := by
  have shift :
      (client.outbound.queue.map SendTask.continuation).filter SendCont.waits =
        [task.continuation].filter SendCont.waits ++
          (rest.map SendTask.continuation).filter SendCont.waits := by
    rw [← List.filter_append, queueEq]
    rfl
  simp only [Client.waiters, shift, List.append_assoc]
  exact List.perm_append_comm_assoc _ _ _

/-- The sends in flight before a new one starts can only be lost. -/
theorem sending_waiters
    {after : Client}
    (flight : InFlight)
    (same :
      after.waiters =
        (client.jobs.filterMap Job.cont?).filter SendCont.waits ++
          ((client.outbound.queue.map SendTask.continuation).filter SendCont.waits ++
            [flight.task.continuation].filter SendCont.waits)) :
    after.waiters.Subperm
      ([flight.task.continuation].filter SendCont.waits ++ client.waiters) := by
  rw [same, ← List.append_assoc]
  refine List.perm_append_comm.subperm.trans ((List.subperm_append_left _).mpr ?_)
  exact ((List.sublist_append_left _ _).append_left _).subperm

theorem runRelaySendTask
    {before : Client}
    (chain : ChainFrame before client)
    {task : SendTask}
    (waiters :
      ([task.continuation].filter SendCont.waits ++ client.waiters).Subperm
        before.waiters) :
    AsideFrame before (client.runRelaySendTask task) := by
  have refused :
      ∀ next : Client, AsideFrame client next →
        AsideFrame before (next.settleSend task.continuation false) := by
    intro next aside
    have kept :
        ([task.continuation].filter SendCont.waits ++ next.waiters).Subperm
          before.waiters :=
      ((List.subperm_append_left _).mpr aside.waiters).trans waiters
    exact settleSend next (chain.trans aside.toChainFrame) _ _ kept
  unfold Client.runRelaySendTask
  split
  · exact refused client (refl client)
  · split
    · rename_i socket active _ _
      split
      · exact refused client (refl client)
      · have allocated := allocateSendCounter client active task.kind
        split
        · rename_i after result
          rw [result] at allocated
          exact refused _ (allocated.trans (terminate _ _))
        · rename_i after counter result
          rw [result] at allocated
          split
          · exact refused _ (allocated.trans (terminate _ _))
          · rename_i frame _
            have encrypted :=
              allocated.trans (act after (.encrypt active.sessionKey.material counter frame))
            refine
              { chain.trans encrypted.toChainFrame with
                waiters := ?_ }
            have kept :
                ([task.continuation].filter SendCont.waits ++ after.waiters).Subperm
                  before.waiters :=
              ((List.subperm_append_left _).mpr allocated.waiters).trans waiters
            refine List.Subperm.trans ?_ kept
            exact sending_waiters after { task, frame, gen := socket.gen } rfl
    · exact refused client (refl client)

theorem runOutbound : AsideFrame client client.runOutbound := by
  unfold Client.runOutbound
  split
  · exact { refl client with }
  · rename_i task rest queueEq
    have chain : ChainFrame client { client with outbound.queue := rest } :=
      { (refl client).toChainFrame with }
    exact runRelaySendTask _ chain (taken client queueEq).subperm

/-- An encrypted send is written to its socket or ends the session. -/
theorem sendSettled
    {flight : InFlight}
    (sending : client.outbound.sending = some flight)
    (outcome : SendOutcome) : AsideFrame client (client.sendSettled flight outcome) := by
  have taken :
      ([flight.task.continuation].filter SendCont.waits ++
        ({ client with outbound.sending := none } : Client).waiters).Subperm
          client.waiters := by
    simp only [Client.waiters, sending, Option.map_some, Option.toList_some, Option.map_none,
      Option.toList_none, List.filter_nil, List.append_nil, ← List.append_assoc]
    rw [List.append_assoc]
    exact List.perm_append_comm.subperm
  have settles :
      ∀ next sent, AsideFrame { client with outbound.sending := none } next →
        AsideFrame client (next.settleSend flight.task.continuation sent) := by
    intro next sent aside
    have chain : ChainFrame client { client with outbound.sending := none } :=
      { (refl client).toChainFrame with }
    exact settleSend next (chain.trans aside.toChainFrame) _ _
      (((List.subperm_append_left _).mpr aside.waiters).trans taken)
  unfold Client.sendSettled
  split
  · exact settles _ _ (sendOn _ _ _)
  · exact settles _ _ (terminate _ _)
  · exact settles _ _ (terminate _ _)

/-! ### Server frames, the socket and the page -/

theorem sendResumeProbe : AsideFrame client client.sendResumeProbe := by
  have drawn :
      AsideFrame client
        { client.draw.1 with vars.pendingResumeId := some client.draw.2 } :=
    { refl client with }
  exact drawn.trans
    (sendEncoded { client.draw.1 with vars.pendingResumeId := some client.draw.2 }
      (.resume client.draw.2) rfl)

theorem onPeerJoined : AsideFrame client client.onPeerJoined := by
  have removed := act client (.removeSystemMessage .waitingForPeer)
  unfold Client.onPeerJoined
  simp only
  split
  · exact removed.trans (sendLocalHandshake _)
  · split
    · exact removed.trans (updateActive _ _ fun _ => ⟨rfl, rfl⟩)
    · exact removed

theorem onPeerDisconnected : AsideFrame client client.onPeerDisconnected := by
  unfold Client.onPeerDisconnected
  split
  · exact terminate client _
  · split
    · exact terminate client _
    · have widened :=
        updateActive (client.setState .peerReconnecting)
          (fun context => { context with nextRecvMode := .firstGapAllowed })
          fun _ => ⟨rfl, rfl⟩
      exact ((setState client _ (by simp)).trans widened).trans (system _ _)

/-- A server frame that carries nothing for the inbound chain. -/
theorem handleServerFrame
    {frame : ServerFrame}
    (notHandshake : ∀ ciphertext, frame ≠ .handshake ciphertext)
    (notRelay : ∀ relayFrame, frame ≠ .relay relayFrame) :
    AsideFrame client (client.handleServerFrame frame) := by
  unfold Client.handleServerFrame
  split
  · exact refl client
  · cases frame with
    | ack role =>
        have named : AsideFrame client { client with signals.myRole := some role } :=
          { refl client with }
        simp only
        split
        · exact named.trans (sendResumeProbe _)
        · split
          · exact (named.trans (setState _ _ (by simp))).trans (system _ _)
          · exact named.trans (sendLocalHandshake _)
    | peerJoined => exact onPeerJoined client
    | handshake ciphertext => exact absurd rfl (notHandshake ciphertext)
    | relay relayFrame => exact absurd rfl (notRelay relayFrame)
    | peerDisconnected => exact onPeerDisconnected client
    | peerLeft => exact terminate client _
    | error code =>
        simp only
        split
        · exact reopenAsJoiner client
        · exact terminate client _

theorem socketOpened : AsideFrame client client.socketOpened := by
  unfold Client.socketOpened
  split
  · exact refl client
  · rename_i socket _
    have opened :
        AsideFrame client
          { client with link.socket := some { socket with readyState := .opened } } :=
      { refl client with }
    simp only
    split
    · exact opened
    · exact opened.trans (sendOn _ _ _)

theorem socketClosed (kind : CloseKind) : AsideFrame client (client.socketClosed kind) := by
  unfold Client.socketClosed
  split
  · exact refl client
  · rename_i socket _
    have closed :
        AsideFrame client
          { client with link.socket := some { socket with readyState := .closed } } :=
      { refl client with }
    simp only
    split
    · exact closed
    · have told := closed.trans (tellFilesClosed_frame _).aside
      split
      · exact told.trans (scheduleReconnect _)
      · exact told.trans (terminate _ _)

theorem onProtocolError (kind : ProtocolError) :
    AsideFrame client (client.onProtocolError kind) := by
  unfold Client.onProtocolError
  split
  · exact refl client
  · exact terminate client _

theorem retryResume : AsideFrame client client.retryResume := by
  unfold Client.retryResume
  split
  · exact refl client
  · rename_i guard
    have locked : client.signals.sessionState = .resumeLocked := by simp_all
    exact
      { refl client with
        connected := fun online => absurd locked online.2.2 }

theorem send (body t : Text) : AsideFrame client (client.send body t) := by
  unfold Client.send
  split
  · exact sendEncoded client _ rfl
  · exact terminate client _

theorem becameVisible : AsideFrame client client.becameVisible := by
  unfold Client.becameVisible
  split
  · exact refl client
  · split
    · exact refl client
    · split
      · exact refl client
      · split
        · exact refl client
        · exact terminate client _

theorem markHiding : AsideFrame client client.markHiding := by
  have marked : AsideFrame client { client with page.pageHiding := true } :=
    { refl client with }
  exact marked.trans (runPageHideListeners_frame _).aside

theorem pageHide (persisted : Bool) : AsideFrame client (client.pageHide persisted) := by
  unfold Client.pageHide
  simp only
  split
  · exact markHiding client
  · exact (markHiding client).trans (closeConnection _)

theorem pageShow (persisted : Bool) : AsideFrame client (client.pageShow persisted) := by
  have shown : AsideFrame client { client with page.pageHiding := false } :=
    { refl client with }
  unfold Client.pageShow
  simp only
  split
  · unfold bfcacheGuard
    split
    · exact shown
    · exact (shown.trans (act _ _)).trans (setState _ _ (by simp))
  · exact shown

/-! ### Microtasks -/

/-- The caller of a settled send that is no frame handler. -/
theorem resumeSend
    {continuation : SendCont}
    (plain : continuation.waits = false)
    (sent : Bool) : AsideFrame client (client.resumeSend continuation sent) := by
  cases continuation with
  | discard => exact refl client
  | text body =>
      simp only [Client.resumeSend]
      split
      · exact act client _
      · exact refl client
  | modeUpgraded =>
      simp only [Client.resumeSend]
      split
      · exact startRekeyIfInitiator client
      · exact refl client
  | file continuation =>
      exact runFiles client fun files => files.resume client.fileEnv continuation sent
  | resumeAck => cases plain
  | rekeyAck newSessionKey => cases plain
  | handlerDone => cases plain

/-- A microtask that neither starts a frame nor resumes a frame handler. -/
theorem runJob
    {job : Job}
    {rest : List Job}
    (jobs : client.jobs = job :: rest)
    (noStart : job.startsFrame = false)
    (noWait : ∀ continuation, job.cont? = some continuation → continuation.waits = false) :
    AsideFrame client client.runJob := by
  have sameWaiters : ({ client with jobs := rest } : Client).waiters = client.waiters := by
    simp only [Client.waiters, jobs, List.filterMap_cons]
    cases cont : job.cont? with
    | none => rfl
    | some continuation => simp [noWait continuation cont]
  have taken : AsideFrame client { client with jobs := rest } :=
    { refl client with
      waiters := by rw [sameWaiters]
      starts := by simp [Client.starts, jobs, noStart] }
  unfold Client.runJob
  simp only [jobs]
  cases job with
  | outboundNext => exact taken.trans (runOutbound _)
  | inboundNext => cases noStart
  | settle continuation sent => exact taken.trans (resumeSend _ (noWait _ rfl) sent)

end AsideFrame

end Client

end Unseen
