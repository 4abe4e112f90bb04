import Unseen.Serialization

namespace Unseen

/-!
# The inbound chain

A handler's segment runs with the chain to itself (`Handling`) and ends by
handing over: it returns, or awaits something that exactly one continuation will
resume (`Settled`).  Both predicates carry what is known about the receive
counter and the key of the session, so that the progress of one frame can be
followed through all segments of its handler.
-/

/-- A session key that a rekey derived. -/
def Derived (newSessionKey : SessionKey) : Prop :=
  ∃ pair peerPub, deriveRekeyedSessionKey pair peerPub = some newSessionKey

/-- What is known of the receive counter and the session key. -/
abbrev Progress := Option (Nat × CryptoKey) → Prop

/-- A rekey commit keeps what is known: it installs a derived key at counter 0. -/
def Progress.Commits (progress : Progress) : Prop :=
  ∀ newSessionKey, Derived newSessionKey →
    progress (some (0, { material := newSessionKey, extractable := false }))

namespace Client

/-- The segment of a frame handler is running. -/
structure Handling (progress : Progress) (client : Client) : Prop where
  waiters : client.waiters = []
  starts : client.starts = 0
  busy : client.inbound.busy = true
  connected : Connected client
  armed : Armed client
  received : client.vars.terminated = true ∨ progress client.received

/-- Between two segments at most one frame handler is running or about to start. -/
structure Serial (client : Client) : Prop where
  waits : client.waiters.length ≤ 1
  starts : client.starts ≤ 1
  waiting : client.waiters ≠ [] → client.inbound.handler = some .sending
  starting : client.starts ≠ 0 → client.inbound.handler = none
  idle :
    client.inbound.busy = false →
      client.inbound.handler = none ∧ client.starts = 0
  derived :
    ∀ newSessionKey, .rekeyAck newSessionKey ∈ client.waiters → Derived newSessionKey

/-- The handler will commit a rekey when it is resumed. -/
def MayCommit (client : Client) : Prop :=
  (∃ newSessionKey, .rekeyAck newSessionKey ∈ client.waiters) ∨
    client.inbound.handler.map Handler.stage = some .rekeyInit ∨
    client.inbound.handler.map Handler.stage = some .rekeyAck

/-- The running handler has not yet accepted its frame. -/
def Undecided (client : Client) : Prop :=
  client.inbound.handler.map Handler.stage = some .decrypting ∨
    client.inbound.handler.map Handler.stage = some .handshake

/-- A handler handed over, or a segment beside the chain ended. -/
structure Settled (progress : Progress) (client : Client) : Prop extends Serial client where
  connected : Connected client
  armed : Armed client
  received : client.vars.terminated = true ∨ progress client.received
  commits : MayCommit client → progress.Commits
  undecided : Undecided client → ∀ view, progress view
  handshaking :
    client.inbound.handler.map Handler.stage = some .handshake →
      client.vars.terminated = true ∨ client.received = none

/-! ## Asides -/

theorem Serial.aside
    {before after : Client}
    (serial : Serial before)
    (aside : AsideFrame before after) : Serial after where
  waits := Nat.le_trans aside.waiters.length_le serial.waits
  starts := by rw [aside.starts]; exact serial.starts
  waiting := by
    intro nonempty
    rw [aside.handler]
    apply serial.waiting
    intro empty
    have none := aside.waiters.length_le
    rw [empty] at none
    exact nonempty (List.eq_nil_of_length_eq_zero (Nat.le_zero.mp none))
  starting := by rw [aside.handler, aside.starts]; exact serial.starting
  idle := by rw [aside.busy, aside.handler, aside.starts]; exact serial.idle
  derived := fun newSessionKey member =>
    serial.derived newSessionKey (aside.waiters.subset member)

theorem Settled.aside
    {progress : Progress}
    {before after : Client}
    (settled : Settled progress before)
    (aside : AsideFrame before after) : Settled progress after :=
  { settled.toSerial.aside aside with
    connected := aside.connected settled.connected
    armed := aside.armed settled.armed
    received := by
      rcases aside.received with ended | same
      · exact Or.inl ended
      · rcases settled.received with ended | known
        · exact Or.inl (aside.terminated ended)
        · exact Or.inr (by rw [same]; exact known)
    commits := by
      intro may
      apply settled.commits
      rcases may with ⟨newSessionKey, member⟩ | stage
      · exact Or.inl ⟨newSessionKey, aside.waiters.subset member⟩
      · rw [aside.handler] at stage
        exact Or.inr stage
    undecided := by
      unfold Undecided
      rw [aside.handler]
      exact settled.undecided
    handshaking := by
      rw [aside.handler]
      intro stage
      rcases aside.received with ended | same
      · exact Or.inl ended
      · rcases settled.handshaking stage with ended | none
        · exact Or.inl (aside.terminated ended)
        · exact Or.inr (same.trans none) }

/-- A received frame waits for the frames before it. -/
theorem Settled.enqueueInbound
    {progress : Progress}
    {client : Client}
    (settled : Settled progress client)
    (task : InboundTask) : Settled progress (client.enqueueInbound task) := by
  unfold Client.enqueueInbound
  simp only
  split
  · exact { settled with }
  · rename_i notBusy
    obtain ⟨noHandler, noStart⟩ := settled.idle (by simpa using notBusy)
    have sameWaiters :
        ({ client with
            inbound.queue := client.inbound.queue ++ [task],
            inbound.busy := true }.schedule .inboundNext).waiters = client.waiters :=
      waiters_schedule _ _ (by simp [Job.cont?])
    have one :
        ({ client with
            inbound.queue := client.inbound.queue ++ [task],
            inbound.busy := true }.schedule .inboundNext).starts = 1 := by
      simp only [Client.starts] at noStart
      simp [Client.starts, schedule, noStart, Job.startsFrame]
    exact
      { settled with
        waits := by rw [sameWaiters]; exact settled.waits
        starts := Nat.le_of_eq one
        waiting := by rw [sameWaiters]; exact settled.waiting
        starting := fun _ => noHandler
        idle := by simp [schedule]
        derived := by rw [sameWaiters]; exact settled.derived
        commits := by
          unfold MayCommit
          rw [sameWaiters]
          exact settled.commits }

namespace Handling

variable {progress : Progress} {client : Client}

theorem aside
    {after : Client}
    (handling : Handling progress client)
    (aside : AsideFrame client after) : Handling progress after where
  waiters := by
    have empty := aside.waiters
    rw [handling.waiters] at empty
    exact List.subperm_nil.mp empty
  starts := aside.starts.trans handling.starts
  busy := aside.busy.trans handling.busy
  connected := aside.connected handling.connected
  armed := aside.armed handling.armed
  received := by
    rcases aside.received with ended | same
    · exact Or.inl ended
    · rcases handling.received with ended | known
      · exact Or.inl (aside.terminated ended)
      · exact Or.inr (by rw [same]; exact known)

theorem terminate
    (handling : Handling progress client)
    (reason : TerminateReason) : Handling progress (client.terminate reason) :=
  handling.aside (AsideFrame.terminate client reason)

/-- An ended session makes every progress. -/
theorem ended
    {other : Progress}
    (handling : Handling other client)
    (reason : TerminateReason) : Handling progress (client.terminate reason) :=
  { handling.terminate reason with
    received := Or.inl (terminate_terminated client reason) }

/-! ## Ways to hand over -/

/-- Handing over without a pending continuation. -/
theorem handOver
    {after : Client}
    (handling : Handling progress client)
    (sameVars : after.vars = client.vars)
    (sameSignals : after.signals = client.signals)
    (noWaiters : after.waiters = [])
    (starts : after.starts ≤ 1)
    (starting : after.starts ≠ 0 → after.inbound.handler = none)
    (idle :
      after.inbound.busy = false → after.inbound.handler = none ∧ after.starts = 0)
    (commits :
      after.inbound.handler.map Handler.stage = some .rekeyInit ∨
          after.inbound.handler.map Handler.stage = some .rekeyAck →
        progress.Commits)
    (undecided : Undecided after → ∀ view, progress view)
    (handshaking :
      after.inbound.handler.map Handler.stage = some .handshake →
        client.vars.terminated = true ∨ client.received = none) :
    Settled progress after where
  waits := by simp [noWaiters]
  starts := starts
  waiting := fun nonempty => absurd noWaiters nonempty
  starting := starting
  idle := idle
  derived := by simp [noWaiters]
  connected := by
    unfold Connected
    rw [sameVars, sameSignals]
    exact handling.connected
  armed := by
    unfold Armed
    rw [sameVars]
    exact handling.armed
  received := by
    rw [Client.received, sameVars]
    exact handling.received
  commits := by
    rintro (⟨newSessionKey, member⟩ | stage)
    · simp [noWaiters] at member
    · exact commits stage
  undecided := undecided
  handshaking := by
    rw [Client.received, sameVars]
    exact handshaking

/-- The handler returns. -/
theorem finishHandler
    (handling : Handling progress client) : Settled progress client.finishHandler := by
  have zero := handling.starts
  unfold Client.finishHandler
  simp only
  split
  · exact handling.handOver rfl rfl handling.waiters 
      (Nat.le_trans (Nat.le_of_eq zero) (Nat.zero_le 1))
      (fun nonzero => absurd zero nonzero) (fun _ => ⟨rfl, zero⟩) (by simp)
      (by simp [Undecided]) (by simp)
  · have noWaiters :
        ({ client with inbound.handler := none }.schedule .inboundNext).waiters = [] := by
      rw [waiters_schedule _ _ (by simp [Job.cont?])]
      exact handling.waiters
    have one :
        ({ client with inbound.handler := none }.schedule .inboundNext).starts = 1 := by
      simp only [Client.starts] at zero
      simp [Client.starts, schedule, zero, Job.startsFrame]
    refine handling.handOver rfl rfl noWaiters (Nat.le_of_eq one) (fun _ => rfl) ?_
      (by simp [schedule]) (by simp [schedule, Undecided]) (by simp [schedule])
    intro idle
    have busy : ({ client with inbound.handler := none }.schedule .inboundNext).inbound.busy =
        true := handling.busy
    rw [busy] at idle
    cases idle

/-- The handler awaits something other than a send. -/
theorem await
    (handling : Handling progress client)
    {handler : Handler}
    (commits :
      handler.stage = .rekeyInit ∨ handler.stage = .rekeyAck → progress.Commits)
    (undecided :
      handler.stage = .decrypting ∨ handler.stage = .handshake →
        ∀ view, progress view)
    (handshaking :
      handler.stage = .handshake →
        client.vars.terminated = true ∨ client.received = none) :
    Settled progress (client.await handler) := by
  have zero : (client.await handler).starts = 0 := handling.starts
  refine handling.handOver rfl rfl handling.waiters (by simp [zero])
    (fun nonzero => absurd zero nonzero) ?_ ?_ ?_ ?_
  · intro idle
    have busy : (client.await handler).inbound.busy = true := handling.busy
    rw [busy] at idle
    cases idle
  · intro stage
    exact commits (stage.imp Option.some.inj Option.some.inj)
  · intro stage
    exact undecided (stage.imp Option.some.inj Option.some.inj)
  · intro stage
    exact handshaking (Option.some.inj stage)

/-- The handler awaits what leads to no commit of its own. -/
theorem awaitLater
    (handling : Handling progress client)
    {handler : Handler}
    (later :
      handler.stage = .rekeyKeygen ∨ handler.stage = .commitWrap ∨
        handler.stage = .sending) :
    Settled progress (client.await handler) :=
  handling.await (by rcases later with stage | stage | stage <;> simp [stage])
    (by rcases later with stage | stage | stage <;> simp [stage])
    (by rcases later with stage | stage | stage <;> simp [stage])

/-- The handler awaits a send that was queued, or that could not be encoded. -/
theorem awaitSend
    {task : SendTask}
    (handling : Handling progress client)
    (derived :
      ∀ newSessionKey, task.continuation = .rekeyAck newSessionKey →
        Derived newSessionKey ∧ progress.Commits) :
    Settled progress ((client.enqueueRelaySend task).await .sending) := by
  have empty := handling.waiters
  have zero := handling.starts
  have queuedWaiters :
      ((client.enqueueRelaySend task).await .sending).waiters =
        [task.continuation].filter SendCont.waits := by
    simp only [Client.waiters, List.append_eq_nil_iff] at empty
    obtain ⟨noJob, noQueue, noSending⟩ := empty
    unfold Client.enqueueRelaySend
    simp only
    split <;>
      simp only [Client.await, Client.waiters, schedule, noJob, noQueue, noSending,
        List.filter_append, List.filterMap_append, List.map_append, List.nil_append,
        List.append_nil] <;>
      rfl
  have queuedStarts :
      ((client.enqueueRelaySend task).await .sending).starts = 0 := by
    simp only [Client.starts] at zero
    unfold Client.enqueueRelaySend
    simp only
    split <;> simp [Client.await, Client.starts, schedule, zero, Job.startsFrame]
  have same :
      ((client.enqueueRelaySend task).await .sending).inbound =
          { client.inbound with handler := some .sending } ∧
        ((client.enqueueRelaySend task).await .sending).vars = client.vars ∧
        ((client.enqueueRelaySend task).await .sending).signals = client.signals := by
    unfold Client.enqueueRelaySend
    simp only
    split <;> exact ⟨rfl, rfl, rfl⟩
  obtain ⟨inbound, vars, signals⟩ := same
  have found :
      ∀ newSessionKey,
        .rekeyAck newSessionKey ∈
            ((client.enqueueRelaySend task).await .sending).waiters →
          Derived newSessionKey ∧ progress.Commits := by
    intro newSessionKey member
    rw [queuedWaiters] at member
    have isTask := List.mem_singleton.mp (List.mem_filter.mp member).1
    exact derived newSessionKey isTask.symm
  exact
    { waits := by
        rw [queuedWaiters]
        exact List.length_filter_le SendCont.waits [task.continuation]
      starts := by rw [queuedStarts]; exact Nat.zero_le 1
      waiting := fun _ => by rw [inbound]
      starting := fun nonzero => absurd queuedStarts nonzero
      idle := by
        intro idle
        rw [inbound] at idle
        rw [show client.inbound.busy = true from handling.busy] at idle
        cases idle
      derived := fun newSessionKey member => (found newSessionKey member).1
      connected := by
        unfold Connected
        rw [vars, signals]
        exact handling.connected
      armed := by
        unfold Armed
        rw [vars]
        exact handling.armed
      received := by
        rw [Client.received, vars]
        exact handling.received
      commits := by
        rintro (⟨newSessionKey, member⟩ | stage | stage)
        · exact (found newSessionKey member).2
        · rw [inbound] at stage
          cases stage
        · rw [inbound] at stage
          cases stage
      undecided := by simp [Undecided, inbound, Handler.stage]
      handshaking := by simp [inbound, Handler.stage] }

/-- A mode frame whose settlement the handler awaits. -/
theorem sendModeFrame
    (handling : Handling progress client)
    (kind : RelayKind)
    (payload : Plaintext)
    {continuation : SendCont}
    (derived :
      ∀ newSessionKey, continuation = .rekeyAck newSessionKey →
        Derived newSessionKey ∧ progress.Commits) :
    Settled progress ((client.sendModeFrame kind payload continuation).await .sending) :=
  handling.awaitSend derived

/-- An envelope whose settlement the handler awaits. -/
theorem sendEncoded
    (handling : Handling progress client)
    (envelope : PlaintextEnvelope)
    {continuation : SendCont}
    (derived :
      ∀ newSessionKey, continuation = .rekeyAck newSessionKey →
        Derived newSessionKey ∧ progress.Commits) :
    Settled progress ((client.sendEncoded envelope continuation).await .sending) := by
  unfold Client.sendEncoded
  split
  · exact handling.awaitLater (by simp [Handler.stage])
  · exact handling.awaitSend derived

/-! ## The handshake frame -/

theorem handleHandshakeFrame
    (handling : Handling progress client)
    (anything : ∀ view, progress view)
    (ciphertext : HandshakeCiphertext) :
    Settled progress (client.handleHandshakeFrame ciphertext) := by
  unfold Client.handleHandshakeFrame
  split
  · rename_i notKeyed
    have aside :=
      (AsideFrame.sendLocalHandshake client).trans
        (AsideFrame.ensureEphemeral client.sendLocalHandshake)
    refine (handling.aside aside).await (by simp [Handler.stage]) (fun _ => anything) ?_
    intro _
    refine aside.received.imp_right fun same => same.trans ?_
    rw [Client.received, notKeyed]
    rfl
  · exact (handling.terminate _).finishHandler

/-- Any progress is known of a session that just began. -/
theorem handshakeDerived
    (handling : Handling progress client)
    (anything : ∀ view, progress view)
    (ciphertext : HandshakeCiphertext)
    (pair : Draw)
    (ok : Bool) : Settled progress (client.handshakeDerived ciphertext pair ok) := by
  unfold Client.handshakeDerived
  split
  · exact (handling.terminate _).finishHandler
  · split
    · exact (handling.terminate _).finishHandler
    · split
      · exact handling.finishHandler
      · rename_i sessionKey _ _
        have shown := handling.aside (AsideFrame.act client (.onSas (some sessionKey)))
        simp only
        split
        · exact (shown.terminate _).finishHandler
        · rename_i role _
          have entered :
              ∀ active,
                Handling progress
                  ((client.act (.onSas (some sessionKey))).transitionToActive active) := by
            intro active
            exact
              { waiters := shown.waiters
                starts := shown.starts
                busy := shown.busy
                connected := ⟨shown.connected.1, shown.connected.2.1, by
                  simp [Client.transitionToActive, setState]⟩
                armed := shown.armed
                received := Or.inr (anything _) }
          exact ((entered _).aside (AsideFrame.system _ _)).finishHandler

/-! ## Rekey -/

theorem startRekeyIfInitiator
    (handling : Handling progress client) :
    Settled progress (client.startRekeyIfInitiator .handler) := by
  unfold Client.startRekeyIfInitiator
  split
  · exact handling.finishHandler
  · split
    · exact handling.finishHandler
    · rename_i active _
      have begun := handling.aside (AsideFrame.beginRekey client active)
      simp only
      split
      · rename_i refused result
        rw [result] at begun
        exact (begun.terminate _).finishHandler
      · rename_i marked result
        rw [result] at begun
        split
        · exact begun.finishHandler
        · have drawn := begun.aside (AsideFrame.draw marked)
          exact drawn.awaitLater (by simp [Handler.stage])

theorem rekeyKeygenDone
    (handling : Handling progress client)
    (pair : Draw)
    (ok : Bool) : Settled progress (client.rekeyKeygenDone .handler pair ok) := by
  unfold Client.rekeyKeygenDone
  split
  · exact (handling.terminate _).finishHandler
  · have pending : Handling progress { client with vars.pendingRekeyPair := some pair } :=
      { handling with }
    exact pending.sendModeFrame _ _ (by simp)

theorem completeRekey
    (handling : Handling progress client) : Settled progress client.completeRekey := by
  have landed : Handling progress { client with vars.rekeyInFlight := false } :=
    { handling with }
  have active := landed.aside (AsideFrame.setState _ .active (by simp))
  have told := active.aside (AsideFrame.system _ .sessionHardened)
  exact told.sendModeFrame _ _ (by simp)

theorem commitRekey
    (handling : Handling progress client)
    (commits : progress.Commits)
    {newSessionKey : SessionKey}
    (derived : Derived newSessionKey) :
    Settled progress (client.commitRekey newSessionKey) := by
  unfold Client.commitRekey
  split
  · exact handling.finishHandler
  · have keyed :
        Handling progress
          (client.updateActive fun context =>
            { context with
              sessionKey := { material := newSessionKey, extractable := false }
              counterCommitted := 0
              counterReserved := 0
              counterRecv := 0 }) :=
      { waiters := handling.waiters
        starts := handling.starts
        busy := handling.busy
        connected := handling.connected
        armed := handling.armed
        received := by
          rcases handling.received with ended | known
          · exact Or.inl ended
          · right
            simp only [Client.received, updateActive, InternalState.context?_mapContext]
              at known ⊢
            cases context : client.vars.internal.context? with
            | none =>
                rw [context] at known
                exact known
            | some active => exact commits newSessionKey derived }
    simp only
    split
    · exact keyed.awaitLater (by simp [Handler.stage])
    · exact keyed.completeRekey

theorem commitWrapped
    (handling : Handling progress client)
    (newSessionKey : SessionKey)
    (wrapKey : WrapKey)
    (credentialId : CredentialId)
    (ok : Bool) :
    Settled progress (client.commitWrapped newSessionKey wrapKey credentialId ok) := by
  unfold Client.commitWrapped
  rcases persistWrappedSessionKey_cases client
      { material := newSessionKey, extractable := true } wrapKey .hardened credentialId
      ok with ⟨reason, refused⟩ | ⟨active, wrapped, -, -, -, installed⟩
  · rw [refused]
    exact (handling.terminate reason).finishHandler
  · rw [installed]
    exact (handling.aside (AsideFrame.recordInstalled client _)).completeRekey

theorem handleRekeyInit
    (handling : Handling progress client)
    (commits : progress.Commits)
    (active : ActiveContext)
    (peerPub : PublicKey) :
    Settled progress (client.handleRekeyInit active peerPub) := by
  unfold Client.handleRekeyInit
  split
  · exact (handling.terminate _).finishHandler
  · have begun := handling.aside (AsideFrame.beginRekey client active)
    simp only
    split
    · rename_i refused result
      rw [result] at begun
      exact (begun.terminate _).finishHandler
    · rename_i marked result
      rw [result] at begun
      have drawn := begun.aside (AsideFrame.draw marked)
      exact drawn.await (fun _ => commits) (by simp [Handler.stage]) (by simp [Handler.stage])

theorem rekeyInitDerived
    (handling : Handling progress client)
    (commits : progress.Commits)
    (pair : Draw)
    (peerPub : PublicKey)
    (outcome : RekeyOutcome) :
    Settled progress (client.rekeyInitDerived pair peerPub outcome) := by
  unfold Client.rekeyInitDerived
  split
  · exact (handling.terminate _).finishHandler
  · exact (handling.terminate _).finishHandler
  · split
    · exact (handling.terminate _).finishHandler
    · rename_i newSessionKey derivedEq
      refine handling.sendModeFrame _ _ ?_
      intro other same
      obtain rfl := SendCont.rekeyAck.inj same
      exact ⟨⟨pair, peerPub, derivedEq⟩, commits⟩

theorem handleRekeyAck
    (handling : Handling progress client)
    (commits : progress.Commits)
    (active : ActiveContext)
    (peerPub : PublicKey) :
    Settled progress (client.handleRekeyAck active peerPub) := by
  unfold Client.handleRekeyAck
  split
  · exact (handling.terminate _).finishHandler
  · split
    · exact (handling.terminate _).finishHandler
    · exact handling.await (fun _ => commits) (by simp [Handler.stage]) (by simp [Handler.stage])

theorem rekeyAckDerived
    (handling : Handling progress client)
    (commits : progress.Commits)
    (pair : Draw)
    (peerPub : PublicKey)
    (ok : Bool) : Settled progress (client.rekeyAckDerived pair peerPub ok) := by
  unfold Client.rekeyAckDerived
  split
  · exact (handling.terminate _).finishHandler
  · rename_i newSessionKey derivation
    have derivedEq : deriveRekeyedSessionKey pair peerPub = some newSessionKey := by
      split at derivation
      · exact derivation
      · cases derivation
    have cleared : Handling progress { client with vars.pendingRekeyPair := none } :=
      { handling with }
    exact cleared.commitRekey commits ⟨pair, peerPub, derivedEq⟩

theorem handleModeUpgraded
    (handling : Handling progress client) : Settled progress client.handleModeUpgraded := by
  have upgraded : Handling progress { client with signals.peerMode := .prf } :=
    { handling with }
  unfold Client.handleModeUpgraded
  simp only
  split
  · exact upgraded.startRekeyIfInitiator
  · exact (upgraded.aside (AsideFrame.system _ _)).finishHandler

/-! ## Relay frames -/

/-- What is known once a frame with the given counter was accepted. -/
def Advances (before after : Progress) (counter : Nat) : Prop :=
  ∀ view, before view → after (view.map fun known => (counter, known.2))

theorem advance
    {before after : Progress}
    (handling : Handling before client)
    {counter : Nat}
    (advances : Advances before after counter) :
    Handling after
      (client.updateActive fun context => { context with counterRecv := counter }) where
  waiters := handling.waiters
  starts := handling.starts
  busy := handling.busy
  connected := handling.connected
  armed := handling.armed
  received := by
    rcases handling.received with ended | known
    · exact Or.inl ended
    · right
      have moved := advances _ known
      simpa only [Client.received, updateActive, InternalState.context?_mapContext,
        Option.map_map, Function.comp_def] using moved

theorem handleEnvelope
    (handling : Handling progress client)
    (envelope : PlaintextEnvelope) :
    Settled progress (client.handleEnvelope envelope) := by
  unfold Client.handleEnvelope
  split
  · exact (handling.aside (AsideFrame.act _ _)).finishHandler
  · split
    · exact (handling.terminate _).finishHandler
    · exact handling.sendEncoded _ (by simp)
  · split
    · rename_i active internalEq
      split
      · exact (handling.terminate _).finishHandler
      · have entered :
            Handling progress
              ({ client with vars.pendingResumeId := none }.transitionToActive active) :=
          { waiters := handling.waiters
            starts := handling.starts
            busy := handling.busy
            connected :=
              ⟨handling.connected.1, handling.connected.2.1, by
                simp [Client.transitionToActive, setState]⟩
            armed := handling.armed
            received := by
              have known := handling.received
              rw [Client.received, internalEq] at known
              exact known }
        exact entered.finishHandler
    · exact (handling.terminate _).finishHandler
  · exact (handling.aside (AsideFrame.runFiles _ _)).finishHandler

theorem messageDecrypted
    {before : Progress}
    (handling : Handling before client)
    (frame : RelayFrame)
    (mode : CounterMode)
    (state : ReceiveState)
    (mirror : Option MirrorId)
    (advances :
      ∀ payload counter,
        validateAndDecryptFrame state .msg frame.nonce frame.ciphertext mode =
            .ok payload counter →
          Advances before progress counter) :
    Settled progress (client.messageDecrypted frame mode state mirror) := by
  have persisted :=
    decryptIncoming_store (mirror.map setCounterRecv) (AsideFrame client)
      (by
        intro persist member store counter holds
        obtain ⟨held, -, rfl⟩ := Option.map_eq_some_iff.mp member
        exact holds.trans (AsideFrame.flushMirror store held _))
      state frame.nonce frame.ciphertext mode (AsideFrame.refl client)
  have accepted :=
    decryptIncoming_ok (mirror.map setCounterRecv) client state frame.nonce
      frame.ciphertext mode
  unfold Client.messageDecrypted
  generalize
    decryptIncoming (mirror.map setCounterRecv) client state frame.nonce
      frame.ciphertext mode = decrypted at persisted accepted
  obtain ⟨stored, recvState, result⟩ := decrypted
  simp only at persisted accepted ⊢
  have settled := handling.aside persisted
  split
  · rename_i ended
    have done : Handling progress stored :=
      { settled with received := Or.inl ended }
    exact done.finishHandler
  · split
    · rename_i envelope counter
      obtain ⟨payload, valid, -, recvEq⟩ := accepted envelope counter rfl
      rw [recvEq]
      exact ((settled.advance (advances payload counter valid)).aside
        (AsideFrame.act _ _)).handleEnvelope envelope
    · exact (settled.ended _).finishHandler

theorem chunkDecrypted
    {before : Progress}
    (handling : Handling before client)
    (frame : RelayFrame)
    (mode : CounterMode)
    (state : ReceiveState)
    (advances :
      ∀ payload counter,
        validateAndDecryptFrame state .chunk frame.nonce frame.ciphertext mode =
            .ok payload counter →
          Advances before progress counter) :
    Settled progress (client.chunkDecrypted frame mode state) := by
  unfold Client.chunkDecrypted
  split
  · rename_i recvState plaintext counter decrypted
    obtain ⟨valid, recvEq⟩ := decryptChunkFrame_ok decrypted
    have synced :=
      (handling.advance (advances plaintext counter valid)).aside
        (AsideFrame.act _ (.accept state.sessionKey counter .chunk plaintext))
    rw [recvEq]
    simp only
    split
    · split
      · exact (synced.terminate _).finishHandler
      · exact (synced.aside (AsideFrame.runFiles _ _)).finishHandler
    · exact (synced.terminate _).finishHandler
  · exact (handling.ended _).finishHandler

theorem handleModePayload
    (handling : Handling progress client)
    {kind : RelayKind}
    (commits : kind = .rekeyInit ∨ kind = .rekeyAck → progress.Commits)
    (payload : Plaintext) :
    Settled progress (client.handleModePayload kind payload) := by
  unfold Client.handleModePayload
  split
  · exact handling.finishHandler
  · split
    · split
      · exact handling.handleModeUpgraded
      · exact (handling.terminate _).finishHandler
    · split
      · exact handling.handleRekeyInit (commits (Or.inl rfl)) _ _
      · exact (handling.terminate _).finishHandler
    · split
      · exact handling.handleRekeyAck (commits (Or.inr rfl)) _ _
      · exact (handling.terminate _).finishHandler
    · split
      · exact handling.finishHandler
      · exact (handling.terminate _).finishHandler

theorem modeFrameDecrypted
    {before : Progress}
    (handling : Handling before client)
    (frame : RelayFrame)
    (mode : CounterMode)
    (state : ReceiveState)
    (commits :
      ∀ payload counter,
        validateAndDecryptFrame state frame.kind frame.nonce frame.ciphertext mode =
            .ok payload counter →
          frame.kind = .rekeyInit ∨ frame.kind = .rekeyAck → progress.Commits)
    (advances :
      ∀ payload counter,
        validateAndDecryptFrame state frame.kind frame.nonce frame.ciphertext mode =
            .ok payload counter →
          Advances before progress counter) :
    Settled progress (client.modeFrameDecrypted frame mode state) := by
  unfold Client.modeFrameDecrypted
  split
  · rename_i payload counter valid
    have accepted :=
      (handling.advance (advances payload counter valid)).aside
        (AsideFrame.act _ (.accept state.sessionKey counter frame.kind payload))
    simp only
    split
    · exact accepted.finishHandler
    · exact accepted.handleModePayload (commits payload counter valid) payload
  · exact (handling.ended _).finishHandler

/-- A decrypted frame of any kind. -/
theorem frameDecrypted
    {before : Progress}
    (handling : Handling before client)
    (frame : RelayFrame)
    (mode : CounterMode)
    (state : ReceiveState)
    (mirror : Option MirrorId)
    (commits :
      ∀ payload counter,
        validateAndDecryptFrame state frame.kind frame.nonce frame.ciphertext mode =
            .ok payload counter →
          frame.kind = .rekeyInit ∨ frame.kind = .rekeyAck → progress.Commits)
    (advances :
      ∀ payload counter,
        validateAndDecryptFrame state frame.kind frame.nonce frame.ciphertext mode =
            .ok payload counter →
          Advances before progress counter) :
    Settled progress (client.frameDecrypted frame mode state mirror) := by
  unfold Client.frameDecrypted
  split
  · rename_i kind
    rw [kind] at advances
    exact handling.messageDecrypted frame mode state mirror advances
  · rename_i kind
    rw [kind] at advances
    exact handling.chunkDecrypted frame mode state advances
  · exact handling.modeFrameDecrypted frame mode state commits advances

/-- A frame is taken up: it waits for its decryption, ends the session or is skipped. -/
theorem handleRelay
    (handling : Handling progress client)
    (anything : ∀ view, progress view)
    (frame : RelayFrame) : Settled progress (client.handleRelay frame) := by
  have taken :
      ∀ active, Settled progress (client.handleRelayWith active frame) := by
    intro active
    have strict :=
      handling.aside
        (AsideFrame.updateActive client
          (fun context => { context with nextRecvMode := .strict }) fun _ => ⟨rfl, rfl⟩)
    unfold Client.handleRelayWith
    simp only
    split
    · exact strict.finishHandler
    · exact strict.await (by simp [Handler.stage]) (fun _ => anything)
        (by simp [Handler.stage])
  unfold Client.handleRelay
  split
  · exact (handling.terminate _).finishHandler
  · exact taken _
  · exact taken _

/-- The continuation of a handler that awaited its send. -/
theorem resumeSend
    (handling : Handling progress client)
    {continuation : SendCont}
    (waits : continuation.waits = true)
    (derived :
      ∀ newSessionKey, continuation = .rekeyAck newSessionKey →
        Derived newSessionKey ∧ progress.Commits)
    (sent : Bool) : Settled progress (client.resumeSend continuation sent) := by
  cases continuation with
  | resumeAck =>
      simp only [Client.resumeSend]
      split
      · exact handling.finishHandler
      · exact ((handling.aside (AsideFrame.setState client .active (by simp))).aside
          (AsideFrame.system _ _)).finishHandler
  | rekeyAck newSessionKey =>
      obtain ⟨isDerived, commits⟩ := derived newSessionKey rfl
      simp only [Client.resumeSend]
      split
      · exact handling.commitRekey commits isDerived
      · exact handling.finishHandler
  | handlerDone => exact handling.finishHandler
  | discard => cases waits
  | text body => cases waits
  | modeUpgraded => cases waits
  | file continuation => cases waits

end Handling

/-! ## Whole steps -/

namespace Serial

variable {client : Client}

/-- A handler that awaits no send is the only one pending. -/
theorem pending
    (serial : Serial client)
    {handler : Handler}
    (running : client.inbound.handler = some handler)
    (notSending : handler.stage ≠ .sending) :
    client.waiters = [] ∧ client.starts = 0 ∧ client.inbound.busy = true := by
  refine ⟨?_, ?_, ?_⟩
  · by_contra nonempty
    have sending := serial.waiting nonempty
    rw [running] at sending
    exact notSending (by rw [Option.some.inj sending]; rfl)
  · by_contra nonzero
    have idle := serial.starting nonzero
    rw [running] at idle
    cases idle
  · by_contra notBusy
    have idle := (serial.idle (by simpa using notBusy)).1
    rw [running] at idle
    cases idle

end Serial

namespace Settled

variable {progress : Progress} {client : Client}

/-- The continuation of a running handler has the chain to itself. -/
theorem handling
    (settled : Settled progress client)
    {handler : Handler}
    (running : client.inbound.handler = some handler)
    (notSending : handler.stage ≠ .sending) : Handling progress client :=
  have pending := settled.toSerial.pending running notSending
  { waiters := pending.1
    starts := pending.2.1
    busy := pending.2.2
    connected := settled.connected
    armed := settled.armed
    received := settled.received }

/-- Taking the continuation of a handler that awaited its send. -/
theorem takeWaiter
    (settled : Settled progress client)
    {continuation : SendCont}
    {sent : Bool}
    {rest : List Job}
    (jobs : client.jobs = .settle continuation sent :: rest)
    (waits : continuation.waits = true) : Handling progress { client with jobs := rest } := by
  have split :
      client.waiters = continuation :: ({ client with jobs := rest } : Client).waiters := by
    simp only [waiters, jobs, List.filterMap_cons, Job.cont?, List.filter_cons, waits,
      ↓reduceIte, List.cons_append]
  have sending := settled.waiting (by simp [split])
  have noStart : client.starts = 0 := by
    by_contra nonzero
    have idle := settled.starting nonzero
    rw [sending] at idle
    cases idle
  have short := settled.waits
  rw [split] at short
  exact
    { waiters := by simpa using short
      starts := by simpa [starts, jobs, Job.startsFrame] using noStart
      busy := by
        by_contra notBusy
        have idle := (settled.idle (by simpa using notBusy)).1
        rw [sending] at idle
        cases idle
      connected := settled.connected
      armed := settled.armed
      received := settled.received }

/-- Taking the microtask that starts the next frame. -/
theorem takeStart
    (settled : Settled progress client)
    {rest : List Job}
    (jobs : client.jobs = .inboundNext :: rest) :
    Handling progress { client with jobs := rest } := by
  have split : client.starts = ({ client with jobs := rest } : Client).starts + 1 := by
    simp only [starts, jobs]
    exact List.countP_cons_of_pos rfl
  have idle := settled.starting (by simp [split])
  have noWaiters : client.waiters = [] := by
    by_contra nonempty
    have sending := settled.waiting nonempty
    rw [idle] at sending
    cases sending
  have short := settled.starts
  exact
    { waiters := by
        simpa [waiters, jobs, Job.cont?] using noWaiters
      starts := by omega
      busy := by
        by_contra notBusy
        have none := (settled.idle (by simpa using notBusy)).2
        omega
      connected := settled.connected
      armed := settled.armed
      received := settled.received }

/-- The next queued frame is taken up. -/
theorem runInbound
    (handling : Handling progress client)
    (idle : client.inbound.handler = none)
    (anything : ∀ view, progress view) : Settled progress client.runInbound := by
  unfold Client.runInbound
  split
  · exact handling.handOver rfl rfl handling.waiters
      (Nat.le_trans (Nat.le_of_eq handling.starts) (Nat.zero_le 1)) (fun _ => idle)
      (fun _ => ⟨idle, handling.starts⟩) (by simp [idle]) (fun _ => anything)
      (by simp [idle])
  · rename_i task rest _
    have taken : Handling progress { client with inbound.queue := rest } := { handling with }
    simp only
    split
    · exact taken.finishHandler
    · split
      · exact taken.handleHandshakeFrame anything _
      · exact taken.handleRelay anything _

/-- A microtask. -/
theorem runJob
    (settled : Settled progress client)
    (fresh : client.inbound.handler = none → ∀ view, progress view) :
    Settled progress client.runJob := by
  cases jobs : client.jobs with
  | nil => simpa [Client.runJob, jobs] using settled
  | cons job rest =>
      by_cases starting : job.startsFrame = true
      · cases job with
        | inboundNext =>
            have idle : client.inbound.handler = none := by
              apply settled.starting
              simp only [starts, jobs]
              rw [List.countP_cons_of_pos rfl]
              exact Nat.succ_ne_zero _
            simp only [Client.runJob, jobs]
            exact runInbound (settled.takeStart jobs) idle (fresh idle)
        | _ => cases starting
      · by_cases waiting :
            ∃ continuation, job.cont? = some continuation ∧ continuation.waits = true
        · obtain ⟨continuation, cont, waits⟩ := waiting
          cases job with
          | settle pending sent =>
              obtain rfl := Option.some.inj cont
              simp only [Client.runJob, jobs]
              refine (settled.takeWaiter jobs waits).resumeSend waits ?_ sent
              intro newSessionKey isAck
              have member : .rekeyAck newSessionKey ∈ client.waiters := by
                simp [waiters, jobs, Job.cont?, isAck, SendCont.waits]
              exact
                ⟨settled.derived newSessionKey member,
                  settled.commits (Or.inl ⟨newSessionKey, member⟩)⟩
          | _ => cases cont
        · have noWait :
              ∀ continuation, job.cont? = some continuation →
                continuation.waits = false := by
            intro continuation cont
            by_contra waits
            exact waiting ⟨continuation, cont, by simpa using waits⟩
          exact settled.aside
            (AsideFrame.runJob client jobs (by simpa using starting) noWait)

end Settled

/-- The event continues the inbound chain or hands it a frame. -/
def Event.isChain : Event → Bool
  | .job => true
  | .socketFrame (.handshake _) => true
  | .socketFrame (.relay _) => true
  | .handshakeDerived _ => true
  | .decrypted => true
  | .rekeyKeygen _ => true
  | .rekeyInitDerived _ => true
  | .rekeyAckDerived _ => true
  | .commitWrapped _ => true
  | _ => false

/-- An event after start-up that does not concern the inbound chain. -/
theorem handle_aside
    {client : Client}
    (armed : Armed client)
    {input : Input}
    (isEnabled : client.enabled input)
    (beside : input.event.isChain = false)
    (notClaim : ∀ granted, input.event ≠ .claimDecided granted)
    (notResume : ∀ outcome, input.event ≠ .resumeDecided outcome)
    (notReload : input.event ≠ .reload) :
    AsideFrame client (client.handle input.event) := by
  obtain ⟨event, oracle⟩ := input
  have files :
      ∀ segment (created : Bool),
        AsideFrame client (if created then client.runFiles segment else client) := by
    intro segment created
    split
    · exact AsideFrame.runFiles client segment
    · exact AsideFrame.refl client
  cases event with
  | claimDecided granted => exact absurd rfl (notClaim granted)
  | resumeDecided outcome => exact absurd rfl (notResume outcome)
  | send body t => exact AsideFrame.send client body t
  | sendFile file tid => exact files _ _
  | cancelTransfer => exact (cancelTransfer_frame client).aside
  | acceptFileOffer => exact files _ _
  | declineFileOffer => exact files _ _
  | upgradeToPrf => exact AsideFrame.upgradeToPrf client
  | retryResume => exact AsideFrame.retryResume client
  | terminate reason => exact AsideFrame.terminate client reason
  | socketOpened => exact AsideFrame.socketOpened client
  | socketFrame frame =>
      refine AsideFrame.handleServerFrame client ?_ ?_
      · rintro ciphertext rfl
        cases beside
      · rintro relayFrame rfl
        cases beside
  | socketClosing => exact { AsideFrame.refl client with }
  | socketClosed kind => exact AsideFrame.socketClosed client kind
  | socketBuffered amount => exact { AsideFrame.refl client with }
  | protocolError kind => exact AsideFrame.onProtocolError client kind
  | handshakeWrapped ok => exact AsideFrame.handshakeWrapped client ok
  | upgradeRegistered index outcome =>
      exact AsideFrame.upgradeRegistered client index outcome
  | upgradeWrapped index ok =>
      simp only [Client.handle]
      split
      · exact AsideFrame.upgradeWrapped client index _ _ _ ok
      · exact AsideFrame.refl client
  | upgradeKeygen index ok =>
      simp only [Client.handle]
      split
      · have taken :
            AsideFrame client
              { client with vars.upgrades := client.vars.upgrades.eraseIdx index } :=
          { AsideFrame.refl client with }
        exact taken.trans (AsideFrame.rekeyKeygenDone _ _ ok)
      · exact AsideFrame.refl client
  | sendSettled outcome =>
      simp only [Client.handle]
      split
      · rename_i flight sending
        exact AsideFrame.sendSettled client sending outcome
      · exact AsideFrame.refl client
  | reconnectTimer => exact AsideFrame.reconnectTimerFired client
  | fatalTimer =>
      have running : client.vars.fatalTimer ≠ none := by
        intro none
        simp [enabled, canOccur, isDue, none] at isEnabled
      exact AsideFrame.fatalTimerFired client (armed running)
  | file event =>
      exact AsideFrame.runFiles client fun files => files.handle client.fileEnv event
  | visible => exact AsideFrame.becameVisible client
  | beforeUnload => exact AsideFrame.markHiding client
  | pageHide persisted => exact AsideFrame.pageHide client persisted
  | pageShow persisted => exact AsideFrame.pageShow client persisted
  | elapse ms => exact { AsideFrame.refl client with }
  | reload => exact absurd rfl notReload
  | _ => cases beside

namespace Settled

variable {progress : Progress} {client : Client}

/-- The handler awaits what the event settles. -/
theorem awaiting
    {stage : HandlerStage}
    (at_stage : client.handlerAt stage = true) :
    ∃ handler, client.inbound.handler = some handler ∧ handler.stage = stage := by
  unfold handlerAt at at_stage
  cases running : client.inbound.handler with
  | none => simp [running] at at_stage
  | some handler => exact ⟨handler, rfl, by simpa [running] using at_stage⟩

/-- Every event of a connected page keeps what is known of the frame in hand, unless
it takes up another frame. -/
theorem handle
    (settled : Settled progress client)
    {input : Input}
    (isEnabled : client.enabled input)
    (notReload : input.event ≠ .reload)
    (fresh : client.inbound.handler = none → ∀ view, progress view) :
    Settled progress (client.handle input.event) := by
  by_cases chain : input.event.isChain = true
  · obtain ⟨event, oracle⟩ := input
    cases event with
    | job => exact settled.runJob fresh
    | socketFrame frame =>
        simp only [Client.handle, handleServerFrame]
        split
        · exact settled
        · cases frame with
          | handshake ciphertext => exact settled.enqueueInbound _
          | relay relayFrame => exact settled.enqueueInbound _
          | _ => cases chain
    | handshakeDerived ok =>
        obtain ⟨handler, running, stage⟩ :=
          awaiting (Bool.and_eq_true_iff.mp isEnabled).2
        have handling := settled.handling running (by rw [stage]; simp)
        have anything := settled.undecided (Or.inr (by rw [running]; simp [stage]))
        simp only [Client.handle, running]
        cases handler with
        | handshake ciphertext pair =>
            exact handling.handshakeDerived anything ciphertext pair ok
        | _ => cases stage
    | decrypted =>
        obtain ⟨handler, running, stage⟩ :=
          awaiting (Bool.and_eq_true_iff.mp isEnabled).2
        have handling := settled.handling running (by rw [stage]; simp)
        have anything := settled.undecided (Or.inl (by rw [running]; simp [stage]))
        simp only [Client.handle, running]
        cases handler with
        | decrypting frame mode state mirror =>
            exact handling.frameDecrypted frame mode state mirror
              (fun _ _ _ _ _ _ => anything _) (fun _ _ _ _ _ => anything _)
        | _ => cases stage
    | rekeyKeygen ok =>
        obtain ⟨handler, running, stage⟩ :=
          awaiting (Bool.and_eq_true_iff.mp isEnabled).2
        have handling := settled.handling running (by rw [stage]; simp)
        simp only [Client.handle, running]
        cases handler with
        | rekeyKeygen pair => exact handling.rekeyKeygenDone pair ok
        | _ => cases stage
    | rekeyInitDerived outcome =>
        obtain ⟨handler, running, stage⟩ :=
          awaiting (Bool.and_eq_true_iff.mp isEnabled).2
        have handling := settled.handling running (by rw [stage]; simp)
        have commits :=
          settled.commits (Or.inr (Or.inl (by rw [running]; simp [stage])))
        simp only [Client.handle, running]
        cases handler with
        | rekeyInit pair peerPub =>
            exact handling.rekeyInitDerived commits pair peerPub outcome
        | _ => cases stage
    | rekeyAckDerived ok =>
        obtain ⟨handler, running, stage⟩ :=
          awaiting (Bool.and_eq_true_iff.mp isEnabled).2
        have handling := settled.handling running (by rw [stage]; simp)
        have commits :=
          settled.commits (Or.inr (Or.inr (by rw [running]; simp [stage])))
        simp only [Client.handle, running]
        cases handler with
        | rekeyAck pair peerPub => exact handling.rekeyAckDerived commits pair peerPub ok
        | _ => cases stage
    | commitWrapped ok =>
        obtain ⟨handler, running, stage⟩ :=
          awaiting (Bool.and_eq_true_iff.mp isEnabled).2
        have handling := settled.handling running (by rw [stage]; simp)
        simp only [Client.handle, running]
        cases handler with
        | commitWrap newSessionKey wrapKey credentialId =>
            exact handling.commitWrapped newSessionKey wrapKey credentialId ok
        | _ => cases stage
    | _ => cases chain
  · refine settled.aside
      (handle_aside settled.armed isEnabled (by simpa using chain) ?_ ?_ notReload)
    · intro granted eventEq
      rw [enabled, eventEq] at isEnabled
      exact settled.connected.1 (by simpa using (Bool.and_eq_true_iff.mp isEnabled).2)
    · intro outcome eventEq
      rw [enabled, eventEq] at isEnabled
      have attempting : client.vars.resumeAttempt = true := by
        simpa using (Bool.and_eq_true_iff.mp isEnabled).2
      rw [settled.connected.2.1] at attempting
      cases attempting

end Settled

/-! ## Whole runs -/

/-- A page is offline, or its inbound chain is in order. -/
structure Chain (client : Client) : Prop where
  armed : Armed client
  phase : Offline client ∨ Settled (fun _ => True) client

namespace Chain

variable {client : Client}

/-- An offline page that was connected has an idle chain. -/
theorem of_connects
    {after : Client}
    (offline : Offline client)
    (armed : Armed client)
    (connects : Offline.Connects client after) : Chain after := by
  have noWaiters : after.waiters = [] := by
    simp only [waiters, connects.jobs, connects.outbound, offline.sending, Option.map_none,
      Option.toList_none, List.filter_nil, List.append_nil, List.append_eq_nil_iff,
      List.filter_eq_nil_iff, List.mem_filterMap, List.mem_map]
    constructor
    · rintro continuation ⟨job, member, cont⟩
      have isFile := offline.jobs job member
      cases job with
      | settle pending sent =>
          obtain rfl := Option.some.inj cont
          cases pending <;> simp_all [Job.IsFile, SendCont.waits]
      | _ => cases cont
    · rintro continuation ⟨task, member, rfl⟩
      obtain ⟨fileContinuation, contEq⟩ := offline.queue task member
      simp [contEq, SendCont.waits]
  have noStart : after.starts = 0 := by
    simp only [starts, connects.jobs, List.countP_eq_zero]
    intro job member
    have isFile := offline.jobs job member
    cases job <;> simp_all [Job.IsFile, Job.startsFrame]
  have idle : after.inbound.handler = none := by
    rw [connects.inbound]
    exact offline.handler
  have armedAfter : Armed after := by
    unfold Armed
    rw [connects.terminated, connects.fatalTimer]
    exact armed
  exact
    { armed := armedAfter
      phase :=
        Or.inr
          { waits := by simp [noWaiters]
            starts := by simp [noStart]
            waiting := fun nonempty => absurd noWaiters nonempty
            starting := fun _ => idle
            idle := fun _ => ⟨idle, noStart⟩
            derived := by simp [noWaiters]
            connected := connects.connected
            armed := armedAfter
            received := Or.inr trivial
            commits := fun _ _ _ => trivial
            undecided := fun _ _ => trivial
            handshaking := by simp [idle] } }

/-- Ending an offline page arms the ending buffer only if it ends. -/
theorem handle_armed
    (offline : Offline client)
    (armed : Armed client)
    {input : Input}
    (isEnabled : client.enabled input)
    (notReload : input.event ≠ .reload) : Armed (client.handle input.event) := by
  obtain ⟨event, oracle⟩ := input
  by_cases chain : event.isChain = true
  · cases event with
    | job =>
        obtain ⟨-, vars, -⟩ := offline.runJob
        simp only [Client.handle, Armed]
        rw [vars]
        exact armed
    | _ =>
        simp [enabled, canOccur, socketIn, handlerAt, offline.socket, offline.handler,
          Event.isChain] at isEnabled chain
  · by_cases claiming : ∃ granted, event = .claimDecided granted
    · obtain ⟨granted, rfl⟩ := claiming
      simp only [Client.handle, Client.claimDecided]
      split
      · exact (AsideFrame.terminate client .duplicateTab).armed armed
      · split <;> exact armed
    · by_cases resuming : ∃ outcome, event = .resumeDecided outcome
      · obtain ⟨outcome, rfl⟩ := resuming
        have settled :
            Armed { client with vars.resumeAttempt := false, vars.returned := true } := armed
        simp only [Client.handle, Client.resumeDecided]
        split
        · exact armed
        · split
          · split <;> exact armed
          · exact (AsideFrame.terminate _ _).armed settled
          · exact (AsideFrame.terminate _ _).armed settled
          · split
            · exact (AsideFrame.terminate _ _).armed settled
            · split <;> exact armed
      · exact
          (handle_aside armed isEnabled (by simpa using chain)
            (fun granted eventEq => claiming ⟨granted, eventEq⟩)
            (fun outcome eventEq => resuming ⟨outcome, eventEq⟩) notReload).armed armed

/-- Every step keeps the inbound chain in order. -/
theorem step
    (chain : Chain client)
    {input : Input}
    (isEnabled : client.enabled input) : Chain (client.step input) := by
  by_cases reloads : input.event = .reload
  · rw [Client.step, reloads]
    exact ⟨fun running => absurd rfl running, Or.inl (Offline.boot _ _ _ _ _)⟩
  · rcases chain.phase with offline | settled
    · have fresh : Offline { client with out := [], page.oracle := input.oracle } :=
        { offline with }
      have armed := handle_armed fresh chain.armed isEnabled reloads
      rcases fresh.handle isEnabled with still | connects
      · exact ⟨armed, Or.inl still⟩
      · exact of_connects fresh chain.armed connects
    · have fresh :
          Settled (fun _ => True)
            { client with out := [], page.oracle := input.oracle } :=
        { settled with }
      have after := fresh.handle isEnabled reloads fun _ _ => trivial
      exact ⟨after.armed, Or.inr after⟩

/-- The inbound chain is in order in every reachable state. -/
theorem of_reachable
    {allowed : Client → Input → Prop}
    (reachable : machine.Reachable Booted allowed client) : Chain client := by
  apply reachable.invariant
  · rintro state ⟨device, nextDraw, now, storage, normalizeNfc, rfl⟩
    exact ⟨fun running => absurd rfl running, Or.inl (Offline.boot _ _ _ _ _)⟩
  · intro state input inv isEnabled _
    exact inv.step isEnabled

end Chain

end Client

end Unseen
