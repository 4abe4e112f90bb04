import Unseen.InboundChain
import Unseen.TerminatedRuns

namespace Unseen

/-!
# What becomes of a relay frame

A relay frame that is taken up while a session key is installed either ends the
session or is accepted and counted, with one exception: a chunk that arrives
before the file machines were created is skipped, although it was authentic and
the peer counted it.
-/

/-- The stage of the handler that the event settles. -/
def Client.Event.settles : Client.Event → Option HandlerStage
  | .handshakeDerived _ => some .handshake
  | .decrypted => some .decrypting
  | .rekeyKeygen _ => some .rekeyKeygen
  | .rekeyInitDerived _ => some .rekeyInit
  | .rekeyAckDerived _ => some .rekeyAck
  | .commitWrapped _ => some .commitWrap
  | _ => none

namespace Client

/-- What other events leave of a running handler and the session context. -/
structure Untouched (before after : Client) : Prop where
  handler : after.inbound.handler = before.inbound.handler
  terminated : before.vars.terminated = true → after.vars.terminated = true
  received : after.vars.terminated = true ∨ after.received = before.received

theorem AsideFrame.untouched
    {before after : Client}
    (aside : AsideFrame before after) : Untouched before after where
  handler := aside.handler
  terminated := aside.terminated
  received := aside.received

/-- A running handler is left alone until what it awaits is settled. -/
theorem Settled.untouched
    {progress : Progress}
    {client : Client}
    (settled : Settled progress client)
    {handler : Handler}
    (running : client.inbound.handler = some handler)
    (notSending : handler.stage ≠ .sending)
    {input : Input}
    (isEnabled : client.enabled input)
    (notReload : input.event ≠ .reload)
    (notSettled : input.event.settles ≠ some handler.stage) :
    Untouched client (client.handle input.event) := by
  obtain ⟨noWaiters, noStart, -⟩ := settled.pending running notSending
  by_cases chain : input.event.isChain = true
  · obtain ⟨event, oracle⟩ := input
    have elsewhere :
        ∀ stage, stage ≠ handler.stage → client.handlerAt stage = true → False := by
      intro stage other at_stage
      obtain ⟨found, foundEq, stageEq⟩ := Settled.awaiting at_stage
      rw [running] at foundEq
      exact other (by rw [← stageEq, ← Option.some.inj foundEq])
    cases event with
    | job =>
        cases jobs : client.jobs with
        | nil => simp [enabled, canOccur, jobs] at isEnabled
        | cons job rest =>
            refine (AsideFrame.runJob client jobs ?_ ?_).untouched
            · cases starts : job.startsFrame with
              | false => rfl
              | true =>
                  simp only [Client.starts, jobs] at noStart
                  rw [List.countP_cons_of_pos starts] at noStart
                  cases noStart
            · intro continuation cont
              cases waits : continuation.waits with
              | false => rfl
              | true =>
                  simp [waiters, jobs, cont, waits] at noWaiters
    | socketFrame frame =>
        have queued :
            ∀ task, Untouched client (client.enqueueInbound task) := by
          intro task
          unfold Client.enqueueInbound
          simp only
          split <;> exact ⟨rfl, id, Or.inr rfl⟩
        simp only [Client.handle, handleServerFrame]
        split
        · exact ⟨rfl, id, Or.inr rfl⟩
        · cases frame with
          | handshake ciphertext => exact queued _
          | relay relayFrame => exact queued _
          | _ => cases chain
    | handshakeDerived ok =>
        exact (elsewhere .handshake (fun same => notSettled (by rw [← same]; rfl))
          (Bool.and_eq_true_iff.mp isEnabled).2).elim
    | decrypted =>
        exact (elsewhere .decrypting (fun same => notSettled (by rw [← same]; rfl))
          (Bool.and_eq_true_iff.mp isEnabled).2).elim
    | rekeyKeygen ok =>
        exact (elsewhere .rekeyKeygen (fun same => notSettled (by rw [← same]; rfl))
          (Bool.and_eq_true_iff.mp isEnabled).2).elim
    | rekeyInitDerived outcome =>
        exact (elsewhere .rekeyInit (fun same => notSettled (by rw [← same]; rfl))
          (Bool.and_eq_true_iff.mp isEnabled).2).elim
    | rekeyAckDerived ok =>
        exact (elsewhere .rekeyAck (fun same => notSettled (by rw [← same]; rfl))
          (Bool.and_eq_true_iff.mp isEnabled).2).elim
    | commitWrapped ok =>
        exact (elsewhere .commitWrap (fun same => notSettled (by rw [← same]; rfl))
          (Bool.and_eq_true_iff.mp isEnabled).2).elim
    | _ => cases chain
  · refine
      (handle_aside settled.armed isEnabled (by simpa using chain) ?_ ?_
        notReload).untouched
    · intro granted eventEq
      rw [enabled, eventEq] at isEnabled
      exact settled.connected.1 (by simpa using (Bool.and_eq_true_iff.mp isEnabled).2)
    · intro outcome eventEq
      rw [enabled, eventEq] at isEnabled
      have attempting : client.vars.resumeAttempt = true := by
        simpa using (Bool.and_eq_true_iff.mp isEnabled).2
      rw [settled.connected.2.1] at attempting
      cases attempting

/-! ## The run of one handler -/

/-- From the microtask that takes up a frame, the handler runs until it returns. -/
def HandlesFrame (client : Client) : List Input → Prop
  | [] => False
  | [last] => (client.step last).inbound.handler.isSome = false
  | input :: rest =>
      (client.step input).inbound.handler.isSome = true ∧
        (client.step input).HandlesFrame rest

/-- The frame is the next one `handleRelay` processes, in a session with a key. -/
structure TakesUp (client : Client) (frame : RelayFrame) (active : ActiveContext) : Prop where
  starting : ∃ rest, client.jobs = .inboundNext :: rest
  first : ∃ rest, client.inbound.queue = .relay frame :: rest
  live : client.vars.terminated = false
  keyed : client.vars.internal.context? = some active

/--
The frame was authenticated under the session key and its counter recorded; a
rekey it triggered may have installed a derived key, which starts at counter 0.
-/
def Accepted (frame : RelayFrame) (active : ActiveContext) : Progress :=
  fun view =>
    ∃ payload counter,
      validateAndDecryptFrame active.receiveState frame.kind frame.nonce frame.ciphertext
          active.nextRecvMode =
        .ok payload counter ∧
      (view = some (counter, active.sessionKey) ∨
        (frame.kind = .rekeyInit ∨ frame.kind = .rekeyAck) ∧
          ∃ newSessionKey, Derived newSessionKey ∧
            view = some (0, { material := newSessionKey, extractable := false }))

/-- The session has ended or the frame was counted. -/
def EndedOrCounted (frame : RelayFrame) (active : ActiveContext) (client : Client) : Prop :=
  client.vars.terminated = true ∨ Accepted frame active client.received

/-- Once its frame was accepted, a handler runs on to its return. -/
theorem run_of_accepted
    {progress : Progress}
    {inputs : List Input}
    {client : Client}
    (settled : Settled progress client)
    (running : client.inbound.handler.isSome = true)
    (legal : machine.Legal sameLife client inputs)
    (handles : client.HandlesFrame inputs) :
    (machine.run client inputs).vars.terminated = true ∨
      progress (machine.run client inputs).received := by
  induction inputs generalizing client with
  | nil => exact handles.elim
  | cons input rest inductionHypothesis =>
      obtain ⟨isEnabled, same, legalRest⟩ := legal
      have fresh :
          Settled progress { client with out := [], page.oracle := input.oracle } :=
        { settled with }
      have after : Settled progress (client.step input) :=
        fresh.handle isEnabled same.notReload fun idle => by simp_all
      cases rest with
      | nil => exact after.received
      | cons next later =>
          exact inductionHypothesis after handles.1 legalRest handles.2

/-- A handler that awaits the decryption of a frame. -/
structure Decrypting
    (frame : RelayFrame)
    (active : ActiveContext)
    (client : Client) : Prop where
  settled : Settled (fun _ => True) client
  handler :
    ∃ mirror, client.inbound.handler =
      some (.decrypting frame active.nextRecvMode active.receiveState mirror)
  received :
    client.vars.terminated = true ∨
      client.received = some (active.counterRecv, active.sessionKey)

/-- From the decryption on, a handler ends the session or counts its frame. -/
theorem run_of_decrypting
    {frame : RelayFrame}
    {active : ActiveContext}
    {inputs : List Input}
    {client : Client}
    (decrypting : Decrypting frame active client)
    (legal : machine.Legal sameLife client inputs)
    (handles : client.HandlesFrame inputs) :
    EndedOrCounted frame active (machine.run client inputs) := by
  induction inputs generalizing client with
  | nil => exact handles.elim
  | cons input rest inductionHypothesis =>
      obtain ⟨isEnabled, same, legalRest⟩ := legal
      obtain ⟨mirror, running⟩ := decrypting.handler
      have fresh :
          Settled (fun _ => True)
            { client with out := [], page.oracle := input.oracle } :=
        { decrypting.settled with }
      by_cases own : input.event.settles = some .decrypting
      · have eventEq : input.event = .decrypted := by
          obtain ⟨event, oracle⟩ := input
          cases event <;> simp_all [Event.settles]
        have handling :
            Handling
              (fun view => view = some (active.counterRecv, active.sessionKey))
              { client with out := [], page.oracle := input.oracle } :=
          { fresh.handling running (by simp [Handler.stage]) with
            received := decrypting.received }
        have after : Settled (Accepted frame active) (client.step input) := by
          rw [Client.step, eventEq]
          simp only [Client.handle, running]
          refine handling.frameDecrypted frame _ _ mirror ?_ ?_
          · intro payload counter valid isRekey newSessionKey derived
            exact ⟨payload, counter, valid, Or.inr ⟨isRekey, newSessionKey, derived, rfl⟩⟩
          · intro payload counter valid view known
            exact ⟨payload, counter, valid, Or.inl (by rw [known]; rfl)⟩
        cases rest with
        | nil => exact after.received
        | cons next later =>
            have laterLegal : machine.Legal sameLife (client.step input) (next :: later) :=
              legalRest
            have done := run_of_accepted after handles.1 laterLegal handles.2
            exact done
      · have untouched :
            Untouched { client with out := [], page.oracle := input.oracle }
              (client.step input) :=
          fresh.untouched running (by simp [Handler.stage]) isEnabled same.notReload own
        have after : Decrypting frame active (client.step input) :=
          { settled := fresh.handle isEnabled same.notReload fun _ _ => trivial
            handler := ⟨mirror, untouched.handler.trans running⟩
            received := by
              rcases decrypting.received with ended | known
              · exact Or.inl (untouched.terminated ended)
              · exact untouched.received.imp_right fun kept => kept.trans known }
        cases rest with
        | nil =>
            have returned : (client.step input).inbound.handler.isSome = false := handles
            rw [untouched.handler] at returned
            rw [show client.inbound.handler = _ from running] at returned
            cases returned
        | cons next later => exact inductionHypothesis after legalRest handles.2

/-! ## Taking up a frame -/

/-- The frame is a chunk and there is no file receiver to give it to. -/
def SkipsChunk (client : Client) (frame : RelayFrame) : Prop :=
  frame.kind = .chunk ∧ client.files.receiverCreated = false

instance (client : Client) (frame : RelayFrame) : Decidable (client.SkipsChunk frame) :=
  inferInstanceAs (Decidable (_ ∧ _))

theorem handleRelayWith_skips
    {client : Client}
    {frame : RelayFrame}
    (skips : client.SkipsChunk frame)
    (active : ActiveContext) :
    client.handleRelayWith active frame =
      (client.updateActive fun context =>
        { context with nextRecvMode := .strict }).finishHandler := by
  unfold handleRelayWith
  exact if_pos skips

theorem handleRelayWith_awaits
    {client : Client}
    {frame : RelayFrame}
    (keeps : ¬client.SkipsChunk frame)
    (active : ActiveContext) :
    client.handleRelayWith active frame =
      (client.updateActive fun context => { context with nextRecvMode := .strict }).await
        (.decrypting frame active.nextRecvMode active.receiveState active.mirror) := by
  unfold handleRelayWith
  exact if_neg keeps

/-- The first step takes the frame up: it awaits its decryption, or is skipped. -/
theorem step_of_takesUp
    {client : Client}
    {frame : RelayFrame}
    {active : ActiveContext}
    (settled : Settled (fun _ => True) client)
    (takes : TakesUp client frame active)
    {input : Input}
    (isEnabled : client.enabled input)
    (notReload : input.event ≠ .reload) :
    (client.SkipsChunk frame ∧
        (client.step input).inbound.handler.isSome = false ∧
        (client.step input).vars.terminated = false ∧
        (client.step input).received = some (active.counterRecv, active.sessionKey)) ∨
      (¬client.SkipsChunk frame ∧
        (client.step input).inbound.handler.isSome = true ∧
        Decrypting frame active (client.step input)) := by
  obtain ⟨jobs, jobsEq⟩ := takes.starting
  obtain ⟨queue, queueEq⟩ := takes.first
  have isJob : input.event = .job := by
    obtain ⟨event, oracle⟩ := input
    cases event <;> simp_all [enabled, canOccur]
  have fresh :
      Settled (fun _ => True) { client with out := [], page.oracle := input.oracle } :=
    { settled with }
  have after : Settled (fun _ => True) (client.step input) :=
    fresh.handle isEnabled notReload fun _ _ => trivial
  have stepEq :
      client.step input =
        { client with
          out := []
          page.oracle := input.oracle
          jobs := jobs
          inbound.queue := queue }.handleRelayWith active frame := by
    rw [Client.step, isJob]
    simp only [Client.handle, Client.runJob, jobsEq, Client.runInbound, queueEq, takes.live,
      Bool.false_eq_true, ↓reduceIte, Client.handleRelay]
    have keyed := takes.keyed
    cases internal : client.vars.internal with
    | preActive =>
        rw [internal] at keyed
        cases keyed
    | resuming context =>
        rw [internal] at keyed
        obtain rfl := Option.some.inj keyed
        rfl
    | active context =>
        rw [internal] at keyed
        obtain rfl := Option.some.inj keyed
        rfl
  have held :
      ({ client with
          out := []
          page.oracle := input.oracle
          jobs := jobs
          inbound.queue := queue }.updateActive fun context =>
            { context with nextRecvMode := .strict }).received =
        some (active.counterRecv, active.sessionKey) := by
    simp [Client.received, updateActive, takes.keyed]
  by_cases skipped : client.SkipsChunk frame
  · refine Or.inl ⟨skipped, ?_⟩
    rw [stepEq, handleRelayWith_skips (by exact skipped) active]
    unfold Client.finishHandler
    simp only
    split
    · exact ⟨rfl, takes.live, held⟩
    · exact ⟨rfl, takes.live, held⟩
  · refine Or.inr ⟨skipped, ?_⟩
    rw [stepEq, handleRelayWith_awaits (by exact skipped) active] at after ⊢
    exact
      ⟨rfl,
        { settled := after
          handler := ⟨active.mirror, rfl⟩
          received := Or.inr held }⟩

/-- A skipped frame was not counted: a counted frame moves the counter. -/
theorem not_accepted_of_skipped
    {frame : RelayFrame}
    {active : ActiveContext}
    (isChunk : frame.kind = .chunk) :
    ¬Accepted frame active (some (active.counterRecv, active.sessionKey)) := by
  rintro ⟨payload, counter, valid, same | ⟨isRekey, -⟩⟩
  · obtain ⟨-, follows, -⟩ := validateAndDecryptFrame_ok valid
    have counterEq : counter = active.counterRecv := by
      simpa using (Prod.mk.inj (Option.some.inj same)).1.symm
    rw [counterEq] at follows
    cases mode : active.nextRecvMode <;>
      simp [counterFollows, mode, ActiveContext.receiveState] at follows
  · rw [isChunk] at isRekey
    rcases isRekey with isInit | isAck
    · cases isInit
    · cases isAck

/--
When the handler of a relay frame returns, the session has ended or the frame was
authenticated and counted, exactly when the frame is no chunk that arrived before
the file machines were created.  Such a chunk is skipped: it consumes the receive
mode and leaves the counter behind the peer's.
-/
theorem relay_frame_counted_iff
    {client : Client}
    (reachable : machine.Reachable Booted EventMachine.Machine.anyStep client)
    {frame : RelayFrame}
    {active : ActiveContext}
    (takes : TakesUp client frame active)
    {inputs : List Input}
    (legal : machine.Legal sameLife client inputs)
    (handles : client.HandlesFrame inputs) :
    EndedOrCounted frame active (machine.run client inputs) ↔
      ¬client.SkipsChunk frame := by
  have settled : Settled (fun _ => True) client := by
    rcases (Chain.of_reachable reachable).phase with offline | settled
    · have keyed := takes.keyed
      rw [offline.internal] at keyed
      cases keyed
    · exact settled
  cases inputs with
  | nil => exact handles.elim
  | cons input rest =>
      obtain ⟨isEnabled, same, legalRest⟩ := legal
      rcases step_of_takesUp settled takes isEnabled same.notReload with
        ⟨skipped, returned, live, held⟩ | ⟨notSkipped, running, decrypting⟩
      · cases rest with
        | nil =>
            refine iff_of_false ?_ (not_not_intro skipped)
            rintro (ended | accepted)
            · rw [show (machine.run client [input]).vars.terminated = false from live] at ended
              cases ended
            · rw [show (machine.run client [input]).received = _ from held] at accepted
              exact not_accepted_of_skipped skipped.1 accepted
        | cons next later =>
            rw [handles.1] at returned
            cases returned
      · refine iff_of_true ?_ notSkipped
        cases rest with
        | nil =>
            rw [show (client.step input).inbound.handler.isSome = false from handles] at running
            cases running
        | cons next later =>
            have laterLegal : machine.Legal sameLife (client.step input) (next :: later) :=
              legalRest
            have done := run_of_decrypting decrypting laterLegal handles.2
            exact done

/-- The first message of the peer of an established session. -/
def firstMessage : RelayFrame :=
  (encryptRelayFrame .joiner establishedKey .msg 1 (.envelope (.msg [] []))).get
    (by decide)

/-- An established session that received its first message. -/
def messageReceived : Client :=
  machine.run freshPage
    (establish peerPublicKey ++ [plain (.socketFrame (.relay firstMessage))])

/-- A message is counted. -/
theorem relay_frame_counted_message :
    ∃ active,
      EndedOrCounted firstMessage active
        (machine.run messageReceived [plain .job, plain .decrypted]) := by
  have reachable :
      machine.Reachable Booted EventMachine.Machine.anyStep messageReceived :=
    .run (.start ⟨0, 0, 0, none, id, rfl⟩) (by decide +kernel)
  have handles : messageReceived.HandlesFrame [plain .job, plain .decrypted] :=
    ⟨by decide +kernel, rfl⟩
  exact
    ⟨_,
      (relay_frame_counted_iff reachable
        { starting := ⟨[], rfl⟩
          first := ⟨[], rfl⟩
          live := rfl
          keyed := rfl }
        (by decide +kernel) handles).mpr
        (by decide +kernel)⟩

/-- A chunk of the peer, with the next counter of its direction. -/
def firstChunk : RelayFrame :=
  (encryptRelayFrame .joiner establishedKey .chunk 1
    (.bytes (List.replicate chunkHeaderBytes 0))).get (by decide)

/-- A reloaded page that awaits the answer to its probe and received a chunk. -/
def chunkReceived : Client :=
  machine.run freshPage
    (establish peerPublicKey ++ upgradeAlone 7 ++ reloadAndProbe ++
      [plain (.socketFrame (.relay firstChunk))])

/-- A genuine chunk that arrives before the resume was answered is not counted. -/
theorem chunk_before_resume_ack_not_counted :
    ¬∀ client frame active inputs,
        machine.Reachable Booted EventMachine.Machine.anyStep client →
        TakesUp client frame active →
        machine.Legal sameLife client inputs →
        client.HandlesFrame inputs →
        EndedOrCounted frame active (machine.run client inputs) := by
  intro claimed
  have counted :=
    claimed chunkReceived firstChunk _ [plain .job]
      (EventMachine.Machine.Reachable.run (.start ⟨0, 0, 0, none, id, rfl⟩)
        (by decide +kernel))
      { starting := ⟨[], rfl⟩
        first := ⟨[], rfl⟩
        live := rfl
        keyed := rfl }
      (by decide +kernel)
      rfl
  rcases counted with ended | accepted
  · revert ended
    decide +kernel
  · exact not_accepted_of_skipped rfl accepted

end Client

end Unseen
