import Unseen.PeerReconnecting

namespace Unseen

/-!
# Rekey frames that are not sent

A rekey sets the session's state, marks the stored record and remembers its key
pair before it sends its first frame.  Everything that can go wrong from then on
ends the session, apart from one thing: the checks before a send refuse a frame
without a word, and no rekey function looks back.

A frame is handed over when its task settles as sent: `ws.send` took it without an
error, also where the socket had begun to close.
-/

/-- The frame is one that a rekey sends before its key is in use. -/
def RelayKind.opensRekey : RelayKind → Bool
  | .rekeyInit => true
  | .rekeyAck => true
  | _ => false

namespace Client

/-- The send that the serializer starts in a step. -/
def startedSend (client : Client) (input : Input) : Option SendTask :=
  match input.event, client.jobs with
  | .job, .outboundNext :: _ => client.outbound.queue.head?
  | _, _ => none

/-- The checks of `runRelaySendTask` on the connection. -/
def mayAttemptSend (client : Client) : Bool :=
  match client.link.socket, client.vars.internal.context? with
  | some socket, some _ => canAttemptSend socket.readyState socket.bufferedAmount = .ok
  | _, _ => false

/-- A rekey frame is refused by the checks before a send. -/
def RefusesRekeyFrame (client : Client) (input : Input) : Prop :=
  client.vars.terminated = false ∧ client.mayAttemptSend = false ∧
    ∃ task, client.startedSend input = some task ∧ task.kind.opensRekey = true

instance (client : Client) (input : Input) : Decidable (client.RefusesRekeyFrame input) :=
  match started : client.startedSend input with
  | none => isFalse (by rintro ⟨-, -, task, isStarted, -⟩; rw [started] at isStarted; cases isStarted)
  | some task =>
      decidable_of_iff
        (client.vars.terminated = false ∧ client.mayAttemptSend = false ∧
          task.kind.opensRekey = true)
        (by simp [RefusesRekeyFrame, started])

/-- No rekey frame is refused by the checks before a send. -/
def rekeyFramesTried (client : Client) (input : Input) : Prop :=
  ¬client.RefusesRekeyFrame input

instance (client : Client) (input : Input) : Decidable (client.rekeyFramesTried input) :=
  inferInstanceAs (Decidable ¬client.RefusesRekeyFrame input)

/-- The ways in which a rekey function that waits ends without its frame. -/
inductive EndsRekeyUnsent (client : Client) (input : Input) : Prop where
  /-- no key pair was generated -/
  | noKeyPair
      (awaits : client.handlerAt .rekeyKeygen)
      (settles : input.event = .rekeyKeygen false)
  | noKeyPairInUpgrade
      (index : Nat)
      (awaits : client.upgradeAt index .rekeyKeygen)
      (settles : input.event = .upgradeKeygen index false)
  /-- no key was derived from the peer's -/
  | notDerived
      (pair : Draw)
      (peerPub : PublicKey)
      (outcome : RekeyOutcome)
      (awaits : client.inbound.handler = some (.rekeyInit pair peerPub))
      (settles : input.event = .rekeyInitDerived outcome)
      (fails : outcome = .ok → deriveRekeyedSessionKey pair peerPub = none)
  /-- the frame's send ended before it was encrypted -/
  | notEncrypting
      (task : SendTask)
      (starts : client.startedSend input = some task)
      (opensRekey : task.kind.opensRekey)
      (notSending : (machine.step client input).outbound.sending = none)
  /-- it was not encrypted, or the socket threw -/
  | notHanded
      (flight : InFlight)
      (outcome : SendOutcome)
      (awaits : client.outbound.sending = some flight)
      (opensRekey : flight.task.kind.opensRekey)
      (settles : input.event = .sendSettled outcome)
      (fails : outcome ≠ .sent)

/-- The session is over, or goes on with its old key as if nothing had been tried. -/
def Unstranded (oldKey : CryptoKey) (client : Client) : Prop :=
  client.vars.terminated = true ∨
    (client.signals.sessionState ≠ .rekeying ∧
      client.vars.internal.context?.map ActiveContext.sessionKey = some oldKey ∧
      ∀ record, client.store.storage = some record → record.rekeyInProgress = false)

variable {client : Client} {input : Input}

theorem step_of_startedSend
    {task : SendTask}
    (starts : client.startedSend input = some task) :
    ∃ jobs queue,
      machine.step client input =
        ({ client with
            out := []
            page.oracle := input.oracle
            jobs := jobs
            outbound.queue := queue } : Client).runRelaySendTask task := by
  unfold startedSend at starts
  split at starts
  · rename_i jobs isJob jobsEq
    obtain ⟨rest, queueEq⟩ := List.head?_eq_some_iff.mp starts
    refine ⟨jobs, rest, ?_⟩
    simp only [machine, step, isJob, handle, runJob, jobsEq, runOutbound, queueEq]
  · cases starts

theorem settleSend_vars (client : Client) (continuation : SendCont) (sent : Bool) :
    (client.settleSend continuation sent).vars = client.vars := by
  unfold settleSend
  simp only
  split <;> rfl

theorem settleSend_state (client : Client) (continuation : SendCont) (sent : Bool) :
    (client.settleSend continuation sent).signals = client.signals := by
  unfold settleSend
  simp only
  split <;> rfl

/-- A send that passes the checks ends the session or is encrypted. -/
theorem runRelaySendTask_tried
    {task : SendTask}
    (tried : client.vars.terminated = true ∨ client.mayAttemptSend = true)
    (notSending : (client.runRelaySendTask task).outbound.sending = none) :
    (client.runRelaySendTask task).vars.terminated = true := by
  revert notSending
  unfold runRelaySendTask
  split
  · rename_i ended
    intro _
    rw [settleSend_vars]
    exact ended
  · rename_i live
    have passes := tried.resolve_left live
    unfold mayAttemptSend at passes
    split
    · rename_i socket active isSocket isActive
      rw [isSocket, isActive] at passes
      rw [if_neg (not_not_intro (of_decide_eq_true passes))]
      split
      · intro _
        rw [settleSend_vars, terminate_terminated]
      · split
        · intro _
          rw [settleSend_vars, terminate_terminated]
        · intro notSending
          cases notSending
    · rename_i noContext
      split at passes
      · rename_i socket active isSocket isActive
        exact absurd isActive (noContext socket active isSocket)
      · cases passes

theorem finishHandler_vars (client : Client) : client.finishHandler.vars = client.vars := by
  unfold finishHandler
  simp only
  split <;> rfl

theorem rekeyCallerDone_vars (client : Client) (origin : RekeyOrigin) :
    (client.rekeyCallerDone origin).vars = client.vars := by
  cases origin with
  | upgrade => rfl
  | handler => exact finishHandler_vars client

/-- What ends a rekey function without its frame ends the session, unless the checks did it. -/
theorem EndsRekeyUnsent.terminated
    (ends : client.EndsRekeyUnsent input)
    (tried : client.rekeyFramesTried input) :
    (machine.step client input).vars.terminated = true := by
  cases ends with
  | noKeyPair awaits settles =>
      obtain ⟨handler, isHandler, isStage⟩ := Option.map_eq_some_iff.mp (beq_iff_eq.mp awaits)
      cases handler with
      | rekeyKeygen pair =>
          simp [machine, step, settles, handle, isHandler, rekeyKeygenDone, rekeyCallerDone_vars]
      | _ => cases isStage
  | noKeyPairInUpgrade index awaits settles =>
      obtain ⟨upgrade, isUpgrade, isStage⟩ := Option.map_eq_some_iff.mp (beq_iff_eq.mp awaits)
      cases upgrade with
      | rekeyKeygen pair =>
          simp [machine, step, settles, handle, isUpgrade, rekeyKeygenDone, rekeyCallerDone_vars]
      | _ => cases isStage
  | notDerived pair peerPub outcome awaits settles fails =>
      cases outcome with
      | ok =>
          simp [machine, step, settles, handle, awaits, rekeyInitDerived, fails rfl,
            finishHandler_vars]
      | keygenFailed | deriveFailed =>
          simp [machine, step, settles, handle, awaits, rekeyInitDerived, finishHandler_vars]
  | notEncrypting task starts opensRekey notSending =>
      obtain ⟨jobs, queue, stepEq⟩ := step_of_startedSend starts
      rw [stepEq] at notSending ⊢
      refine runRelaySendTask_tried ?_ notSending
      by_contra refuses
      obtain ⟨live, refused⟩ := not_or.mp refuses
      exact tried
        ⟨Bool.eq_false_iff.mpr live, Bool.eq_false_iff.mpr refused, task, starts, opensRekey⟩
  | notHanded flight outcome awaits opensRekey settles fails =>
      cases outcome with
      | sent => exact absurd rfl fails
      | encryptFailed | sendThrew =>
          simp [machine, step, settles, handle, awaits, sendSettled, settleSend_vars]

/-- A rekey function waits for its key pair. -/
def AwaitsRekeyKeyPair (client : Client) : Prop :=
  client.handlerAt .rekeyKeygen ∨ client.handlerAt .rekeyInit ∨
    ∃ index, client.upgradeAt index .rekeyKeygen

/-- `startRekeyIfInitiator` on the initiator goes on to its key pair, or ends the session. -/
theorem startRekeyIfInitiator_goes_on
    {active : ActiveContext}
    (live : client.vars.terminated = false)
    (idle : client.vars.rekeyInFlight = false)
    (notRekeying : client.signals.sessionState ≠ .rekeying)
    (isActive : client.vars.internal.context? = some active)
    (isInitiator : active.role = .initiator)
    (origin : RekeyOrigin) :
    (client.startRekeyIfInitiator origin).vars.terminated = true ∨
      (client.startRekeyIfInitiator origin).AwaitsRekeyKeyPair := by
  unfold startRekeyIfInitiator
  rw [if_neg (by simp [live, idle, notRekeying])]
  simp only [isActive]
  split
  · refine .inl ?_
    rw [rekeyCallerDone_vars, terminate_terminated]
  · refine .inr ?_
    rw [if_neg (not_not_intro isInitiator)]
    cases origin with
    | handler => exact .inl (by simp [handlerAt, await, Handler.stage])
    | upgrade =>
        rename_i marked _
        refine .inr (.inr ⟨marked.draw.1.vars.upgrades.length, ?_⟩)
        simp [upgradeAt, Upgrade.stage]

/-- `handleRekeyInit` on the joiner goes on to its key pair, or ends the session. -/
theorem handleRekeyInit_goes_on
    (client : Client)
    {active : ActiveContext}
    (isJoiner : active.role = .joiner)
    (peerPub : PublicKey) :
    (client.handleRekeyInit active peerPub).vars.terminated = true ∨
      (client.handleRekeyInit active peerPub).AwaitsRekeyKeyPair := by
  unfold handleRekeyInit
  rw [if_neg (not_not_intro isJoiner)]
  simp only
  split
  · refine .inl ?_
    rw [finishHandler_vars, terminate_terminated]
  · exact .inr (.inr (.inl (by simp [handlerAt, await, Handler.stage])))

/-- A send that the checks refuse changes nothing of the session. -/
theorem runRelaySendTask_refused
    {task : SendTask}
    (live : client.vars.terminated = false)
    (refused : client.mayAttemptSend = false) :
    client.runRelaySendTask task = client.settleSend task.continuation false := by
  unfold runRelaySendTask
  rw [if_neg (Bool.eq_false_iff.mp live)]
  unfold mayAttemptSend at refused
  split
  · rename_i socket active isSocket isActive
    rw [isSocket, isActive] at refused
    rw [if_pos (of_decide_eq_false refused)]
  · rfl

/-- After a refused rekey frame the session stays in its rekey. -/
theorem RefusesRekeyFrame.strands
    (refuses : client.RefusesRekeyFrame input)
    (isRekeying : client.signals.sessionState = .rekeying)
    (oldKey : CryptoKey) :
    ¬(machine.step client input).Unstranded oldKey := by
  obtain ⟨live, refused, task, starts, opensRekey⟩ := refuses
  obtain ⟨jobs, queue, stepEq⟩ := step_of_startedSend starts
  generalize freshEq :
    ({ client with
        out := []
        page.oracle := input.oracle
        jobs := jobs
        outbound.queue := queue } : Client) = fresh at stepEq
  have sameLive : fresh.vars.terminated = false := by rw [← freshEq]; exact live
  have sameState : fresh.signals.sessionState = .rekeying := by rw [← freshEq]; exact isRekeying
  have isRefused : fresh.mayAttemptSend = false := by rw [← freshEq]; exact refused
  rw [runRelaySendTask_refused sameLive isRefused] at stepEq
  rw [stepEq]
  rintro (ended | ⟨notRekeying, -⟩)
  · rw [settleSend_vars, sameLive] at ended
    cases ended
  · exact notRekeying ((congrArg Signals.sessionState (settleSend_state _ _ _)).trans sameState)

/--
In every run in which the checks before a send refuse no rekey frame, a rekey
function that ends without having handed its frame to the connection ends the
session.  A frame that they do refuse strands the session.
-/
theorem unsent_rekey_ends_session (client : Client) :
    (∀ before input after,
      Booted client →
      machine.Legal rekeyFramesTried client (before ++ [input]) →
      (machine.run client before).EndsRekeyUnsent input →
      machine.Legal sameLife (machine.run client (before ++ [input])) after →
      ∀ oldKey, (machine.run client (before ++ [input] ++ after)).Unstranded oldKey) ∧
    (∀ active origin,
      client.vars.terminated = false →
      client.vars.rekeyInFlight = false →
      client.signals.sessionState ≠ .rekeying →
      client.vars.internal.context? = some active →
      active.role = .initiator →
      (client.startRekeyIfInitiator origin).vars.terminated = true ∨
        (client.startRekeyIfInitiator origin).AwaitsRekeyKeyPair) ∧
    (∀ active peerPub,
      active.role = .joiner →
      (client.handleRekeyInit active peerPub).vars.terminated = true ∨
        (client.handleRekeyInit active peerPub).AwaitsRekeyKeyPair) ∧
    (∀ input oldKey,
      client.RefusesRekeyFrame input →
      client.signals.sessionState = .rekeying →
      ¬(machine.step client input).Unstranded oldKey) := by
  refine ⟨?_, ?_, ?_, ?_⟩
  · rintro before input after booted legal ends sameLife oldKey
    obtain ⟨-, -, isTried, -⟩ := EventMachine.Machine.legal_append.mp legal
    have reachable := EventMachine.Machine.Reachable.run (.start booted)
      (legal.mono fun _ _ _ => trivial)
    have ended : (machine.run client (before ++ [input])).vars.terminated = true := by
      rw [EventMachine.Machine.run_append]
      exact ends.terminated isTried
    rw [EventMachine.Machine.run_append]
    exact .inl (run_of_terminated (phase_of_reachable reachable) ended sameLife).2.1
  · exact fun active origin live idle notRekeying isActive isInitiator =>
      startRekeyIfInitiator_goes_on live idle notRekeying isActive isInitiator origin
  · exact fun active peerPub isJoiner => handleRekeyInit_goes_on client isJoiner peerPub
  · exact fun input oldKey refuses isRekeying => refuses.strands isRekeying oldKey

/-- The peer upgraded as well, and the initiator's key pair is being generated. -/
def rekeyBegun : List Input :=
  establish peerPublicKey ++ upgradeAlone 7 ++
    [ plain (.socketFrame (.relay peerUpgraded)),
      plain .job,
      plain .decrypted ]

/-- The socket throws when the rekey frame is handed to it. -/
theorem unsent_rekey_ends_session_thrown :
    ∀ oldKey,
      (machine.run freshPage
        (rekeyBegun ++ [plain (.rekeyKeygen true), plain .job] ++
          [plain (.sendSettled .sendThrew)] ++ [plain .job])).Unstranded oldKey :=
  (unsent_rekey_ends_session freshPage).1 (rekeyBegun ++ [plain (.rekeyKeygen true), plain .job])
    (plain (.sendSettled .sendThrew)) [plain .job] ⟨0, 0, 0, none, id, rfl⟩ (by decide +kernel)
    (.notHanded
      (((machine.run freshPage
        (rekeyBegun ++ [plain (.rekeyKeygen true), plain .job])).outbound.sending).get
          (by decide +kernel))
      .sendThrew (Option.some_get _).symm (by decide +kernel) rfl (by decide))
    (by decide +kernel)

/-- The rekey frame meets a connection that has too much buffered. -/
theorem refused_rekey_strands_session :
    ¬∀ (client : Client) before input after,
        Booted client →
        machine.Legal EventMachine.Machine.anyStep client (before ++ [input]) →
        (machine.run client before).EndsRekeyUnsent input →
        machine.Legal sameLife (machine.run client (before ++ [input])) after →
        ∀ oldKey, (machine.run client (before ++ [input] ++ after)).Unstranded oldKey := by
  intro claimed
  have unstranded :=
    claimed freshPage
      (rekeyBegun ++
        [plain (.socketBuffered (bufferThresholdBytes + 1)), plain (.rekeyKeygen true)])
      (plain .job) [plain .job] ⟨0, 0, 0, none, id, rfl⟩ (by decide +kernel)
      (.notEncrypting
        ⟨.rekeyInit, .publicKey ⟨0, 1⟩, .modeFrameEncryptFailed, .handlerDone⟩
        (by rfl) rfl (by decide +kernel))
      (by decide +kernel) ⟨establishedKey, true⟩
  rcases unstranded with ended | ⟨notRekeying, -⟩
  · revert ended
    decide +kernel
  · exact notRekeying (by decide +kernel)

end Client

end Unseen
