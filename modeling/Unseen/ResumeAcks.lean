import Unseen.History
import Unseen.SessionMoves

namespace Unseen

/-!
# The resume ack of a survivor

A survivor that accepts the resume envelope of its peer queues a resume ack and
reports ACTIVE when the send has settled, whatever became of it.  `Answers`
remembers of a run over which connection the accepted envelope came, what became
of the ack and whether the peer was reported lost in between.

`mayDisturb` lists what can come between: the serializer refuses the ack or
finds another connection, the connection goes while the ack is encrypted, the
peer is lost again, or work that was suspended earlier writes a state.
-/

theorem Standing.episode_sends (standing : Standing) :
    standing.episode.sending = standing.sending ∧ standing.episode.acks = standing.acks := by
  unfold episode
  split <;> exact ⟨rfl, rfl⟩

/-- The continuation of a resume ack. -/
def SendCont.isAck : SendCont → Bool
  | .resumeAck => true
  | _ => false

theorem SendCont.eq_of_isAck
    {continuation : SendCont}
    (isAck : continuation.isAck = true) : continuation = .resumeAck := by
  cases continuation <;> first | rfl | cases isAck

/-- The connection a relay frame was handed to. -/
def Act.relayedOver? : Act → Option Nat
  | .wire gen (.relay _) => some gen
  | _ => none

/-- What became of the answer to an accepted resume envelope. -/
structure Answer where
  /-- the connection over which the envelope came -/
  heardOver : Option Nat
  /-- the connection to which the ack was handed -/
  handedTo : Option Nat
  peerLost : Bool

/-- What a run remembers of the frames it received and of the answer it owes. -/
structure Answers where
  /-- the connections over which the queued frames came -/
  queued : List (Option Nat)
  /-- the connection over which the frame in hand came -/
  inHand : Option Nat
  pending : Option Answer

/-- Nothing was received yet. -/
def Answers.none : Answers where
  queued := []
  inHand := .none
  pending := .none

/-- Change the pending answer. -/
def Answers.update (answers : Answers) (change : Answer → Answer) : Answers :=
  { answers with pending := answers.pending.map change }

namespace Client

/-- A frame is accepted that carries a resume envelope. -/
def acceptsResume (client : Client) (input : Input) : Bool :=
  match input.event, client.inbound.handler with
  | .decrypted, some (.decrypting frame mode state mirror) =>
      !client.vars.terminated && frame.kind = .msg &&
        client.signals.sessionState = .peerReconnecting &&
          match (decryptIncoming (mirror.map setCounterRecv) (client.fresh input) state
              frame.nonce frame.ciphertext mode).2.2 with
          | .ok (.resume _) _ => true
          | _ => false
  | _, _ => false

/-- The send of a resume ack is encrypting. -/
def sendsAck (client : Client) : Bool :=
  client.outbound.sending.any fun flight => flight.task.continuation.isAck

/-- The handler that awaited the send of its resume ack goes on. -/
def resumesAck (client : Client) (input : Input) : Bool :=
  match input.event, client.jobs with
  | .job, .settle .resumeAck _ :: _ => true
  | _, _ => false

/-- The record of the frames received and of the answer that is owed. -/
def recordAnswer (answers : Answers) (client : Client) (input : Input) : Answers :=
  match input.event with
  | .reload => .none
  | .socketFrame .peerDisconnected =>
      answers.update fun answer => { answer with peerLost := true }
  | .socketFrame (.handshake _) | .socketFrame (.relay _) =>
      if client.vars.terminated then
        answers
      else
        { answers with queued := answers.queued ++ [client.link.socket.map Socket.gen] }
  | .decrypted =>
      if client.acceptsResume input then
        { answers with
          pending := some { heardOver := answers.inHand, handedTo := none, peerLost := false } }
      else
        answers
  | .sendSettled _ =>
      if client.sendsAck then
        answers.update fun answer =>
          { answer with
            handedTo := (machine.step client input).out.findSome? Act.relayedOver? }
      else
        answers
  | .job =>
      match client.jobs with
      | .inboundNext :: _ =>
          { answers with queued := answers.queued.tail, inHand := answers.queued.head?.join }
      | .settle .resumeAck _ :: _ => { answers with pending := none }
      | _ => answers
  | _ => answers

/-- A client with its record of the frames received and of the answer that is owed. -/
def answeringMachine : EventMachine.Machine (Client × Answers) Input :=
  machine.remember recordAnswer

/-- The connection over which the encrypting send was started is open. -/
def flightIsOpen (client : Client) : Bool :=
  client.link.socket.any fun socket =>
    socket.readyState = .opened &&
      client.outbound.sending.any fun flight => flight.gen = socket.gen

/-- What comes between an accepted resume envelope and the handing over of its ack. -/
def mayDisturb (client : Client) (answer : Answer) (input : Input) : Bool :=
  match input.event with
  | .socketFrame .peerDisconnected => true
  | .sendSettled .sent => client.sendsAck && !client.flightIsOpen
  | _ =>
      (client.wakes input && !client.resumesAck input) ||
        (client.startedSend input).any fun task =>
          task.continuation.isAck &&
            !(client.mayAttemptSend &&
              client.link.socket.map Socket.gen == answer.heardOver)

/-- In a live session nothing disturbs the answer that is owed. -/
def undisturbedAnswer (remembered : Client × Answers) (input : Input) : Prop :=
  ∀ answer ∈ remembered.2.pending,
    remembered.1.vars.terminated = false →
      input.event ≠ .reload → remembered.1.mayDisturb answer input = false

instance (remembered : Client × Answers) (input : Input) :
    Decidable (undisturbedAnswer remembered input) :=
  match pending : remembered.2.pending with
  | none => isTrue (by simp [undisturbedAnswer, pending])
  | some answer =>
      decidable_of_iff
        (remembered.1.vars.terminated = true ∨ input.event.isReload = true ∨
          remembered.1.mayDisturb answer input = false)
        (by
          have reloads : input.event.isReload = true ↔ input.event = .reload := by
            cases input.event <;> simp [Event.isReload]
          simp only [undisturbedAnswer, pending, Option.mem_some_iff, forall_eq', reloads]
          cases remembered.1.vars.terminated <;> simp
          tauto)

/-! ## The wait for the ack -/

/-- A live survivor whose frame handler waits for the send of its resume ack. -/
structure Answering (client : Client) (answer : Answer) : Prop where
  parked : client.inbound.handler = some .sending
  onlyAck : ∀ continuation ∈ client.waiters, continuation = .resumeAck
  away : client.standing.state ≠ .active
  peerKept : answer.peerLost = false
  flying :
    ∀ flight ∈ client.standing.sending,
      flight.task.continuation = .resumeAck → answer.heardOver = some flight.gen
  handed :
    ∀ sent ∈ client.standing.acks,
      sent = true ∧ ∃ gen, answer.heardOver = some gen ∧ answer.handedTo = some gen

/-- The answer that a live survivor owes. -/
def Owes (remembered : Client × Answers) : Prop :=
  ∀ answer ∈ remembered.2.pending,
    remembered.1.vars.terminated = false → Answering remembered.1 answer

section

variable {client : Client}

theorem flushMirror_waiters (mirror : MirrorId) (change : StoredSession → StoredSession) :
    (client.flushMirror mirror change).1.waiters = client.waiters := by
  unfold flushMirror writeRecord
  simp only
  split
  · split
    · rfl
    · split <;> rfl
  · rfl

/-- Queueing a send adds its continuation to the pending ones. -/
theorem mem_waiters_sendEncoded
    {envelope : PlaintextEnvelope}
    {continuation waiter : SendCont}
    (member : waiter ∈ (client.sendEncoded envelope continuation).waiters) :
    waiter ∈ client.waiters ∨ waiter = continuation := by
  unfold sendEncoded at member
  split at member
  · exact .inl member
  · rename_i plaintext _
    have queued (busy : Bool) :
        waiter ∈
            ({ client with
              outbound.queue := client.outbound.queue ++
                [{ kind := .msg, plaintext, encryptFailReason := .encryptFailed, continuation }]
              outbound.busy := busy } : Client).waiters →
          waiter ∈ client.waiters ∨ waiter = continuation := by
      simp only [waiters, List.map_append, List.filter_append, List.mem_append]
      rintro (settled | (waits | isTask) | sending)
      · exact .inl (.inl settled)
      · exact .inl (.inr (.inl waits))
      · exact .inr (List.mem_singleton.mp (List.mem_filter.mp isTask).1)
      · exact .inl (.inr (.inr sending))
    unfold enqueueRelaySend at member
    simp only at member
    split at member
    · exact queued _ member
    · rw [waiters_schedule _ _ (by simp [Job.cont?])] at member
      exact queued true member

/-- An accepted resume envelope is answered. -/
theorem step_of_acceptsResume
    {input : Input}
    (accepts : client.acceptsResume input = true) :
    ∃ (stored : Client) (id : Draw),
      machine.step client input =
          (stored.sendEncoded (.resumeAck id) .resumeAck).await .sending ∧
        stored.waiters = client.waiters ∧
        stored.standing = (client.fresh input).standing ∧
        client.standing.state = .peerReconnecting := by
  unfold acceptsResume at accepts
  split at accepts
  · rename_i frame mode state mirror isDecrypted running
    simp only [Bool.and_eq_true, Bool.not_eq_true', decide_eq_true_eq] at accepts
    obtain ⟨⟨⟨live, isMessage⟩, isWaiting⟩, decrypts⟩ := accepts
    have untouched :
        (client.fresh input).waiters = client.waiters ∧
          (client.fresh input).standing = (client.fresh input).standing := ⟨rfl, rfl⟩
    have persisted :=
      decryptIncoming_store (mirror.map setCounterRecv)
        (fun other =>
          other.waiters = client.waiters ∧ other.standing = (client.fresh input).standing)
        (by
          intro persist member store counter same
          obtain ⟨held, -, rfl⟩ := Option.map_eq_some_iff.mp member
          exact
            ⟨(flushMirror_waiters held _).trans same.1,
              (flushMirror_standing store held _).trans same.2⟩)
        state frame.nonce frame.ciphertext mode untouched
    have handled :
        machine.step client input =
          (client.fresh input).messageDecrypted frame mode state mirror := by
      change (client.fresh input).handle input.event = _
      rw [isDecrypted]
      simp only [handle, fresh, running, frameDecrypted, isMessage]
    rw [handled]
    unfold messageDecrypted
    generalize decryptIncoming (mirror.map setCounterRecv) (client.fresh input) state
      frame.nonce frame.ciphertext mode = settled at persisted decrypts
    obtain ⟨stored, recvState, result⟩ := settled
    simp only at persisted decrypts
    split at decrypts
    · rename_i id counter
      have stillLive : stored.vars.terminated = false :=
        (congrArg Standing.ended persisted.2).trans live
      have stillWaiting : stored.signals.sessionState = .peerReconnecting :=
        (congrArg Standing.state persisted.2).trans isWaiting
      refine ⟨(stored.updateActive fun context =>
          { context with counterRecv := recvState.counterRecv }).act
            (.accept state.sessionKey counter .msg (.envelope (.resume id))), id, ?_, ?_, ?_, isWaiting⟩
      · simp [stillLive, stillWaiting, handleEnvelope, Client.act, updateActive]
      · exact persisted.1
      · rw [act_standing, updateActive_standing, persisted.2]
        simp [Act.isExhaustion]
    · cases decrypts
  · cases accepts

theorem enqueueInbound_waiters (task : InboundTask) :
    (client.enqueueInbound task).inbound.handler = client.inbound.handler ∧
      (client.enqueueInbound task).waiters = client.waiters := by
  unfold enqueueInbound
  simp only
  split
  · exact ⟨rfl, rfl⟩
  · exact ⟨rfl, waiters_schedule _ _ (by simp [Job.cont?])⟩

/-- A handler that awaits the send of its resume ack is resumed by nothing else. -/
theorem step_of_parked
    (chain : Chain client)
    (parked : client.inbound.handler = some .sending)
    (onlyAck : ∀ continuation ∈ client.waiters, continuation = .resumeAck)
    {input : Input}
    (isEnabled : machine.enabled client input)
    (notReload : input.event ≠ .reload)
    (notResumed : client.resumesAck input = false) :
    (machine.step client input).inbound.handler = some .sending ∧
      ∀ continuation ∈ (machine.step client input).waiters, continuation = .resumeAck := by
  have settled : Settled (fun _ => True) (client.fresh input) := by
    rcases chain.phase with offline | settled
    · rw [offline.handler] at parked
      cases parked
    · exact { settled with }
  have beside
      (aside : AsideFrame (client.fresh input) (machine.step client input)) :
      (machine.step client input).inbound.handler = some .sending ∧
        ∀ continuation ∈ (machine.step client input).waiters, continuation = .resumeAck :=
    ⟨aside.handler.trans parked,
      fun continuation member => onlyAck continuation (aside.waiters.subset member)⟩
  have elsewhere {stage : HandlerStage} (awaits : client.handlerAt stage = true) :
      stage = .sending := by
    obtain ⟨handler, running, isStage⟩ := Settled.awaiting awaits
    obtain rfl := Option.some.inj (running.symm.trans parked)
    exact isStage.symm
  obtain ⟨event, browser⟩ := input
  by_cases chained : event.isChain = true
  · cases event with
    | job =>
        refine beside ?_
        cases jobsEq : client.jobs with
        | nil => simp [machine, enabled, canOccur, jobsEq] at isEnabled
        | cons job rest =>
            refine AsideFrame.runJob (client.fresh _) jobsEq ?_ ?_
            · by_contra starts
              have idle : client.inbound.handler = none := by
                apply settled.starting
                change client.starts ≠ 0
                rw [Client.starts, jobsEq, List.countP_cons_of_pos (by simpa using starts)]
                exact Nat.succ_ne_zero _
              rw [parked] at idle
              cases idle
            · intro continuation isNext
              by_contra waits
              cases job with
              | settle pending sent =>
                  obtain rfl := Option.some.inj isNext
                  have isAck : pending = .resumeAck := by
                    apply onlyAck
                    simp [waiters, jobsEq, Job.cont?, show pending.waits = true by simpa using waits]
                  simp [resumesAck, jobsEq, isAck] at notResumed
              | _ => cases isNext
    | socketFrame frame =>
        have queues (task : InboundTask) :
            ((client.fresh ⟨.socketFrame frame, browser⟩).enqueueInbound task).inbound.handler =
                some .sending ∧
              ∀ continuation ∈
                ((client.fresh ⟨.socketFrame frame, browser⟩).enqueueInbound task).waiters,
                continuation = .resumeAck := by
          obtain ⟨sameHandler, sameWaiters⟩ :=
            (client.fresh ⟨.socketFrame frame, browser⟩).enqueueInbound_waiters task
          rw [sameHandler, sameWaiters]
          exact ⟨parked, onlyAck⟩
        change
          ((client.fresh _).handleServerFrame frame).inbound.handler = some .sending ∧
            ∀ continuation ∈ ((client.fresh _).handleServerFrame frame).waiters, _
        unfold handleServerFrame
        split
        · exact ⟨parked, onlyAck⟩
        · cases frame with
          | handshake ciphertext => exact queues _
          | relay relayFrame => exact queues _
          | _ => cases chained
    | handshakeDerived ok => cases elsewhere (Bool.and_eq_true_iff.mp isEnabled).2
    | decrypted => cases elsewhere (Bool.and_eq_true_iff.mp isEnabled).2
    | rekeyKeygen ok => cases elsewhere (Bool.and_eq_true_iff.mp isEnabled).2
    | rekeyInitDerived outcome => cases elsewhere (Bool.and_eq_true_iff.mp isEnabled).2
    | rekeyAckDerived ok => cases elsewhere (Bool.and_eq_true_iff.mp isEnabled).2
    | commitWrapped ok => cases elsewhere (Bool.and_eq_true_iff.mp isEnabled).2
    | _ => cases chained
  · refine beside (handle_aside settled.armed isEnabled (by simpa using chained) ?_ ?_ notReload)
    · rintro granted rfl
      have requested : client.vars.claim = .requested := by
        simpa using (Bool.and_eq_true_iff.mp isEnabled).2
      exact settled.connected.1 requested
    · rintro outcome rfl
      have attempting : client.vars.resumeAttempt = true := by
        simpa using (Bool.and_eq_true_iff.mp isEnabled).2
      exact absurd attempting (Bool.eq_false_iff.mp settled.connected.2.1)

theorem mem_conts_of_mem_acks
    {sent : Bool}
    (member : sent ∈ client.standing.acks) :
    SendCont.resumeAck ∈ (client.jobs.filterMap Job.cont?).filter SendCont.waits := by
  obtain ⟨job, isJob, isAckJob⟩ := List.mem_filterMap.mp member
  refine List.mem_filter.mpr ⟨List.mem_filterMap.mpr ⟨job, isJob, ?_⟩, rfl⟩
  cases job with
  | settle continuation sent => cases continuation <;> first | rfl | cases isAckJob
  | _ => cases isAckJob

/-- While a resume ack is sent no result of one is still to be handled. -/
theorem acks_of_sendsAck
    (serial : Serial client)
    (sends : client.sendsAck = true) : client.standing.acks = [] := by
  obtain ⟨flight, isSending, isAck⟩ := (Option.any_eq_true _ _).mp sends
  have one := serial.waits
  rw [waiters, isSending, Option.map_some, SendCont.eq_of_isAck isAck] at one
  have noJob : (client.jobs.filterMap Job.cont?).filter SendCont.waits = [] := by
    refine List.eq_nil_of_length_eq_zero ?_
    simp only [List.length_append, Option.toList_some, List.filter_cons, SendCont.waits,
      ↓reduceIte, List.filter_nil, List.length_singleton] at one
    omega
  refine List.eq_nil_iff_forall_not_mem.mpr fun sent member => ?_
  have waits := mem_conts_of_mem_acks member
  rw [noJob] at waits
  cases waits

theorem ack?_settle (continuation : SendCont) (sent : Bool) :
    (Job.settle continuation sent).ack? = if continuation.isAck then some sent else none := by
  cases continuation <;> rfl

/-- The frame of a send is handed to its connection if that is still open. -/
theorem relayedOver_of_sent
    {flight : InFlight}
    (isSending : client.outbound.sending = some flight)
    (isOpen : client.flightIsOpen = true)
    (browser : Oracle) :
    (machine.step client ⟨.sendSettled .sent, browser⟩).out.findSome? Act.relayedOver? =
      some flight.gen := by
  have stepEq :
      machine.step client ⟨.sendSettled .sent, browser⟩ =
        (client.fresh ⟨.sendSettled .sent, browser⟩).sendSettled flight .sent := by
    change (client.fresh _).handle (.sendSettled .sent) = _
    simp only [handle, fresh, isSending]
  unfold flightIsOpen at isOpen
  rw [isSending] at isOpen
  cases isSocket : client.link.socket with
  | none =>
      rw [isSocket] at isOpen
      cases isOpen
  | some socket =>
      simp only [isSocket, Option.any_some, Bool.and_eq_true, decide_eq_true_eq] at isOpen
      rw [stepEq]
      simp only [sendSettled, sendOn, fresh, isSocket, isOpen.1, isOpen.2.symm, and_self, ↓reduceIte]
      unfold settleSend
      split <;> rfl

theorem startedSend_of_isNext
    {input : Input}
    {task : SendTask}
    (isNext :
      (client.fresh input).jobs.head? = some .outboundNext ∧
        (client.fresh input).outbound.queue.head? = some task)
    {browser : Oracle} : client.startedSend ⟨.job, browser⟩ = some task := by
  obtain ⟨rest, jobsEq⟩ := List.head?_eq_some_iff.mp isNext.1
  simp only [startedSend, show client.jobs = .outboundNext :: rest from jobsEq]
  exact isNext.2

/-- The answer after the send of its ack has settled. -/
theorem recordAnswer_settled
    {answers : Answers}
    {answer : Answer}
    (pending : answers.pending = some answer)
    {input : Input}
    {outcome : SendOutcome}
    (isSettled : input.event = .sendSettled outcome)
    (sends : client.sendsAck = true) :
    (recordAnswer answers client input).pending =
      some
        { answer with
          handedTo := (machine.step client input).out.findSome? Act.relayedOver? } := by
  simp only [recordAnswer, isSettled, sends, ↓reduceIte, Answers.update, pending, Option.map_some]

namespace Answering

variable {answer : Answer}

/-- What a step must keep so that the survivor still waits for its ack. -/
theorem keep
    {after : Client}
    (answering : Answering client answer)
    (parked : after.inbound.handler = some .sending)
    (onlyAck : ∀ continuation ∈ after.waiters, continuation = .resumeAck)
    (away : after.standing.state ≠ .active)
    (sending : after.standing.sending = client.standing.sending)
    (acks : after.standing.acks = client.standing.acks) : Answering after answer where
  parked := parked
  onlyAck := onlyAck
  away := away
  peerKept := answering.peerKept
  flying := by rw [sending]; exact answering.flying
  handed := by rw [acks]; exact answering.handed

/-- Nothing but the settling of its send changes what is known of the answer. -/
theorem recorded
    (answering : Answering client answer)
    {answers : Answers}
    (pending : answers.pending = some answer)
    {input : Input}
    (notReload : input.event ≠ .reload)
    (notResumed : client.resumesAck input = false)
    (undisturbed : client.mayDisturb answer input = false)
    (notSettled : ∀ outcome, input.event = .sendSettled outcome → client.sendsAck = false) :
    (recordAnswer answers client input).pending = some answer := by
  obtain ⟨event, browser⟩ := input
  cases event with
  | reload => exact absurd rfl notReload
  | job =>
      simp only [recordAnswer]
      split
      · exact pending
      · rename_i sent rest jobsEq
        simp [resumesAck, jobsEq] at notResumed
      · exact pending
  | socketFrame frame =>
      cases frame with
      | peerDisconnected => cases undisturbed
      | handshake ciphertext | relay relayFrame =>
          simp only [recordAnswer]
          split <;> exact pending
      | _ => exact pending
  | decrypted =>
      have refuses : client.acceptsResume ⟨.decrypted, browser⟩ = false := by
        simp [acceptsResume, answering.parked]
      simp only [recordAnswer, refuses, Bool.false_eq_true, ↓reduceIte]
      exact pending
  | sendSettled outcome =>
      simp only [recordAnswer, notSettled outcome rfl, Bool.false_eq_true, ↓reduceIte]
      exact pending
  | _ => exact pending

/-- A send has settled; if it was the ack, it was handed to the peer's connection. -/
theorem sent
    (answering : Answering client answer)
    {flight : InFlight}
    (wasSending : client.standing.sending = some flight)
    {after : Client}
    (away : after.standing.state ≠ .active)
    (landed : after.standing.sending = none)
    (acks :
      after.standing.acks =
        client.standing.acks ++ (Job.settle flight.task.continuation true).ack?.toList)
    (parked : after.inbound.handler = some .sending)
    (onlyAck : ∀ continuation ∈ after.waiters, continuation = .resumeAck)
    {answers : Answers}
    (pending : answers.pending = some answer)
    {browser : Oracle}
    (undisturbed : client.mayDisturb answer ⟨.sendSettled .sent, browser⟩ = false)
    (serial : client.sendsAck = true → client.standing.acks = []) :
    ∃ later,
      (recordAnswer answers client ⟨.sendSettled .sent, browser⟩).pending = some later ∧
        Answering after later := by
  have isSending : client.outbound.sending = some flight := wasSending
  cases sends : client.sendsAck with
  | false =>
      have notAck : flight.task.continuation.isAck = false := by
        simpa [sendsAck, isSending] using sends
      exact
        ⟨answer, answering.recorded pending (by simp) rfl undisturbed fun _ _ => sends,
          { parked, onlyAck, away, peerKept := answering.peerKept
            flying := by simp [landed]
            handed := by simpa [acks, ack?_settle, notAck] using answering.handed }⟩
  | true =>
      have isOpen : client.flightIsOpen = true := by
        simpa [mayDisturb, sends] using undisturbed
      have isAck : flight.task.continuation = .resumeAck :=
        SendCont.eq_of_isAck (by simpa [sendsAck, isSending] using sends)
      refine
        ⟨_, recordAnswer_settled pending rfl sends,
          { parked, onlyAck, away, peerKept := answering.peerKept
            flying := by simp [landed]
            handed := ?_ }⟩
      rw [acks, serial sends, isAck]
      rintro sent isSent
      obtain rfl := List.mem_singleton.mp isSent
      exact
        ⟨rfl, flight.gen, answering.flying flight wasSending isAck,
          relayedOver_of_sent isSending isOpen browser⟩

/-- A survivor that waits for its ack waits on, unless its session ends. -/
theorem step
    (answering : Answering client answer)
    {allowed : Client → Input → Prop}
    (reachable : machine.Reachable Booted allowed client)
    (live : client.vars.terminated = false)
    {answers : Answers}
    (pending : answers.pending = some answer)
    {input : Input}
    (isEnabled : machine.enabled client input)
    (notReload : input.event ≠ .reload)
    (notResumed : client.resumesAck input = false)
    (undisturbed : client.mayDisturb answer input = false) :
    (machine.step client input).vars.terminated = true ∨
      ∃ later,
        (recordAnswer answers client input).pending = some later ∧
          Answering (machine.step client input) later := by
  have chain := Chain.of_reachable reachable
  obtain ⟨parked, onlyAck⟩ :=
    step_of_parked chain answering.parked answering.onlyAck isEnabled notReload notResumed
  have recorded := answering.recorded pending notReload notResumed undisturbed
  have serial : client.sendsAck = true → client.standing.acks = [] := by
    rcases chain.phase with offline | settled
    · have handler := answering.parked
      rw [offline.handler] at handler
      cases handler
    · exact acks_of_sendsAck settled.toSerial
  -- a step that is no settled send keeps the answer
  have keeps
      (notSettled : ∀ outcome, input.event = .sendSettled outcome → client.sendsAck = false)
      (away : (machine.step client input).standing.state ≠ .active)
      (sending : (machine.step client input).standing.sending = client.standing.sending)
      (acks : (machine.step client input).standing.acks = client.standing.acks) :
      ∃ later,
        (recordAnswer answers client input).pending = some later ∧
          Answering (machine.step client input) later :=
    ⟨answer, recorded notSettled, answering.keep parked onlyAck away sending acks⟩
  have other {standing : Standing}
      (notSettled : ∀ outcome, input.event ≠ .sendSettled outcome)
      (isStanding : (machine.step client input).standing = standing)
      (away : standing.state ≠ .active)
      (sending : standing.sending = client.standing.sending)
      (acks : standing.acks = client.standing.acks) :
      ∃ later,
        (recordAnswer answers client input).pending = some later ∧
          Answering (machine.step client input) later := by
    subst isStanding
    exact keeps (fun outcome isSettled => absurd isSettled (notSettled outcome)) away sending acks
  have waitsOn : ∀ stage, client.handlerAt stage = true → stage = .sending := by
    intro stage awaits
    obtain ⟨handler, running, isStage⟩ := Settled.awaiting awaits
    obtain rfl := Option.some.inj (running.symm.trans answering.parked)
    exact isStage.symm
  rcases step_moves reachable live isEnabled notReload with (same | ⟨ended, -⟩) | moved | ⟨wakes, -⟩
  · refine .inr ?_
    have away : (machine.step client input).standing.state ≠ .active := by
      rw [same]
      exact answering.away
    have sending : (machine.step client input).standing.sending = client.standing.sending := by
      rw [same]
      rfl
    have acks : (machine.step client input).standing.acks = client.standing.acks := by
      rw [same]
      rfl
    cases sends : client.sendsAck with
    | false => exact keeps (fun _ _ => sends) away sending acks
    | true =>
        by_cases settles : ∃ outcome, input.event = .sendSettled outcome
        · obtain ⟨outcome, isSettled⟩ := settles
          exact
            ⟨_, recordAnswer_settled pending isSettled sends,
              { answering.keep parked onlyAck away sending acks with
                handed := by rw [acks, serial sends]; simp }⟩
        · exact keeps (fun outcome isSettled => absurd ⟨outcome, isSettled⟩ settles) away sending acks
  · exact .inl ended
  · obtain ⟨event, browser⟩ := input
    cases moved with
    | refused task isNext refuses isStanding =>
        have starts : client.startedSend ⟨.job, browser⟩ = some task := startedSend_of_isNext isNext
        have notAck : task.continuation.isAck = false := by
          by_contra isAck
          have tried : client.mayAttemptSend = true := by
            simp only [mayDisturb, starts, Option.any_some, Bool.or_eq_false_iff] at undisturbed
            simp_all
          exact absurd tried (Bool.eq_false_iff.mp refuses)
        refine .inr (other nofun isStanding answering.away rfl ?_)
        simp [ack?_settle, notAck]
    | started flight isNext isGen isOpen isStanding =>
        have starts : client.startedSend ⟨.job, browser⟩ = some flight.task :=
          startedSend_of_isNext isNext
        refine
          .inr ⟨answer, recorded nofun,
            { parked, onlyAck, peerKept := answering.peerKept
              away := by rw [isStanding]; exact answering.away
              flying := ?_
              handed := by rw [isStanding]; exact answering.handed }⟩
        rw [isStanding]
        rintro _ ⟨⟩ isAck
        have isCurrent : client.link.socket.map Socket.gen = answer.heardOver := by
          simp only [mayDisturb, starts, Option.any_some, Bool.or_eq_false_iff] at undisturbed
          simp_all [SendCont.isAck]
        exact isCurrent.symm.trans isGen
    | sent flight wasSending isStanding =>
        have away : (machine.step client ⟨.sendSettled .sent, browser⟩).standing.state ≠ .active := by
          rw [isStanding]
          exact answering.away
        exact
          .inr
            (answering.sent wasSending away (by rw [isStanding]) (by rw [isStanding]; rfl) parked
              onlyAck pending undisturbed serial)
    | opened isStanding => exact .inr (other nofun isStanding answering.away rfl rfl)
    | closing isStanding => exact .inr (other nofun isStanding answering.away rfl rfl)
    | closedHiding finishes isStanding => exact .inr (other nofun isStanding answering.away rfl rfl)
    | hidden isStanding => exact .inr (other nofun isStanding answering.away rfl rfl)
    | upgrading wasActive isStanding => exact absurd wasActive answering.away
    | resumed resumes => cases waitsOn _ (Bool.and_eq_true_iff.mp isEnabled).2
    | established isStanding => cases waitsOn _ (Bool.and_eq_true_iff.mp isEnabled).2
    | handshaking wasWaiting isStanding => exact .inr (other nofun isStanding nofun rfl rfl)
    | named notResuming isStanding => exact .inr (other nofun isStanding nofun rfl rfl)
    | peerLost wasActive isStanding => cases undisturbed
    | reopened gen wasCreating isStanding => exact .inr (other nofun isStanding nofun rfl rfl)
    | closed delay retries isDelay isStanding =>
        obtain ⟨sending, acks⟩ := (client.fresh ⟨_, browser⟩).standing.episode_sends
        exact .inr (other nofun isStanding nofun sending acks)
    | givenUp retries noDelay isEnded => exact .inl isEnded
    | attempted gen isStanding => exact .inr (other nofun isStanding answering.away rfl rfl)
    | restored isStanding => exact .inr (other nofun isStanding nofun rfl rfl)
    | elapsed ms isStanding => exact .inr (other nofun isStanding answering.away rfl rfl)
    | ended reason isEnded => exact .inl isEnded
    | connected gen isStanding => exact .inr (other nofun isStanding answering.away rfl rfl)
    | locked isStanding => exact .inr (other nofun isStanding nofun rfl rfl)
    | resumes gen isStanding => exact .inr (other nofun isStanding answering.away rfl rfl)
    | retried wasLocked isStanding => exact .inr (other nofun isStanding nofun rfl rfl)
  · have quiet : (client.wakes input && !client.resumesAck input) = false := by
      unfold mayDisturb at undisturbed
      split at undisturbed
      · cases undisturbed
      · rename_i isSettled
        simp [Client.wakes, isSettled] at wakes
      · exact (Bool.or_eq_false_iff.mp undisturbed).1
    rw [wakes, notResumed] at quiet
    cases quiet

end Answering

/-- A survivor that accepts a resume envelope waits for its ack. -/
theorem answering_of_acceptsResume
    (chain : Chain client)
    {input : Input}
    (accepts : client.acceptsResume input = true)
    (heardOver : Option Nat) :
    Answering (machine.step client input)
      { heardOver, handedTo := none, peerLost := false } := by
  obtain ⟨stored, id, stepEq, sameWaiters, sameStanding, isWaiting⟩ := step_of_acceptsResume accepts
  have noWaiters : client.waiters = [] := by
    unfold acceptsResume at accepts
    split at accepts
    · rename_i frame mode state mirror _ running
      rcases chain.phase with offline | settled
      · rw [offline.handler] at running
        cases running
      · refine (settled.toSerial.pending running fun isSending => ?_).1
        cases isSending
    · cases accepts
  have noJob : client.standing.acks = [] := by
    rw [waiters, List.append_eq_nil_iff] at noWaiters
    refine List.eq_nil_iff_forall_not_mem.mpr fun sent member => ?_
    have waits := mem_conts_of_mem_acks member
    rw [noWaiters.1] at waits
    cases waits
  have afterStanding : (machine.step client input).standing = (client.fresh input).standing := by
    rw [stepEq, await_standing, sendEncoded_standing, sameStanding]
  exact
    { parked := by rw [stepEq]; rfl
      onlyAck := by
        rw [stepEq]
        intro continuation member
        rcases mem_waiters_sendEncoded member with before | isAck
        · rw [sameWaiters, noWaiters] at before
          cases before
        · exact isAck
      away := by
        have stillWaiting : (client.fresh input).standing.state = .peerReconnecting := isWaiting
        rw [afterStanding, stillWaiting]
        intro isAway
        cases isAway
      peerKept := rfl
      flying := by
        rw [afterStanding]
        intro flight isSending isAck
        have sending : client.outbound.sending = some flight := isSending
        rw [waiters, sending, Option.map_some, isAck] at noWaiters
        simp [SendCont.waits] at noWaiters
      handed := by
        have noAck : (client.fresh input).standing.acks = [] := noJob
        rw [afterStanding, noAck]
        intro sent isHanded
        cases isHanded }

theorem recordAnswer_resumed
    {answers : Answers}
    {input : Input}
    (resumed : client.resumesAck input = true) :
    (recordAnswer answers client input).pending = none := by
  unfold resumesAck at resumed
  split at resumed
  · rename_i isJob jobsEq
    simp only [recordAnswer, isJob, jobsEq]
  · cases resumed

/-- An answer is first owed when a resume envelope is accepted. -/
theorem acceptsResume_of_recorded
    {answers : Answers}
    (idle : answers.pending = none)
    {input : Input}
    {later : Answer}
    (isPending : (recordAnswer answers client input).pending = some later) :
    client.acceptsResume input = true ∧
      later = { heardOver := answers.inHand, handedTo := none, peerLost := false } := by
  have unchanged (change : Answer → Answer) : (answers.update change).pending = none := by
    rw [Answers.update, idle, Option.map_none]
  have refuse {pending : Option Answer}
      (isNone : pending = none)
      (isSome : pending = some later) :
      client.acceptsResume input = true ∧
        later = { heardOver := answers.inHand, handedTo := none, peerLost := false } := by
    rw [isNone] at isSome
    cases isSome
  unfold recordAnswer at isPending
  split at isPending
  · cases isPending
  · exact refuse (unchanged _) isPending
  · split at isPending <;> exact refuse idle isPending
  · split at isPending <;> exact refuse idle isPending
  · split at isPending
    · rename_i accepts
      exact ⟨accepts, (Option.some.inj isPending).symm⟩
    · exact refuse idle isPending
  · split at isPending
    · exact refuse (unchanged _) isPending
    · exact refuse idle isPending
  · split at isPending
    · exact refuse idle isPending
    · cases isPending
    · exact refuse idle isPending
  · exact refuse idle isPending

/-- In every run in which nothing disturbs its answers a survivor owes them. -/
theorem owes_of_reachable
    {remembered : Client × Answers}
    (reachable :
      answeringMachine.Reachable (fun first => Booted first.1 ∧ first.2 = .none)
        undisturbedAnswer remembered) : Owes remembered := by
  induction reachable with
  | start booted =>
      intro answer isPending
      rw [booted.2] at isPending
      cases isPending
  | @next before input earlier isEnabled isAllowed inductionHypothesis =>
      obtain ⟨client, answers⟩ := before
      have reachable : machine.Reachable Booted EventMachine.Machine.anyStep client :=
        earlier.forget
      intro later isPending liveAfter
      by_cases reloads : input.event = .reload
      · have forgotten : (recordAnswer answers client input).pending = none := by
          simp only [recordAnswer, reloads, Answers.none]
        rw [show (answeringMachine.step (client, answers) input).2 =
          recordAnswer answers client input from rfl, forgotten] at isPending
        cases isPending
      · have live : client.vars.terminated = false := by
          refine Bool.eq_false_iff.mpr fun ended => ?_
          have stays := (step_calm (phase_of_reachable reachable) isEnabled reloads).stays ended
          exact absurd (stays.symm.trans liveAfter) (by decide)
        cases pending : answers.pending with
        | none =>
            obtain ⟨accepts, rfl⟩ := acceptsResume_of_recorded pending isPending
            exact answering_of_acceptsResume (Chain.of_reachable reachable) accepts _
        | some answer =>
            cases resumed : client.resumesAck input with
            | true =>
                rw [show (answeringMachine.step (client, answers) input).2 =
                  recordAnswer answers client input from rfl, recordAnswer_resumed resumed] at isPending
                cases isPending
            | false =>
                have answering := inductionHypothesis answer pending live
                have undisturbed := isAllowed answer pending live reloads
                rcases answering.step reachable live pending isEnabled reloads resumed undisturbed
                  with ended | ⟨still, isStill, waitsOn⟩
                · exact absurd (ended.symm.trans liveAfter) (by decide)
                · obtain rfl := Option.some.inj (isStill.symm.trans isPending)
                  exact waitsOn

/-- A page that was just reloaded is not ACTIVE. -/
theorem reload_not_active (client : Client) : client.reload.signals.sessionState ≠ .active := by
  simp only [reload, boot]
  generalize Option.isNone _ = isFresh
  cases isFresh <;> simp

/--
In every run in which nothing disturbs the answer to an accepted resume envelope, the
survivor reports ACTIVE only when its resume ack was handed to the connection over which
the envelope came, and the peer was not reported lost meanwhile.
-/
theorem active_only_when_ack_handed
    {remembered : Client × Answers}
    (reachable :
      answeringMachine.Reachable (fun first => Booted first.1 ∧ first.2 = .none)
        undisturbedAnswer remembered)
    {answer : Answer}
    (pending : remembered.2.pending = some answer)
    {input : Input}
    (isEnabled : answeringMachine.enabled remembered input)
    (isAllowed : undisturbedAnswer remembered input) :
    remembered.1.signals.sessionState ≠ .active ∧
      ((answeringMachine.step remembered input).1.signals.sessionState = .active →
        answer.peerLost = false ∧
          ∃ gen, answer.heardOver = some gen ∧ answer.handedTo = some gen) := by
  obtain ⟨client, answers⟩ := remembered
  have isReachable : machine.Reachable Booted EventMachine.Machine.anyStep client := reachable.forget
  have phase := phase_of_reachable isReachable
  have ended {later : Client} (phase : Phase later) (ended : later.vars.terminated = true) :
      later.signals.sessionState ≠ .active := by
    rcases state_of_terminated phase ended with isEnding | isTerminated
    · rw [isEnding]
      nofun
    · rw [isTerminated]
      nofun
  change client.signals.sessionState ≠ .active ∧
    ((machine.step client input).signals.sessionState = .active → _)
  have away : client.signals.sessionState ≠ .active := by
    cases isEnded : client.vars.terminated with
    | true => exact ended phase isEnded
    | false => exact (owes_of_reachable reachable answer pending isEnded).away
  refine ⟨away, fun isActive => ?_⟩
  by_cases reloads : input.event = .reload
  · have reloaded : machine.step client input = (client.fresh input).reload := by
      change (client.fresh input).handle input.event = _
      rw [reloads]
      rfl
    rw [reloaded] at isActive
    exact absurd isActive (reload_not_active _)
  · have calm := step_calm phase isEnabled reloads
    cases isEnded : client.vars.terminated with
    | true => exact absurd isActive (ended calm.phase (calm.stays isEnded))
    | false =>
        have answering := owes_of_reachable reachable answer pending isEnded
        cases resumed : client.resumesAck input with
        | true =>
            unfold resumesAck at resumed
            split at resumed
            · rename_i sent rest _ jobsEq
              have isAck : sent ∈ client.standing.acks := by
                simp [standing, jobsEq, Job.ack?]
              exact ⟨answering.peerKept, (answering.handed sent isAck).2⟩
            · cases resumed
        | false =>
            have undisturbed := isAllowed answer pending isEnded reloads
            rcases answering.step isReachable isEnded pending isEnabled reloads resumed undisturbed
              with stepEnded | ⟨later, -, waitsOn⟩
            · exact absurd isActive (ended calm.phase stepEnded)
            · exact absurd isActive waitsOn.away

end

instance (remembered : Client × Answers) (input : Input) :
    Decidable (answeringMachine.enabled remembered input) :=
  inferInstanceAs (Decidable (remembered.1.enabled input))

/-- The resume envelope of the peer that returned. -/
def peerResume : RelayFrame :=
  (encryptRelayFrame .joiner establishedKey .msg 2
    (.envelope (.resume { device := 1, serial := 1 }))).get (by decide)

/-- The peer upgraded, dropped out and came back with its resume envelope. -/
def peerReturns : List Input :=
  establish peerPublicKey ++
    [ plain (.socketFrame (.relay peerUpgraded)),
      plain .job,
      plain .decrypted,
      plain (.socketFrame .peerDisconnected),
      plain (.socketFrame .peerJoined),
      plain (.socketFrame (.relay peerResume)),
      plain .job ]

/-- The resume ack is handed over, and the survivor is about to report ACTIVE. -/
def resumeAcked : Client × Answers :=
  answeringMachine.run (freshPage, .none)
    (peerReturns ++ [plain .decrypted, plain .job, plain (.sendSettled .sent)])

theorem active_only_when_ack_handed_sent :
    (resumeAcked.2.pending.get (by decide +kernel)).peerLost = false ∧
      ∃ gen,
        (resumeAcked.2.pending.get (by decide +kernel)).heardOver = some gen ∧
          (resumeAcked.2.pending.get (by decide +kernel)).handedTo = some gen :=
  (active_only_when_ack_handed
    (EventMachine.Machine.Reachable.run (.start ⟨⟨0, 0, 0, none, id, rfl⟩, rfl⟩)
      (by decide +kernel))
    (Option.some_get _).symm (by decide +kernel : answeringMachine.enabled _ (plain .job))
    (by decide +kernel)).2 (by decide +kernel)

/-- The resume ack is refused, and the survivor reports ACTIVE all the same. -/
theorem refused_ack_reports_active :
    ¬∀ (remembered : Client × Answers) (answer : Answer) (input : Input),
        answeringMachine.Reachable (fun first => Booted first.1 ∧ first.2 = .none)
          EventMachine.Machine.anyStep remembered →
        remembered.2.pending = some answer →
        answeringMachine.enabled remembered input →
        remembered.1.signals.sessionState ≠ .active →
        (answeringMachine.step remembered input).1.signals.sessionState = .active →
        answer.peerLost = false ∧
          ∃ gen, answer.heardOver = some gen ∧ answer.handedTo = some gen := by
  intro claimed
  have handed :=
    claimed
      (answeringMachine.run (freshPage, .none)
        (peerReturns ++
          [ plain (.socketBuffered (bufferThresholdBytes + 1)),
            plain .decrypted,
            plain .job ]))
      { heardOver := some 1, handedTo := none, peerLost := false } (plain .job)
      (EventMachine.Machine.Reachable.run (.start ⟨⟨0, 0, 0, none, id, rfl⟩, rfl⟩)
        (by decide +kernel))
      (by rfl) (by decide +kernel) (by decide +kernel) (by decide +kernel)
  obtain ⟨gen, -, isHanded⟩ := handed.2
  cases isHanded

end Client

end Unseen
