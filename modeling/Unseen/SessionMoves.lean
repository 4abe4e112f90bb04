import Unseen.RekeySends
import Unseen.Standing

namespace Unseen

/-!
# What changes a session's standing

`Moved` lists, event by event, what a live client's step can do to its standing
when it neither keeps it nor ends the session.  Laws about the connection and
the reconnect episodes follow from this list and never look at a handler.
-/

namespace Client

/-- A connection that closes now is to be opened again. -/
def retriesAfterClose (client : Client) : Bool :=
  !client.vars.terminated && !client.page.pageHiding && client.canRetryReconnect

/-- The step of a live client, unless it keeps the standing or ends the session. -/
inductive Moved (before : Client) : Event → Client → Prop where
  /-- the serializer refuses a send -/
  | refused
      {after : Client}
      (task : SendTask)
      (isNext : before.jobs.head? = some .outboundNext ∧ before.outbound.queue.head? = some task)
      (refuses : before.mayAttemptSend = false)
      (acks : after.standing =
        { before.standing with
          acks := before.standing.acks ++ (Job.settle task.continuation false).ack?.toList }) :
      Moved before .job after
  /-- it starts one -/
  | started
      {after : Client}
      (flight : InFlight)
      (isNext :
        before.jobs.head? = some .outboundNext ∧
          before.outbound.queue.head? = some flight.task)
      (isGen : before.standing.gen = some flight.gen)
      (isOpen : before.standing.opened = true)
      (starts : after.standing = { before.standing with sending := some flight }) :
      Moved before .job after
  | sent
      {after : Client}
      (flight : InFlight)
      (wasSending : before.standing.sending = some flight)
      (settles : after.standing =
        { before.standing with
          sending := none
          acks :=
            before.standing.acks ++ (Job.settle flight.task.continuation true).ack?.toList }) :
      Moved before (.sendSettled .sent) after
  | opened
      {after : Client}
      (isOpen : after.standing = { before.standing with opened := true, down := false }) :
      Moved before .socketOpened after
  | closing
      {after : Client}
      (isClosing : after.standing = { before.standing with opened := false, down := false }) :
      Moved before .socketClosing after
  /-- the connection is lost while the page is being hidden -/
  | closedHiding
      {after : Client}
      {kind : CloseKind}
      (finishes : before.retriesAfterClose = false)
      (isClosed :
        after.standing =
          { before.standing with
            opened := false
            down := true }) :
      Moved before (.socketClosed kind) after
  | hidden
      {after : Client}
      (isClosing : after.standing = { before.standing with opened := false }) :
      Moved before (.pageHide false) after
  | upgrading
      {after : Client}
      (wasActive : before.standing.state = .active)
      (isUpgrading : after.standing = { before.standing with state := .upgradingLocal }) :
      Moved before .upgradeToPrf after
  /-- a resume ack is accepted -/
  | resumed
      {after : Client}
      (resumes : Resumes before after) :
      Moved before .decrypted after
  | established
      {after : Client}
      {ok : Bool}
      (enters : after.standing =
        { before.standing with
          state := .active
          isActive := true
          isResuming := false
          timer := none
          attempt := 0
          startMs := 0 }) :
      Moved before (.handshakeDerived ok) after
  | handshaking
      {after : Client}
      {ok : Bool}
      (wasWaiting :
        before.standing.state = .connecting ∨ before.standing.state = .waitingForPeer)
      (isHandshaking : after.standing = { before.standing with state := .handshaking }) :
      Moved before (.handshakeWrapped ok) after
  | named
      {after : Client}
      (notResuming : before.standing.isResuming = false)
      (isWaiting : after.standing = { before.standing with state := .waitingForPeer }) :
      Moved before (.socketFrame (.ack .initiator)) after
  | peerLost
      {after : Client}
      (wasActive : before.standing.isActive = true)
      (isWaiting : after.standing = { before.standing with state := .peerReconnecting }) :
      Moved before (.socketFrame .peerDisconnected) after
  | reopened
      {after : Client}
      (gen : Nat)
      (wasCreating : before.link.intentTried = .create)
      (isConnecting : after.standing =
        { before.standing with
          state := .connecting
          intent := .join
          gen := some gen
          opened := false
          down := false }) :
      Moved before (.socketFrame (.error .roomAlreadyExists)) after
  /-- the connection is lost: an attempt to reconnect is scheduled -/
  | closed
      {after : Client}
      {kind : CloseKind}
      (delay : Nat)
      (retries : before.retriesAfterClose = true)
      (isDelay : before.standing.delay = some delay)
      (isScheduled : after.standing =
        { before.standing.episode with
          state := .reconnecting
          opened := false
          down := true
          timer := some (before.standing.now + delay) }) :
      Moved before (.socketClosed kind) after
  /-- the connection is lost for good -/
  | givenUp
      {after : Client}
      {kind : CloseKind}
      (retries : before.retriesAfterClose = true)
      (noDelay : before.standing.delay = none)
      (isEnded : after.standing.ended = true) :
      Moved before (.socketClosed kind) after
  /-- an attempt to reconnect begins -/
  | attempted
      {after : Client}
      (gen : Nat)
      (opens : after.standing =
        { before.standing with
          timer := none
          attempt := before.standing.attempt + 1
          isActive := false
          isResuming := before.standing.isActive || before.standing.isResuming
          intent := .resume
          gen := some gen
          opened := false
          down := false }) :
      Moved before .reconnectTimer after
  | restored
      {after : Client}
      (isOver : after.standing = { before.standing with state := .terminated }) :
      Moved before (.pageShow true) after
  | elapsed
      {after : Client}
      (ms : Nat)
      (isLater : after.standing = { before.standing with now := before.standing.now + ms }) :
      Moved before (.elapse ms) after
  | ended
      {after : Client}
      (reason : TerminateReason)
      (isEnded : after.standing.ended = true) :
      Moved before (.terminate reason) after
  /-- the first connection of a page without a record -/
  | connected
      {after : Client}
      (gen : Nat)
      (isConnecting : after.standing =
        { before.standing with
          intent := .create
          gen := some gen
          opened := false
          down := false }) :
      Moved before (.claimDecided true) after
  | locked
      {after : Client}
      (isLocked : after.standing = { before.standing with state := .resumeLocked }) :
      Moved before (.resumeDecided .getRejected) after
  /-- the first connection of a page that resumes -/
  | resumes
      {after : Client}
      (gen : Nat)
      (isResuming : after.standing =
        { before.standing with
          isActive := false
          isResuming := true
          intent := .resume
          gen := some gen
          opened := false
          down := false }) :
      Moved before (.resumeDecided .ok) after
  | retried
      {after : Client}
      (wasLocked : before.standing.state = .resumeLocked)
      (isResuming : after.standing = { before.standing with state := .resuming }) :
      Moved before .retryResume after

namespace Moved

variable {client : Client}

theorem sending_standing (client : Client) (sending : Option InFlight) :
    ({ client with outbound.sending := sending } : Client).standing =
      { client.standing with
        sending := sending
        sound :=
          client.outbound.queue.all SendTask.isSound &&
            sending.all fun flight => flight.task.isSound } :=
  rfl

theorem queue_standing (client : Client) (queue : List SendTask) :
    ({ client with outbound.queue := queue } : Client).standing =
      { client.standing with
        sound :=
          queue.all SendTask.isSound &&
            client.outbound.sending.all fun flight => flight.task.isSound } :=
  rfl

theorem settleSend_standing (client : Client) (continuation : SendCont) (sent : Bool) :
    (client.settleSend continuation sent).standing =
      { client.standing with
        acks := client.standing.acks ++ (Job.settle continuation sent).ack?.toList } := by
  unfold settleSend
  simp only [schedule_standing]
  split
  · rfl
  · rw [schedule_standing]
    simp [Job.ack?]

/-- A send that fails ends the session. -/
theorem sendFails
    {middle : Client}
    {reason : TerminateReason}
    (isOther : reason ≠ .reconnectExhausted)
    (unexhausted : client.standing.Unexhausted middle.standing)
    (continuation : SendCont) :
    Keeps client ((middle.terminate reason).settleSend continuation false) := by
  unfold Keeps
  rw [settleSend_standing]
  have ends := unexhausted.trans (terminate_unexhausted middle isOther)
  have isEnded := terminate_terminated middle reason
  exact .inr ⟨isEnded, ends.sound, ends.exhausted, .inl isEnded⟩

/-- What becomes of a send that fails neither the session nor its encryption. -/
def Tries (before : Client) (task : SendTask) (after : Client) : Prop :=
  (before.mayAttemptSend = false ∧
    after.standing =
      { before.standing with
        acks := before.standing.acks ++ (Job.settle task.continuation false).ack?.toList }) ∨
    ∃ flight : InFlight,
      flight.task = task ∧ before.standing.gen = some flight.gen ∧
        before.standing.opened = true ∧
        after.standing = { before.standing with sending := some flight }

theorem runRelaySendTask
    (client : Client)
    (live : client.vars.terminated = false)
    (sound : client.standing.sound = true)
    (task : SendTask)
    (isSound : task.isSound = true) :
    Keeps client (client.runRelaySendTask task) ∨ Tries client task (client.runRelaySendTask task) := by
  have isOther : task.encryptFailReason ≠ .reconnectExhausted := of_decide_eq_true isSound
  cases tried : client.mayAttemptSend with
  | false =>
      refine .inr (.inl ⟨tried, ?_⟩)
      rw [runRelaySendTask_refused live tried, settleSend_standing]
  | true =>
      unfold Client.runRelaySendTask
      rw [if_neg (Bool.eq_false_iff.mp live)]
      unfold mayAttemptSend at tried
      split
      · rename_i socket active isSocket isActive
        rw [isSocket, isActive] at tried
        have isOk := of_decide_eq_true tried
        have isOpen : socket.readyState = .opened := by
          by_contra notOpen
          rw [canAttemptSend, if_pos notOpen] at isOk
          cases isOk
        rw [if_neg (not_not_intro isOk)]
        have allocated := allocateSendCounter_standing client active task.kind
        generalize client.allocateSendCounter active task.kind = result at allocated ⊢
        obtain ⟨stored, counter⟩ := result
        cases counter with
        | none => exact .inl (sendFails isOther (allocated ▸ .refl _) _)
        | some counter =>
            simp only at allocated ⊢
            split
            · exact .inl (sendFails isOther (allocated ▸ .refl _) _)
            · rename_i frame _
              refine .inr (.inr ⟨{ task, frame, gen := socket.gen }, rfl, ?_, ?_, ?_⟩)
              · simp [standing, isSocket]
              · simp [standing, isSocket, isOpen]
              · have encrypted :
                    (stored.act
                      (.encrypt active.sessionKey.material counter frame)).standing =
                      client.standing := by
                  simp [Act.isExhaustion, allocated]
                have storedSound : stored.standing.sound = true :=
                  (congrArg Standing.sound allocated).trans sound
                have queueSound : stored.outbound.queue.all SendTask.isSound = true :=
                  (Bool.and_eq_true_iff.mp storedSound).1
                have sameQueue :
                    (stored.act (.encrypt active.sessionKey.material counter frame)).outbound.queue =
                      stored.outbound.queue := rfl
                rw [sending_standing, encrypted]
                simp only [sameQueue, queueSound, Option.all_some, isSound, sound, Bool.and_self]
      · rename_i noContext
        split at tried
        · rename_i socket active isSocket isActive
          exact absurd isActive (noContext socket active isSocket)
        · cases tried

theorem runOutbound
    (client : Client)
    (live : client.vars.terminated = false)
    (sound : client.standing.sound = true) :
    Keeps client client.runOutbound ∨
      ∃ task, client.outbound.queue.head? = some task ∧ Tries client task client.runOutbound := by
  unfold Client.runOutbound
  split
  · exact .inl (.inl rfl)
  · rename_i task rest queueEq
    obtain ⟨queueSound, sendingSound⟩ := Bool.and_eq_true_iff.mp sound
    rw [queueEq, List.all_cons, Bool.and_eq_true_iff] at queueSound
    have taken :
        ({ client with outbound.queue := rest } : Client).standing = client.standing := by
      have restSound :
          (rest.all SendTask.isSound &&
            client.outbound.sending.all fun flight => flight.task.isSound) = true :=
        Bool.and_eq_true_iff.mpr ⟨queueSound.2, sendingSound⟩
      rw [queue_standing, restSound, ← sound]
    have sameSound : ({ client with outbound.queue := rest } : Client).standing.sound = true := by
      rw [taken, sound]
    rcases runRelaySendTask { client with outbound.queue := rest } live sameSound task
        queueSound.1 with keeps | tries
    · exact .inl (.of_standing taken keeps)
    · refine .inr ⟨task, by rw [queueEq, List.head?_cons], ?_⟩
      unfold Tries at tries ⊢
      rw [taken] at tries
      exact tries

theorem sendSettled
    (sound : client.standing.sound = true)
    {flight : InFlight}
    (isSending : client.outbound.sending = some flight)
    (outcome : SendOutcome) :
    Keeps client (client.sendSettled flight outcome) ∨
      Moved client (.sendSettled outcome) (client.sendSettled flight outcome) := by
  obtain ⟨queueSound, sendingSound⟩ := Bool.and_eq_true_iff.mp sound
  rw [isSending, Option.all_some] at sendingSound
  have isOther : flight.task.encryptFailReason ≠ .reconnectExhausted :=
    of_decide_eq_true sendingSound
  cases outcome with
  | encryptFailed =>
      have idle : client.standing.Unexhausted
          ({ client with outbound.sending := none } : Client).standing :=
        ⟨fun _ => by simp only [sending_standing, queueSound, Option.all_none, Bool.and_self], id,
          .inr ⟨.inl rfl, rfl⟩⟩
      exact .inl (sendFails isOther idle _)
  | sendThrew =>
      have isOtherToo : TerminateReason.sendFailed ≠ .reconnectExhausted := nofun
      have idle : client.standing.Unexhausted
          ({ client with outbound.sending := none } : Client).standing :=
        ⟨fun _ => by simp only [sending_standing, queueSound, Option.all_none, Bool.and_self], id,
          .inr ⟨.inl rfl, rfl⟩⟩
      exact .inl (sendFails isOtherToo idle _)
  | sent =>
      refine .inr (.sent flight isSending ?_)
      simp only [Client.sendSettled, settleSend_standing, sendOn_standing, sending_standing,
        queueSound, Option.all_none, sound, Bool.and_self]

/-- A microtask runs. -/
theorem runJob
    (live : client.vars.terminated = false)
    (sound : client.standing.sound = true)
    (quiet :
      ∀ continuation sent rest, client.jobs = .settle continuation sent :: rest →
        client.wakesCaller continuation sent = false) :
    Keeps client client.runJob ∨ Moved client .job client.runJob := by
  unfold Client.runJob
  split
  · exact .inl (.refl client)
  · rename_i job rest jobsEq
    have taken (noAck : job.ack? = none) :
        ({ client with jobs := rest } : Client).standing = client.standing := by
      simp [standing, jobsEq, noAck]
    cases job with
    | outboundNext =>
        have isTaken := taken rfl
        rcases runOutbound { client with jobs := rest } live (isTaken ▸ sound) with
          keeps | ⟨task, isFirst, tries⟩
        · exact .inl (.of_standing isTaken keeps)
        · unfold Tries at tries
          rw [isTaken] at tries
          have isHead : client.jobs.head? = some .outboundNext := by rw [jobsEq, List.head?_cons]
          rcases tries with ⟨refuses, acks⟩ | ⟨flight, rfl, isGen, isOpen, starts⟩
          · exact .inr (.refused task ⟨isHead, isFirst⟩ refuses acks)
          · exact .inr (.started flight ⟨isHead, isFirst⟩ isGen isOpen starts)
    | inboundNext => exact .inl (.of_standing (taken rfl) (Keeps.runInbound _))
    | settle continuation sent =>
        have isQuiet := quiet continuation sent rest jobsEq
        have noAck : (Job.settle continuation sent).ack? = none := by
          cases continuation with
          | resumeAck => cases isQuiet
          | _ => rfl
        exact .inl (.of_standing (taken noAck) (Keeps.resumeSend _ continuation sent isQuiet))

theorem socketOpened (client : Client) :
    Keeps client client.socketOpened ∨ Moved client .socketOpened client.socketOpened := by
  unfold Client.socketOpened
  split
  · exact .inl (.refl client)
  · rename_i socket isSocket
    simp only
    have opened :
        ({ client with link.socket := some { socket with readyState := .opened } } :
          Client).standing = { client.standing with opened := true, down := false } := by
      simp [standing, isSocket]
    split
    · exact .inr (.opened opened)
    · exact .inr (.opened ((sendOn_standing _ _ _).trans opened))

theorem socketClosing (client : Client) :
    Moved client .socketClosing
      (client.updateSocket fun socket => { socket with readyState := .closing }) := by
  refine .closing ?_
  cases isSocket : client.link.socket <;> simp [standing, Client.updateSocket, isSocket]

theorem pageHide (client : Client) (persisted : Bool) :
    Keeps client (client.pageHide persisted) ∨
      Moved client (.pageHide persisted) (client.pageHide persisted) := by
  unfold Client.pageHide
  simp only
  split
  · exact .inl (Keeps.markHiding client)
  · rename_i goes
    have notPersisted : persisted = false := by
      cases persisted with
      | false => rfl
      | true => simp at goes
    subst notPersisted
    refine .inr (.hidden ?_)
    rw [closeConnection_standing, markHiding, runPageHideListeners_standing]
    rfl

theorem claimDecided (client : Client) (granted : Bool) :
    Keeps client (client.claimDecided granted) ∨
      Moved client (.claimDecided granted) (client.claimDecided granted) := by
  unfold Client.claimDecided
  cases granted with
  | false =>
      have ends : Keeps client (client.terminate .duplicateTab) := .terminate client nofun
      exact .inl (ends.same rfl)
  | true =>
      simp only [Bool.not_true, Bool.false_eq_true, ↓reduceIte]
      split
      · exact .inl (.inl rfl)
      · refine .inr (.connected (client.link.connectionGen + 1) ?_)
        exact openWith_standing { client with vars.claim := .held } .create

theorem resumeDecided (client : Client) (outcome : PasskeyResume) :
    Keeps client (client.resumeDecided outcome) ∨
      Moved client (.resumeDecided outcome) (client.resumeDecided outcome) := by
  unfold Client.resumeDecided
  split
  · exact .inl (.refl client)
  · rename_i storedRecord _
    have settled :
        ({ client with vars.resumeAttempt := false, vars.returned := true } : Client).standing =
          client.standing := rfl
    cases outcome with
    | getRejected =>
        simp only
        split
        · exact .inl (.inl settled)
        · exact .inr (.locked (setState_standing _ _))
    | noCredential | prfMissing => exact .inl (Keeps.terminate_from settled (by decide))
    | ok =>
        simp only
        split
        · exact .inl (Keeps.terminate_from settled (by decide))
        · rename_i resumedKey _
          split
          · exact .inl (.inl (by rw [act_standing, settled]; simp [Act.isExhaustion]))
          · refine .inr (.resumes (client.link.connectionGen + 1) ?_)
            simp [resumeWith, standing, mirrorStoredSession, Client.act, Act.isExhaustion, openWith,
              InternalState.isActive, InternalState.isResuming]

theorem onPeerDisconnected (client : Client) :
    Keeps client client.onPeerDisconnected ∨
      Moved client (.socketFrame .peerDisconnected) client.onPeerDisconnected := by
  unfold Client.onPeerDisconnected
  split
  · exact .inl (.terminate client nofun)
  · rename_i wasActive
    split
    · exact .inl (.terminate client nofun)
    · exact .inr (.peerLost (by simpa [standing] using wasActive) (by simp))

theorem handleServerFrame (client : Client) (frame : ServerFrame) :
    Keeps client (client.handleServerFrame frame) ∨
      Moved client (.socketFrame frame) (client.handleServerFrame frame) := by
  unfold Client.handleServerFrame
  split
  · exact .inl (.refl client)
  · split
    · rename_i role
      simp only
      have named : ({ client with signals.myRole := some role } : Client).standing =
          client.standing := rfl
      split
      · exact .inl (.of_standing named (Keeps.sendResumeProbe _))
      · rename_i notResuming
        split
        · rename_i isInitiator
          subst isInitiator
          exact .inr (.named (by simpa [standing] using notResuming) (by simp [named]))
        · exact .inl (.of_standing named (Keeps.sendLocalHandshake _))
    · exact .inl (Keeps.onPeerJoined client)
    · exact .inl (.inl (enqueueInbound_standing _ _))
    · exact .inl (.inl (enqueueInbound_standing _ _))
    · exact onPeerDisconnected client
    · exact .inl (.terminate client (by simp))
    · rename_i code
      split
      · rename_i exists_
        obtain ⟨rfl, wasCreating⟩ := exists_
        exact .inr
          (.reopened ((client.closeConnection.setState .connecting).link.connectionGen + 1)
            wasCreating (by simp [reopenAsJoiner]))
      · exact .inl (.terminate client (by simp))

theorem terminate_exhausted
    (live : client.vars.terminated = false) :
    (client.terminate .reconnectExhausted).standing.exhausted = true := by
  unfold Client.terminate
  simp only
  rw [if_neg (Bool.eq_false_iff.mp live)]
  split
  · rw [act_standing]
    exact Bool.or_true _
  · rw [act_standing]
    exact Bool.or_true _

theorem scheduleReconnect
    (client : Client)
    (live : client.vars.terminated = false) :
    (client.standing.delay = none ∧ client.scheduleReconnect.standing.ended = true ∧
        client.scheduleReconnect.standing.exhausted = true) ∨
      ∃ delay, client.standing.delay = some delay ∧
        client.scheduleReconnect.standing =
          { client.standing.episode with
            state := .reconnecting
            timer := some (client.standing.now + delay) } := by
  have episode :
      (if client.signals.sessionState = .reconnecting ∨
          client.signals.sessionState = .resuming then
        client
      else
        { client with
          link.reconnectStartMs := client.page.now
          link.reconnectAttempt := 0 }).standing = client.standing.episode := by
    unfold Standing.episode
    split
    · rename_i isReconnecting
      exact (if_pos isReconnecting).symm
    · rename_i notReconnecting
      exact (if_neg notReconnecting).symm
  have sameNow : client.standing.episode.now = client.standing.now := by
    unfold Standing.episode
    split <;> rfl
  have sameEnded : client.standing.episode.ended = client.standing.ended := by
    unfold Standing.episode
    split <;> rfl
  unfold Client.scheduleReconnect
  simp only
  generalize
    (if client.signals.sessionState = .reconnecting ∨
        client.signals.sessionState = .resuming then
      client
    else
      { client with
        link.reconnectStartMs := client.page.now
        link.reconnectAttempt := 0 }) = entered at episode ⊢
  have isDelay :
      nextReconnectDelayMs entered.link.reconnectAttempt
          (entered.page.now - entered.link.reconnectStartMs) = client.standing.delay := by
    have attempt := congrArg Standing.attempt episode
    have startMs := congrArg Standing.startMs episode
    have now := (congrArg Standing.now episode).trans sameNow
    simp only [standing] at attempt startMs now
    rw [Standing.delay, attempt, startMs, now]
    rfl
  rw [isDelay]
  split
  · rename_i noDelay
    have stillLive : entered.vars.terminated = false :=
      ((congrArg Standing.ended episode).trans sameEnded).trans live
    exact .inl ⟨noDelay, terminate_terminated _ _, terminate_exhausted stillLive⟩
  · rename_i delay hasDelay
    refine .inr ⟨delay, hasDelay, ?_⟩
    have now := (congrArg Standing.now episode).trans sameNow
    have reconnecting := setState_standing entered .reconnecting
    rw [episode] at reconnecting
    have timed :
        ({ entered.setState .reconnecting with
          link.reconnectTimer := some (entered.page.now + delay) } : Client).standing =
          { (entered.setState .reconnecting).standing with
            timer := some (entered.standing.now + delay) } := rfl
    rw [timed, reconnecting, now]

theorem episode_closed (standing : Standing) :
    { standing with opened := false, down := true }.episode =
      { standing.episode with opened := false, down := true } := by
  unfold Standing.episode
  split <;> rfl

theorem delay_closed (standing : Standing) :
    { standing with opened := false, down := true }.delay = standing.delay := by
  rw [Standing.delay, episode_closed]
  rfl

/-- A connection that is to be opened again is lost. -/
theorem socketClosed_retrying
    {socket : Socket}
    (isSocket : client.link.socket = some socket)
    (retries : client.retriesAfterClose = true)
    (kind : CloseKind) :
    (client.standing.delay = none ∧ (client.socketClosed kind).standing.ended = true ∧
        (client.socketClosed kind).standing.exhausted = true) ∨
      ∃ delay, client.standing.delay = some delay ∧
        (client.socketClosed kind).standing =
          { client.standing.episode with
            state := .reconnecting
            opened := false
            down := true
            timer := some (client.standing.now + delay) } := by
  simp only [retriesAfterClose, Bool.and_eq_true, Bool.not_eq_true'] at retries
  obtain ⟨⟨live, shown⟩, retries⟩ := retries
  unfold Client.socketClosed
  simp only [isSocket, live, shown, Bool.or_self, Bool.false_eq_true, ↓reduceIte]
  generalize closedEq :
    ({ client with link.socket := some { socket with readyState := .closed } } : Client) = closed
  have closedStanding :
      closed.standing = { client.standing with opened := false, down := true } := by
    rw [← closedEq]
    simp [standing, isSocket]
  have frame := tellFilesClosed_frame closed
  have toldStanding := (tellFilesClosed_standing closed).trans closedStanding
  have toldRetries : closed.tellFilesClosed.canRetryReconnect = true := by
    rw [canRetryReconnect, frame.signals, frame.vars, ← closedEq]
    exact retries
  have toldLive : closed.tellFilesClosed.vars.terminated = false := by
    rw [frame.vars, ← closedEq]
    exact live
  rw [if_pos toldRetries]
  rcases scheduleReconnect closed.tellFilesClosed toldLive with
    ⟨noDelay, isEnded, isExhausted⟩ | ⟨delay, isDelay, isScheduled⟩
  · rw [toldStanding, delay_closed] at noDelay
    exact .inl ⟨noDelay, isEnded, isExhausted⟩
  · rw [toldStanding, delay_closed] at isDelay
    rw [toldStanding, episode_closed] at isScheduled
    exact .inr ⟨delay, isDelay, isScheduled⟩

/-- A connection that is not opened again is lost. -/
theorem socketClosed_final
    (finishes : client.retriesAfterClose = false)
    (kind : CloseKind) :
    Keeps client (client.socketClosed kind) ∨
      (client.socketClosed kind).standing =
        { client.standing with
          opened := false
          down := true } := by
  unfold Client.socketClosed
  split
  · exact .inl (.refl client)
  · rename_i socket isSocket
    simp only
    generalize closedEq :
      ({ client with link.socket := some { socket with readyState := .closed } } : Client) = closed
    have closedStanding :
        closed.standing = { client.standing with opened := false, down := true } := by
      rw [← closedEq]
      simp [standing, isSocket]
    split
    · exact .inr closedStanding
    · rename_i goesOn
      have frame := tellFilesClosed_frame closed
      have toldStanding := (tellFilesClosed_standing closed).trans closedStanding
      have gives : closed.tellFilesClosed.canRetryReconnect = false := by
        have listens : (!client.vars.terminated && !client.page.pageHiding) = true := by
          rw [← Bool.not_or, Bool.not_eq_true']
          exact Bool.eq_false_iff.mpr goesOn
        rw [retriesAfterClose, listens, Bool.true_and] at finishes
        rw [canRetryReconnect, frame.signals, frame.vars, ← closedEq]
        exact finishes
      rw [if_neg (Bool.eq_false_iff.mp gives)]
      have isOther : TerminateReason.wsClose kind ≠ .reconnectExhausted := by simp
      have ends := terminate_unexhausted closed.tellFilesClosed isOther
      rw [toldStanding] at ends
      have isEnded := terminate_terminated closed.tellFilesClosed (.wsClose kind)
      exact .inl (.inr ⟨isEnded, ends.sound, ends.exhausted, .inl isEnded⟩)

theorem socketClosed (client : Client) (kind : CloseKind) :
    Keeps client (client.socketClosed kind) ∨
      Moved client (.socketClosed kind) (client.socketClosed kind) := by
  cases retries : client.retriesAfterClose with
  | true =>
      cases isSocket : client.link.socket with
      | none =>
          simp only [Client.socketClosed, isSocket]
          exact .inl (.refl client)
      | some socket =>
          refine .inr ?_
          rcases socketClosed_retrying isSocket retries kind with
            ⟨noDelay, isEnded, -⟩ | ⟨delay, isDelay, isScheduled⟩
          · exact .givenUp retries noDelay isEnded
          · exact .closed delay retries isDelay isScheduled
  | false => exact (socketClosed_final retries kind).imp_right (.closedHiding retries)

theorem reconnectTimerFired
    (client : Client)
    (live : client.vars.terminated = false) :
    Moved client .reconnectTimer client.reconnectTimerFired := by
  unfold Client.reconnectTimerFired
  simp only
  rw [if_neg (Bool.eq_false_iff.mp live)]
  split
  · rename_i active isActive
    refine .attempted (client.link.connectionGen + 1) ?_
    rw [openWith_standing]
    simp only [standing, isActive, InternalState.isActive, InternalState.isResuming, Bool.true_or]
  · rename_i notActive
    refine .attempted (client.link.connectionGen + 1) ?_
    rw [openWith_standing]
    cases internal : client.vars.internal with
    | active active => exact absurd internal (notActive active)
    | preActive =>
        simp only [standing, internal, InternalState.isActive, InternalState.isResuming,
          Bool.or_self]
    | resuming active =>
        simp only [standing, internal, InternalState.isActive, InternalState.isResuming,
          Bool.or_true]

theorem handshakeWrapped (client : Client) (ok : Bool) :
    Keeps client (client.handshakeWrapped ok) ∨
      Moved client (.handshakeWrapped ok) (client.handshakeWrapped ok) := by
  unfold Client.handshakeWrapped
  split
  · rename_i gen pair _ _
    simp only
    split
    · exact .inl (.inl rfl)
    · generalize sentEq :
        ({ client with handshake.handshakeSend := none } : Client).sendOn gen
          (.handshake (.wrapped pair)) = sent
      have sameStanding : sent.standing = client.standing := by
        rw [← sentEq]
        exact sendOn_standing _ _ _
      split
      · rename_i wasWaiting
        have sameState := congrArg Standing.state sameStanding
        refine .inr (.handshaking ?_ (by rw [setState_standing, sameStanding]))
        rw [← sameState]
        exact wasWaiting
      · exact .inl (.inl sameStanding)
  · exact .inl (.refl client)

theorem handshakeDerived
    (client : Client)
    (ciphertext : HandshakeCiphertext)
    (pair : Draw)
    (ok : Bool) :
    Keeps client (client.handshakeDerived ciphertext pair ok) ∨
      Moved client (.handshakeDerived ok) (client.handshakeDerived ciphertext pair ok) := by
  unfold Client.handshakeDerived
  split
  · exact .inl (.terminateHandler client nofun)
  · split
    · exact .inl (.terminateHandler client nofun)
    · rename_i sessionKey _
      split
      · exact .inl (.finishHandler (.refl client))
      · simp only
        split
        · have shown : (client.act (.onSas (some sessionKey))).standing = client.standing := by
            simp [Act.isExhaustion]
          exact .inl (Keeps.terminate_from shown (by decide)).finishHandler
        · refine .inr (.established ?_)
          simp [Act.isExhaustion]

end Moved

/-- Work that writes a state at its end does not give up an episode. -/
theorem wakes_unexhausted
    (client : Client)
    {input : Input}
    (wakes : client.wakes input = true) :
    client.standing.Unexhausted (client.handle input.event).standing := by
  obtain ⟨event, browser⟩ := input
  cases event with
  | upgradeRegistered index outcome =>
      simp only [Client.handle, Client.upgradeRegistered]
      split
      · cases outcome with
        | ok credentialId => cases wakes
        | cancelled | failed => exact .refl _
      · cases outcome with
        | ok credentialId => cases wakes
        | cancelled | failed =>
            simp only [system_standing, setState_standing]
            exact .setState _ (.inl rfl)
  | upgradeWrapped index ok =>
      simp only [Client.handle]
      split
      · exact Unexhausted.upgradeWrapped client index _ _ _ ok
      · exact .refl _
  | rekeyAckDerived ok =>
      simp only [Client.handle]
      split
      · exact Unexhausted.rekeyAckDerived client _ _ ok
      · exact .refl _
  | commitWrapped ok =>
      simp only [Client.handle]
      split
      · exact Unexhausted.commitWrapped client _ _ _ ok
      · exact .refl _
  | job =>
      simp only [Client.wakes] at wakes
      split at wakes
      · rename_i continuation sent rest jobsEq
        simp only [Client.handle, runJob, jobsEq]
        have popped : client.standing.Unexhausted
            ({ client with jobs := rest } : Client).standing := ⟨id, id, .inr ⟨.inl rfl, rfl⟩⟩
        exact popped.trans (Unexhausted.resumeSend _ continuation sent)
      · cases wakes
  | decrypted =>
      simp only [Client.wakes] at wakes
      split at wakes
      · rename_i frame mode state mirror running
        simp only [Client.handle, running, frameDecrypted]
        split
        · rename_i isMessage
          rw [isMessage] at wakes
          split at wakes <;> cases wakes
        · exact (Keeps.chunkDecrypted client frame mode state).unexhausted
        · exact Unexhausted.modeFrameDecrypted client frame mode state
      · cases wakes
  | _ => cases wakes

/-- The steps in which no suspended work writes a state. -/
theorem handle_moves_quiet
    {client : Client}
    (live : client.vars.terminated = false)
    (sound : client.standing.sound = true)
    (armed : Armed client)
    {input : Input}
    (oracle : client.page.oracle = input.oracle)
    (isEnabled : client.enabled input)
    (notReload : input.event ≠ .reload)
    (quiet : client.wakes input = false) :
    Keeps client (client.handle input.event) ∨
      Moved client input.event (client.handle input.event) := by
  have files (segment : Files → Files) (created : Bool) :
      Keeps client (if created then client.runFiles segment else client) := by
    split
    · exact .inl (runFiles_standing _ _)
    · exact .refl client
  obtain ⟨event, browser⟩ := input
  cases event with
  | job =>
      apply Moved.runJob live sound
      intro continuation sent rest jobsEq
      simpa [wakes, jobsEq] using quiet
  | claimDecided granted => exact Moved.claimDecided client granted
  | resumeDecided outcome => exact Moved.resumeDecided client outcome
  | send body t => exact .inl (Keeps.send client body t)
  | sendFile file tid => exact .inl (files _ _)
  | cancelTransfer => exact .inl (.inl (cancelTransfer_standing client))
  | acceptFileOffer => exact .inl (files _ _)
  | declineFileOffer => exact .inl (files _ _)
  | upgradeToPrf =>
      simp only [Client.handle, Client.upgradeToPrf]
      split
      · exact .inl (.refl client)
      · rename_i passes
        have wasActive : client.signals.sessionState = .active := by simp_all
        refine .inr (.upgrading wasActive ?_)
        exact setState_standing client .upgradingLocal
  | retryResume =>
      simp only [Client.handle, Client.retryResume]
      split
      · exact .inl (.refl client)
      · rename_i passes
        have wasLocked : client.signals.sessionState = .resumeLocked := by simp_all
        refine .inr (.retried wasLocked ?_)
        exact setState_standing client .resuming
  | terminate reason => exact .inr (.ended reason (terminate_terminated client reason))
  | socketOpened => exact Moved.socketOpened client
  | socketFrame frame => exact Moved.handleServerFrame client frame
  | socketClosing => exact .inr (Moved.socketClosing client)
  | socketClosed kind => exact Moved.socketClosed client kind
  | socketBuffered amount => exact .inl (Keeps.socketBuffered client amount)
  | protocolError kind => exact .inl (Keeps.onProtocolError client kind)
  | handshakeWrapped ok => exact Moved.handshakeWrapped client ok
  | handshakeDerived ok =>
      obtain ⟨handler, running, stage⟩ :=
        Settled.awaiting (Bool.and_eq_true_iff.mp isEnabled).2
      cases handler with
      | handshake ciphertext pair =>
          simp only [Client.handle, running]
          exact Moved.handshakeDerived client ciphertext pair ok
      | _ => cases stage
  | decrypted =>
      obtain ⟨handler, running, stage⟩ :=
        Settled.awaiting (Bool.and_eq_true_iff.mp isEnabled).2
      cases handler with
      | decrypting frame mode state mirror =>
          simp only [Client.handle, running]
          have frames := Keeps.frameDecrypted client frame mode state mirror
            (by
              intro payload counter accepts
              simpa [wakes, running, accepts] using quiet)
          exact frames.imp id .resumed
      | _ => cases stage
  | upgradeRegistered index outcome =>
      cases outcome with
      | ok credentialId => exact .inl (Keeps.upgradeRegistered client index credentialId)
      | _ => cases quiet
  | upgradeWrapped index ok =>
      simp only [Client.handle]
      split
      · rename_i wrapping
        refine .inl (Keeps.upgradeWrapped client index _ _ _ ok ?_)
        rw [oracle]
        simpa [wakes, wrapping] using quiet
      · exact .inl (.refl client)
  | upgradeKeygen index ok =>
      simp only [Client.handle]
      split
      · exact .inl (.of_standing rfl (Keeps.rekeyKeygenDone _ .upgrade _ ok))
      · exact .inl (.refl client)
  | rekeyKeygen ok =>
      simp only [Client.handle]
      split
      · exact .inl (Keeps.rekeyKeygenDone client .handler _ ok)
      · exact .inl (.refl client)
  | rekeyInitDerived outcome =>
      simp only [Client.handle]
      split
      · exact .inl (Keeps.rekeyInitDerived client _ _ outcome)
      · exact .inl (.refl client)
  | rekeyAckDerived ok =>
      simp only [Client.handle]
      split
      · rename_i running
        refine .inl (Keeps.rekeyAckDerived client _ _ ok ?_)
        simpa [wakes, running] using quiet
      · exact .inl (.refl client)
  | commitWrapped ok =>
      simp only [Client.handle]
      split
      · rename_i running
        refine .inl (Keeps.commitWrapped client _ _ _ ok ?_)
        rw [oracle]
        simpa [wakes, running] using quiet
      · exact .inl (.refl client)
  | sendSettled outcome =>
      simp only [Client.handle]
      split
      · rename_i flight isSending
        exact Moved.sendSettled sound isSending outcome
      · exact .inl (.refl client)
  | reconnectTimer => exact .inr (Moved.reconnectTimerFired client live)
  | fatalTimer =>
      have running : client.vars.fatalTimer ≠ none := by
        intro none
        simp [enabled, canOccur, isDue, none] at isEnabled
      have ended := armed running
      rw [live] at ended
      cases ended
  | file event => exact .inl (.inl (runFiles_standing _ _))
  | visible => exact .inl (Keeps.becameVisible client)
  | beforeUnload => exact .inl (Keeps.markHiding client)
  | pageHide persisted => exact Moved.pageHide client persisted
  | pageShow persisted =>
      cases persisted with
      | false => exact .inl (.inl rfl)
      | true =>
          simp only [Client.handle, Client.pageShow, Client.bfcacheGuard, if_true]
          split
          · exact .inl (.inl rfl)
          · refine .inr (.restored ?_)
            rw [setState_standing, act_standing]
            simp only [Act.isExhaustion, Bool.or_false]
            rfl
  | elapse ms => exact .inr (.elapsed ms rfl)
  | reload => exact absurd rfl notReload

/--
A step of a live client keeps the standing or ends the session, is one of the
listed moves, or is suspended work that writes a state.
-/
theorem handle_moves
    (client : Client)
    (live : client.vars.terminated = false)
    (sound : client.standing.sound = true)
    (armed : Armed client)
    {input : Input}
    (oracle : client.page.oracle = input.oracle)
    (isEnabled : client.enabled input)
    (notReload : input.event ≠ .reload) :
    Keeps client (client.handle input.event) ∨
      Moved client input.event (client.handle input.event) ∨
      (client.wakes input = true ∧
        client.standing.Unexhausted (client.handle input.event).standing) := by
  cases quiet : client.wakes input with
  | true => exact .inr (.inr ⟨rfl, wakes_unexhausted client quiet⟩)
  | false =>
      have moves := handle_moves_quiet live sound armed oracle isEnabled notReload quiet
      exact moves.imp_right .inl

/-! ## Steps of reachable clients -/

/-- A client at the start of a step. -/
def fresh (client : Client) (input : Input) : Client :=
  { client with out := [], page.oracle := input.oracle }

@[simp]
theorem fresh_standing (client : Client) (input : Input) :
    (client.fresh input).standing = { client.standing with exhausted := false } :=
  rfl

theorem Moved.unexhausted
    {before after : Client}
    {event : Event}
    (moved : Moved before event after)
    (sound : before.standing.sound = true) :
    after.standing.ended = true ∨ after.standing.sound = true := by
  have episodeSound : before.standing.episode.sound = true := by
    unfold Standing.episode
    split <;> exact sound
  cases moved with
  | givenUp retries noDelay isEnded => exact .inl isEnded
  | ended reason isEnded => exact .inl isEnded
  | closed delay retries isDelay isScheduled => exact .inr (isScheduled ▸ episodeSound)
  | resumed resumes => exact .inr (resumes.2 ▸ sound)
  | refused task isNext refuses isStanding => exact .inr (isStanding ▸ sound)
  | started flight isNext isGen isOpen isStanding => exact .inr (isStanding ▸ sound)
  | sent flight wasSending isStanding => exact .inr (isStanding ▸ sound)
  | upgrading wasActive isStanding => exact .inr (isStanding ▸ sound)
  | handshaking wasWaiting isStanding => exact .inr (isStanding ▸ sound)
  | named notResuming isStanding => exact .inr (isStanding ▸ sound)
  | peerLost wasActive isStanding => exact .inr (isStanding ▸ sound)
  | reopened gen wasCreating isStanding => exact .inr (isStanding ▸ sound)
  | attempted gen isStanding => exact .inr (isStanding ▸ sound)
  | elapsed ms isStanding => exact .inr (isStanding ▸ sound)
  | connected gen isStanding => exact .inr (isStanding ▸ sound)
  | resumes gen isStanding => exact .inr (isStanding ▸ sound)
  | retried wasLocked isStanding => exact .inr (isStanding ▸ sound)
  | closedHiding finishes isStanding => exact .inr (isStanding ▸ sound)
  | opened isStanding | closing isStanding | hidden isStanding | established isStanding
  | restored isStanding | locked isStanding => exact .inr (isStanding ▸ sound)

/-- In a live session no send reports its failure as the end of a reconnect episode. -/
theorem sound_of_reachable
    {allowed : Client → Input → Prop}
    {client : Client}
    (reachable : machine.Reachable Booted allowed client)
    (live : client.vars.terminated = false) : client.standing.sound = true := by
  induction reachable with
  | start booted =>
      obtain ⟨device, nextDraw, now, storage, normalizeNfc, rfl⟩ := booted
      rfl
  | @next before input reachable isEnabled isAllowed inductionHypothesis =>
      by_cases reloads : input.event = .reload
      · rw [show machine.step before input = (before.fresh input).handle input.event from rfl,
          reloads]
        rfl
      · have calm := step_calm (phase_of_reachable (reachable.mono fun _ _ _ => trivial)) isEnabled
          reloads
        have wasLive : before.vars.terminated = false := by
          refine Bool.eq_false_iff.mpr fun ended => ?_
          have stillEnded := calm.stays ended
          rw [show (before.step input) = machine.step before input from rfl, live] at stillEnded
          cases stillEnded
        have wasSound : (before.fresh input).standing.sound = true := inductionHypothesis wasLive
        have armed : Armed (before.fresh input) := (Chain.of_reachable reachable).armed
        rcases handle_moves (before.fresh input) wasLive wasSound armed rfl isEnabled reloads with
          keeps | moved | ⟨-, unexhausted⟩
        · exact keeps.unexhausted.sound wasSound
        · rcases moved.unexhausted wasSound with ended | sound
          · exact absurd (ended.symm.trans live) (by decide)
          · exact sound
        · exact unexhausted.sound wasSound

/-- A step of a reachable live client. -/
theorem step_moves
    {allowed : Client → Input → Prop}
    {client : Client}
    (reachable : machine.Reachable Booted allowed client)
    (live : client.vars.terminated = false)
    {input : Input}
    (isEnabled : machine.enabled client input)
    (notReload : input.event ≠ .reload) :
    Keeps (client.fresh input) (machine.step client input) ∨
      Moved (client.fresh input) input.event (machine.step client input) ∨
      (client.wakes input = true ∧
        (client.fresh input).standing.Unexhausted (machine.step client input).standing) := by
  have sound : client.standing.sound = true := sound_of_reachable reachable live
  have armed : Armed client := (Chain.of_reachable reachable).armed
  exact handle_moves (client.fresh input) live sound armed rfl isEnabled notReload

end Client

end Unseen
