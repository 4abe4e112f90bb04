import Unseen.History
import Unseen.SessionMoves

namespace Unseen

/-!
# The budget of a reconnect episode

A reconnect episode starts when a connection of a session closes that is to be
opened again, and ends when the session is resumed.  The session itself keeps
no episode: it infers from its state whether one is running and counts from
`reconnectStartMs`.  A run remembers the time of the close that started the
current episode, and `Budgeted` relates the two.

They part after a boot that resumes: the state is RESUMING before any connection
closed, and `reconnectStartMs` is still 0, so that the time since the page was
loaded is counted.  `cutsShort` is the close at which the difference tells.
-/

/-! ## The backoff schedule -/

/-- The budget is used up exactly when the cap has passed. -/
theorem nextReconnectDelayMs_eq_none_iff {attempt elapsedMs : Nat} :
    nextReconnectDelayMs attempt elapsedMs = none ↔ reconnectCumulativeCapMs ≤ elapsedMs := by
  have inSchedule : min attempt (backoffScheduleMs.length - 1) < backoffScheduleMs.length := by
    have isLong : backoffScheduleMs.length = 7 := rfl
    omega
  unfold nextReconnectDelayMs
  split
  · rename_i usedUp
    exact iff_of_true rfl usedUp
  · rename_i remains
    rw [List.getElem?_eq_getElem inSchedule]
    exact iff_of_false nofun remains

/-- Every delay of the schedule is positive. -/
theorem backoffScheduleMs_pos : ∀ delay ∈ backoffScheduleMs, 0 < delay := by
  decide

/-- An attempt is scheduled within the budget, and not at once. -/
theorem nextReconnectDelayMs_within
    {attempt elapsedMs delay : Nat}
    (isDelay : nextReconnectDelayMs attempt elapsedMs = some delay) :
    0 < delay ∧ elapsedMs + delay ≤ reconnectCumulativeCapMs := by
  unfold nextReconnectDelayMs at isDelay
  split at isDelay
  · cases isDelay
  · rename_i remains
    obtain ⟨candidate, isCandidate, rfl⟩ := Option.map_eq_some_iff.mp isDelay
    have positive := backoffScheduleMs_pos candidate (List.mem_of_getElem? isCandidate)
    omega

/-- The delay after the close that starts an episode. -/
theorem nextReconnectDelayMs_first : nextReconnectDelayMs 0 0 = some 1000 := by
  decide

theorem Standing.episode_of_idle
    {standing : Standing}
    (notReconnecting : standing.state ≠ .reconnecting)
    (notResuming : standing.state ≠ .resuming) :
    standing.episode = { standing with startMs := standing.now, attempt := 0 } :=
  if_neg (not_or.mpr ⟨notReconnecting, notResuming⟩)

theorem Standing.episode_of_running
    {standing : Standing}
    (isRunning : standing.state = .reconnecting ∨ standing.state = .resuming) :
    standing.episode = standing :=
  if_pos isRunning

namespace Client

/-- A resume ack turns a resuming session into an active one. -/
def resumesSession (client : Client) (input : Input) : Bool :=
  client.vars.internal.isResuming && (machine.step client input).vars.internal.isActive

/-- The time of the close that started the current reconnect episode. -/
def recordEpisode (episode : Option Nat) (client : Client) (input : Input) : Option Nat :=
  match input.event with
  | .reload => none
  | .socketClosed _ =>
      if client.retriesAfterClose then some (episode.getD client.page.now) else episode
  | .decrypted => if client.resumesSession input then none else episode
  | _ => episode

/-- A client with the time at which its current reconnect episode started. -/
def episodeMachine : EventMachine.Machine (Client × Option Nat) Input :=
  machine.remember recordEpisode

/--
A connection closes when the cap has passed since the time from which the session
counts, but not since the close that started the episode.
-/
def cutsShort (client : Client) (episode : Option Nat) (event : Event) : Bool :=
  match event with
  | .socketClosed _ =>
      (client.signals.sessionState == .reconnecting ||
          client.signals.sessionState == .resuming) &&
        (client.link.reconnectStartMs + reconnectCumulativeCapMs ≤ client.page.now &&
          client.page.now < episode.getD client.page.now + reconnectCumulativeCapMs)
  | _ => false

instance (remembered : Client × Option Nat) (input : Input) :
    Decidable (episodeMachine.enabled remembered input) :=
  inferInstanceAs (Decidable (remembered.1.enabled input))

/-- No episode is cut short, and during one no suspended work writes a state. -/
def undisturbedEpisode (remembered : Client × Option Nat) (input : Input) : Prop :=
  remembered.1.vars.terminated = false →
    input.event ≠ .reload →
      remembered.1.cutsShort remembered.2 input.event = false ∧
        (remembered.2.isSome = true → remembered.1.wakes input = false)

instance (remembered : Client × Option Nat) (input : Input) :
    Decidable (undisturbedEpisode remembered input) :=
  decidable_of_iff
    (remembered.1.vars.terminated = true ∨ input.event.isReload = true ∨
      remembered.1.cutsShort remembered.2 input.event = false ∧
        (remembered.2.isSome = true → remembered.1.wakes input = false))
    (by
      have reloads : input.event.isReload = true ↔ input.event = .reload := by
        cases input.event <;> simp [Event.isReload]
      rw [undisturbedEpisode, reloads]
      cases remembered.1.vars.terminated <;> simp
      tauto)

/-- A connection is being opened or is open. -/
def attemptPending (client : Client) : Bool :=
  client.link.socket.any fun socket => socket.readyState != .closed

/--
During an episode the reconnect timer fires when it is due, an attempt that is pending
settles within the cap, and no connection closes unnoticed while the page is being hidden.
-/
def staysInTime (client : Client) (start : Nat) (event : Event) : Bool :=
  match event with
  | .elapse ms =>
      client.link.reconnectTimer.all (fun due => client.page.now + ms ≤ due) &&
        (!client.attemptPending || client.page.now + ms ≤ start + reconnectCumulativeCapMs)
  | .socketClosed _ => !client.page.pageHiding
  | _ => true

/-- No episode is disturbed, and every attempt settles in time. -/
def timelyEpisode (remembered : Client × Option Nat) (input : Input) : Prop :=
  undisturbedEpisode remembered input ∧
    (remembered.1.vars.terminated = false →
      ∀ start ∈ remembered.2, remembered.1.staysInTime start input.event = true)

instance (remembered : Client × Option Nat) (input : Input) :
    Decidable (timelyEpisode remembered input) :=
  inferInstanceAs (Decidable (_ ∧ (_ → ∀ start ∈ remembered.2, _)))

end Client

/-! ## The episode of a live session -/

namespace Standing

/-- What holds of a live session during an episode that a close at `start` began. -/
structure InEpisode (standing : Standing) (start : Nat) : Prop where
  counted : standing.startMs ≤ start
  past : start ≤ standing.now
  state : standing.state = .reconnecting ∨ standing.state = .terminated
  context : (standing.isActive || standing.isResuming) = true
  waiting : standing.isActive = true → standing.down = true
  due : ∀ due ∈ standing.timer, due ≤ standing.startMs + reconnectCumulativeCapMs

/-- What holds of a live session while no episode is running. -/
structure Idle (standing : Standing) : Prop where
  counted : standing.startMs ≤ standing.now
  timer : standing.timer = none
  state : standing.state ≠ .reconnecting
  settled : standing.isActive = true → standing.state ≠ .resuming

/-- The standing of a live session fits the episode that a run remembers. -/
structure Budgeted (standing : Standing) (episode : Option Nat) : Prop where
  returns : standing.isResuming = true → standing.intent = .resume
  idle : episode = none → standing.Idle
  running : ∀ start ∈ episode, standing.InEpisode start

/-- A page that just loaded counts from its load. -/
theorem budgeted_boot
    (device nextDraw now : Nat)
    (storage : Option StoredSession)
    (normalizeNfc : Text → Text) :
    (Client.boot device nextDraw now storage normalizeNfc).standing.Budgeted none where
  returns := nofun
  idle := fun _ =>
    { counted := Nat.zero_le now
      timer := rfl
      state := by
        simp only [Client.standing, Client.boot]
        generalize Option.isNone _ = isFresh
        cases isFresh <;> simp
      settled := nofun }
  running := nofun

end Standing

namespace Client

variable {client : Client}

/-- Before its first connection a page has no session context. -/
theorem standing_of_unconnected
    (chain : Chain client)
    (unconnected : ¬Connected client) :
    client.standing.isActive = false ∧ client.standing.isResuming = false := by
  rcases chain.phase with offline | settled
  · simp [standing, offline.internal, InternalState.isActive, InternalState.isResuming]
  · exact absurd settled.connected unconnected

/-- No frame arrives over a connection that is closed. -/
theorem up_of_socketIn
    {states : List ReadyState}
    (notClosed : ReadyState.closed ∉ states)
    (isIn : client.socketIn states = true) : client.standing.down = false := by
  unfold socketIn at isIn
  split at isIn
  · rename_i socket isSocket
    have isIn : socket.readyState ∈ states := by simpa using isIn
    have isOpen : socket.readyState ≠ .closed := fun isClosed => notClosed (isClosed ▸ isIn)
    simp [standing, isSocket, isOpen]
  · cases isIn

/-- A session that resumes has asked to resume with its connection. -/
theorem returns_step
    (chain : Chain client)
    (returns : client.standing.isResuming = true → client.standing.intent = .resume)
    {input : Input}
    {after : Client}
    (isEnabled : machine.enabled client input)
    (moves :
      Keeps (client.fresh input) after ∨ Moved (client.fresh input) input.event after ∨
        (client.wakes input = true ∧
          (client.fresh input).standing.Unexhausted after.standing)) :
    after.standing.ended = true ∨
      (after.standing.isResuming = true → after.standing.intent = .resume) := by
  have same {standing : Standing}
      (isStanding : after.standing = standing)
      (sameResuming : standing.isResuming = client.standing.isResuming)
      (sameIntent : standing.intent = client.standing.intent) :
      after.standing.ended = true ∨
        (after.standing.isResuming = true → after.standing.intent = .resume) := by
    refine .inr ?_
    rw [isStanding, sameResuming, sameIntent]
    exact returns
  rcases moves with (isSame | ⟨ended, -⟩) | moved | ⟨-, unexhausted⟩
  · exact same isSame rfl rfl
  · exact .inl ended
  · obtain ⟨event, browser⟩ := input
    cases moved with
    | refused task isNext refuses isStanding => exact same isStanding rfl rfl
    | started flight isNext isGen isOpen isStanding => exact same isStanding rfl rfl
    | sent flight wasSending isStanding => exact same isStanding rfl rfl
    | opened isStanding => exact same isStanding rfl rfl
    | closing isStanding => exact same isStanding rfl rfl
    | closedHiding finishes isStanding => exact same isStanding rfl rfl
    | hidden isStanding => exact same isStanding rfl rfl
    | upgrading wasActive isStanding => exact same isStanding rfl rfl
    | handshaking wasWaiting isStanding => exact same isStanding rfl rfl
    | named notResuming isStanding => exact same isStanding rfl rfl
    | peerLost wasActive isStanding => exact same isStanding rfl rfl
    | restored isStanding => exact same isStanding rfl rfl
    | elapsed ms isStanding => exact same isStanding rfl rfl
    | locked isStanding => exact same isStanding rfl rfl
    | retried wasLocked isStanding => exact same isStanding rfl rfl
    | closed delay retries isDelay isStanding =>
        have sameEpisode (standing : Standing) :
            standing.episode.isResuming = standing.isResuming ∧
              standing.episode.intent = standing.intent := by
          unfold Standing.episode
          split <;> exact ⟨rfl, rfl⟩
        exact same isStanding (sameEpisode _).1 (sameEpisode _).2
    | attempted gen isStanding | resumes gen isStanding =>
        refine .inr fun _ => ?_
        rw [isStanding]
    | resumed resumes =>
        refine .inr fun isResuming => ?_
        rw [resumes.2] at isResuming
        cases isResuming
    | established isStanding =>
        refine .inr fun isResuming => ?_
        rw [isStanding] at isResuming
        cases isResuming
    | reopened gen wasCreating isStanding =>
        refine .inr fun isResuming => ?_
        rw [isStanding] at isResuming
        have asked : client.link.intentTried = .resume := returns isResuming
        exact absurd (asked.symm.trans wasCreating) nofun
    | connected gen isStanding =>
        refine .inr fun isResuming => ?_
        rw [isStanding] at isResuming
        have requested : client.vars.claim = .requested := by
          simpa using (Bool.and_eq_true_iff.mp isEnabled).2
        have unconnected := standing_of_unconnected chain fun connected => connected.1 requested
        exact absurd (unconnected.2.symm.trans isResuming) nofun
    | givenUp retries noDelay isEnded => exact .inl isEnded
    | ended reason isEnded => exact .inl isEnded
  · rcases unexhausted.wakened with ended | wakened
    · exact .inl ended
    · exact same wakened.rest rfl rfl

/-- Without an episode a session goes on without one, until its connection closes. -/
theorem idle_step
    (chain : Chain client)
    (idle : client.standing.Idle)
    {input : Input}
    {after : Client}
    (isEnabled : machine.enabled client input)
    (finishes : ∀ kind, input.event = .socketClosed kind → client.retriesAfterClose = false)
    (moves :
      Keeps (client.fresh input) after ∨ Moved (client.fresh input) input.event after ∨
        (client.wakes input = true ∧
          (client.fresh input).standing.Unexhausted after.standing)) :
    after.standing.ended = true ∨ after.standing.Idle := by
  have same {standing : Standing}
      (isStanding : after.standing = standing)
      (sameNow : standing.now = client.standing.now)
      (sameStart : standing.startMs = client.standing.startMs)
      (sameTimer : standing.timer = client.standing.timer)
      (goesOn :
        standing.state = client.standing.state ∧
            standing.isActive = client.standing.isActive ∨
          standing.state ≠ .reconnecting ∧ standing.state ≠ .resuming) :
      after.standing.ended = true ∨ after.standing.Idle := by
    subst isStanding
    refine .inr
      { counted := by rw [sameStart, sameNow]; exact idle.counted
        timer := sameTimer.trans idle.timer
        state := ?_
        settled := ?_ }
    · rcases goesOn with ⟨sameState, -⟩ | ⟨notReconnecting, -⟩
      · rw [sameState]
        exact idle.state
      · exact notReconnecting
    · rcases goesOn with ⟨sameState, sameActive⟩ | ⟨-, notResuming⟩
      · rw [sameState, sameActive]
        exact idle.settled
      · exact fun _ => notResuming
  rcases moves with (isSame | ⟨ended, -⟩) | moved | ⟨-, unexhausted⟩
  · exact same isSame rfl rfl rfl (.inl ⟨rfl, rfl⟩)
  · exact .inl ended
  · obtain ⟨event, browser⟩ := input
    cases moved with
    | refused task isNext refuses isStanding =>
        exact same isStanding rfl rfl rfl (.inl ⟨rfl, rfl⟩)
    | started flight isNext isGen isOpen isStanding =>
        exact same isStanding rfl rfl rfl (.inl ⟨rfl, rfl⟩)
    | sent flight wasSending isStanding => exact same isStanding rfl rfl rfl (.inl ⟨rfl, rfl⟩)
    | opened isStanding => exact same isStanding rfl rfl rfl (.inl ⟨rfl, rfl⟩)
    | closing isStanding => exact same isStanding rfl rfl rfl (.inl ⟨rfl, rfl⟩)
    | hidden isStanding => exact same isStanding rfl rfl rfl (.inl ⟨rfl, rfl⟩)
    | connected gen isStanding => exact same isStanding rfl rfl rfl (.inl ⟨rfl, rfl⟩)
    | upgrading wasActive isStanding =>
        exact same isStanding rfl rfl rfl (.inr (by simp))
    | handshaking wasWaiting isStanding => exact same isStanding rfl rfl rfl (.inr (by simp))
    | named notResuming isStanding => exact same isStanding rfl rfl rfl (.inr (by simp))
    | peerLost wasActive isStanding => exact same isStanding rfl rfl rfl (.inr (by simp))
    | restored isStanding => exact same isStanding rfl rfl rfl (.inr (by simp))
    | reopened gen wasCreating isStanding =>
        exact same isStanding rfl rfl rfl (.inr (by simp))
    | locked isStanding => exact same isStanding rfl rfl rfl (.inr (by simp))
    | closedHiding hides isStanding => exact same isStanding rfl rfl rfl (.inl ⟨rfl, rfl⟩)
    | closed delay retries isDelay isStanding =>
        exact absurd ((finishes _ rfl).symm.trans retries) nofun
    | givenUp retries noDelay isEnded => exact .inl isEnded
    | ended reason isEnded => exact .inl isEnded
    | elapsed ms isStanding =>
        have counted := idle.counted
        refine .inr ?_
        rw [isStanding]
        exact { idle with counted := Nat.le_trans counted (Nat.le_add_right _ ms) }
    | resumed resumes =>
        refine .inr ?_
        rw [resumes.2]
        exact ⟨Nat.zero_le _, rfl, by simp, by simp⟩
    | established isStanding =>
        refine .inr ?_
        rw [isStanding]
        exact ⟨Nat.zero_le _, rfl, by simp, by simp⟩
    | resumes gen isStanding =>
        refine .inr ?_
        rw [isStanding]
        exact ⟨idle.counted, idle.timer, idle.state, nofun⟩
    | retried wasLocked isStanding =>
        have unconnected := standing_of_unconnected chain fun connected => connected.2.2 wasLocked
        refine .inr ?_
        rw [isStanding]
        refine ⟨idle.counted, idle.timer, by simp, fun isActive => ?_⟩
        exact absurd (unconnected.1.symm.trans isActive) nofun
    | attempted gen isStanding =>
        have fires := (Bool.and_eq_true_iff.mp isEnabled).2
        have noTimer : client.link.reconnectTimer = none := idle.timer
        simp [Client.isDue, noTimer] at fires
  · rcases unexhausted.wakened with ended | wakened
    · exact .inl ended
    · refine same wakened.rest rfl rfl rfl ?_
      rcases wakened.state with sameState | isActive | isRekeying
      · exact .inl ⟨sameState, rfl⟩
      · exact .inr (by simp [isActive])
      · exact .inr (by simp [isRekeying])

/-- A session with a context is past its start-up. -/
theorem connected_of_context
    (chain : Chain client)
    (context : (client.standing.isActive || client.standing.isResuming) = true) :
    Connected client := by
  by_contra unconnected
  have noContext := standing_of_unconnected chain unconnected
  rw [noContext.1, noContext.2] at context
  cases context

/-- No handshake is completed in a session with a context. -/
theorem not_handshakeDerived_of_context
    (chain : Chain client)
    (live : client.vars.terminated = false)
    (context : (client.standing.isActive || client.standing.isResuming) = true) :
    client.handlerAt .handshake = false := by
  by_contra awaits
  rcases chain.phase with offline | settled
  · obtain ⟨handler, running, -⟩ := Settled.awaiting (by simpa using awaits)
    rw [offline.handler] at running
    cases running
  · rcases settled.handshaking (by simpa [handlerAt] using awaits) with ended | noContext
    · exact Bool.false_ne_true (live.symm.trans ended)
    · have isNone : client.vars.internal.context? = none := by
        simpa [Client.received] using noContext
      cases isInternal : client.vars.internal <;>
        simp_all [standing, InternalState.context?, InternalState.isActive,
          InternalState.isResuming]

/-- An episode goes on until the connection closes or the session is resumed. -/
theorem inEpisode_step
    (chain : Chain client)
    (live : client.vars.terminated = false)
    {start : Nat}
    (episode : client.standing.InEpisode start)
    (returns : client.standing.isResuming = true → client.standing.intent = .resume)
    {input : Input}
    {after : Client}
    (isEnabled : machine.enabled client input)
    (finishes : ∀ kind, input.event = .socketClosed kind → client.retriesAfterClose = false)
    (quiet : client.wakes input = false)
    (notResumed : input.event = .decrypted → ¬Resumes (client.fresh input) after)
    (moves :
      Keeps (client.fresh input) after ∨ Moved (client.fresh input) input.event after ∨
        (client.wakes input = true ∧
          (client.fresh input).standing.Unexhausted after.standing)) :
    after.standing.ended = true ∨ after.standing.InEpisode start := by
  have connected := connected_of_context chain episode.context
  have inState {state : SessionState}
      (isState : client.standing.state = state)
      (isOther : state ≠ .reconnecting ∧ state ≠ .terminated) : False := by
    rcases episode.state with isReconnecting | isTerminated
    · exact isOther.1 (isState.symm.trans isReconnecting)
    · exact isOther.2 (isState.symm.trans isTerminated)
  -- the connection is closed until the timer has fired
  have isResuming {states : List ReadyState}
      (notClosed : ReadyState.closed ∉ states)
      (isIn : client.socketIn states = true) :
      client.standing.isActive = false ∧ client.standing.isResuming = true := by
    have up := up_of_socketIn notClosed isIn
    have notActive : client.standing.isActive = false :=
      Bool.eq_false_iff.mpr fun isActive => absurd (up.symm.trans (episode.waiting isActive)) nofun
    have context := episode.context
    rw [notActive, Bool.false_or] at context
    exact ⟨notActive, context⟩
  rcases moves with (isSame | ⟨ended, -⟩) | moved | ⟨wakes, -⟩
  · refine .inr ?_
    rw [isSame]
    exact { episode with }
  · exact .inl ended
  · obtain ⟨event, browser⟩ := input
    cases moved with
    | refused task isNext refuses isStanding
    | started flight isNext isGen isOpen isStanding
    | sent flight wasSending isStanding =>
        refine .inr ?_
        rw [isStanding]
        exact { episode with }
    | hidden isStanding =>
        refine .inr ?_
        rw [isStanding]
        exact { episode with }
    | opened isStanding =>
        have isUp := isResuming (by decide) (Bool.and_eq_true_iff.mp isEnabled).2
        refine .inr ?_
        rw [isStanding]
        exact
          { episode with
            waiting := fun isActive => absurd (isUp.1.symm.trans isActive) nofun }
    | closing isStanding =>
        have isUp := isResuming (by decide) (Bool.and_eq_true_iff.mp isEnabled).2
        refine .inr ?_
        rw [isStanding]
        exact
          { episode with
            waiting := fun isActive => absurd (isUp.1.symm.trans isActive) nofun }
    | upgrading wasActive isStanding => exact (inState wasActive (by simp)).elim
    | handshaking wasWaiting isStanding =>
        rcases wasWaiting with wasConnecting | wasWaiting
        · exact (inState wasConnecting (by simp)).elim
        · exact (inState wasWaiting (by simp)).elim
    | resumed resumes => exact absurd resumes (notResumed rfl)
    | established isStanding =>
        have awaits := not_handshakeDerived_of_context chain live episode.context
        exact absurd (awaits.symm.trans (Bool.and_eq_true_iff.mp isEnabled).2) nofun
    | named notResuming isStanding =>
        have isUp := isResuming (by decide) (Bool.and_eq_true_iff.mp isEnabled).2
        exact absurd (isUp.2.symm.trans notResuming) nofun
    | peerLost wasActive isStanding =>
        have isUp := isResuming (by decide) (Bool.and_eq_true_iff.mp isEnabled).2
        exact absurd (isUp.1.symm.trans wasActive) nofun
    | reopened gen wasCreating isStanding =>
        have isUp := isResuming (by decide) (Bool.and_eq_true_iff.mp isEnabled).2
        have asked : client.link.intentTried = .resume := returns isUp.2
        exact absurd (asked.symm.trans wasCreating) nofun
    | restored isStanding =>
        refine .inr ?_
        rw [isStanding]
        exact { episode with state := .inr rfl }
    | elapsed ms isStanding =>
        refine .inr ?_
        rw [isStanding]
        exact { episode with past := Nat.le_trans episode.past (Nat.le_add_right _ ms) }
    | attempted gen isStanding =>
        refine .inr ?_
        rw [isStanding]
        exact
          { counted := episode.counted
            past := episode.past
            state := episode.state
            context := by simpa using episode.context
            waiting := nofun
            due := nofun }
    | connected gen isStanding =>
        have requested : client.vars.claim = .requested := by
          simpa using (Bool.and_eq_true_iff.mp isEnabled).2
        exact absurd requested connected.1
    | locked isStanding =>
        have attempting : client.vars.resumeAttempt = true := (Bool.and_eq_true_iff.mp isEnabled).2
        exact absurd (connected.2.1.symm.trans attempting) nofun
    | resumes gen isStanding =>
        have attempting : client.vars.resumeAttempt = true := (Bool.and_eq_true_iff.mp isEnabled).2
        exact absurd (connected.2.1.symm.trans attempting) nofun
    | retried wasLocked isStanding => exact absurd wasLocked connected.2.2
    | closedHiding hides isStanding =>
        refine .inr ?_
        rw [isStanding]
        exact { episode with waiting := fun _ => rfl }
    | closed delay retries isDelay isStanding =>
        exact absurd ((finishes _ rfl).symm.trans retries) nofun
    | givenUp retries noDelay isEnded => exact .inl isEnded
    | ended reason isEnded => exact .inl isEnded
  · exact absurd (quiet.symm.trans wakes) nofun

/-- Only a connection that exists closes. -/
theorem socket_of_closed
    {input : Input}
    {kind : CloseKind}
    (isEnabled : machine.enabled client input)
    (isClosed : input.event = .socketClosed kind) :
    ∃ socket, client.link.socket = some socket := by
  obtain ⟨event, browser⟩ := input
  subst isClosed
  have isIn : client.socketIn [.connecting, .opened, .closing] = true :=
    (Bool.and_eq_true_iff.mp isEnabled).2
  unfold socketIn at isIn
  split at isIn
  · exact ⟨_, ‹_›⟩
  · cases isIn

/-- A session that is to reconnect after a close has a context. -/
theorem context_of_retries
    (retries : client.retriesAfterClose = true) :
    (client.standing.isActive || client.standing.isResuming) = true := by
  simp only [retriesAfterClose, Bool.and_eq_true] at retries
  have retries := retries.2
  unfold canRetryReconnect at retries
  cases isInternal : client.vars.internal with
  | preActive => simp [isInternal, InternalState.context?] at retries
  | resuming active => simp [standing, isInternal, InternalState.isResuming]
  | active active => simp [standing, isInternal, InternalState.isActive]

theorem state_of_retries
    (retries : client.retriesAfterClose = true) :
    (client.standing.state = .active ∨ client.standing.state = .peerReconnecting) ∨
      client.standing.state = .reconnecting ∨ client.standing.state = .resuming := by
  simp only [retriesAfterClose, Bool.and_eq_true] at retries
  have retries := retries.2
  unfold canRetryReconnect at retries
  split at retries
  · cases retries
  · split at retries
    · cases retries
    · change
        (client.signals.sessionState = _ ∨ client.signals.sessionState = _) ∨
          client.signals.sessionState = _ ∨ client.signals.sessionState = _
      split at retries <;> simp_all

/-- From where the session counts at a close. -/
theorem episode_counted
    {episode : Option Nat}
    (budgeted : client.standing.Budgeted episode)
    (retries : client.retriesAfterClose = true) :
    client.standing.episode.startMs ≤ episode.getD client.standing.now ∧
      episode.getD client.standing.now ≤ client.standing.now := by
  rcases state_of_retries retries with isTalking | isRunning
  · have fresh : client.standing.episode.startMs = client.standing.now := by
      rw [Standing.episode_of_idle] <;> rcases isTalking with isState | isState <;> simp [isState]
    cases episode with
    | none => exact ⟨Nat.le_of_eq fresh, Nat.le_refl _⟩
    | some start =>
        rcases (budgeted.running start rfl).state with isOther | isOther <;>
          rcases isTalking with isState | isState <;>
            exact absurd (isOther.symm.trans isState) nofun
  · rw [Standing.episode_of_running isRunning]
    cases episode with
    | none => exact ⟨(budgeted.idle rfl).counted, Nat.le_refl _⟩
    | some start => exact ⟨(budgeted.running start rfl).counted, (budgeted.running start rfl).past⟩

/-- The attempt that a close schedules is due before the budget ends. -/
theorem delay_within
    {episode : Option Nat}
    (budgeted : client.standing.Budgeted episode)
    (retries : client.retriesAfterClose = true)
    {delay : Nat}
    (isDelay : client.standing.delay = some delay) :
    0 < delay ∧
      client.standing.now + delay ≤
        client.standing.episode.startMs + reconnectCumulativeCapMs := by
  have counted := episode_counted budgeted retries
  have within := nextReconnectDelayMs_within isDelay
  omega

/-- A close starts an episode or goes on with the current one. -/
theorem closed_budgeted
    {episode : Option Nat}
    (budgeted : client.standing.Budgeted episode)
    (retries : client.retriesAfterClose = true)
    {after : Client}
    {delay : Nat}
    (isDelay : client.standing.delay = some delay)
    (isScheduled : after.standing =
      { client.standing.episode with
        state := .reconnecting
        opened := false
        down := true
        timer := some (client.standing.now + delay) }) :
    after.standing.Budgeted (some (episode.getD client.standing.now)) := by
  have counted := episode_counted budgeted retries
  have within := delay_within budgeted retries isDelay
  have same :
      client.standing.episode.now = client.standing.now ∧
        client.standing.episode.isActive = client.standing.isActive ∧
        client.standing.episode.isResuming = client.standing.isResuming ∧
        client.standing.episode.intent = client.standing.intent := by
    unfold Standing.episode
    split <;> exact ⟨rfl, rfl, rfl, rfl⟩
  obtain ⟨sameNow, sameActive, sameResuming, sameIntent⟩ := same
  rw [isScheduled]
  refine
    { returns := by
        simp only [sameResuming, sameIntent]
        exact budgeted.returns
      idle := nofun
      running := ?_ }
  rintro start ⟨⟩
  exact
    { counted := counted.1
      past := by
        simp only [sameNow]
        exact counted.2
      state := .inl rfl
      context := by
        simp only [sameActive, sameResuming]
        exact context_of_retries retries
      waiting := fun _ => rfl
      due := by
        rintro due ⟨⟩
        exact within.2 }

/-- A session that is resumed has no episode any more. -/
theorem idle_of_resumes
    {before after : Client}
    (resumes : Resumes before after) : after.standing.Idle := by
  rw [resumes.2]
  exact ⟨Nat.zero_le _, rfl, by simp, by simp⟩

/-- What a step does that resumes a session. -/
theorem resumes_of_resumesSession
    {input : Input}
    (isDecrypted : input.event = .decrypted)
    (resumes : client.resumesSession input = true)
    (moves :
      Keeps (client.fresh input) (machine.step client input) ∨
        Moved (client.fresh input) input.event (machine.step client input) ∨
        (client.wakes input = true ∧
          (client.fresh input).standing.Unexhausted (machine.step client input).standing)) :
    (machine.step client input).standing.ended = true ∨
      Resumes (client.fresh input) (machine.step client input) := by
  obtain ⟨wasResuming, isActive⟩ := Bool.and_eq_true_iff.mp resumes
  have wasInactive : client.standing.isActive = false := by
    cases isInternal : client.vars.internal <;>
      simp_all [standing, InternalState.isResuming, InternalState.isActive]
  have differs (same : (machine.step client input).standing.isActive = client.standing.isActive) :
      False :=
    Bool.false_ne_true ((wasInactive.symm.trans same.symm).trans isActive)
  rcases moves with (isSame | ⟨ended, -⟩) | moved | ⟨-, unexhausted⟩
  · exact (differs (by rw [isSame]; rfl)).elim
  · exact .inl ended
  · rw [isDecrypted] at moved
    cases moved with
    | resumed resumes => exact .inr resumes
  · rcases unexhausted.wakened with ended | wakened
    · exact .inl ended
    · exact (differs (by rw [wakened.rest]; rfl)).elim

theorem fresh_delay (input : Input) :
    (client.fresh input).standing.delay = client.standing.delay := by
  rw [fresh_standing]
  unfold Standing.delay Standing.episode
  split <;> rfl

/-- The step of a session whose connection closes and is to be opened again. -/
theorem step_retrying
    {input : Input}
    {kind : CloseKind}
    (isEnabled : machine.enabled client input)
    (isClosed : input.event = .socketClosed kind)
    (retries : client.retriesAfterClose = true) :
    (client.standing.delay = none ∧ (machine.step client input).standing.ended = true ∧
        (machine.step client input).standing.exhausted = true) ∨
      ∃ delay, client.standing.delay = some delay ∧
        (machine.step client input).standing =
          { (client.fresh input).standing.episode with
            state := .reconnecting
            opened := false
            down := true
            timer := some (client.page.now + delay) } := by
  obtain ⟨socket, isSocket⟩ := socket_of_closed isEnabled isClosed
  have stepEq : machine.step client input = (client.fresh input).socketClosed kind := by
    change (client.fresh input).handle input.event = _
    rw [isClosed]
    rfl
  have freshSocket : (client.fresh input).link.socket = some socket := isSocket
  have closes := Moved.socketClosed_retrying freshSocket retries kind
  rw [fresh_delay, ← stepEq] at closes
  exact closes

variable (client) in
/-- A step starts or goes on with an episode by a close, ends it by a resume, or leaves it. -/
theorem recordEpisode_cases
    {input : Input}
    (episode : Option Nat)
    (notReload : input.event ≠ .reload) :
    (∃ kind, input.event = .socketClosed kind ∧ client.retriesAfterClose = true ∧
        recordEpisode episode client input = some (episode.getD client.page.now)) ∨
      (input.event = .decrypted ∧ client.resumesSession input = true ∧
        recordEpisode episode client input = none) ∨
      (recordEpisode episode client input = episode ∧
        (∀ kind, input.event = .socketClosed kind → client.retriesAfterClose = false) ∧
        (input.event = .decrypted →
          ¬Resumes (client.fresh input) (machine.step client input))) := by
  by_cases closes : ∃ kind, input.event = .socketClosed kind ∧ client.retriesAfterClose = true
  · obtain ⟨kind, isClosed, retries⟩ := closes
    refine .inl ⟨kind, isClosed, retries, ?_⟩
    simp [recordEpisode, isClosed, retries]
  · by_cases resumes : input.event = .decrypted ∧ client.resumesSession input = true
    · refine .inr (.inl ⟨resumes.1, resumes.2, ?_⟩)
      simp [recordEpisode, resumes.1, resumes.2]
    · refine .inr (.inr ⟨?_, ?_, ?_⟩)
      · unfold recordEpisode
        split
        · exact absurd ‹_› notReload
        · rename_i kind isClosed
          exact if_neg fun retries => closes ⟨kind, isClosed, retries⟩
        · rename_i isDecrypted
          exact if_neg fun isResumed => resumes ⟨isDecrypted, isResumed⟩
        · rfl
      · exact fun kind isClosed => Bool.eq_false_iff.mpr fun retries =>
          closes ⟨kind, isClosed, retries⟩
      · intro isDecrypted resumed
        have isActive : (machine.step client input).standing.isActive = true := by rw [resumed.2]
        exact resumes ⟨isDecrypted, Bool.and_eq_true_iff.mpr ⟨resumed.1, isActive⟩⟩

/-- Every step keeps the session within its budget. -/
theorem budgeted_step
    {allowed : Client → Input → Prop}
    (reachable : machine.Reachable Booted allowed client)
    (live : client.vars.terminated = false)
    {episode : Option Nat}
    (budgeted : client.standing.Budgeted episode)
    {input : Input}
    (isEnabled : machine.enabled client input)
    (notReload : input.event ≠ .reload)
    (quiet : episode.isSome = true → client.wakes input = false) :
    (machine.step client input).vars.terminated = true ∨
      (machine.step client input).standing.Budgeted (recordEpisode episode client input) := by
  have chain := Chain.of_reachable reachable
  have moves := step_moves reachable live isEnabled notReload
  have returns := returns_step chain budgeted.returns isEnabled moves
  rcases recordEpisode_cases client episode notReload with
    ⟨kind, isClosed, retries, recorded⟩ | ⟨isDecrypted, isResumed, recorded⟩ |
      ⟨recorded, finishes, notResumed⟩
  · rw [recorded]
    rcases step_retrying isEnabled isClosed retries with
      ⟨-, ended, -⟩ | ⟨delay, isDelay, isScheduled⟩
    · exact .inl ended
    · rw [← fresh_delay input] at isDelay
      have freshBudgeted : (client.fresh input).standing.Budgeted episode :=
        { returns := budgeted.returns
          idle := fun isNone => { budgeted.idle isNone with }
          running := fun start isStart => { budgeted.running start isStart with } }
      exact .inr (closed_budgeted freshBudgeted retries isDelay isScheduled)
  · rw [recorded]
    rcases resumes_of_resumesSession isDecrypted isResumed moves with ended | resumes
    · exact .inl ended
    · refine returns.imp id fun returns => ?_
      exact ⟨returns, fun _ => idle_of_resumes resumes, nofun⟩
  · rw [recorded]
    rcases returns with ended | returns
    · exact .inl ended
    · cases episode with
      | none =>
          refine (idle_step chain (budgeted.idle rfl) isEnabled finishes moves).imp id ?_
          exact fun idle => ⟨returns, fun _ => idle, nofun⟩
      | some start =>
          refine
            (inEpisode_step chain live (budgeted.running start rfl) budgeted.returns isEnabled
              finishes (quiet rfl) notResumed moves).imp id fun running => ⟨returns, nofun, ?_⟩
          rintro _ ⟨⟩
          exact running

/-- In every run in which no episode is disturbed a live session keeps to its budget. -/
theorem budgeted_of_reachable
    {remembered : Client × Option Nat}
    (reachable :
      episodeMachine.Reachable (fun first => Booted first.1 ∧ first.2 = none)
        undisturbedEpisode remembered) :
    remembered.1.vars.terminated = false → remembered.1.standing.Budgeted remembered.2 := by
  induction reachable with
  | @start first booted =>
      obtain ⟨client, episode⟩ := first
      obtain ⟨⟨device, nextDraw, now, storage, normalizeNfc, rfl⟩, rfl⟩ := booted
      exact fun _ => Standing.budgeted_boot _ _ _ _ _
  | @next before input earlier isEnabled isAllowed inductionHypothesis =>
      obtain ⟨client, episode⟩ := before
      have reachable : machine.Reachable Booted EventMachine.Machine.anyStep client :=
        earlier.forget
      intro liveAfter
      change (machine.step client input).standing.Budgeted (recordEpisode episode client input)
      by_cases reloads : input.event = .reload
      · have reloaded : machine.step client input = (client.fresh input).reload := by
          change (client.fresh input).handle input.event = _
          rw [reloads]
          rfl
        have forgotten : recordEpisode episode client input = none := by
          simp only [recordEpisode, reloads]
        rw [reloaded, forgotten]
        exact Standing.budgeted_boot _ _ _ _ _
      · have live : client.vars.terminated = false := by
          refine Bool.eq_false_iff.mpr fun ended => ?_
          have stays := (step_calm (phase_of_reachable reachable) isEnabled reloads).stays ended
          exact absurd (stays.symm.trans liveAfter) (by decide)
        have undisturbed := isAllowed live reloads
        rcases budgeted_step reachable live (inductionHypothesis live) isEnabled reloads
            undisturbed.2 with ended | budgeted
        · exact absurd (ended.symm.trans liveAfter) (by decide)
        · exact budgeted

/-! ## Attempts that settle in time -/

/-- An attempt is scheduled or pending, and the cap has not passed. -/
structure InTime (standing : Standing) (start : Nat) : Prop where
  tries : standing.timer.isSome = true ∨ standing.gen.isSome = true ∧ standing.down = false
  within : standing.now ≤ start + reconnectCumulativeCapMs

/-- A connection that closes for good in a page that is shown ends the session. -/
theorem ended_of_socketClosed
    {input : Input}
    {kind : CloseKind}
    (isEnabled : machine.enabled client input)
    (isClosed : input.event = .socketClosed kind)
    (live : client.vars.terminated = false)
    (shown : client.page.pageHiding = false)
    (finishes : client.retriesAfterClose = false) :
    (machine.step client input).standing.ended = true := by
  obtain ⟨socket, isSocket⟩ := socket_of_closed isEnabled isClosed
  have stepEq : machine.step client input = (client.fresh input).socketClosed kind := by
    change (client.fresh input).handle input.event = _
    rw [isClosed]
    rfl
  have freshSocket : (client.fresh input).link.socket = some socket := isSocket
  have freshLive : (client.fresh input).vars.terminated = false := live
  have freshShown : (client.fresh input).page.pageHiding = false := shown
  have freshRetry : (client.fresh input).canRetryReconnect = false := by
    rw [retriesAfterClose, live, shown, Bool.not_false, Bool.true_and, Bool.true_and] at finishes
    exact finishes
  rw [stepEq]
  unfold Client.socketClosed
  simp only [freshSocket, freshLive, freshShown, Bool.or_self, Bool.false_eq_true, ↓reduceIte]
  generalize closedEq :
    ({ client.fresh input with link.socket := some { socket with readyState := .closed } } :
      Client) = closed
  have frame := tellFilesClosed_frame closed
  have gives : closed.tellFilesClosed.canRetryReconnect = false := by
    rw [canRetryReconnect, frame.signals, frame.vars, ← closedEq]
    exact freshRetry
  rw [if_neg (Bool.eq_false_iff.mp gives)]
  exact terminate_terminated closed.tellFilesClosed (.wsClose kind)

/-- The connection of a pending attempt is not down. -/
theorem attemptPending_iff :
    client.attemptPending = true ↔
      client.standing.gen.isSome = true ∧ client.standing.down = false := by
  unfold attemptPending standing
  cases client.link.socket with
  | none => simp
  | some socket => simp

/-- While attempts settle in time, an episode stays within its cap. -/
theorem inTime_step
    (chain : Chain client)
    (live : client.vars.terminated = false)
    {start : Nat}
    (episode : client.standing.InEpisode start)
    (inTime : InTime client.standing start)
    {input : Input}
    (isEnabled : machine.enabled client input)
    (finishes : ∀ kind, input.event = .socketClosed kind → client.retriesAfterClose = false)
    (quiet : client.wakes input = false)
    (notResumed :
      input.event = .decrypted → ¬Resumes (client.fresh input) (machine.step client input))
    (timely : client.staysInTime start input.event = true)
    (moves :
      Keeps (client.fresh input) (machine.step client input) ∨
        Moved (client.fresh input) input.event (machine.step client input) ∨
        (client.wakes input = true ∧
          (client.fresh input).standing.Unexhausted (machine.step client input).standing)) :
    (machine.step client input).standing.ended = true ∨
      InTime (machine.step client input).standing start := by
  have same {standing : Standing}
      (isStanding : (machine.step client input).standing = standing)
      (sameTimer : standing.timer = client.standing.timer)
      (sameGen : standing.gen = client.standing.gen)
      (isUp : standing.down = client.standing.down ∨ standing.down = false)
      (sameNow : standing.now = client.standing.now) :
      (machine.step client input).standing.ended = true ∨
        InTime (machine.step client input).standing start := by
    refine .inr ⟨?_, ?_⟩
    · rw [isStanding, sameTimer, sameGen]
      refine inTime.tries.imp id fun pending => ⟨pending.1, ?_⟩
      rcases isUp with sameDown | isUp
      · rw [sameDown]
        exact pending.2
      · exact isUp
    · rw [isStanding, sameNow]
      exact inTime.within
  rcases moves with (isSame | ⟨ended, -⟩) | moved | ⟨wakes, -⟩
  · exact same isSame rfl rfl (.inl rfl) rfl
  · exact .inl ended
  · obtain ⟨event, browser⟩ := input
    cases moved with
    | refused task isNext refuses isStanding => exact same isStanding rfl rfl (.inl rfl) rfl
    | started flight isNext isGen isOpen isStanding =>
        exact same isStanding rfl rfl (.inl rfl) rfl
    | sent flight wasSending isStanding => exact same isStanding rfl rfl (.inl rfl) rfl
    | hidden isStanding => exact same isStanding rfl rfl (.inl rfl) rfl
    | opened isStanding => exact same isStanding rfl rfl (.inr rfl) rfl
    | closing isStanding => exact same isStanding rfl rfl (.inr rfl) rfl
    | upgrading wasActive isStanding => exact same isStanding rfl rfl (.inl rfl) rfl
    | handshaking wasWaiting isStanding => exact same isStanding rfl rfl (.inl rfl) rfl
    | named notResuming isStanding => exact same isStanding rfl rfl (.inl rfl) rfl
    | peerLost wasActive isStanding => exact same isStanding rfl rfl (.inl rfl) rfl
    | restored isStanding => exact same isStanding rfl rfl (.inl rfl) rfl
    | locked isStanding => exact same isStanding rfl rfl (.inl rfl) rfl
    | retried wasLocked isStanding => exact same isStanding rfl rfl (.inl rfl) rfl
    | resumed resumes => exact absurd resumes (notResumed rfl)
    | established isStanding =>
        have awaits := not_handshakeDerived_of_context chain live episode.context
        exact absurd (awaits.symm.trans (Bool.and_eq_true_iff.mp isEnabled).2) nofun
    | reopened gen wasCreating isStanding
    | attempted gen isStanding
    | connected gen isStanding
    | resumes gen isStanding =>
        refine .inr ⟨.inr ?_, ?_⟩
        · rw [isStanding]
          exact ⟨rfl, rfl⟩
        · rw [isStanding]
          exact inTime.within
    | elapsed ms isStanding =>
        refine .inr ⟨?_, ?_⟩
        · rw [isStanding]
          exact inTime.tries
        · simp only [staysInTime, Bool.and_eq_true, Bool.or_eq_true, Bool.not_eq_true',
            decide_eq_true_eq] at timely
          rw [isStanding]
          change client.page.now + ms ≤ start + reconnectCumulativeCapMs
          rcases inTime.tries with scheduled | pending
          · obtain ⟨due, isDue⟩ := Option.isSome_iff_exists.mp scheduled
            have isTimer : client.link.reconnectTimer = some due := isDue
            have onTime := timely.1
            rw [isTimer, Option.all_some, decide_eq_true_eq] at onTime
            have isWithin := episode.due due isDue
            have counted := episode.counted
            omega
          · rcases timely.2 with notPending | isWithin
            · exact absurd (attemptPending_iff.mpr pending) (Bool.eq_false_iff.mp notPending)
            · exact isWithin
    | @closedHiding _ kind hides isStanding =>
        exact .inl (ended_of_socketClosed isEnabled rfl live (by simpa [staysInTime] using timely)
          (finishes kind rfl))
    | closed delay retries isDelay isStanding =>
        exact absurd ((finishes _ rfl).symm.trans retries) nofun
    | givenUp retries noDelay isEnded => exact .inl isEnded
    | ended reason isEnded => exact .inl isEnded
  · exact absurd (quiet.symm.trans wakes) nofun

/-- A close that is followed by an attempt schedules it within the cap. -/
theorem inTime_of_retries
    {episode : Option Nat}
    (inTime : ∀ start ∈ episode, InTime client.standing start)
    {input : Input}
    {kind : CloseKind}
    (isEnabled : machine.enabled client input)
    (isClosed : input.event = .socketClosed kind)
    (retries : client.retriesAfterClose = true) :
    (machine.step client input).standing.ended = true ∨
      InTime (machine.step client input).standing (episode.getD client.page.now) := by
  rcases step_retrying isEnabled isClosed retries with ⟨-, ended, -⟩ | ⟨delay, -, isScheduled⟩
  · exact .inl ended
  · have sameNow : (client.fresh input).standing.episode.now = client.page.now := by
      unfold Standing.episode
      split <;> rfl
    rw [isScheduled]
    refine .inr ⟨.inl rfl, ?_⟩
    simp only [sameNow]
    cases episode with
    | none => exact Nat.le_add_right _ _
    | some start => exact (inTime start rfl).within

/-- In a run whose attempts all settle in time, a live session is never in an episode
when the cap has passed. -/
theorem inTime_of_reachable
    {remembered : Client × Option Nat}
    (reachable :
      episodeMachine.Reachable (fun first => Booted first.1 ∧ first.2 = none)
        timelyEpisode remembered) :
    remembered.1.vars.terminated = false →
      ∀ start ∈ remembered.2, InTime remembered.1.standing start := by
  induction reachable with
  | @start first booted =>
      obtain ⟨client, episode⟩ := first
      obtain ⟨-, rfl⟩ := booted
      rintro - start ⟨⟩
  | @next before input earlier isEnabled isAllowed inductionHypothesis =>
      obtain ⟨client, episode⟩ := before
      have reachable : machine.Reachable Booted EventMachine.Machine.anyStep client :=
        earlier.forget
      intro liveAfter
      change ∀ start ∈ recordEpisode episode client input,
        InTime (machine.step client input).standing start
      by_cases reloads : input.event = .reload
      · simp [recordEpisode, reloads]
      · have live : client.vars.terminated = false := by
          refine Bool.eq_false_iff.mpr fun ended => ?_
          have stays := (step_calm (phase_of_reachable reachable) isEnabled reloads).stays ended
          exact absurd (stays.symm.trans liveAfter) (by decide)
        have inTime := inductionHypothesis live
        have budgeted : client.standing.Budgeted episode :=
          budgeted_of_reachable (earlier.mono fun _ _ timely => timely.1) live
        have notEnded {law : Prop}
            (outcome : (machine.step client input).standing.ended = true ∨ law) : law :=
          outcome.resolve_left fun ended => absurd (ended.symm.trans liveAfter) (by decide)
        rcases recordEpisode_cases client episode reloads with
          ⟨kind, isClosed, retries, recorded⟩ | ⟨-, -, recorded⟩ |
            ⟨recorded, finishes, notResumed⟩
        · rw [recorded]
          rintro _ ⟨⟩
          exact notEnded (inTime_of_retries inTime isEnabled isClosed retries)
        · simp [recorded]
        · rw [recorded]
          intro start isStart
          have isSome : episode.isSome = true := by rw [isStart]; rfl
          exact notEnded
            (inTime_step (Chain.of_reachable reachable) live (budgeted.running start isStart)
              (inTime start isStart) isEnabled finishes ((isAllowed.1 live reloads).2 isSome)
              notResumed (isAllowed.2 live start isStart) (step_moves reachable live isEnabled reloads))

/-! ## The laws of an episode -/

/-- A step of a live session ends it because the episode's budget is used up. -/
def givesUp (client : Client) (input : Input) : Prop :=
  (machine.step client input).out.any Act.isExhaustion = true

/-- What a step of a live session may do to the episode that is running. -/
structure KeepsBudget (client : Client) (episode : Option Nat) (input : Input) : Prop where
  /-- the session itself gives up only once the cap has passed -/
  exhausted :
    client.givesUp input →
      (∀ reason, input.event ≠ .terminate reason) →
        ∃ start, episode = some start ∧ start + reconnectCumulativeCapMs ≤ client.page.now
  /-- from then on the first attempt that fails ends the session -/
  ends :
    ∀ kind start,
      input.event = .socketClosed kind →
        client.retriesAfterClose = true →
          episode = some start →
            start + reconnectCumulativeCapMs ≤ client.page.now →
              client.givesUp input ∧ (machine.step client input).vars.terminated = true
  /-- an attempt that fails before is followed by another one within the cap -/
  retries :
    ∀ kind start,
      input.event = .socketClosed kind →
        client.retriesAfterClose = true →
          episode = some start →
            client.page.now < start + reconnectCumulativeCapMs →
              ∃ due,
                (machine.step client input).link.reconnectTimer = some due ∧
                  client.page.now < due ∧ due ≤ start + reconnectCumulativeCapMs
  /-- a session that was resumed is ACTIVE without an episode -/
  resumed :
    input.event = .decrypted →
      client.resumesSession input = true →
        (machine.step client input).vars.terminated = false →
          recordEpisode episode client input = none ∧
            (machine.step client input).link.reconnectTimer = none ∧
            (machine.step client input).signals.sessionState = .active
  /-- and its next close starts a fresh one -/
  starts :
    ∀ kind,
      input.event = .socketClosed kind →
        client.retriesAfterClose = true →
          episode = none →
            client.vars.internal.isActive = true →
              recordEpisode episode client input = some client.page.now ∧
                (machine.step client input).link.reconnectStartMs = client.page.now ∧
                (machine.step client input).link.reconnectAttempt = 0 ∧
                (machine.step client input).link.reconnectTimer = some (client.page.now + 1000)

/-- A listed move gives up an episode only when a connection closes. -/
theorem Moved.gives_up
    {before after : Client}
    {event : Event}
    (moved : Moved before event after)
    (quiet : before.standing.exhausted = false)
    (isExhausted : after.standing.exhausted = true) :
    (∃ kind, event = .socketClosed kind ∧ before.retriesAfterClose = true ∧
        before.standing.delay = none) ∨
      ∃ reason, event = .terminate reason := by
  have keeps {standing : Standing}
      (isStanding : after.standing = standing)
      (same : standing.exhausted = before.standing.exhausted) : False := by
    rw [isStanding, same, quiet] at isExhausted
    cases isExhausted
  cases moved with
  | givenUp retries noDelay isEnded => exact .inl ⟨_, rfl, retries, noDelay⟩
  | ended reason isEnded => exact .inr ⟨reason, rfl⟩
  | closed delay retries isDelay isStanding =>
      refine (keeps isStanding ?_).elim
      unfold Standing.episode
      split <;> rfl
  | resumed resumes => exact (keeps resumes.2 rfl).elim
  | refused task isNext refuses isStanding => exact (keeps isStanding rfl).elim
  | started flight isNext isGen isOpen isStanding => exact (keeps isStanding rfl).elim
  | sent flight wasSending isStanding => exact (keeps isStanding rfl).elim
  | closedHiding hides isStanding => exact (keeps isStanding rfl).elim
  | upgrading wasActive isStanding => exact (keeps isStanding rfl).elim
  | handshaking wasWaiting isStanding => exact (keeps isStanding rfl).elim
  | named notResuming isStanding => exact (keeps isStanding rfl).elim
  | peerLost wasActive isStanding => exact (keeps isStanding rfl).elim
  | reopened gen wasCreating isStanding => exact (keeps isStanding rfl).elim
  | attempted gen isStanding => exact (keeps isStanding rfl).elim
  | elapsed ms isStanding => exact (keeps isStanding rfl).elim
  | connected gen isStanding => exact (keeps isStanding rfl).elim
  | resumes gen isStanding => exact (keeps isStanding rfl).elim
  | retried wasLocked isStanding => exact (keeps isStanding rfl).elim
  | opened isStanding | closing isStanding | hidden isStanding | established isStanding
  | restored isStanding | locked isStanding => exact (keeps isStanding rfl).elim

/-- An episode that is not cut short is given up when the cap has passed. -/
theorem usedUp_of_delay
    {episode : Option Nat}
    (retries : client.retriesAfterClose = true)
    (noDelay : client.standing.delay = none)
    {kind : CloseKind}
    (notCut : client.cutsShort episode (.socketClosed kind) = false) :
    ∃ start, episode = some start ∧ start + reconnectCumulativeCapMs ≤ client.page.now := by
  have usedUp := nextReconnectDelayMs_eq_none_iff.mp noDelay
  have cap : 0 < reconnectCumulativeCapMs := by decide
  rcases state_of_retries retries with isTalking | isRunning
  · rw [Standing.episode_of_idle] at usedUp
    · simp only [Nat.sub_self] at usedUp
      omega
    · rcases isTalking with isState | isState <;> simp [isState]
    · rcases isTalking with isState | isState <;> simp [isState]
  · rw [Standing.episode_of_running isRunning] at usedUp
    have counts : client.link.reconnectStartMs + reconnectCumulativeCapMs ≤ client.page.now := by
      have usedUp : reconnectCumulativeCapMs ≤ client.page.now - client.link.reconnectStartMs :=
        usedUp
      omega
    have inEpisode :
        client.signals.sessionState = .reconnecting ∨ client.signals.sessionState = .resuming :=
      isRunning
    have passed : episode.getD client.page.now + reconnectCumulativeCapMs ≤ client.page.now := by
      simp only [cutsShort, Bool.and_eq_false_iff, Bool.or_eq_false_iff, beq_eq_false_iff_ne,
        decide_eq_false_iff_not, Nat.not_lt] at notCut
      rcases notCut with ⟨notReconnecting, notResuming⟩ | notCounted | passed
      · exact absurd inEpisode (not_or.mpr ⟨notReconnecting, notResuming⟩)
      · exact absurd counts notCounted
      · exact passed
    cases episode with
    | none =>
        simp only [Option.getD_none] at passed
        omega
    | some start => exact ⟨start, rfl, passed⟩

/-- A session within its budget keeps to it in every step that is not disturbed. -/
theorem keepsBudget_of_budgeted
    {allowed : Client → Input → Prop}
    (reachable : machine.Reachable Booted allowed client)
    (live : client.vars.terminated = false)
    {episode : Option Nat}
    (budgeted : client.standing.Budgeted episode)
    {input : Input}
    (isEnabled : machine.enabled client input)
    (notReload : input.event ≠ .reload)
    (notCut : client.cutsShort episode input.event = false) :
    client.KeepsBudget episode input := by
  have moves := step_moves reachable live isEnabled notReload
  have closed {kind : CloseKind}
      (isClosed : input.event = .socketClosed kind)
      (retries : client.retriesAfterClose = true) :=
    step_retrying isEnabled isClosed retries
  refine
    { exhausted := ?_
      ends := ?_
      retries := ?_
      resumed := ?_
      starts := ?_ }
  · intro givesUp notTerminate
    have isExhausted : (machine.step client input).standing.exhausted = true := givesUp
    have unexhausted
        (unexhausted : (client.fresh input).standing.Unexhausted
          (machine.step client input).standing) : False :=
      Bool.false_ne_true (unexhausted.exhausted isExhausted)
    rcases moves with keeps | moved | ⟨-, wakes⟩
    · exact (unexhausted keeps.unexhausted).elim
    · rcases moved.gives_up rfl isExhausted with ⟨kind, isClosed, retries, noDelay⟩ | ⟨reason, ends⟩
      · rw [fresh_delay] at noDelay
        rw [isClosed] at notCut
        exact usedUp_of_delay retries noDelay notCut
      · exact absurd ends (notTerminate reason)
    · exact (unexhausted wakes).elim
  · intro kind start isClosed retries isEpisode passed
    subst isEpisode
    rcases closed isClosed retries with ⟨-, ended, exhausted⟩ | ⟨delay, isDelay, -⟩
    · exact ⟨exhausted, ended⟩
    · have within := delay_within budgeted retries isDelay
      have counted : client.standing.episode.startMs ≤ start :=
        (episode_counted budgeted retries).1
      have now : client.standing.now = client.page.now := rfl
      omega
  · intro kind start isClosed retries isEpisode early
    subst isEpisode
    rcases closed isClosed retries with ⟨noDelay, -⟩ | ⟨delay, isDelay, isScheduled⟩
    · rw [isClosed] at notCut
      obtain ⟨_, ⟨⟩, passed⟩ := usedUp_of_delay retries noDelay notCut
      omega
    · have within := delay_within budgeted retries isDelay
      have counted : client.standing.episode.startMs ≤ start :=
        (episode_counted budgeted retries).1
      have now : client.standing.now = client.page.now := rfl
      have isTimer := congrArg Standing.timer isScheduled
      exact ⟨client.page.now + delay, isTimer, by omega, by omega⟩
  · intro isDecrypted resumes stillLive
    have recorded : recordEpisode episode client input = none := by
      simp [recordEpisode, isDecrypted, resumes]
    rcases resumes_of_resumesSession isDecrypted resumes moves with ended | ⟨-, isResumed⟩
    · exact (Bool.false_ne_true (stillLive.symm.trans ended)).elim
    · exact ⟨recorded, congrArg Standing.timer isResumed, congrArg Standing.state isResumed⟩
  · intro kind isClosed retries isIdle isActive
    subst isIdle
    have idle := budgeted.idle rfl
    have recorded : recordEpisode none client input = some client.page.now := by
      simp [recordEpisode, isClosed, retries]
    have fresh (input : Input) :
        (client.fresh input).standing.episode =
          { (client.fresh input).standing with startMs := client.page.now, attempt := 0 } :=
      Standing.episode_of_idle idle.state (idle.settled isActive)
    have first : client.standing.delay = some 1000 := by
      have sameNow : (client.fresh input).standing.now = client.page.now := rfl
      rw [← fresh_delay input, Standing.delay, fresh, sameNow, Nat.sub_self]
      exact nextReconnectDelayMs_first
    rcases closed isClosed retries with ⟨noDelay, -⟩ | ⟨delay, isDelay, isScheduled⟩
    · rw [first] at noDelay
      cases noDelay
    · obtain rfl := Option.some.inj (first.symm.trans isDelay)
      rw [fresh] at isScheduled
      exact
        ⟨recorded, congrArg Standing.startMs isScheduled, congrArg Standing.attempt isScheduled,
          congrArg Standing.timer isScheduled⟩

/--
In every run in which no reconnect episode is cut short, and no suspended work writes a
state during one, every scheduled attempt is due within the cap after the close that
started the episode, and every step of a live session keeps to the budget.  Where
moreover every attempt settles by then, no live session is in an episode whose cap has
passed: an episode whose attempts keep failing ends within it.
-/
theorem reconnect_budget
    {remembered : Client × Option Nat}
    (reachable :
      episodeMachine.Reachable (fun first => Booted first.1 ∧ first.2 = none)
        undisturbedEpisode remembered)
    (live : remembered.1.vars.terminated = false) :
    (∀ due,
      remembered.1.link.reconnectTimer = some due →
        ∃ start, remembered.2 = some start ∧ due ≤ start + reconnectCumulativeCapMs) ∧
      (∀ input,
        episodeMachine.enabled remembered input →
          input.event ≠ .reload →
            undisturbedEpisode remembered input →
              remembered.1.KeepsBudget remembered.2 input) ∧
      (episodeMachine.Reachable (fun first => Booted first.1 ∧ first.2 = none)
          timelyEpisode remembered →
        ∀ start,
          remembered.2 = some start →
            remembered.1.page.now ≤ start + reconnectCumulativeCapMs) := by
  obtain ⟨client, episode⟩ := remembered
  have budgeted : client.standing.Budgeted episode := budgeted_of_reachable reachable live
  refine ⟨fun due isTimer => ?_, fun input isEnabled notReload undisturbed => ?_,
    fun timely start isStart => (inTime_of_reachable timely live start isStart).within⟩
  · have isDue : due ∈ client.standing.timer := isTimer
    cases episode with
    | none =>
        rw [(budgeted.idle rfl).timer] at isDue
        cases isDue
    | some start =>
        have running := budgeted.running start rfl
        exact ⟨start, rfl, Nat.le_trans (running.due due isDue) (Nat.add_le_add_right running.counted _)⟩
  · exact
      keepsBudget_of_budgeted reachable.forget live budgeted isEnabled notReload
        (undisturbed live notReload).1

/-- A session with a passkey lost its connection a minute ago. -/
def lostConnection : List Input :=
  establish peerPublicKey ++ upgradeAlone 7 ++
    [ plain (.socketClosed .abnormal),
      plain (.elapse 1000),
      plain .reconnectTimer,
      plain (.elapse 59000) ]

theorem reconnect_budget_lost :
    (episodeMachine.run (freshPage, none) lostConnection).1.KeepsBudget
      (episodeMachine.run (freshPage, none) lostConnection).2
      (plain (.socketClosed .abnormal)) :=
  (reconnect_budget
    (EventMachine.Machine.Reachable.run (.start ⟨⟨0, 0, 0, none, id, rfl⟩, rfl⟩)
      (by decide +kernel))
    (by decide +kernel)).2.1 (plain (.socketClosed .abnormal)) (by decide +kernel) nofun
    (by decide +kernel)

/-- An attempt that is still pending a minute after the cap keeps its episode going. -/
theorem pending_attempt_outlives_cap :
    ¬∀ remembered : Client × Option Nat,
        episodeMachine.Reachable (fun first => Booted first.1 ∧ first.2 = none)
          undisturbedEpisode remembered →
        remembered.1.vars.terminated = false →
        ∀ start,
          remembered.2 = some start →
            remembered.1.page.now ≤ start + reconnectCumulativeCapMs := by
  intro claimed
  have inTime := claimed
    (episodeMachine.run (freshPage, none) (lostConnection ++ [plain (.elapse 300000)]))
    (EventMachine.Machine.Reachable.run (.start ⟨⟨0, 0, 0, none, id, rfl⟩, rfl⟩)
      (by decide +kernel))
    (by decide +kernel) 0 (by decide +kernel)
  revert inTime
  decide +kernel

/-- A page that resumes after a reload waited five minutes for its passkey. -/
def unlockedLate : List Input :=
  establish peerPublicKey ++ upgradeAlone 7 ++
    [ plain .reload,
      plain (.claimDecided true),
      plain (.resumeDecided .getRejected),
      plain (.elapse reconnectCumulativeCapMs),
      plain .retryResume,
      plain (.resumeDecided .ok) ]

/-- Its first connection closes, and the session gives up at once. -/
theorem first_close_exhausts_budget :
    ¬∀ (remembered : Client × Option Nat) (input : Input),
        episodeMachine.Reachable (fun first => Booted first.1 ∧ first.2 = none)
          EventMachine.Machine.anyStep remembered →
        remembered.1.vars.terminated = false →
        episodeMachine.enabled remembered input →
        (∀ reason, input.event ≠ .terminate reason) →
        remembered.1.givesUp input →
        ∃ start,
          recordEpisode remembered.2 remembered.1 input = some start ∧
            start + reconnectCumulativeCapMs ≤ remembered.1.page.now := by
  intro claimed
  obtain ⟨start, isStart, passed⟩ :=
    claimed (episodeMachine.run (freshPage, none) unlockedLate) (plain (.socketClosed .abnormal))
      (EventMachine.Machine.Reachable.run (.start ⟨⟨0, 0, 0, none, id, rfl⟩, rfl⟩)
        (by decide +kernel))
      (by decide +kernel) (by decide +kernel) nofun (by unfold givesUp; decide +kernel)
  have isNow :
      recordEpisode (episodeMachine.run (freshPage, none) unlockedLate).2
          (episodeMachine.run (freshPage, none) unlockedLate).1 (plain (.socketClosed .abnormal)) =
        some reconnectCumulativeCapMs := by
    decide +kernel
  obtain rfl := Option.some.inj (isStart.symm.trans isNow)
  revert passed
  decide +kernel

end Client

end Unseen
