import Unseen.FrameProgress

namespace Unseen

/-!
# The frame that is being decrypted

A handler keeps the receive state with which it took its frame up.  Until it
returns no other handler runs, so this is still the state of the session when
the frame was decrypted.
-/

namespace Client

variable {client : Client}

/-- A receive state is that of the live session. -/
def Current (client : Client) (state : ReceiveState) : Prop :=
  client.vars.terminated = false → ∀ active, client.vars.internal.context? = some active →
    state.counterRecv = active.counterRecv ∧ state.sessionKey = active.sessionKey.material

/-- A frame is being decrypted with the receive state of the session. -/
def InStep (client : Client) : Prop :=
  ∀ frame mode state mirror,
    client.inbound.handler = some (.decrypting frame mode state mirror) → client.Current state

theorem Current.untouched
    {after : Client}
    {state : ReceiveState}
    (current : client.Current state)
    (untouched : Untouched client after) : after.Current state := by
  intro live active isActive
  have wasLive : client.vars.terminated = false := by
    cases ended : client.vars.terminated with
    | false => rfl
    | true => simp [untouched.terminated ended] at live
  have same := untouched.received.resolve_left (by simp [live])
  simp only [Client.received, isActive, Option.map_some] at same
  obtain ⟨former, isFormer, kept⟩ := Option.map_eq_some_iff.mp same.symm
  obtain ⟨sameCounter, sameKey⟩ := Prod.mk.inj kept
  have known := current wasLive former isFormer
  exact ⟨known.1.trans sameCounter, known.2.trans (congrArg CryptoKey.material sameKey)⟩

/-! ## Handlers that have decided about their frame -/

/-- The session's key is not the given one. -/
def Avoids (other : CryptoKey) : Progress :=
  fun view => ∀ counter, view ≠ some (counter, other)

/-- Some key is neither the session's nor that of a rekey. -/
theorem exists_avoided (client : Client) :
    ∃ other, Avoids other client.received ∧ (Avoids other).Commits := by
  have keys :
      ∀ serial : Nat,
        (Avoids
          { material := .handshake ⟨0, serial⟩ ⟨0, 0⟩
            extractable := true }).Commits := by
    intro serial newSessionKey _ counter same
    have sameKey := congrArg CryptoKey.extractable (Prod.mk.inj (Option.some.inj same)).2
    cases sameKey
  by_cases first :
      Avoids { material := .handshake ⟨0, 0⟩ ⟨0, 0⟩, extractable := true } client.received
  · exact ⟨_, first, keys 0⟩
  · refine ⟨_, ?_, keys 1⟩
    intro counter isOther
    refine first fun former isFirst => ?_
    have same := (Prod.mk.inj (Option.some.inj (isFirst.symm.trans isOther))).2
    simp at same

theorem Settled.decided
    {other : CryptoKey}
    (settled : Settled (Avoids other) client) : ¬Undecided client := fun undecided =>
  settled.undecided undecided (some (0, other)) 0 rfl

/-- A handler that has decided about its frame takes up no other. -/
theorem decided_of_decided
    (settled : Settled (fun _ => True) client)
    {handler : Handler}
    (running : client.inbound.handler = some handler)
    (decided : ¬Undecided client)
    {input : Input}
    (isEnabled : client.enabled input)
    (notReload : input.event ≠ .reload) : ¬Undecided (client.handle input.event) := by
  obtain ⟨other, avoids, commits⟩ := exists_avoided client
  have known : Settled (Avoids other) client :=
    { settled with
      received := .inr avoids
      commits := fun _ => commits
      undecided := fun undecided => absurd undecided decided }
  have after :=
    known.handle isEnabled notReload fun idle => by
      rw [running] at idle
      cases idle
  exact after.decided

/-- Once its frame was decrypted, the handler has decided. -/
theorem decided_of_frameDecrypted
    (settled : Settled (fun _ => True) client)
    {frame : RelayFrame}
    {mode : CounterMode}
    {state : ReceiveState}
    {mirror : Option MirrorId}
    (running : client.inbound.handler = some (.decrypting frame mode state mirror)) :
    ¬Undecided (client.frameDecrypted frame mode state mirror) := by
  obtain ⟨other, avoids, commits⟩ := exists_avoided client
  have handling : Handling (Avoids other) client :=
    { settled.handling running (by simp [Handler.stage]) with received := .inr avoids }
  have advances : ∀ counter, Handling.Advances (Avoids other) (Avoids other) counter := by
    intro counter view avoided later same
    obtain ⟨known, isKnown, sameKey⟩ := Option.map_eq_some_iff.mp same
    exact avoided known.1 (isKnown.trans (congrArg some (Prod.ext rfl (Prod.mk.inj sameKey).2)))
  have after : Settled (Avoids other) (client.frameDecrypted frame mode state mirror) :=
    handling.frameDecrypted frame mode state mirror (fun _ _ _ _ => commits)
      fun _ counter _ => advances counter
  exact after.decided

theorem handler_finishHandler (client : Client) : client.finishHandler.inbound.handler = none := by
  unfold Client.finishHandler
  simp only
  split <;> rfl

theorem handler_handshakeDerived
    (client : Client)
    (ciphertext : HandshakeCiphertext)
    (pair : Draw)
    (ok : Bool) : (client.handshakeDerived ciphertext pair ok).inbound.handler = none := by
  unfold Client.handshakeDerived
  split
  · exact handler_finishHandler _
  · split
    · exact handler_finishHandler _
    · split
      · exact handler_finishHandler _
      · simp only
        split <;> exact handler_finishHandler _

/-! ## Frames that are taken up -/

namespace InStep

theorem idle (isIdle : client.inbound.handler = none) : InStep client := by
  intro frame mode state mirror running
  rw [isIdle] at running
  cases running

theorem decided (decided : ¬Undecided client) : InStep client := by
  intro frame mode state mirror running
  refine absurd (.inl ?_) decided
  rw [running]
  rfl

/-- A frame is taken up with the receive state of the session. -/
theorem handleRelayWith
    {active : ActiveContext}
    (isActive : client.vars.internal.context? = some active)
    (frame : RelayFrame) : InStep (client.handleRelayWith active frame) := by
  unfold Client.handleRelayWith
  simp only
  split
  · exact idle (handler_finishHandler _)
  · intro other mode state mirror running live later isLater
    obtain ⟨-, -, rfl, -⟩ := Handler.decrypting.inj (Option.some.inj running)
    simp only [Client.await, Client.updateActive, InternalState.context?_mapContext, isActive,
      Option.map_some, Option.some.injEq] at isLater
    rw [← isLater]
    exact ⟨rfl, rfl⟩

/-- The next queued frame is taken up. -/
theorem runInbound (isIdle : client.inbound.handler = none) : InStep client.runInbound := by
  unfold Client.runInbound
  split
  · exact idle isIdle
  · simp only
    split
    · exact idle (handler_finishHandler _)
    · split
      · unfold Client.handleHandshakeFrame
        split
        · intro frame mode state mirror running
          cases running
        · exact idle (handler_finishHandler _)
      · unfold Client.handleRelay
        split
        · exact idle (handler_finishHandler _)
        · rename_i active isActive
          exact handleRelayWith (by rw [isActive]; rfl) _
        · rename_i active isActive
          exact handleRelayWith (by rw [isActive]; rfl) _

/-- While no handler runs only the next queued frame is taken up. -/
theorem of_idle
    (settled : Settled (fun _ => True) client)
    (isIdle : client.inbound.handler = none)
    {input : Input}
    (isEnabled : client.enabled input)
    (notReload : input.event ≠ .reload) : InStep (client.handle input.event) := by
  have beside :
      ∀ {after : Client}, AsideFrame client after → InStep after := fun aside =>
    idle (aside.handler.trans isIdle)
  by_cases chain : input.event.isChain = true
  · obtain ⟨event, oracle⟩ := input
    cases event with
    | job =>
        simp only [Client.handle]
        cases jobs : client.jobs with
        | nil => simpa [Client.runJob, jobs] using idle isIdle
        | cons job rest =>
            cases starting : job.startsFrame with
            | true =>
                cases job with
                | inboundNext =>
                    have taken : InStep { client with jobs := rest }.runInbound :=
                      runInbound isIdle
                    simpa only [Client.runJob, jobs] using taken
                | _ => cases starting
            | false =>
                refine beside (AsideFrame.runJob client jobs starting fun continuation cont => ?_)
                by_contra waits
                have waiting : continuation ∈ client.waiters := by
                  simp [waiters, jobs, cont, Bool.not_eq_false _ ▸ waits]
                have sending := settled.waiting (List.ne_nil_of_mem waiting)
                rw [isIdle] at sending
                cases sending
    | socketFrame frame =>
        simp only [Client.handle, handleServerFrame]
        split
        · exact idle isIdle
        · cases frame with
          | handshake ciphertext =>
              refine idle ?_
              simp only [Client.enqueueInbound]
              split <;> exact isIdle
          | relay relayFrame =>
              refine idle ?_
              simp only [Client.enqueueInbound]
              split <;> exact isIdle
          | _ => cases chain
    | _ => simp_all [enabled, canOccur, handlerAt, Event.isChain]
  · refine beside
      (handle_aside settled.armed isEnabled (by simpa using chain) ?_ ?_ notReload)
    · intro granted isEvent
      rw [enabled, isEvent] at isEnabled
      exact settled.connected.1 (by simpa using (Bool.and_eq_true_iff.mp isEnabled).2)
    · intro outcome isEvent
      rw [enabled, isEvent] at isEnabled
      have attempting : client.vars.resumeAttempt = true := by
        simpa using (Bool.and_eq_true_iff.mp isEnabled).2
      rw [settled.connected.2.1] at attempting
      cases attempting

/-- Every event of a connected page keeps its frame in step with the session. -/
theorem handle
    (inStep : InStep client)
    (settled : Settled (fun _ => True) client)
    {input : Input}
    (isEnabled : client.enabled input)
    (notReload : input.event ≠ .reload) : InStep (client.handle input.event) := by
  cases running : client.inbound.handler with
  | none => exact of_idle settled running isEnabled notReload
  | some handler =>
      by_cases undecided : Undecided client
      · by_cases own : input.event.settles = some handler.stage
        · obtain ⟨event, oracle⟩ := input
          cases handler with
          | decrypting frame mode state mirror =>
              cases event with
              | decrypted =>
                  simp only [Client.handle, running]
                  exact decided (decided_of_frameDecrypted settled running)
              | _ => cases own
          | handshake ciphertext pair =>
              cases event with
              | handshakeDerived ok =>
                  simp only [Client.handle, running]
                  exact idle (handler_handshakeDerived client ciphertext pair ok)
              | _ => cases own
          | _ => simp [Undecided, running, Handler.stage] at undecided
        · have untouched : Untouched client (client.handle input.event) := by
            refine settled.untouched running ?_ isEnabled notReload own
            intro sending
            rw [Undecided, running] at undecided
            simp [sending] at undecided
          intro frame mode state mirror still
          rw [untouched.handler] at still
          exact (inStep frame mode state mirror still).untouched untouched
      · exact decided (decided_of_decided settled running undecided isEnabled notReload)

end InStep

end Client

end Unseen
