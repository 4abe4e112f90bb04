import Unseen.CurrentFrame
import Unseen.LedgerFrames

namespace Unseen

/-!
# What the handlers do to the ledger of session keys

Each segment of the session code keeps the ledger sound.  A record is stored
while a key is in use: what an upgrade stores fits the key only if the key was
not replaced while it was being wrapped, and only if no handler is to write or
to accept what the record does not know of (`settles`).
-/

namespace Client

variable {client : Client} {past : Past}

/-- Nothing was done twice, and nothing will be. -/
def Guarded (past : Past) (client : Client) : Prop :=
  (client.ledger past).Sound

/-- A frame is being decrypted: any while texts are followed, else one of an earlier mirror. -/
def decrypts (client : Client) (listens : Bool) : Bool :=
  match client.inbound.handler with
  | some (.decrypting _ _ _ mirror) => listens || mirror.isSome
  | _ => false

/-- The wrapped key is the session's, no rekey is under way and no frame is in the way. -/
def settles (client : Client) (listens : Bool) (sessionKey : CryptoKey) : Bool :=
  (client.vars.internal.context?.all fun active =>
      active.sessionKey.material = sessionKey.material) &&
    !client.vars.rekeyInFlight && !client.decrypts listens

namespace Guarded

/-- Fewer answers wait to be sent. -/
theorem answered
    {ledger : Ledger}
    (sound : ledger.Sound)
    {answers : List SessionKey}
    (fewer : answers ⊆ ledger.answers) :
    Ledger.Sound { ledger with answers := answers } :=
  sound.keeps
    { device := rfl
      draws := Nat.le_refl _
      spent := rfl
      heard := rfl
      listens := rfl
      storage := .inl rfl
      live := by
        rcases Bool.eq_false_or_eq_true ledger.ended with ended | live
        · exact .inl ended
        · exact .inr ⟨live, rfl, rfl, rfl, rfl, rfl, rfl, List.Sublist.refl _, fewer⟩ }

/-- What is beside the inbound chain and not about keys. -/
theorem aside
    {after : Client}
    (guarded : Guarded past client)
    (frame : KeyFrame client after)
    (aside : AsideFrame client after) : Guarded past after := by
  refine Ledger.Sound.keeps guarded (frame.keeps aside.handler past ?_)
  intro key member
  obtain ⟨continuation, isWaiter, isAnswer⟩ := List.mem_filterMap.mp member
  exact List.mem_filterMap.mpr ⟨continuation, aside.waiters.subset isWaiter, isAnswer⟩

/-- A session that is over spends nothing more, whatever else became of it. -/
theorem afterEnd
    {after : Client}
    (guarded : Guarded past client)
    (ended : after.vars.terminated = true)
    (device : after.page.device = client.page.device)
    (draws : client.page.nextDraw ≤ after.page.nextDraw)
    (spends : after.out.filterMap Act.spends? = client.out.filterMap Act.spends?)
    (hears : after.out.filterMap Act.hears? = client.out.filterMap Act.hears?)
    (storage :
      after.store.storage = client.store.storage ∨ after.store.storage = none) :
    Guarded past after :=
  Ledger.Sound.keeps guarded
    { device := device
      draws := draws
      spent := congrArg (past.spent ++ ·) spends
      heard := by
        unfold ledger
        rw [hears]
      listens := rfl
      storage := storage.imp_right fun gone => ⟨ended, gone⟩
      live := .inl ended }

theorem terminate
    (guarded : Guarded past client)
    (reason : TerminateReason) : Guarded past (client.terminate reason) :=
  guarded.aside (.terminate client reason) (.terminate client reason)

theorem runFiles
    (guarded : Guarded past client)
    (segment : Files → Files) : Guarded past (client.runFiles segment) :=
  guarded.aside (.runFiles client segment) (.runFiles client segment)

/-! ## Handing over -/

theorem ledger_finishHandler (client : Client) (past : Past) :
    client.finishHandler.ledger past = { client.ledger past with handler := none } := by
  unfold Client.finishHandler
  simp only
  split
  · rfl
  · unfold ledger
    rw [waiters_schedule { client with inbound.handler := none } .inboundNext
      (by simp [Job.cont?])]
    rfl

/-- The handler returns. -/
theorem finishHandler (guarded : Guarded past client) : Guarded past client.finishHandler := by
  unfold Guarded
  rw [ledger_finishHandler]
  exact guarded.release

/-- The handler ends the session and returns. -/
theorem fails
    (guarded : Guarded past client)
    (reason : TerminateReason) : Guarded past (client.terminate reason).finishHandler :=
  (guarded.terminate reason).finishHandler

/-- The answers that are to be sent once a send was queued. -/
theorem answers_enqueue
    (client : Client)
    (task : SendTask)
    (past : Past) :
    ((client.enqueueRelaySend task).ledger past).answers ⊆
      task.continuation.answers?.toList ++ (client.ledger past).answers := by
  intro key member
  obtain ⟨continuation, isWaiter, isAnswer⟩ := List.mem_filterMap.mp member
  have known : continuation = task.continuation ∨ continuation ∈ client.waiters := by
    unfold Client.enqueueRelaySend at isWaiter
    simp only at isWaiter
    split at isWaiter
    · simp only [waiters, List.map_append, List.filter_append, List.mem_append] at isWaiter ⊢
      simp at isWaiter
      grind
    · rw [waiters_schedule _ _ (by simp [Job.cont?])] at isWaiter
      simp only [waiters, List.map_append, List.filter_append, List.mem_append] at isWaiter ⊢
      simp at isWaiter
      grind
  rcases known with rfl | isOld
  · simp [isAnswer]
  · exact List.mem_append_right _ (List.mem_filterMap.mpr ⟨continuation, isOld, isAnswer⟩)

/-- A send is queued that commits no session key. -/
theorem enqueueRelaySend
    (guarded : Guarded past client)
    {task : SendTask}
    (plain : task.continuation.answers? = none) :
    Guarded past (client.enqueueRelaySend task) := by
  have sameHandler :
      (client.enqueueRelaySend task).inbound.handler = client.inbound.handler := by
    unfold Client.enqueueRelaySend
    simp only
    split <;> rfl
  have fewer := answers_enqueue client task past
  rw [plain] at fewer
  exact Ledger.Sound.keeps guarded
    ((KeyFrame.enqueueRelaySend client task).keeps sameHandler past fewer)

/-- The handler awaits a send. -/
theorem awaitSending (guarded : Guarded past client) : Guarded past (client.await .sending) :=
  Ledger.Sound.sending guarded

theorem await_enqueueRelaySend (client : Client) (task : SendTask) (handler : Handler) :
    (client.enqueueRelaySend task).await handler =
      (client.await handler).enqueueRelaySend task := by
  unfold Client.enqueueRelaySend Client.await
  simp only
  split <;> rfl

/-- The handler awaits a mode frame that commits no session key. -/
theorem sendModeFrame
    (guarded : Guarded past (client.await .sending))
    (kind : RelayKind)
    (payload : Plaintext)
    {continuation : SendCont}
    (plain : continuation.answers? = none) :
    Guarded past ((client.sendModeFrame kind payload continuation).await .sending) := by
  unfold Client.sendModeFrame
  rw [await_enqueueRelaySend]
  exact guarded.enqueueRelaySend plain

/-- The handler awaits an envelope that commits no session key. -/
theorem sendEncoded
    (guarded : Guarded past (client.await .sending))
    (envelope : PlaintextEnvelope)
    {continuation : SendCont}
    (plain : continuation.answers? = none) :
    Guarded past ((client.sendEncoded envelope continuation).await .sending) := by
  unfold Client.sendEncoded
  split
  · exact guarded
  · rw [await_enqueueRelaySend]
    exact guarded.enqueueRelaySend plain

/-! ## Handshake -/

theorem ensureEphemeral
    (guarded : Guarded past client)
    (unkeyed : client.vars.internal = .preActive) :
    Guarded past client.ensureEphemeral.1 := by
  unfold Client.ensureEphemeral
  cases isPair : client.handshake.ephemeral with
  | some pair => exact guarded
  | none => exact Ledger.Sound.ephemeral guarded (by simp [ledger, unkeyed, InternalState.context?]) isPair

/-- Sending the local public key: nothing, the end of the session, or the key pair. -/
theorem sendLocalHandshake_cases (client : Client) :
    client.sendLocalHandshake = client ∨
      (∃ reason, client.sendLocalHandshake = client.terminate reason) ∨
      ∃ gen,
        client.vars.internal = .preActive ∧
          client.sendLocalHandshake =
            { client.ensureEphemeral.1 with
              handshake.localHandshakeSent := true
              handshake.handshakeSend := some gen } := by
  unfold Client.sendLocalHandshake
  split
  · exact .inl rfl
  · split
    · exact .inr (.inl ⟨_, rfl⟩)
    · split
      · rename_i unkeyed
        exact .inr (.inr ⟨_, unkeyed, rfl⟩)
      · exact .inr (.inl ⟨_, rfl⟩)

theorem sendLocalHandshake (guarded : Guarded past client) :
    Guarded past client.sendLocalHandshake := by
  rcases sendLocalHandshake_cases client with same | ⟨reason, ends⟩ | ⟨gen, unkeyed, sends⟩
  · rw [same]
    exact guarded
  · rw [ends]
    exact guarded.terminate reason
  · rw [sends]
    exact guarded.ensureEphemeral unkeyed

/-- A page that has no session key waits for the peer's public key. -/
theorem awaitHandshake
    (guarded : Guarded past client)
    (unkeyed : client.vars.internal = .preActive)
    (ciphertext : HandshakeCiphertext) :
    Guarded past
      (client.ensureEphemeral.1.await (.handshake ciphertext client.ensureEphemeral.2)) := by
  have same :
      client.ensureEphemeral.1.vars = client.vars ∧
        client.ensureEphemeral.1.handshake.ephemeral = some client.ensureEphemeral.2 := by
    unfold Client.ensureEphemeral
    cases isPair : client.handshake.ephemeral <;> exact ⟨rfl, by simp [isPair]⟩
  refine Ledger.Sound.hold (guarded.ensureEphemeral unkeyed) rfl ?_ ?_
  · intro _ _ held isHeld
    rw [← Option.some.inj isHeld]
    exact same.2
  · intro _ sealer isSealer
    simp [ledger, same.1, unkeyed, InternalState.context?] at isSealer

theorem handleHandshakeFrame
    (guarded : Guarded past client)
    (ciphertext : HandshakeCiphertext) :
    Guarded past (client.handleHandshakeFrame ciphertext) := by
  unfold Client.handleHandshakeFrame
  split
  · rename_i unkeyed
    refine guarded.sendLocalHandshake.awaitHandshake ?_ ciphertext
    rcases sendLocalHandshake_cases client with same | ⟨reason, ends⟩ | ⟨gen, -, sends⟩
    · rw [same]
      exact unkeyed
    · rw [ends]
      rcases terminate_cases client reason with ⟨-, same⟩ | ⟨-, frame⟩
      · rw [same]
        exact unkeyed
      · exact frame.internal.elim (fun same => same.trans unkeyed) id
    · rw [sends]
      unfold Client.ensureEphemeral
      cases client.handshake.ephemeral <;> exact unkeyed
  · exact guarded.fails _

/-- A handshake key depends on the two public keys it was derived from only. -/
theorem earlier_of_handshake
    {ledger : Ledger}
    {mine peer : PublicKey}
    {key : SessionKey}
    (derived : completeHandshake mine peer = some key)
    (mineDrawn : ledger.Drawn mine)
    (peerDrawn : ledger.Drawn peer) : ledger.Earlier key := by
  unfold completeHandshake at derived
  split at derived
  · cases derived
  · split at derived <;> obtain rfl := Option.some.inj derived <;> rintro publicKey (rfl | rfl)
    · exact peerDrawn
    · exact mineDrawn
    · exact mineDrawn
    · exact peerDrawn

/-- A rekeyed key depends on the two public keys it was derived from only. -/
theorem earlier_of_rekey
    {ledger : Ledger}
    {mine peer : PublicKey}
    {key : SessionKey}
    (derived : deriveRekeyedSessionKey mine peer = some key)
    (mineDrawn : ledger.Drawn mine)
    (peerDrawn : ledger.Drawn peer) : ledger.Earlier key := by
  unfold deriveRekeyedSessionKey at derived
  split at derived
  · cases derived
  · split at derived <;> obtain rfl := Option.some.inj derived <;> rintro publicKey (rfl | rfl)
    · exact peerDrawn
    · exact mineDrawn
    · exact mineDrawn
    · exact peerDrawn

theorem handshakeDerived
    (guarded : Guarded past client)
    {ciphertext : HandshakeCiphertext}
    {pair : Draw}
    (running : client.inbound.handler = some (.handshake ciphertext pair))
    (drawn :
      ∀ peerPublicKey ∈ unwrapPeerPublicKey ciphertext, (client.ledger past).Drawn peerPublicKey)
    (ok : Bool) : Guarded past (client.handshakeDerived ciphertext pair ok) := by
  unfold Client.handshakeDerived
  split
  · exact guarded.fails _
  · rename_i peerPublicKey isPeer
    split
    · exact guarded.fails _
    · rename_i sessionKey isKey
      have derived : completeHandshake pair peerPublicKey = some sessionKey := by
        cases ok with
        | true => exact isKey
        | false => cases isKey
      split
      · exact guarded.finishHandler
      · rename_i live
        have isLive : (client.ledger past).ended = false := by simpa [ledger] using live
        have shown : Guarded past (client.act (.onSas (some sessionKey))) :=
          guarded.aside (.act client rfl rfl) (.act client _)
        simp only
        split
        · exact shown.fails _
        · rename_i role _
          have unkeyed : (client.ledger past).sealer = none := by
            cases isSealer : (client.ledger past).sealer with
            | none => rfl
            | some sealer =>
                exact ((Ledger.Sound.keyed guarded isLive sealer isSealer).handler _ running).elim
          have former := Ledger.Sound.unkeyed guarded isLive unkeyed
          have spare := former.ephemeral pair (former.handler _ running)
          have established :=
            Ledger.Sound.establish guarded isLive unkeyed running (completeHandshake_uses derived).1
              (earlier_of_handshake derived (fun _ => spare.drawn) (drawn _ isPeer)) role
          have entered :
              (((client.act (.onSas (some sessionKey))).transitionToActive
                { role
                  sessionKey := { material := sessionKey, extractable := true }
                  mirror := none
                  sasBytes := some sessionKey
                  counterCommitted := 0
                  counterReserved := 0
                  counterRecv := 0
                  nextRecvMode := .strict }).system .sessionStarted).ledger past =
                { client.ledger past with
                  sealer :=
                    some
                      { role
                        key := sessionKey
                        mirror := none
                        committed := 0
                        reserved := 0
                        received := 0 } } := by
            simp [ledger, waiters, Client.act, Client.system, Client.transitionToActive, setState,
              List.filterMap_cons, Act.spends?, Act.hears?, InternalState.context?, ActiveContext.sealer]
          unfold Guarded
          rw [ledger_finishHandler, entered]
          exact established

/-! ## The stored record -/

theorem ledger_recordWritten
    (client : Client)
    (record : StoredSession)
    (past : Past) :
    (client.recordWritten record).ledger past =
      { client.ledger past with storage := some record } := by
  simp [ledger, recordWritten, waiters, List.filterMap_cons, Act.spends?, Act.hears?]

/-- A mirror that could not be stored ends the session. -/
theorem mirrorFails
    (guarded : Guarded past client)
    (mirror : MirrorId)
    (change : StoredSession → StoredSession)
    (reason : TerminateReason) :
    Guarded past ((client.mirrorChanged mirror change).terminate reason) := by
  have frame := KeyFrame.terminate (client.mirrorChanged mirror change) reason
  exact guarded.afterEnd (terminate_terminated _ _) frame.device frame.draws frame.spends
    frame.hears (frame.storage.imp_right And.right)

/-- The mirror of the session key rewrites its record. -/
theorem mirrorWrites
    (guarded : Guarded past client)
    (live : client.vars.terminated = false)
    {sealer : Sealer}
    (isSealer : (client.ledger past).sealer = some sealer)
    {mirror : MirrorId}
    (isMirror : sealer.mirror = some mirror)
    {record : StoredSession}
    (held : client.store.mirrors[mirror]? = some record)
    {change : StoredSession → StoredSession}
    (backed :
      (client.ledger past).Backs sealer record →
        (client.ledger past).Backs sealer (change record))
    (marks : record.rekeyInProgress = true → (change record).rekeyInProgress = true) :
    Guarded past ((client.mirrorChanged mirror change).recordWritten (change record)) := by
  have keyed := Ledger.Sound.keyed guarded live sealer isSealer
  have written :
      Ledger.Sound
        { client.ledger past with
          storage := some (change record)
          mirrors := client.store.mirrors.modify mirror change
          sealer := some sealer } :=
    Ledger.Sound.write guarded live isSealer isMirror held change (Nat.le_refl _)
      (backed (keyed.mirrored mirror isMirror record held)) id
      fun inFlight => marks ((keyed.marked inFlight).1 mirror isMirror record held)
  rw [← isSealer] at written
  unfold Guarded
  rw [ledger_recordWritten]
  exact written

/-- An accepted message is recorded, or the session that cannot record it ends. -/
theorem persistReceived
    (guarded : Guarded past client)
    {frame : RelayFrame}
    {mode : CounterMode}
    {state : ReceiveState}
    {mirror : MirrorId}
    (running : client.inbound.handler = some (.decrypting frame mode state (some mirror)))
    {counter : Nat}
    (follows :
      client.vars.terminated = false → ∀ sealer ∈ (client.ledger past).sealer,
        sealer.received < counter) :
    (∃ stored,
        setCounterRecv mirror client counter = (stored, true) ∧
          stored.vars = client.vars ∧ Guarded past stored ∧
          ∀ sealer ∈ (stored.ledger past).sealer, (stored.ledger past).Floor sealer counter) ∨
      ∃ stored,
        setCounterRecv mirror client counter = (stored, false) ∧
          stored.vars.terminated = client.vars.terminated ∧
          (client.vars.terminated = true → Guarded past stored) ∧
          ∀ reason, Guarded past (stored.terminate reason) := by
  unfold setCounterRecv
  rcases flushMirror_cases client mirror (fun record => record.withCounterRecv counter) with
    refused | ⟨record, held, live, written⟩
  · refine .inr ⟨_, refused, rfl, ?_, guarded.mirrorFails _ _⟩
    intro ended
    exact guarded.afterEnd ended rfl (Nat.le_refl _) rfl rfl (.inl rfl)
  · cases isSealer : (client.ledger past).sealer with
    | none => exact ((Ledger.Sound.unkeyed guarded live isSealer).handler _ running).elim
    | some sealer =>
        have keyed := Ledger.Sound.keyed guarded live sealer isSealer
        have isMirror : sealer.mirror = some mirror :=
          ((keyed.handler _ running).resolve_right fun unmirrored => by simp at unmirrored).symm
        have above : sealer.received < counter := follows live sealer isSealer
        have counted :
            (client.ledger past).Backs sealer record →
              (client.ledger past).Backs sealer (record.withCounterRecv counter) := by
          refine Or.imp_right fun backed => ⟨backed.1, backed.2.1, fun other member => ?_⟩
          exact Nat.le_of_lt (Nat.lt_of_le_of_lt (keyed.heard other member) above)
        refine .inl ⟨_, written, rfl, guarded.mirrorWrites live isSealer isMirror held counted id, ?_⟩
        intro other isOther
        rw [ledger_recordWritten] at isOther ⊢
        obtain rfl := Option.some.inj (isSealer.symm.trans isOther)
        refine ⟨?_, ?_⟩
        · intro kept isKept rewritten isRewritten
          obtain rfl := Option.some.inj (isMirror.symm.trans isKept)
          have isChanged :
              (client.store.mirrors.modify mirror fun record =>
                record.withCounterRecv counter)[mirror]? = some rewritten := isRewritten
          rw [List.getElem?_modify_eq, held] at isChanged
          rw [← Option.some.inj isChanged]
          exact .inr (Nat.le_refl _)
        · intro rewritten isRewritten
          rw [← Option.some.inj isRewritten]
          exact .inr (Nat.le_refl _)

/-! ## Rekey -/

/-- A rekey has begun: its record is marked and nothing else of the ledger changed. -/
structure Begins (before after : Ledger) : Prop where
  device : after.device = before.device
  nextDraw : after.nextDraw = before.nextDraw
  ended : after.ended = before.ended
  sealer : after.sealer = before.sealer
  inFlight : after.inFlight = true
  pending : after.pending = before.pending
  keygens : after.keygens = before.keygens
  handler : after.handler = before.handler

/-- Both parties' step into a rekey, up to the mark of the record. -/
def beginRekey (client : Client) : Client :=
  ({ client with vars.rekeyInFlight := true }.setState .rekeying).cancelFilesForRekey

theorem ledger_beginRekey (client : Client) (past : Past) :
    ∃ answers, answers ⊆ (client.ledger past).answers ∧
      (beginRekey client).ledger past =
        { client.ledger past with inFlight := true, answers := answers } := by
  have frame :=
    cancelFilesForRekey_frame ({ client with vars.rekeyInFlight := true }.setState .rekeying)
  have began := KeyFrame.file frame
  refine ⟨((beginRekey client).ledger past).answers, ?_, ?_⟩
  · intro key member
    obtain ⟨continuation, isWaiter, isAnswer⟩ := List.mem_filterMap.mp member
    exact
      List.mem_filterMap.mpr
        ⟨continuation, frame.aside.waiters.subset isWaiter, isAnswer⟩
  · unfold beginRekey ledger
    simp only [frame.page, frame.store, frame.vars, frame.handshake, frame.inbound,
      began.spends, began.hears]
    simp [setState, List.filterMap_cons, Act.spends?, Act.hears?]

/-- The record of a live session is marked, or the session that cannot mark it ends. -/
theorem beginsRekey
    (guarded : Guarded past client)
    (live : client.vars.terminated = false)
    {active : ActiveContext}
    (isActive : client.vars.internal.context? = some active) :
    (∃ marked,
        (beginRekey client).markRekeyInProgress active = (marked, true) ∧
          Guarded past marked ∧ Begins (client.ledger past) (marked.ledger past)) ∨
      ∃ refused,
        (beginRekey client).markRekeyInProgress active = (refused, false) ∧
          ∀ reason, Guarded past (refused.terminate reason) := by
  obtain ⟨answers, fewer, begun⟩ := ledger_beginRekey client past
  have isSealer : (client.ledger past).sealer = some active.sealer := by
    simp [ledger, isActive]
  unfold markRekeyInProgress
  cases isMirror : active.mirror with
  | none =>
      have marked : Ledger.Sound { client.ledger past with
          sealer := some active.sealer
          inFlight := true } :=
        Ledger.Sound.unmirrored guarded live isSealer isMirror (Nat.le_refl _) fun _ => rfl
      rw [← isSealer] at marked
      refine .inl ⟨_, rfl, ?_, ?_⟩
      · unfold Guarded
        rw [begun]
        exact answered marked fewer
      · rw [begun]
        exact ⟨rfl, rfl, rfl, rfl, rfl, rfl, rfl, rfl⟩
  | some mirror =>
      have mirrors : (beginRekey client).store.mirrors = client.store.mirrors :=
        congrArg Ledger.mirrors begun
      unfold Client.setRekeyInProgress
      simp only
      rcases flushMirror_cases (beginRekey client) mirror StoredSession.withRekeyInProgress with
        refused | ⟨record, held, -, written⟩
      · refine .inr ⟨_, refused, fun reason => ?_⟩
        have frame :=
          KeyFrame.terminate
            ((beginRekey client).mirrorChanged mirror StoredSession.withRekeyInProgress) reason
        have set : KeyFrame client (client.setState .rekeying) := .setState client .rekeying
        have began :
            KeyFrame ({ client with vars.rekeyInFlight := true }.setState .rekeying)
              (beginRekey client) :=
          .file (cancelFilesForRekey_frame _)
        have storage : (beginRekey client).store.storage = client.store.storage :=
          congrArg Ledger.storage begun
        exact guarded.afterEnd (terminate_terminated _ _)
          (frame.device.trans (congrArg Ledger.device begun))
          (Nat.le_trans (Nat.le_of_eq (congrArg Ledger.nextDraw begun).symm) frame.draws)
          (frame.spends.trans (began.spends.trans set.spends))
          (frame.hears.trans (began.hears.trans set.hears))
          (frame.storage.imp (·.trans storage) And.right)
      · have isHeld : (client.ledger past).mirrors[mirror]? = some record := by
          rw [← held, mirrors]
          rfl
        have marked :
            Ledger.Sound
              { client.ledger past with
                storage := some record.withRekeyInProgress
                mirrors :=
                  client.store.mirrors.modify mirror StoredSession.withRekeyInProgress
                sealer := some active.sealer
                inFlight := true } :=
          Ledger.Sound.write guarded live isSealer isMirror isHeld
            StoredSession.withRekeyInProgress (Nat.le_refl _) (.inl rfl) (fun _ => rfl) fun _ => rfl
        rw [← isSealer] at marked
        have after :
            (((beginRekey client).mirrorChanged mirror
              StoredSession.withRekeyInProgress).recordWritten
                record.withRekeyInProgress).ledger past =
              { client.ledger past with
                storage := some record.withRekeyInProgress
                mirrors :=
                  client.store.mirrors.modify mirror StoredSession.withRekeyInProgress
                inFlight := true
                answers := answers } := by
          rw [ledger_recordWritten, ← mirrors]
          exact congrArg
            (fun ledger : Ledger =>
              { ledger with
                storage := some record.withRekeyInProgress
                mirrors :=
                  (beginRekey client).store.mirrors.modify mirror
                    StoredSession.withRekeyInProgress })
            begun
        refine .inl ⟨_, written, ?_, ?_⟩
        · unfold Guarded
          rw [after]
          exact answered marked fewer
        · rw [after]
          exact ⟨rfl, rfl, rfl, rfl, rfl, rfl, rfl, rfl⟩

theorem rekeyCallerDone
    (guarded : Guarded past client)
    (origin : RekeyOrigin) : Guarded past (client.rekeyCallerDone origin) := by
  cases origin with
  | upgrade => exact guarded
  | handler => exact guarded.finishHandler

/-- While no rekey is under way no pair is held for one. -/
theorem idle
    (guarded : Guarded past client)
    (live : client.vars.terminated = false)
    (landed : client.vars.rekeyInFlight = false)
    {sealer : Sealer}
    (isSealer : (client.ledger past).sealer = some sealer) :
    (client.ledger past).initiations = [] := by
  have keyed := Ledger.Sound.keyed guarded live sealer isSealer
  rw [List.eq_nil_iff_forall_not_mem]
  intro pair member
  have inFlight : client.vars.rekeyInFlight = true := (keyed.initiates pair member).1
  simp [landed] at inFlight

/-- While no rekey is under way no handler derives or commits a key of one. -/
theorem unoccupied
    (guarded : Guarded past client)
    (live : client.vars.terminated = false)
    (landed : client.vars.rekeyInFlight = false)
    {sealer : Sealer}
    (isSealer : (client.ledger past).sealer = some sealer) :
    ∀ held ∈ client.inbound.handler, held.stage ≠ .rekeyAck ∧ held.stage ≠ .commitWrap := by
  have keyed := Ledger.Sound.keyed guarded live sealer isSealer
  have idle := guarded.idle live landed isSealer
  simp only [Ledger.initiations, List.append_eq_nil_iff, Option.toList_eq_nil_iff] at idle
  intro held isHeld
  have handles := keyed.handler held isHeld
  cases held with
  | rekeyAck pair peerPub =>
      have pending : (client.ledger past).pending = some pair := handles
      simp [idle.1.2] at pending
  | commitWrap key wrapKey credentialId =>
      have inFlight : client.vars.rekeyInFlight = true := handles.2.1
      simp [landed] at inFlight
  | _ => simp [Handler.stage]

theorem startRekeyIfInitiator
    (guarded : Guarded past client)
    (origin : RekeyOrigin) : Guarded past (client.startRekeyIfInitiator origin) := by
  unfold Client.startRekeyIfInitiator
  split
  · exact guarded.rekeyCallerDone origin
  · rename_i may
    simp only [Bool.or_eq_true, decide_eq_true_eq, not_or, Bool.not_eq_true] at may
    obtain ⟨⟨live, landed⟩, -⟩ := may
    split
    · exact guarded.rekeyCallerDone origin
    · rename_i active isActive
      have isSealer : (client.ledger past).sealer = some active.sealer := by
        simp [ledger, isActive]
      rcases guarded.beginsRekey live isActive with
        ⟨marked, isMarked, stillGuarded, begins⟩ | ⟨refused, isRefused, ends⟩
      · simp only [show
          ({ client with vars.rekeyInFlight := true }.setState .rekeying).cancelFilesForRekey =
            beginRekey client from rfl, isMarked]
        split
        · exact stillGuarded.rekeyCallerDone origin
        · rename_i isInitiator
          have role : active.sealer.role = .initiator := not_not.mp isInitiator
          have idle := guarded.idle live landed isSealer
          have keyed := Ledger.Sound.keyed guarded live _ isSealer
          have markedSealer := begins.sealer.trans isSealer
          have markedKeyed :=
            Ledger.Sound.keyed stillGuarded (begins.ended.trans live) _ markedSealer
          simp only [Ledger.initiations, List.append_eq_nil_iff, Option.toList_eq_nil_iff] at idle
          obtain ⟨⟨noKeygens, noPending⟩, noKeygen⟩ := idle
          cases origin with
          | upgrade =>
              have drawn :
                  Ledger.Sound
                    { marked.ledger past with
                      nextDraw := marked.page.nextDraw + 1
                      keygens := (marked.ledger past).keygens ++ [(marked.ledger past).fresh]
                      pending := (marked.ledger past).pending
                      handler := (marked.ledger past).handler } :=
                Ledger.Sound.initiate stillGuarded (begins.ended.trans live) markedSealer role
                  begins.inFlight
                  (by
                    simp [Ledger.initiations, begins.keygens, begins.pending, begins.handler,
                      noKeygens, noPending, noKeygen])
                  fun held isHeld =>
                    ⟨markedKeyed.handler held isHeld,
                      guarded.unoccupied live landed isSealer held
                        (begins.handler.symm.trans isHeld)⟩
              have noted :
                  ({ marked.draw.1 with
                    vars.upgrades :=
                      marked.draw.1.vars.upgrades ++ [.rekeyKeygen marked.draw.2] } :
                    Client).ledger past =
                    { marked.ledger past with
                      nextDraw := marked.page.nextDraw + 1
                      keygens := (marked.ledger past).keygens ++ [(marked.ledger past).fresh] } := by
                simp [ledger, Client.draw, waiters, Upgrade.keygen?, Ledger.fresh]
              unfold Guarded
              rw [noted]
              exact drawn
          | handler =>
              have drawn :
                  Ledger.Sound
                    { marked.ledger past with
                      nextDraw := marked.page.nextDraw + 1
                      keygens := (marked.ledger past).keygens
                      pending := (marked.ledger past).pending
                      handler := some (.rekeyKeygen (marked.ledger past).fresh) } :=
                Ledger.Sound.initiate stillGuarded (begins.ended.trans live) markedSealer role
                  begins.inFlight
                  (by
                    simp [Ledger.initiations, begins.keygens, begins.pending, noKeygens,
                      noPending, Handler.keygen?, Ledger.fresh])
                  (by simp [Ledger.Handles, Handler.stage])
              exact drawn
      · simp only [show
          ({ client with vars.rekeyInFlight := true }.setState .rekeying).cancelFilesForRekey =
            beginRekey client from rfl, isRefused]
        exact (ends _).rekeyCallerDone origin

/-- A handler generated a pair: the session holds no other. -/
theorem generated
    (guarded : Guarded past client)
    (live : client.vars.terminated = false)
    {sealer : Sealer}
    (isSealer : (client.ledger past).sealer = some sealer)
    {pair : Draw}
    (running : client.inbound.handler = some (.rekeyKeygen pair)) :
    (client.ledger past).keygens = [] ∧ pair ∈ (client.ledger past).initiations := by
  have keyed := Ledger.Sound.keyed guarded live sealer isSealer
  have generates : (client.ledger past).handler.bind Handler.keygen? = some pair := by
    simp [ledger, running, Handler.keygen?]
  have single := keyed.single
  simp only [Ledger.initiations, generates, Option.toList_some, List.length_append,
    List.length_singleton] at single
  exact
    ⟨List.eq_nil_of_length_eq_zero (by omega), by simp [Ledger.initiations, generates]⟩

theorem rekeyKeygenDone
    (guarded : Guarded past client)
    {pair : Draw}
    (running : client.inbound.handler = some (.rekeyKeygen pair))
    (ok : Bool) : Guarded past (client.rekeyKeygenDone .handler pair ok) := by
  unfold Client.rekeyKeygenDone
  split
  · exact guarded.fails _
  · have pending :
        Guarded past ({ client with vars.pendingRekeyPair := some pair }.await .sending) := by
      cases live : client.vars.terminated with
      | true => exact guarded.afterEnd live rfl (Nat.le_refl _) rfl rfl (.inl rfl)
      | false =>
          cases isSealer : (client.ledger past).sealer with
          | none => exact ((Ledger.Sound.unkeyed guarded live isSealer).handler _ running).elim
          | some sealer =>
              obtain ⟨noKeygens, begun⟩ := guarded.generated live isSealer running
              have published :
                  Ledger.Sound
                    { client.ledger past with
                      keygens := (client.ledger past).keygens
                      pending := some pair
                      handler := some .sending } :=
                Ledger.Sound.publish guarded live isSealer begun
                  (by simp [Ledger.initiations, noKeygens, Handler.keygen?])
                  (by simp [Ledger.Handles, Handler.stage])
              exact published
    exact pending.sendModeFrame _ _ rfl

theorem filterMap_eraseIdx_length
    {Item Value : Type}
    {extract : Item → Option Value}
    {items : List Item}
    {index : Nat}
    {item : Item}
    (isItem : items[index]? = some item)
    (extracts : (extract item).isSome) :
    (items.filterMap extract).length = ((items.eraseIdx index).filterMap extract).length + 1 := by
  induction items generalizing index with
  | nil => cases isItem
  | cons first rest inductionHypothesis =>
      cases index with
      | zero =>
          obtain rfl := Option.some.inj isItem
          obtain ⟨value, isValue⟩ := Option.isSome_iff_exists.mp extracts
          simp [isValue]
      | succ index =>
          have shorter := inductionHypothesis isItem
          simp only [List.eraseIdx_cons_succ, List.filterMap_cons]
          cases extract first with
          | none => exact shorter
          | some value => simpa using shorter

/-- The only pair of the session is published by the upgrade that generated it. -/
theorem upgradeKeygen
    (guarded : Guarded past client)
    {index : Nat}
    {pair : Draw}
    (isUpgrade : client.vars.upgrades[index]? = some (.rekeyKeygen pair))
    (ok : Bool) :
    Guarded past
      ({ client with
        vars.upgrades := client.vars.upgrades.eraseIdx index }.rekeyKeygenDone .upgrade pair ok) := by
  have settled : Guarded past
      { client with vars.upgrades := client.vars.upgrades.eraseIdx index } :=
    guarded.aside (.settled client index) { AsideFrame.refl client with }
  unfold Client.rekeyKeygenDone
  split
  · exact settled.terminate _
  · have pending : Guarded past
        { client with
          vars.upgrades := client.vars.upgrades.eraseIdx index
          vars.pendingRekeyPair := some pair } := by
      have member : pair ∈ (client.ledger past).keygens :=
        List.mem_filterMap.mpr
          ⟨_, List.mem_of_getElem? isUpgrade, by simp [Upgrade.keygen?]⟩
      cases live : client.vars.terminated with
      | true => exact guarded.afterEnd live rfl (Nat.le_refl _) rfl rfl (.inl rfl)
      | false =>
          cases isSealer : (client.ledger past).sealer with
          | none =>
              have none := (Ledger.Sound.unkeyed guarded live isSealer).idle
              simp only [Ledger.initiations, List.append_eq_nil_iff] at none
              rw [none.1.1] at member
              cases member
          | some sealer =>
              have keyed := Ledger.Sound.keyed guarded live sealer isSealer
              have single := keyed.single
              have shorter :
                  (client.ledger past).keygens.length =
                    ((client.vars.upgrades.eraseIdx index).filterMap Upgrade.keygen?).length +
                      1 :=
                filterMap_eraseIdx_length isUpgrade rfl
              simp only [Ledger.initiations, List.length_append, shorter] at single
              have noOther : (client.vars.upgrades.eraseIdx index).filterMap Upgrade.keygen? = [] :=
                List.eq_nil_of_length_eq_zero (by omega)
              have noPending : (client.ledger past).pending = none :=
                Option.toList_eq_nil_iff.mp (List.eq_nil_of_length_eq_zero (by omega))
              have noKeygen : (client.ledger past).handler.bind Handler.keygen? = none :=
                Option.toList_eq_nil_iff.mp (List.eq_nil_of_length_eq_zero (by omega))
              have begun : pair ∈ (client.ledger past).initiations := by
                simp [Ledger.initiations, member]
              have published :
                  Ledger.Sound
                    { client.ledger past with
                      keygens :=
                        (client.vars.upgrades.eraseIdx index).filterMap Upgrade.keygen?
                      pending := some pair
                      handler := (client.ledger past).handler } := by
                refine Ledger.Sound.publish guarded live isSealer begun
                  (by simp [Ledger.initiations, noOther, noKeygen]) fun held isHeld => ?_
                have handles := keyed.handler held isHeld
                refine ⟨handles, ?_, ?_⟩
                · intro isAck
                  cases held with
                  | rekeyAck other peerPub =>
                      have isPending : (client.ledger past).pending = some other := handles
                      simp [noPending] at isPending
                  | _ => cases isAck
                · intro isCommit
                  cases held with
                  | commitWrap key wrapKey credentialId =>
                      rw [handles.2.2.1] at begun
                      cases begun
                  | _ => cases isCommit
              exact published
    exact pending.enqueueRelaySend rfl

theorem completeRekey
    (completed :
      Guarded past ({ client with vars.rekeyInFlight := false }.await .sending)) :
    Guarded past client.completeRekey := by
  have active : Guarded past
      ((({ client with vars.rekeyInFlight := false }.setState .active).system
        .sessionHardened).await .sending) :=
    (completed.aside (.setState _ .active) (.setState _ .active (by simp))).aside
      (.system _ .sessionHardened) (.system _ .sessionHardened)
  exact active.sendModeFrame _ _ rfl

/-- A committed session goes on: it stores its new key, or keeps it in memory only. -/
theorem commitRekey
    {newSessionKey : SessionKey}
    (released : client.vars.terminated = true → Guarded past client)
    (committed :
      client.vars.terminated = false → ∀ wrapKey credentialId,
        ∃ sealer,
          (client.ledger past).sealer = some sealer ∧
            Ledger.Sound
              { client.ledger past with
                sealer :=
                  some
                    { sealer with
                      key := newSessionKey
                      committed := 0
                      reserved := 0
                      received := 0 }
                handler := some (.commitWrap newSessionKey wrapKey credentialId) }) :
    Guarded past (client.commitRekey newSessionKey) := by
  unfold Client.commitRekey
  split
  · rename_i ended
    exact (released ended).finishHandler
  · rename_i live
    have isLive : client.vars.terminated = false := by simpa using live
    have keyed :
        ∀ wrapKey credentialId,
          Guarded past
            ((client.updateActive fun context =>
              { context with
                sessionKey := { material := newSessionKey, extractable := false }
                counterCommitted := 0
                counterReserved := 0
                counterRecv := 0 }).await
                  (.commitWrap newSessionKey wrapKey credentialId)) := by
      intro wrapKey credentialId
      obtain ⟨sealer, isSealer, sound⟩ := committed isLive wrapKey credentialId
      obtain ⟨active, isActive, rfl⟩ := Option.map_eq_some_iff.mp isSealer
      have same :
          ((client.updateActive fun context =>
            { context with
              sessionKey := { material := newSessionKey, extractable := false }
              counterCommitted := 0
              counterReserved := 0
              counterRecv := 0 }).await
                (.commitWrap newSessionKey wrapKey credentialId)).ledger past =
            { client.ledger past with
              sealer :=
                some
                  { active.sealer with
                    key := newSessionKey
                    committed := 0
                    reserved := 0
                    received := 0 }
              handler := some (.commitWrap newSessionKey wrapKey credentialId) } := by
        simp [ledger, Client.updateActive, Client.await, waiters, isActive,
          ActiveContext.sealer]
      unfold Guarded
      rw [same]
      exact sound
    simp only
    split
    · exact keyed _ _
    · refine completeRekey ?_
      obtain ⟨sealer, isSealer, -⟩ := committed isLive ⟨0⟩ 0
      obtain ⟨active, isActive, -⟩ := Option.map_eq_some_iff.mp isSealer
      have complete :=
        Ledger.Sound.complete (keyed ⟨0⟩ 0) isLive
          (by simp [ledger, Client.updateActive, Client.await, isActive]; rfl) rfl
      exact complete

theorem ledger_recordInstalled
    {active : ActiveContext}
    (isActive : client.vars.internal.context? = some active)
    (record : StoredSession)
    (past : Past) :
    (client.recordInstalled record).ledger past =
      { client.ledger past with
        storage := some record
        mirrors := (client.ledger past).mirrors ++ [record]
        sealer :=
          some { active.sealer with mirror := some (client.ledger past).mirrors.length } } := by
  simp [ledger, recordInstalled, recordWritten, mirrorStoredSession, Client.updateActive,
    waiters, isActive, List.filterMap_cons, Act.spends?, Act.hears?, ActiveContext.sealer]

/-- The record that is written for the session key in use backs it. -/
theorem backs_wrappedRecord
    {ledger : Ledger}
    {active : ActiveContext}
    (keyed : ledger.Keyed active.sealer)
    {keyToWrap : CryptoKey}
    {wrapKey : WrapKey}
    {wrapped : WrappedKey}
    (isWrapped : wrapSessionKey keyToWrap wrapKey = some wrapped)
    (isKey : keyToWrap.material = active.sealer.key)
    (modePhase : ModePhase)
    (credentialId : CredentialId) :
    ledger.Backs active.sealer (wrappedRecord active wrapped modePhase credentialId) := by
  unfold wrapSessionKey at isWrapped
  split at isWrapped
  · obtain rfl := Option.some.inj isWrapped
    exact .inr ⟨⟨wrapKey, by simp [wrappedRecord, isKey]⟩, Nat.le_refl _, keyed.heard⟩
  · cases isWrapped

theorem commitWrapped
    (guarded : Guarded past client)
    {newSessionKey : SessionKey}
    {wrapKey : WrapKey}
    {credentialId : CredentialId}
    (running :
      client.inbound.handler = some (.commitWrap newSessionKey wrapKey credentialId))
    (ok : Bool) :
    Guarded past (client.commitWrapped newSessionKey wrapKey credentialId ok) := by
  unfold Client.commitWrapped
  rcases persistWrappedSessionKey_cases client
      { material := newSessionKey, extractable := true } wrapKey .hardened credentialId ok with
    ⟨reason, refused⟩ | ⟨active, wrapped, isActive, isWrapped, live, installed⟩
  · rw [refused]
    exact guarded.fails reason
  · rw [installed]
    have isSealer : (client.ledger past).sealer = some active.sealer := by
      simp [ledger, isActive]
    have keyed := Ledger.Sound.keyed guarded live _ isSealer
    obtain ⟨isKey, -, idle, unanswered⟩ := keyed.handler _ running
    have sound :
        Ledger.Sound
          { client.ledger past with
            storage := some (wrappedRecord active wrapped .hardened credentialId)
            mirrors :=
              (client.ledger past).mirrors ++
                [wrappedRecord active wrapped .hardened credentialId]
            sealer :=
              some { active.sealer with mirror := some (client.ledger past).mirrors.length }
            inFlight := false
            handler := some .sending } :=
      Ledger.Sound.install guarded live isSealer idle unanswered
        (backs_wrappedRecord keyed isWrapped isKey .hardened credentialId) (by simp)
    refine completeRekey ?_
    have same :
        ({ client.recordInstalled (wrappedRecord active wrapped .hardened credentialId) with
          vars.rekeyInFlight := false }.await .sending).ledger past =
          { (client.recordInstalled
              (wrappedRecord active wrapped .hardened credentialId)).ledger past with
            inFlight := false
            handler := some .sending } := rfl
    unfold Guarded
    rw [same, ledger_recordInstalled isActive]
    exact sound

/-- The joiner draws its key pair in answer to a rekey_init. -/
theorem handleRekeyInit
    (guarded : Guarded past client)
    (live : client.vars.terminated = false)
    {active : ActiveContext}
    (isActive : client.vars.internal.context? = some active)
    (peerPub : PublicKey) : Guarded past (client.handleRekeyInit active peerPub) := by
  unfold Client.handleRekeyInit
  split
  · exact guarded.fails _
  · rename_i isJoiner
    have isSealer : (client.ledger past).sealer = some active.sealer := by
      simp [ledger, isActive]
    simp only [show
      ({ client with vars.rekeyInFlight := true }.setState .rekeying).cancelFilesForRekey =
        beginRekey client from rfl]
    rcases guarded.beginsRekey live isActive with
      ⟨marked, isMarked, stillGuarded, begins⟩ | ⟨refused, isRefused, ends⟩
    · simp only [isMarked]
      have markedLive := begins.ended.trans live
      have markedSealer := begins.sealer.trans isSealer
      have markedKeyed := Ledger.Sound.keyed stillGuarded markedLive _ markedSealer
      have spare := (markedKeyed.draw stillGuarded markedSealer).2
      refine Ledger.Sound.hold (Ledger.Sound.draw stillGuarded) rfl ?_ ?_
      · intro _ noSealer
        have isNone : (marked.ledger past).sealer = none := noSealer
        simp [markedSealer] at isNone
      · intro _ sealer isOther held isHeld
        obtain rfl := Option.some.inj (markedSealer.symm.trans isOther)
        rw [← Option.some.inj isHeld]
        exact ⟨not_not.mp isJoiner, begins.inFlight, { spare with }⟩
    · simp only [isRefused]
      exact (ends _).finishHandler

/-- The new key that the answer was sent for waits to be committed. -/
theorem rekeyInitDerived
    (guarded : Guarded past client)
    {pair : Draw}
    {peerPub : PublicKey}
    (running : client.inbound.handler = some (.rekeyInit pair peerPub))
    (drawn : (client.ledger past).Drawn peerPub)
    (outcome : RekeyOutcome) : Guarded past (client.rekeyInitDerived pair peerPub outcome) := by
  unfold Client.rekeyInitDerived
  split
  · exact guarded.fails _
  · exact guarded.fails _
  · split
    · exact guarded.fails _
    · rename_i newSessionKey derived
      unfold Client.sendModeFrame
      generalize isTask :
        ({ kind := .rekeyAck
           plaintext := .publicKey pair
           encryptFailReason := .modeFrameEncryptFailed
           continuation := .rekeyAck newSessionKey } : SendTask) = task
      have more := answers_enqueue client task past
      cases live : client.vars.terminated with
      | true =>
          have frame := KeyFrame.enqueueRelaySend client task
          exact guarded.afterEnd (frame.terminated live) frame.device frame.draws frame.spends
            frame.hears (frame.storage.imp_right And.right)
      | false =>
          cases isSealer : (client.ledger past).sealer with
          | none => exact ((Ledger.Sound.unkeyed guarded live isSealer).handler _ running).elim
          | some sealer =>
              have keyed := Ledger.Sound.keyed guarded live sealer isSealer
              obtain ⟨isJoiner, inFlight, spare⟩ := keyed.handler _ running
              have answer : (client.ledger past).Answer newSessionKey :=
                { earlier := earlier_of_rekey derived (fun _ => spare.drawn) drawn
                  spare := ⟨pair, (deriveRekeyedSessionKey_uses derived).1, spare⟩ }
              have answered :
                  Ledger.Sound
                    { client.ledger past with
                      answers := ((client.enqueueRelaySend task).ledger past).answers
                      handler := some .sending } := by
                refine Ledger.Sound.answer guarded live isSealer isJoiner inFlight answer ?_
                rw [← isTask] at more ⊢
                exact more
              have same :
                  ((client.enqueueRelaySend task).await .sending).ledger past =
                    { client.ledger past with
                      answers := ((client.enqueueRelaySend task).ledger past).answers
                      handler := some .sending } := by
                unfold Client.enqueueRelaySend
                simp only
                split <;> rfl
              unfold Guarded
              rw [same]
              exact answered

/-- The initiator derives the new key with the pair that it published. -/
theorem handleRekeyAck
    (guarded : Guarded past client)
    {active : ActiveContext}
    (isActive : client.vars.internal.context? = some active)
    (peerPub : PublicKey) : Guarded past (client.handleRekeyAck active peerPub) := by
  unfold Client.handleRekeyAck
  split
  · exact guarded.fails _
  · split
    · exact guarded.fails _
    · rename_i pair isPending
      refine Ledger.Sound.hold guarded rfl ?_ ?_
      · intro _ noSealer
        simp [ledger, isActive] at noSealer
      · intro _ sealer _ held isHeld
        rw [← Option.some.inj isHeld]
        exact isPending

theorem rekeyAckDerived
    (guarded : Guarded past client)
    {pair : Draw}
    {peerPub : PublicKey}
    (running : client.inbound.handler = some (.rekeyAck pair peerPub))
    (drawn : (client.ledger past).Drawn peerPub)
    (ok : Bool) : Guarded past (client.rekeyAckDerived pair peerPub ok) := by
  unfold Client.rekeyAckDerived
  split
  · exact guarded.fails _
  · rename_i newSessionKey isKey
    have derived : deriveRekeyedSessionKey pair peerPub = some newSessionKey := by
      cases ok with
      | true => exact isKey
      | false => cases isKey
    refine commitRekey ?_ ?_
    · intro ended
      exact guarded.afterEnd ended rfl (Nat.le_refl _) rfl rfl (.inl rfl)
    · intro live wrapKey credentialId
      have isLive : client.vars.terminated = false := live
      cases isSealer : (client.ledger past).sealer with
      | none => exact ((Ledger.Sound.unkeyed guarded isLive isSealer).handler _ running).elim
      | some sealer =>
          have keyed := Ledger.Sound.keyed guarded isLive sealer isSealer
          have isPending : (client.ledger past).pending = some pair := keyed.handler _ running
          have begun : pair ∈ (client.ledger past).initiations := by
            simp [Ledger.initiations, isPending]
          obtain ⟨inFlight, isInitiator, spare⟩ := keyed.initiates pair begun
          have single := keyed.single
          simp only [Ledger.initiations, isPending, Option.toList_some, List.length_append,
            List.length_singleton] at single
          have noKeygens : (client.ledger past).keygens = [] :=
            List.eq_nil_of_length_eq_zero (by omega)
          have noAnswers : (client.ledger past).answers = [] := by
            rw [List.eq_nil_iff_forall_not_mem]
            intro key member
            have isJoiner := (keyed.answers key member).1
            rw [isInitiator] at isJoiner
            cases isJoiner
          have committed :=
            Ledger.Sound.commit guarded isLive isSealer inFlight noKeygens
              { earlier := earlier_of_rekey derived (fun _ => spare.drawn) drawn
                spare := ⟨pair, (deriveRekeyedSessionKey_uses derived).1, spare⟩ }
              wrapKey credentialId
          rw [← noAnswers] at committed
          exact ⟨sealer, isSealer, committed⟩

theorem handleModeUpgraded (guarded : Guarded past client) :
    Guarded past client.handleModeUpgraded := by
  have upgraded : Guarded past { client with signals.peerMode := .prf } := guarded
  unfold Client.handleModeUpgraded
  simp only
  split
  · exact upgraded.startRekeyIfInitiator .handler
  · exact (upgraded.aside (.system _ _) (.system _ _)).finishHandler

/-! ## Relay frames -/

/-- The session goes on with the same key and counters, whatever it can receive. -/
theorem transitionToActive
    (guarded : Guarded past client)
    {active : ActiveContext}
    (isResuming : client.vars.internal = .resuming active) :
    Guarded past (client.transitionToActive active) := by
  have same : (client.transitionToActive active).ledger past = client.ledger past := by
    simp [ledger, Client.transitionToActive, setState, waiters, isResuming,
      InternalState.context?, List.filterMap_cons, Act.spends?, Act.hears?]
  unfold Guarded
  rw [same]
  exact guarded

theorem handleEnvelope
    (guarded : Guarded past client)
    (envelope : PlaintextEnvelope) : Guarded past (client.handleEnvelope envelope) := by
  unfold Client.handleEnvelope
  split
  · exact (guarded.aside (.act client rfl rfl) (.act client _)).finishHandler
  · split
    · exact guarded.fails _
    · exact guarded.awaitSending.sendEncoded _ rfl
  · split
    · rename_i active isResuming
      split
      · exact guarded.fails _
      · have answered : Guarded past { client with vars.pendingResumeId := none } := guarded
        exact (answered.transitionToActive isResuming).finishHandler
    · exact guarded.fails _
  · exact (guarded.runFiles _).finishHandler

/-- A frame is accepted that follows the frames before it. -/
theorem accepts
    (guarded : Guarded past client)
    (live : client.vars.terminated = false)
    {active : ActiveContext}
    (isActive : client.vars.internal.context? = some active)
    {counter : Nat}
    (follows : active.counterRecv < counter)
    (kind : RelayKind)
    (payload : Plaintext)
    (floor :
      kind = .msg → past.listens = true → (client.ledger past).Floor active.sealer counter) :
    Guarded past
      ((client.updateActive fun context => { context with counterRecv := counter }).act
        (.accept active.sessionKey.material counter kind payload)) := by
  have isSealer : (client.ledger past).sealer = some active.sealer := by
    simp [ledger, isActive]
  by_cases isText : kind = .msg ∧ past.listens = true
  · have sound :=
      Ledger.Sound.accept guarded live isSealer follows (List.Sublist.refl [counter]) fun _ =>
        floor isText.1 isText.2
    have same :
        ((client.updateActive fun context => { context with counterRecv := counter }).act
            (.accept active.sessionKey.material counter kind payload)).ledger past =
          { client.ledger past with
            sealer := some { active.sealer with received := counter }
            heard := (client.ledger past).heard ++ [counter].map (Prod.mk active.sealer.key) } := by
      simp [ledger, Client.updateActive, Client.act, waiters, isActive, isText, Act.spends?,
        Act.hears?, ActiveContext.sealer]
    unfold Guarded
    rw [same]
    exact sound
  · have sound :=
      Ledger.Sound.accept guarded live isSealer follows (List.nil_sublist [counter]) (by simp)
    have same :
        ((client.updateActive fun context => { context with counterRecv := counter }).act
            (.accept active.sessionKey.material counter kind payload)).ledger past =
          { client.ledger past with
            sealer := some { active.sealer with received := counter }
            heard := (client.ledger past).heard ++ [].map (Prod.mk active.sealer.key) } := by
      cases listens : past.listens <;>
        simp_all [ledger, Client.updateActive, Client.act, waiters, List.filterMap_cons, Act.spends?, Act.hears?,
          ActiveContext.sealer]
    unfold Guarded
    rw [same]
    exact sound

/-- The counter of a frame that was validated follows the last one accepted. -/
theorem follows_of_valid
    {state : ReceiveState}
    {kind : RelayKind}
    {nonce : Nonce}
    {ciphertext : Ciphertext Plaintext}
    {mode : CounterMode}
    {plaintext : Plaintext}
    {counter : Nat}
    (valid :
      validateAndDecryptFrame state kind nonce ciphertext mode = .ok plaintext counter) :
    state.counterRecv < counter := by
  have follows := (validateAndDecryptFrame_ok valid).2.1
  cases mode <;> simp [counterFollows] at follows <;> omega

/-- A frame that is no text is accepted in whatever became of its session. -/
theorem counts
    (guarded : Guarded past client)
    {frame : RelayFrame}
    {mode : CounterMode}
    {state : ReceiveState}
    {mirror : Option MirrorId}
    (running : client.inbound.handler = some (.decrypting frame mode state mirror))
    (current : client.Current state)
    {kind : RelayKind}
    (noText : kind ≠ .msg)
    {payload : Plaintext}
    {counter : Nat}
    (valid :
      validateAndDecryptFrame state kind frame.nonce frame.ciphertext mode = .ok payload counter) :
    Guarded past
      ((client.updateActive fun context => { context with counterRecv := counter }).act
        (.accept state.sessionKey counter kind payload)) := by
  cases live : client.vars.terminated with
  | true =>
      exact guarded.afterEnd live rfl (Nat.le_refl _)
        (by simp [Client.act, Client.updateActive, List.filterMap_cons, Act.spends?])
        (by simp [Client.act, Client.updateActive, Act.hears?, noText])
        (.inl rfl)
  | false =>
      cases isActive : client.vars.internal.context? with
      | none =>
          have unkeyed : (client.ledger past).sealer = none := by simp [ledger, isActive]
          exact ((Ledger.Sound.unkeyed guarded live unkeyed).handler _ running).elim
      | some active =>
          obtain ⟨sameCounter, sameKey⟩ := current live active isActive
          have follows := follows_of_valid valid
          rw [sameCounter] at follows
          rw [sameKey]
          exact guarded.accepts live isActive follows kind payload fun isText => absurd isText noText

theorem messageDecrypted
    (guarded : Guarded past client)
    {frame : RelayFrame}
    {mode : CounterMode}
    {state : ReceiveState}
    {mirror : Option MirrorId}
    (running : client.inbound.handler = some (.decrypting frame mode state mirror))
    (current : client.Current state) :
    Guarded past (client.messageDecrypted frame mode state mirror) := by
  have fails :
      ∀ reason,
        Guarded past
          (if client.vars.terminated then
            client.finishHandler
          else
            (client.terminate reason).finishHandler) := by
    intro reason
    split
    · exact guarded.finishHandler
    · exact guarded.fails reason
  unfold Client.messageDecrypted decryptIncoming
  cases valid : validateAndDecryptFrame state .msg frame.nonce frame.ciphertext mode with
  | ok plaintext counter =>
      simp only
      cases decodeEnvelope plaintext with
      | none => exact fails _
      | some envelope =>
          simp only
          have accepted :
              ∀ stored : Client,
                stored.vars = client.vars → Guarded past stored →
                  (stored.vars.terminated = false → past.listens = true →
                    ∀ sealer ∈ (stored.ledger past).sealer,
                      (stored.ledger past).Floor sealer counter) →
                    (stored.vars.terminated = false →
                      (stored.ledger past).sealer ≠ none) →
                      Guarded past
                        (if stored.vars.terminated then
                          stored.finishHandler
                        else
                          ((stored.updateActive fun context =>
                            { context with counterRecv := counter }).act
                              (.accept state.sessionKey counter .msg
                                (.envelope envelope))).handleEnvelope envelope) := by
            intro stored sameVars stillGuarded floor keyed
            split
            · exact stillGuarded.finishHandler
            · rename_i notEnded
              have live : stored.vars.terminated = false := by simpa using notEnded
              cases isActive : stored.vars.internal.context? with
              | none => exact absurd (by simp [ledger, isActive]) (keyed live)
              | some active =>
                  rw [sameVars] at live isActive
                  obtain ⟨sameCounter, sameKey⟩ := current live active isActive
                  have follows := follows_of_valid valid
                  rw [sameCounter] at follows
                  rw [← sameVars] at live isActive
                  rw [sameKey]
                  have isSealer : (stored.ledger past).sealer = some active.sealer := by
                    simp [ledger, isActive]
                  exact
                    (stillGuarded.accepts live isActive follows .msg _ fun _ listens =>
                      floor live listens _ isSealer).handleEnvelope envelope
          have keyed :
              client.vars.terminated = false → (client.ledger past).sealer ≠ none :=
            fun live unkeyed =>
              ((Ledger.Sound.unkeyed guarded live unkeyed).handler _ running).elim
          cases mirror with
          | none =>
              refine accepted client rfl guarded ?_ keyed
              intro live listens sealer isSealer
              have sound := Ledger.Sound.keyed guarded live sealer isSealer
              have isMirror : none = sealer.mirror :=
                (sound.handler _ running).resolve_right fun unfollowed => by
                  have silent : past.listens = false := unfollowed.2
                  simp [listens] at silent
              have noRecord := sound.unmirrored isMirror.symm
              exact ⟨by simp [← isMirror], by simp [noRecord]⟩
          | some mirror =>
              have follows :
                  client.vars.terminated = false → ∀ sealer ∈ (client.ledger past).sealer,
                    sealer.received < counter := by
                intro live sealer isSealer
                obtain ⟨active, isActive, rfl⟩ := Option.map_eq_some_iff.mp isSealer
                have follows := follows_of_valid valid
                rw [(current live active isActive).1] at follows
                exact follows
              simp only [Option.map_some]
              rcases guarded.persistReceived running follows with
                ⟨stored, isStored, sameVars, stillGuarded, floor⟩ |
                  ⟨stored, isRefused, same, ended, ends⟩
              · simp only [isStored]
                refine accepted stored sameVars stillGuarded (fun _ _ => floor) ?_
                simpa [ledger, sameVars] using keyed
              · simp only [isRefused]
                split
                · rename_i isEnded
                  exact (ended (same.symm.trans isEnded)).finishHandler
                · exact (ends _).finishHandler
  | _ => exact fails _

theorem chunkDecrypted
    (guarded : Guarded past client)
    {frame : RelayFrame}
    {mode : CounterMode}
    {state : ReceiveState}
    {mirror : Option MirrorId}
    (running : client.inbound.handler = some (.decrypting frame mode state mirror))
    (current : client.Current state) :
    Guarded past (client.chunkDecrypted frame mode state) := by
  unfold Client.chunkDecrypted
  split
  · rename_i recvState plaintext counter decrypted
    obtain ⟨valid, rfl⟩ := decryptChunkFrame_ok decrypted
    have synced := guarded.counts running current (by simp) valid
    split
    · split
      · exact synced.fails _
      · exact (synced.runFiles _).finishHandler
    · exact synced.fails _
  · exact guarded.fails _

theorem handleModePayload
    (guarded : Guarded past client)
    (live : client.vars.terminated = false)
    (kind : RelayKind)
    (payload : Plaintext) : Guarded past (client.handleModePayload kind payload) := by
  unfold Client.handleModePayload
  split
  · exact guarded.finishHandler
  · rename_i active isActive
    split
    · split
      · exact guarded.handleModeUpgraded
      · exact guarded.fails _
    · split
      · exact guarded.handleRekeyInit live isActive _
      · exact guarded.fails _
    · split
      · exact guarded.handleRekeyAck isActive _
      · exact guarded.fails _
    · split
      · exact guarded.finishHandler
      · exact guarded.fails _

theorem modeFrameDecrypted
    (guarded : Guarded past client)
    {frame : RelayFrame}
    {mode : CounterMode}
    {state : ReceiveState}
    {mirror : Option MirrorId}
    (running : client.inbound.handler = some (.decrypting frame mode state mirror))
    (current : client.Current state)
    (noText : frame.kind ≠ .msg) :
    Guarded past (client.modeFrameDecrypted frame mode state) := by
  unfold Client.modeFrameDecrypted
  split
  · rename_i payload counter valid
    have accepted := guarded.counts running current noText valid
    simp only
    split
    · exact accepted.finishHandler
    · rename_i live
      exact accepted.handleModePayload (by simpa using live) _ _
  · exact guarded.fails _

theorem frameDecrypted
    (guarded : Guarded past client)
    {frame : RelayFrame}
    {mode : CounterMode}
    {state : ReceiveState}
    {mirror : Option MirrorId}
    (running : client.inbound.handler = some (.decrypting frame mode state mirror))
    (current : client.Current state) :
    Guarded past (client.frameDecrypted frame mode state mirror) := by
  unfold Client.frameDecrypted
  split
  · exact guarded.messageDecrypted running current
  · exact guarded.chunkDecrypted running current
  · rename_i noText _
    exact guarded.modeFrameDecrypted running current noText

theorem handleRelayWith
    (guarded : Guarded past client)
    {active : ActiveContext}
    (isActive : client.vars.internal.context? = some active)
    (frame : RelayFrame) : Guarded past (client.handleRelayWith active frame) := by
  have taken :
      Guarded past
        (client.updateActive fun context => { context with nextRecvMode := .strict }) :=
    Ledger.Sound.keeps guarded
      ((KeyFrame.updateActive client
        (fun context => { context with nextRecvMode := .strict }) fun _ => rfl).keeps rfl past
          (List.Subset.refl _))
  unfold Client.handleRelayWith
  simp only
  split
  · exact taken.finishHandler
  · refine Ledger.Sound.hold taken rfl ?_ ?_
    · intro _ noSealer
      simp [ledger, Client.updateActive, isActive] at noSealer
    · intro _ sealer isSealer held isHeld
      rw [← Option.some.inj isHeld]
      have isMirror : active.mirror = sealer.mirror := by
        simp only [ledger, Client.updateActive, InternalState.context?_mapContext, isActive,
          Option.map_some, Option.mem_def, Option.some.injEq] at isSealer
        rw [← isSealer]
        rfl
      exact .inl isMirror

theorem handleRelay
    (guarded : Guarded past client)
    (frame : RelayFrame) : Guarded past (client.handleRelay frame) := by
  unfold Client.handleRelay
  split
  · exact guarded.fails _
  · rename_i active isActive
    exact guarded.handleRelayWith (by rw [isActive]; rfl) frame
  · rename_i active isActive
    exact guarded.handleRelayWith (by rw [isActive]; rfl) frame

theorem runInbound (guarded : Guarded past client) : Guarded past client.runInbound := by
  unfold Client.runInbound
  split
  · exact guarded
  · rename_i task rest _
    have taken : Guarded past { client with inbound.queue := rest } := guarded
    simp only
    split
    · exact taken.finishHandler
    · split
      · exact taken.handleHandshakeFrame _
      · exact taken.handleRelay _

/-! ## Sends -/

/--
A counter is handed out, after its block was reserved if need be, and a frame may be
encrypted under it; or the record cannot be written.
-/
theorem allocated
    {answers : List SessionKey}
    (sound : Ledger.Sound { client.ledger past with answers := answers })
    (live : client.vars.terminated = false)
    {active : ActiveContext}
    (isActive : client.vars.internal.context? = some active)
    (kind : RelayKind) :
    (∃ after,
        client.allocateSendCounter active kind = (after, some (active.counterCommitted + 1)) ∧
          after.inbound = client.inbound ∧
          ∀ nonces : List Nonce, nonces.Nodup →
            (∀ nonce ∈ nonces, (parseNonce nonce).counter = active.counterCommitted + 1) →
              Ledger.Sound
                { after.ledger past with
                  answers := answers
                  spent :=
                    (after.ledger past).spent ++
                      nonces.map (Prod.mk active.sessionKey.material) }) ∨
      ∃ refused,
        client.allocateSendCounter active kind = (refused, none) ∧
          ∀ reason,
            Ledger.Sound { (refused.terminate reason).ledger past with answers := answers } := by
  have isSealer : (client.ledger past).sealer = some active.sealer := by
    simp [ledger, isActive]
  have updated :
      ∀ (middle : Client) (committed reserved : Nat),
        middle.vars.internal = client.vars.internal →
          (middle.updateActive fun context =>
            { context with
              counterCommitted := committed
              counterReserved := reserved }).ledger past =
            { middle.ledger past with
              sealer :=
                some { active.sealer with committed := committed, reserved := reserved } } := by
    intro middle committed reserved same
    simp [ledger, Client.updateActive, same, isActive, waiters, ActiveContext.sealer]
  have keyed := sound.keyed live active.sealer isSealer
  have block := blockSizeFor_pos kind
  have bound : active.counterCommitted ≤ active.counterReserved := keyed.bound
  unfold Client.allocateSendCounter
  rcases allocateCounter_cases (active.mirror.map setCounterSend) client active.sendState kind with
    ⟨isReserved, handsOut⟩ | ⟨-, ⟨stored, persisted, handsOut⟩ | fails⟩
  · refine .inl ⟨client.updateActive fun context =>
      { context with
        counterCommitted := active.counterCommitted + 1
        counterReserved := active.counterReserved }, by rw [handsOut]; rfl, rfl, ?_⟩
    intro nonces atMostOne isNext
    rw [updated client _ _ rfl]
    exact Ledger.Sound.handOut sound live isSealer isReserved atMostOne isNext
  · have reserved :
        stored.vars.internal = client.vars.internal ∧ stored.inbound = client.inbound ∧
          Ledger.Sound
            { stored.ledger past with
              answers := answers
              sealer :=
                some
                  { active.sealer with
                    reserved := active.counterReserved + blockSizeFor kind } } ∧
          (stored.ledger past).ended = false := by
      rcases persisted with ⟨noMirror, rfl⟩ | ⟨persist, isPersist, written⟩
      · exact
          ⟨rfl, rfl,
            Ledger.Sound.unmirrored sound live isSealer (Option.map_eq_none_iff.mp noMirror)
              (Nat.le_add_right _ _) id,
            live⟩
      · obtain ⟨mirror, isMirror, rfl⟩ := Option.map_eq_some_iff.mp isPersist
        unfold setCounterSend at written
        rcases flushMirror_cases client mirror
            (fun record =>
              record.withCounterSend (active.sendState.counterReserved + blockSizeFor kind)) with
          refused | ⟨record, held, -, isWritten⟩
        · rw [refused] at written
          cases written
        · rw [isWritten] at written
          obtain ⟨rfl, -⟩ := Prod.mk.inj written
          refine ⟨rfl, rfl, ?_, live⟩
          rw [ledger_recordWritten]
          have backed :
              (client.ledger past).Backs
                { active.sealer with
                  reserved := active.counterReserved + blockSizeFor kind }
                (record.withCounterSend (active.counterReserved + blockSizeFor kind)) :=
            (keyed.mirrored mirror isMirror record held).imp_right fun former =>
              ⟨former.1, Nat.le_refl _, former.2.2⟩
          have rewritten :
              Ledger.Sound
                { client.ledger past with
                  storage :=
                    some
                      (record.withCounterSend (active.counterReserved + blockSizeFor kind))
                  mirrors :=
                    client.store.mirrors.modify mirror fun record =>
                      record.withCounterSend (active.counterReserved + blockSizeFor kind)
                  sealer :=
                    some
                      { active.sealer with
                        reserved := active.counterReserved + blockSizeFor kind }
                  answers := answers } :=
            Ledger.Sound.write sound live isSealer isMirror held
              (fun record =>
                record.withCounterSend (active.counterReserved + blockSizeFor kind))
              (Nat.le_add_right _ _) backed id
              fun inFlight => (keyed.marked inFlight).1 mirror isMirror record held
          exact rewritten
    obtain ⟨sameInternal, sameInbound, isSound, stillLive⟩ := reserved
    refine .inl ⟨stored.updateActive fun context =>
      { context with
        counterCommitted := active.counterCommitted + 1
        counterReserved := active.counterReserved + blockSizeFor kind }, by rw [handsOut]; rfl,
      sameInbound, ?_⟩
    intro nonces atMostOne isNext
    rw [updated stored _ _ sameInternal]
    have isReserved :
        active.counterCommitted < active.counterReserved + blockSizeFor kind := by omega
    exact Ledger.Sound.handOut isSound stillLive rfl isReserved atMostOne isNext
  · obtain ⟨stored, persist, isPersist, refused, fails⟩ := fails
    obtain ⟨mirror, -, rfl⟩ := Option.map_eq_some_iff.mp isPersist
    unfold setCounterSend at refused
    refine .inr ⟨stored.updateActive fun context =>
      { context with
        counterCommitted := active.counterCommitted
        counterReserved := active.counterReserved }, by rw [fails]; rfl, ?_⟩
    intro reason
    rcases flushMirror_cases client mirror
        (fun record =>
          record.withCounterSend (active.sendState.counterReserved + blockSizeFor kind)) with
      isRefused | ⟨record, -, -, written⟩
    · rw [isRefused] at refused
      obtain ⟨rfl, -⟩ := Prod.mk.inj refused
      have frame := KeyFrame.terminate
        ((client.mirrorChanged mirror fun record =>
          record.withCounterSend (active.sendState.counterReserved + blockSizeFor kind)).updateActive
            fun context =>
              { context with
                counterCommitted := active.counterCommitted
                counterReserved := active.counterReserved }) reason
      exact sound.keeps
        { device := frame.device
          draws := frame.draws
          spent := congrArg (past.spent ++ ·) frame.spends
          heard := by
            unfold ledger
            rw [frame.hears]
            rfl
          listens := rfl
          storage := frame.storage
          live := .inl (terminate_terminated _ _) }
    · rw [written] at refused
      cases refused

/-- A send starts: nothing is encrypted, or one frame under a counter of its own. -/
theorem runRelaySendTask
    {answers : List SessionKey}
    (sound : Ledger.Sound { client.ledger past with answers := answers })
    (task : SendTask) :
    Ledger.Sound { (client.runRelaySendTask task).ledger past with answers := answers } := by
  have settles :
      ∀ middle : Client,
        Ledger.Sound { middle.ledger past with answers := answers } →
          Ledger.Sound
            { (middle.settleSend task.continuation false).ledger past with
              answers := answers } := by
    intro middle isSound
    refine isSound.keeps ((KeyFrame.settleSend middle _ _).keeps ?_ past (List.Subset.refl _))
    unfold Client.settleSend
    simp only
    split <;> rfl
  have ends :
      ∀ middle : Client,
        Ledger.Sound { middle.ledger past with answers := answers } → ∀ reason,
          Ledger.Sound { (middle.terminate reason).ledger past with answers := answers } :=
    fun middle isSound reason =>
      isSound.keeps
        ((KeyFrame.terminate middle reason).keeps (AsideFrame.terminate middle reason).handler
          past (List.Subset.refl _))
  unfold Client.runRelaySendTask
  split
  · exact settles client sound
  · rename_i notEnded
    have live : client.vars.terminated = false := by simpa using notEnded
    split
    · rename_i socket active _ isActive
      split
      · exact settles client sound
      · rcases allocated sound live isActive task.kind with
          ⟨after, isAllocated, sameInbound, isSound⟩ | ⟨refused, isRefused, isOver⟩
        · simp only [isAllocated]
          split
          · refine settles _ (ends after ?_ _)
            simpa using isSound [] List.nodup_nil (by simp)
          · rename_i frame isFrame
            obtain ⟨nonce, made, rfl⟩ := encryptRelayFrame_eq_some isFrame
            have spends := isSound [nonce] (by simp) (by simp [parseNonce_makeNonce made])
            have same :
                { ({ after.act
                      (.encrypt active.sessionKey.material (active.counterCommitted + 1)
                        { kind := task.kind
                          nonce
                          ciphertext :=
                            .sealed active.sessionKey.material nonce (aadFor task.kind)
                              task.plaintext }) with
                    outbound.sending :=
                      some
                        { task
                          frame :=
                            { kind := task.kind
                              nonce
                              ciphertext :=
                                .sealed active.sessionKey.material nonce (aadFor task.kind)
                                  task.plaintext }
                          gen := socket.gen } } : Client).ledger past with answers := answers } =
                  { after.ledger past with
                    answers := answers
                    spent :=
                      (after.ledger past).spent ++
                        [nonce].map (Prod.mk active.sessionKey.material) } := by
              simp [ledger, Client.act, List.filterMap_cons, Act.spends?, Act.hears?]
            rw [same]
            exact spends
        · simp only [isRefused]
          exact settles _ (isOver _)
    · exact settles client sound

/-- An upgrade stores the key that the session uses, while nobody changes it. -/
theorem upgradeWrapped
    (guarded : Guarded past client)
    (index : Nat)
    {sessionKey : CryptoKey}
    (wrapKey : WrapKey)
    (credentialId : CredentialId)
    {ok : Bool}
    (settles : ok = true → client.settles past.listens sessionKey = true) :
    Guarded past (client.upgradeWrapped index sessionKey wrapKey credentialId ok) := by
  have erased : Guarded past
      { client with vars.upgrades := client.vars.upgrades.eraseIdx index } :=
    guarded.aside (.settled client index) { AsideFrame.refl client with }
  unfold Client.upgradeWrapped
  rcases persistWrappedSessionKey_cases
      { client with vars.upgrades := client.vars.upgrades.eraseIdx index }
      sessionKey wrapKey .soft credentialId ok with
    ⟨reason, refused⟩ | ⟨active, wrapped, isActive, isWrapped, live, installed⟩
  · rw [refused]
    exact erased.terminate reason
  · rw [installed]
    have isOk : ok = true := by
      cases ok with
      | true => rfl
      | false => simp [persistWrappedSessionKey] at installed
    have isSettled := settles isOk
    have held : client.vars.internal.context? = some active := isActive
    simp only [Client.settles, held, Option.all_some, Bool.and_eq_true, decide_eq_true_eq,
      Bool.not_eq_true'] at isSettled
    obtain ⟨⟨isKey, landed⟩, noFrame⟩ := isSettled
    have isSealer :
        (({ client with
          vars.upgrades := client.vars.upgrades.eraseIdx index } : Client).ledger past).sealer =
            some active.sealer := by
      simp [ledger, held]
    have keyed := Ledger.Sound.keyed erased live _ isSealer
    have idle := erased.idle live landed isSealer
    have unoccupied := erased.unoccupied live landed isSealer
    have unanswered :
        (({ client with
          vars.upgrades := client.vars.upgrades.eraseIdx index } : Client).ledger past).answers =
            [] := by
      rw [List.eq_nil_iff_forall_not_mem]
      intro key member
      have inFlight : client.vars.rekeyInFlight = true := (keyed.answers key member).2.1
      simp [landed] at inFlight
    have handles :
        ∀ held ∈ client.inbound.handler,
          held = .sending ∨
            past.listens = false ∧
              ∃ frame mode state, held = .decrypting frame mode state none := by
      intro held isHeld
      have handles := keyed.handler held isHeld
      have noCommit := unoccupied held isHeld
      cases held with
      | handshake ciphertext pair => exact handles.elim
      | decrypting frame mode state mirror =>
          have isHandler : client.inbound.handler = some (.decrypting frame mode state mirror) :=
            isHeld
          simp only [Client.decrypts, isHandler, Bool.or_eq_false_iff] at noFrame
          cases mirror with
          | none => exact .inr ⟨noFrame.1, frame, mode, state, rfl⟩
          | some mirror => cases noFrame.2
      | rekeyKeygen pair =>
          simp only [Ledger.initiations, List.append_eq_nil_iff] at idle
          have isHandler : client.inbound.handler = some (.rekeyKeygen pair) := isHeld
          simp [ledger, isHandler, Handler.keygen?] at idle
      | rekeyInit pair peerPub =>
          have inFlight : client.vars.rekeyInFlight = true := handles.2.1
          simp [landed] at inFlight
      | rekeyAck pair peerPub => exact absurd rfl noCommit.1
      | commitWrap key wrapKey credentialId => exact absurd rfl noCommit.2
      | sending => exact .inl rfl
    have sound :=
      Ledger.Sound.install erased live isSealer idle unanswered
        (backs_wrappedRecord keyed isWrapped isKey.symm .soft credentialId) handles
    have stored :
        Guarded past
          ({ client with
            vars.upgrades := client.vars.upgrades.eraseIdx index }.recordInstalled
              (wrappedRecord active wrapped .soft credentialId)) := by
      unfold Guarded
      rw [ledger_recordInstalled isActive]
      have stillLanded :
          (({ client with
            vars.upgrades := client.vars.upgrades.eraseIdx index } : Client).ledger past).inFlight =
              false := landed
      rw [← stillLanded] at sound
      exact sound
    generalize
      { client with
        vars.upgrades := client.vars.upgrades.eraseIdx index }.recordInstalled
          (wrappedRecord active wrapped .soft credentialId) = persisted at stored
    have prf : Guarded past { persisted with signals.sessionMode := .prf } := stored
    have noted :=
      (prf.aside (.setState _ .active) (.setState _ .active (by simp))).aside
        (.system _ .modeUpgradedLocally) (.system _ .modeUpgradedLocally)
    exact noted.enqueueRelaySend rfl

end Guarded

end Client

end Unseen
