import Unseen.History
import Unseen.LedgerMoves

namespace Unseen

/-!
# Nothing is encrypted or accepted twice

No nonce is used twice under one key: not by concurrent sends, not across
reconnects and rekeys, and not after the page was reloaded and the session
resumed from its stored record.  In the same runs no text of the peer is
accepted twice, whatever the relay replays.

The laws are about careful runs: every record that an upgrade stores fits the
session, and a peer presents no public key that this device is yet to draw.
-/

namespace Client

variable {client : Client} {past : Past}

/-- The public key of the peer that the running handler derives a session key with. -/
def presented (client : Client) : Option PublicKey :=
  match client.inbound.handler with
  | some (.handshake ciphertext _) => unwrapPeerPublicKey ciphertext
  | some (.rekeyInit _ peerPub) => some peerPub
  | some (.rekeyAck _ peerPub) => some peerPub
  | _ => none

/-- The public key is not one that this device is yet to draw. -/
def isDrawn (client : Client) (publicKey : PublicKey) : Bool :=
  publicKey.device ≠ client.page.device || publicKey.serial < client.page.nextDraw

/-- An upgrade stores its key while it settles. -/
def storesSettled (client : Client) (listens : Bool) : Event → Bool
  | .upgradeWrapped index true =>
      match client.vars.upgrades[index]? with
      | some (.wrapping sessionKey _ _) => client.settles listens sessionKey
      | _ => true
  | _ => true

/-- No public key comes from the future, and every stored record fits the session. -/
def careful (listens : Bool) (client : Client) (input : Input) : Prop :=
  client.presented.all client.isDrawn = true ∧
    client.storesSettled listens input.event = true

instance (listens : Bool) (client : Client) (input : Input) :
    Decidable (careful listens client input) :=
  inferInstanceAs
    (Decidable
      (client.presented.all client.isDrawn = true ∧
        client.storesSettled listens input.event = true))

namespace Guarded

/-- A microtask that was taken leaves at most the answers that waited. -/
theorem taken
    (guarded : Guarded past client)
    {rest : List Job}
    (fewer : ({ client with jobs := rest } : Client).waiters ⊆ client.waiters) :
    Guarded past { client with jobs := rest } := by
  have sound : (client.ledger past).Sound := guarded
  refine answered sound ?_
  intro key member
  obtain ⟨continuation, isWaiter, isAnswer⟩ := List.mem_filterMap.mp member
  exact List.mem_filterMap.mpr ⟨continuation, fewer isWaiter, isAnswer⟩

/-- The joiner's answer was sent, and the session goes on under the new key. -/
theorem commitAnswer
    {progress : Progress}
    (guarded : Guarded past client)
    (settled : Settled progress client)
    {newSessionKey : SessionKey}
    {sent : Bool}
    {rest : List Job}
    (jobs : client.jobs = .settle (.rekeyAck newSessionKey) sent :: rest) :
    Guarded past ({ client with jobs := rest }.commitRekey newSessionKey) := by
  have handling := settled.takeWaiter jobs rfl
  have isAnswer : newSessionKey ∈ (client.ledger past).answers := by
    refine List.mem_filterMap.mpr ⟨.rekeyAck newSessionKey, ?_, rfl⟩
    simp [waiters, jobs, Job.cont?, SendCont.waits]
  have popped : Guarded past { client with jobs := rest } :=
    guarded.taken (by simp [handling.waiters])
  refine commitRekey (fun _ => popped) ?_
  intro live wrapKey credentialId
  cases isSealer : (client.ledger past).sealer with
  | none =>
      have unanswered := (Ledger.Sound.unkeyed guarded live isSealer).unanswered
      simp [unanswered] at isAnswer
  | some sealer =>
      have keyed := Ledger.Sound.keyed guarded live sealer isSealer
      obtain ⟨isJoiner, inFlight, answer⟩ := keyed.answers newSessionKey isAnswer
      have idle : (client.ledger past).initiations = [] := by
        rw [List.eq_nil_iff_forall_not_mem]
        intro pair member
        have isInitiator := (keyed.initiates pair member).2.1
        rw [isJoiner] at isInitiator
        cases isInitiator
      simp only [Ledger.initiations, List.append_eq_nil_iff, Option.toList_eq_nil_iff] at idle
      have sound :=
        Ledger.Sound.commit guarded live isSealer inFlight idle.1.1 answer wrapKey credentialId
      refine ⟨sealer, isSealer, ?_⟩
      have same :
          { ({ client with jobs := rest } : Client).ledger past with
            sealer :=
              some
                { sealer with key := newSessionKey, committed := 0, reserved := 0, received := 0 }
            handler := some (.commitWrap newSessionKey wrapKey credentialId) } =
          { client.ledger past with
            sealer :=
              some
                { sealer with key := newSessionKey, committed := 0, reserved := 0, received := 0 }
            pending := none
            answers := []
            handler := some (.commitWrap newSessionKey wrapKey credentialId) } := by
        have unpending : client.vars.pendingRekeyPair = none := idle.1.2
        simp [ledger, handling.waiters, unpending]
      rw [same]
      exact sound

/-- The serializer starts the next send. -/
theorem runOutbound
    (guarded : Guarded past client)
    {rest : List Job}
    (jobs : client.jobs = .outboundNext :: rest) :
    Guarded past { client with jobs := rest }.runOutbound := by
  have same : ({ client with jobs := rest } : Client).waiters = client.waiters := by
    simp only [waiters, jobs]
    rfl
  have popped : Guarded past { client with jobs := rest } :=
    guarded.taken (by simp [same])
  have sound :
      Ledger.Sound
        { ({ client with jobs := rest }.runOutbound).ledger past with
          answers := (({ client with jobs := rest } : Client).ledger past).answers } := by
    unfold Client.runOutbound
    split
    · exact popped
    · rename_i task waiting _
      have dequeued :
          Ledger.Sound
            { ({ client with jobs := rest, outbound.queue := waiting } : Client).ledger past with
              answers := (({ client with jobs := rest } : Client).ledger past).answers } :=
        popped
      exact runRelaySendTask dequeued task
  refine answered sound ?_
  intro key member
  obtain ⟨continuation, isWaiter, isAnswer⟩ := List.mem_filterMap.mp member
  exact List.mem_filterMap.mpr
    ⟨continuation,
      (AsideFrame.runOutbound { client with jobs := rest }).waiters.subset isWaiter, isAnswer⟩

/-- A microtask. -/
theorem runJob
    {progress : Progress}
    (guarded : Guarded past client)
    (settled : Settled progress client) : Guarded past client.runJob := by
  unfold Client.runJob
  split
  · exact guarded
  · rename_i job rest jobs
    cases job with
    | outboundNext => exact guarded.runOutbound jobs
    | inboundNext =>
        have popped : Guarded past { client with jobs := rest } :=
          guarded.taken (by simp [(settled.takeStart jobs).waiters])
        exact popped.runInbound
    | settle continuation sent =>
        have popped : Guarded past { client with jobs := rest } := by
          refine guarded.taken ?_
          intro waiter member
          simp only [waiters, jobs, Job.cont?, List.filterMap_cons, List.filter_cons,
            List.mem_append] at member ⊢
          split
          · exact member.imp_left (List.mem_cons_of_mem _)
          · exact member
        cases continuation with
        | discard => exact popped
        | text body =>
            simp only [Client.resumeSend]
            split
            · exact popped.aside (.act _ rfl rfl) (.act _ _)
            · exact popped
        | resumeAck =>
            simp only [Client.resumeSend]
            split
            · exact popped.finishHandler
            · exact ((popped.aside (.setState _ .active) (.setState _ .active (by simp))).aside
                (.system _ .peerReconnected) (.system _ .peerReconnected)).finishHandler
        | modeUpgraded =>
            simp only [Client.resumeSend]
            split
            · exact popped.startRekeyIfInitiator .upgrade
            · exact popped
        | rekeyAck newSessionKey =>
            simp only [Client.resumeSend]
            split
            · exact guarded.commitAnswer settled jobs
            · exact popped.finishHandler
        | handlerDone => exact popped.finishHandler
        | file continuation => exact popped.runFiles _

/-- A frame of the server: it is queued, or the page answers with its key pair or a probe. -/
theorem handleServerFrame
    (guarded : Guarded past client)
    (frame : ServerFrame) : Guarded past (client.handleServerFrame frame) := by
  have queued : ∀ task, Guarded past (client.enqueueInbound task) := by
    intro task
    unfold Client.enqueueInbound
    simp only
    split
    · exact guarded
    · have same :
          (({ client with
            inbound.queue := client.inbound.queue ++ [task]
            inbound.busy := true }.schedule .inboundNext).ledger past) = client.ledger past := by
        simp [ledger, schedule, waiters, Job.cont?]
      unfold Guarded
      rw [same]
      exact guarded
  unfold Client.handleServerFrame
  split
  · exact guarded
  · split
    · rename_i role
      have named : Guarded past { client with signals.myRole := some role } := guarded
      simp only
      split
      · exact named.aside (.sendResumeProbe _) (.sendResumeProbe _)
      · split
        · exact (named.aside (.setState _ .waitingForPeer)
            (.setState _ .waitingForPeer (by simp))).aside
              (.system _ .waitingForPeer) (.system _ .waitingForPeer)
        · exact named.sendLocalHandshake
    · have removed : Guarded past (client.act (.removeSystemMessage .waitingForPeer)) :=
        guarded.aside (.act _ rfl rfl) (.act _ _)
      unfold Client.onPeerJoined
      simp only
      split
      · exact removed.sendLocalHandshake
      · split
        · exact removed.aside (.updateActive _ _ fun _ => rfl)
            (.updateActive _ _ fun _ => ⟨rfl, rfl⟩)
        · exact removed
    · exact queued _
    · exact queued _
    · exact guarded.aside (.onPeerDisconnected _) (.onPeerDisconnected _)
    · exact guarded.terminate _
    · split
      · exact guarded.aside (.reopenAsJoiner _) (.reopenAsJoiner _)
      · exact guarded.terminate _

/-- The key pair's peer was drawn before. -/
theorem drawn
    {listens : Bool}
    {input : Input}
    (careful : careful listens client input)
    {publicKey : PublicKey}
    (isPresented : publicKey ∈ client.presented) : (client.ledger past).Drawn publicKey := by
  have isDrawn := careful.1
  rw [isPresented] at isDrawn
  simp only [Option.all_some, Client.isDrawn, Bool.or_eq_true, decide_eq_true_eq] at isDrawn
  exact fun own => isDrawn.resolve_left fun foreign => foreign own

/-- Every event of a connected page keeps its ledger sound. -/
theorem handle
    {progress : Progress}
    (guarded : Guarded past client)
    (settled : Settled progress client)
    (inStep : InStep client)
    {input : Input}
    (isEnabled : client.enabled input)
    (careful : careful past.listens client input)
    (notReload : input.event ≠ .reload) : Guarded past (client.handle input.event) := by
  cases keyed : input.event.isKeyed with
  | false =>
      refine guarded.aside (handle_keyFrame settled.armed isEnabled keyed)
        (handle_aside settled.armed isEnabled ?_ ?_ ?_ notReload)
      · cases isEvent : input.event with
        | socketFrame frame => cases frame <;> simp_all [Event.isKeyed, Event.isChain]
        | _ => simp_all [Event.isKeyed, Event.isChain]
      · intro granted isEvent
        rw [isEvent] at keyed
        cases keyed
      · intro outcome isEvent
        rw [isEvent] at keyed
        cases keyed
  | true =>
      obtain ⟨event, oracle⟩ := input
      cases event with
      | job => exact guarded.runJob settled
      | claimDecided granted =>
          exact absurd (by simpa using (Bool.and_eq_true_iff.mp isEnabled).2) settled.connected.1
      | resumeDecided outcome =>
          have attempting : client.vars.resumeAttempt = true := by
            simpa using (Bool.and_eq_true_iff.mp isEnabled).2
          simp [settled.connected.2.1] at attempting
      | socketFrame frame => exact guarded.handleServerFrame frame
      | handshakeDerived ok =>
          simp only [Client.handle]
          split
          · rename_i ciphertext pair running
            refine guarded.handshakeDerived running ?_ ok
            intro peerPublicKey isPeer
            exact drawn careful (by simpa [presented, running] using isPeer)
          · exact guarded
      | decrypted =>
          simp only [Client.handle]
          split
          · rename_i running
            exact guarded.frameDecrypted running (inStep _ _ _ _ running)
          · exact guarded
      | upgradeWrapped index ok =>
          simp only [Client.handle]
          split
          · rename_i sessionKey wrapKey credentialId isUpgrade
            refine guarded.upgradeWrapped index wrapKey credentialId ?_
            rintro rfl
            simpa [storesSettled, isUpgrade] using careful.2
          · exact guarded
      | upgradeKeygen index ok =>
          simp only [Client.handle]
          split
          · rename_i isUpgrade
            exact guarded.upgradeKeygen isUpgrade ok
          · exact guarded
      | rekeyKeygen ok =>
          simp only [Client.handle]
          split
          · rename_i running
            exact guarded.rekeyKeygenDone running ok
          · exact guarded
      | rekeyInitDerived outcome =>
          simp only [Client.handle]
          split
          · rename_i running
            exact guarded.rekeyInitDerived running (drawn careful (by simp [presented, running]))
              outcome
          · exact guarded
      | rekeyAckDerived ok =>
          simp only [Client.handle]
          split
          · rename_i running
            exact guarded.rekeyAckDerived running (drawn careful (by simp [presented, running])) ok
          · exact guarded
      | commitWrapped ok =>
          simp only [Client.handle]
          split
          · rename_i running
            exact guarded.commitWrapped running ok
          · exact guarded
      | reload => exact absurd rfl notReload
      | _ => cases keyed

end Guarded

/-! ## Pages that were not connected yet -/

namespace Offline

/-- No frame handler of a page waits before the page is connected. -/
theorem noWaiters (offline : Offline client) : client.waiters = [] := by
  simp only [waiters, offline.sending, Option.map_none, Option.toList_none, List.filter_nil,
    List.append_nil, List.append_eq_nil_iff, List.filter_eq_nil_iff, List.mem_filterMap,
    List.mem_map]
  constructor
  · rintro continuation ⟨job, member, cont⟩
    have isFile := offline.jobs job member
    cases job with
    | settle pending sent =>
        obtain rfl := Option.some.inj cont
        cases pending <;> simp_all [Job.IsFile, SendCont.waits]
    | _ => cases cont
  · rintro continuation ⟨task, member, rfl⟩
    obtain ⟨fileContinuation, contEq⟩ := offline.queue task member
    simp [contEq, SendCont.waits]

/-- Until it is connected a page leaves its keys alone. -/
theorem keyFrame
    (offline : Offline client)
    (armed : Armed client)
    {input : Input}
    (isEnabled : client.enabled input)
    (notClaim : ∀ granted, input.event ≠ .claimDecided granted)
    (notResume : ∀ outcome, input.event ≠ .resumeDecided outcome)
    (notReload : input.event ≠ .reload) :
    KeyFrame client (client.handle input.event) := by
  cases keyed : input.event.isKeyed with
  | false => exact handle_keyFrame armed isEnabled keyed
  | true =>
      obtain ⟨event, oracle⟩ := input
      cases event with
      | job =>
          simp only [Client.handle, Client.runJob]
          split
          · exact .refl client
          · rename_i job rest jobs
            have isFile := offline.jobs job (by simp [jobs])
            have popped : KeyFrame client { client with jobs := rest } :=
              { KeyFrame.refl client with }
            cases job with
            | outboundNext =>
                simp only [Client.runOutbound]
                split
                · exact { KeyFrame.refl client with }
                · rename_i task waiting _
                  have dequeued :
                      KeyFrame client { client with jobs := rest, outbound.queue := waiting } :=
                    { KeyFrame.refl client with }
                  have refused :
                      { client with
                        jobs := rest
                        outbound.queue := waiting }.runRelaySendTask task =
                        { client with
                          jobs := rest
                          outbound.queue := waiting }.settleSend task.continuation false := by
                    simp [Client.runRelaySendTask, offline.socket]
                  rw [refused]
                  exact dequeued.trans (.settleSend _ _ _)
            | inboundNext => exact isFile.elim
            | settle continuation sent =>
                cases continuation with
                | file continuation =>
                    refine popped.trans ?_
                    exact .runFiles { client with jobs := rest } fun files =>
                      files.resume client.fileEnv continuation sent
                | _ => exact isFile.elim
      | claimDecided granted => exact absurd rfl (notClaim granted)
      | resumeDecided outcome => exact absurd rfl (notResume outcome)
      | reload => exact absurd rfl notReload
      | _ =>
          simp [enabled, canOccur, socketIn, handlerAt, upgradeAt, offline.upgrades,
            offline.socket, offline.handler, Event.isKeyed] at isEnabled keyed

/-- A passkey that resumes nothing leaves the keys alone. -/
theorem resumeFrame
    {outcome : PasskeyResume}
    (still : Offline (client.resumeDecided outcome)) :
    KeyFrame client (client.resumeDecided outcome) := by
  have settled :
      KeyFrame client { client with vars.resumeAttempt := false, vars.returned := true } :=
    { KeyFrame.refl client with }
  have resumes :
      KeyFrame client (client.resumeDecided outcome) ∨
        (client.resumeDecided outcome).vars.internal ≠ .preActive := by
    unfold Client.resumeDecided
    split
    · exact .inl (.refl client)
    · simp only
      split
      · split
        · exact .inl settled
        · exact .inl (settled.trans (.setState _ .resumeLocked))
      · exact .inl (settled.trans (.terminate _ _))
      · exact .inl (settled.trans (.terminate _ _))
      · split
        · exact .inl (settled.trans (.terminate _ _))
        · split
          · exact .inl (settled.trans (.act _ rfl rfl))
          · exact .inr (by simp [resumeWith, openWith])
  exact resumes.resolve_right fun resumed => resumed still.internal

/-- While the page stays offline its record is what it rests on. -/
theorem rests
    {after : Client}
    {stored : Option StoredSession}
    (offline : Offline client)
    (rested : (client.ledger past).Rested stored)
    (frame : KeyFrame client after)
    (still : Offline after) : (after.ledger past).Rested stored := by
  have unanswered : (after.ledger past).answers = [] := by
    simp [ledger, still.noWaiters]
  refine rested.keeps ?_ (by simp [ledger, still.internal, InternalState.context?])
    still.handler unanswered
  refine frame.keeps (still.handler.trans offline.handler.symm) past ?_
  simp [still.noWaiters]

end Offline

/-- The page rests on the record it loaded, or it is connected and its ledger is sound. -/
structure Cautious (past : Past) (client : Client) : Prop where
  armed : Armed client
  phase :
    Offline client ∧ (client.ledger past).Rested client.vars.stored ∨
      Settled (fun _ => True) client ∧ InStep client ∧ Guarded past client

/-- A page that was just loaded, with a record that covers all that was done before. -/
structure Loaded (past : Past) (client : Client) : Prop where
  booted : Booted client
  once : (client.ledger past).Once
  covers : ∀ record ∈ client.store.storage, (client.ledger past).Covers record

/-- A page that loads encrypts and accepts nothing. -/
theorem quiet_of_booted
    (booted : Booted client) :
    client.out.filterMap Act.spends? = [] ∧ client.out.filterMap Act.hears? = [] := by
  obtain ⟨device, nextDraw, now, storage, normalizeNfc, rfl⟩ := booted
  cases storage with
  | none => exact ⟨rfl, rfl⟩
  | some record =>
      cases marked : record.rekeyInProgress <;> simp [boot, marked, Act.spends?, Act.hears?]

/-- A page that loads keeps its record unless it is marked. -/
theorem storage_boot
    (device nextDraw now : Nat)
    (storage : Option StoredSession)
    (normalizeNfc : Text → Text)
    {record : StoredSession}
    (isStored : record ∈ (boot device nextDraw now storage normalizeNfc).store.storage) :
    storage = some record ∧ record.rekeyInProgress = false := by
  cases storage with
  | none => simp [boot] at isStored
  | some other =>
      cases marked : other.rekeyInProgress with
      | true => simp [boot, marked] at isStored
      | false =>
          simp only [boot, marked, Bool.false_eq_true, ↓reduceIte, Option.mem_def,
            Option.some.injEq] at isStored
          exact ⟨congrArg some isStored, isStored ▸ marked⟩

/-- Only what was wrapped with the key unwraps with it. -/
theorem wrapped_of_unwrapSessionKey
    {wrapped : WrappedKey}
    {wrapKey : WrapKey}
    {extractable : Bool}
    {unwrapped : CryptoKey}
    (unwraps : unwrapSessionKey wrapped wrapKey extractable = some unwrapped) :
    wrapped = .wrapped unwrapped.material wrapKey := by
  unfold unwrapSessionKey at unwraps
  split at unwraps
  · split at unwraps
    · rename_i material sealKey isKey
      rw [← Option.some.inj unwraps, isKey]
    · cases unwraps
  · cases unwraps

namespace Cautious

/-- A loaded page rests on its record. -/
theorem of_loaded (loaded : Loaded past client) : Cautious past client := by
  obtain ⟨device, nextDraw, now, storage, normalizeNfc, rfl⟩ := loaded.booted
  refine ⟨fun running => absurd rfl running, .inl ⟨Offline.boot _ _ _ _ _, ?_⟩⟩
  exact
    { toOnce := loaded.once
      covers := loaded.covers
      unkeyed := rfl
      undisturbed := rfl
      unanswered := rfl
      live := fun _ =>
        ⟨rfl, fun record isStored => (storage_boot device nextDraw now _ normalizeNfc isStored).2,
          rfl, rfl, rfl⟩ }

/-- Nothing was done twice. -/
theorem once (cautious : Cautious past client) : (client.ledger past).Once := by
  rcases cautious.phase with ⟨-, rested⟩ | ⟨-, -, guarded⟩
  · exact rested.toOnce
  · exact Ledger.Sound.toOnce guarded

/-- The page is loaded anew with its own record. -/
theorem reloads
    (cautious : Cautious past client)
    (quiet : client.out = []) : Cautious past client.reload := by
  have booted : Booted client.reload := ⟨_, _, _, _, _, rfl⟩
  obtain ⟨spends, hears⟩ := quiet_of_booted booted
  have spent : (client.reload.ledger past).spent = (client.ledger past).spent := by
    simp [ledger, quiet, spends]
  have heard : (client.reload.ledger past).heard = (client.ledger past).heard := by
    simp [ledger, quiet, hears]
  have covered : ∀ record ∈ (client.ledger past).storage, (client.ledger past).Covers record := by
    rcases cautious.phase with ⟨-, rested⟩ | ⟨-, -, guarded⟩
    · exact rested.covers
    · exact Ledger.Sound.covers guarded
  refine of_loaded { booted := booted, once := ?_, covers := ?_ }
  · have once := cautious.once
    exact
      { nodup := by rw [spent]; exact once.nodup
        earlier := by rw [spent]; exact once.earlier
        ordered := by rw [heard]; exact once.ordered
        existing := by rw [heard]; exact once.existing }
  · intro record isStored unmarked key wrapKey wraps
    rw [spent, heard]
    have inStorage : record ∈ (client.ledger past).storage := (storage_boot _ _ _ _ _ isStored).1
    exact covered record inStorage unmarked key wrapKey wraps

/-- The claim of the room leaves the page at rest, or connects it without a record. -/
theorem claimDecided
    (armed : Armed client)
    (offline : Offline client)
    (rested : (client.ledger past).Rested client.vars.stored)
    {granted : Bool}
    {oracle : Oracle}
    (isEnabled : client.enabled { event := .claimDecided granted, oracle }) :
    Cautious past (client.claimDecided granted) := by
  have frame := KeyFrame.claimDecided client granted
  have requested : client.vars.claim = .requested := by
    simpa using (Bool.and_eq_true_iff.mp isEnabled).2
  refine ⟨Chain.handle_armed offline armed isEnabled (by simp), ?_⟩
  rcases offline.claimDecided requested granted with still | ⟨unstored, opens⟩
  · rw [frame.stored]
    exact .inl ⟨still, offline.rests rested frame still⟩
  · have connects : Offline.Connects client (client.claimDecided granted) := by
      rcases offline.handle isEnabled with still | connects
      · have unconnected := still.socket
        simp [Client.handle, opens, openWith] at unconnected
      · exact connects
    have settled :=
      (Chain.of_connects offline armed connects).phase.resolve_left fun still => by
        have unconnected := still.socket
        simp [opens, openWith] at unconnected
    have same : (client.claimDecided granted).ledger past = client.ledger past := by
      simp [opens, ledger, openWith, waiters, List.filterMap_cons, Act.spends?, Act.hears?]
    refine .inr ⟨settled, .idle (connects.inbound ▸ offline.handler), ?_⟩
    rw [unstored] at rested
    unfold Guarded
    rw [same]
    exact rested.connects

/-- The passkey leaves the page at rest, or resumes the stored session. -/
theorem resumeDecided
    (armed : Armed client)
    (offline : Offline client)
    (rested : (client.ledger past).Rested client.vars.stored)
    {outcome : PasskeyResume}
    {oracle : Oracle}
    (isEnabled : client.enabled { event := .resumeDecided outcome, oracle }) :
    Cautious past (client.resumeDecided outcome) := by
  have attempting : client.vars.resumeAttempt = true := by
    simpa using (Bool.and_eq_true_iff.mp isEnabled).2
  refine ⟨Chain.handle_armed offline armed isEnabled (by simp), ?_⟩
  rcases offline.resumeDecided attempting outcome with
    still | ⟨record, resumedKey, isStored, live, unwrapped, resumes⟩
  · have frame := Offline.resumeFrame still
    rw [frame.stored]
    exact .inl ⟨still, offline.rests rested frame still⟩
  · have connects : Offline.Connects client (client.resumeDecided outcome) := by
      rcases offline.handle isEnabled with still | connects
      · have unconnected := still.socket
        simp [Client.handle, resumes, resumeWith, openWith] at unconnected
      · exact connects
    have settled :=
      (Chain.of_connects offline armed connects).phase.resolve_left fun still => by
        have unconnected := still.socket
        simp [resumes, resumeWith, openWith] at unconnected
    have wraps : record.k = .wrapped resumedKey.material (deriveWrapKey record.cid) :=
      wrapped_of_unwrapSessionKey unwrapped
    rw [isStored] at rested
    have sound :=
      Ledger.Rested.resumes rested live wraps (decodeRole record.r)
    have same :
        (client.resumeDecided outcome).ledger past =
          { client.ledger past with
            mirrors := (client.ledger past).mirrors ++ [record]
            sealer :=
              some
                { role := decodeRole record.r
                  key := resumedKey.material
                  mirror := some (client.ledger past).mirrors.length
                  committed := record.s
                  reserved := record.s
                  received := record.n } } := by
      simp [resumes, resumeWith, ledger, openWith, waiters, List.filterMap_cons, Act.spends?,
        Act.hears?, mirrorStoredSession, InternalState.context?, ActiveContext.sealer, Client.act]
    refine .inr ⟨settled, .idle (connects.inbound ▸ offline.handler), ?_⟩
    unfold Guarded
    rw [same]
    exact sound

/-- Every event keeps the page cautious. -/
theorem handle
    (cautious : Cautious past client)
    (quiet : client.out = [])
    {input : Input}
    (isEnabled : client.enabled input)
    (careful : careful past.listens client input) : Cautious past (client.handle input.event) := by
  by_cases reloading : input.event = .reload
  · rw [reloading]
    exact cautious.reloads quiet
  · rcases cautious.phase with ⟨offline, rested⟩ | ⟨settled, inStep, guarded⟩
    · obtain ⟨event, oracle⟩ := input
      by_cases claiming : ∃ granted, event = .claimDecided granted
      · obtain ⟨granted, rfl⟩ := claiming
        exact claimDecided cautious.armed offline rested isEnabled
      · by_cases resuming : ∃ outcome, event = .resumeDecided outcome
        · obtain ⟨outcome, rfl⟩ := resuming
          exact resumeDecided cautious.armed offline rested isEnabled
        · have notClaim : ∀ granted, event ≠ .claimDecided granted :=
            fun granted isEvent => claiming ⟨granted, isEvent⟩
          have notResume : ∀ outcome, event ≠ .resumeDecided outcome :=
            fun outcome isEvent => resuming ⟨outcome, isEvent⟩
          have frame := offline.keyFrame cautious.armed isEnabled notClaim notResume reloading
          have still := offline.stays isEnabled notClaim notResume
          refine ⟨Chain.handle_armed offline cautious.armed isEnabled reloading, .inl ⟨still, ?_⟩⟩
          rw [frame.stored]
          exact offline.rests rested frame still
    · have after := settled.handle isEnabled reloading fun _ _ => trivial
      exact
        ⟨after.armed,
          .inr
            ⟨after, inStep.handle settled isEnabled reloading,
              guarded.handle settled inStep isEnabled careful reloading⟩⟩

/-- What the page did becomes part of the past. -/
theorem forget
    (cautious : Cautious past client) :
    Cautious (past.record client) { client with out := [] } := by
  have same :
      ({ client with out := [] } : Client).ledger (past.record client) = client.ledger past := by
    cases listens : past.listens <;> simp [ledger, waiters, Past.record, listens]
  exact
    { armed := cautious.armed
      phase := by
        unfold Guarded
        rw [same]
        exact cautious.phase.imp
          (And.imp_left fun offline => { offline with })
          (And.imp (fun settled => { settled with }) (And.imp_left id)) }

/-- A step keeps the page cautious. -/
theorem step
    (cautious : Cautious past { client with out := [] })
    {input : Input}
    (isEnabled : client.enabled input)
    (careful : careful past.listens client input) :
    Cautious (past.record (client.step input)) { client.step input with out := [] } := by
  have started : Cautious past { client with out := [], page.oracle := input.oracle } :=
    { armed := cautious.armed
      phase := cautious.phase.imp
        (And.imp_left fun offline => { offline with })
        (And.imp_left fun settled => { settled with }) }
  have stepped : Cautious past (client.step input) := started.handle rfl isEnabled careful
  exact stepped.forget

end Cautious

/-! ## Whole runs -/

/-- The client together with all that it encrypted and accepted. -/
def recordingMachine : EventMachine.Machine (Client × Past) Input :=
  machine.remember fun past client input => past.record (client.step input)

/-- A page that was loaded with a record that covers its past is the start of a run. -/
def LoadedWith (listens : Bool) (first : Client × Past) : Prop :=
  first.2.listens = listens ∧ Loaded first.2 first.1

theorem loadedWith_freshPage (listens : Bool) : LoadedWith listens (freshPage, .nothing listens) where
  left := rfl
  right :=
    { booted := ⟨0, 0, 0, none, id, rfl⟩
      once := by
        cases listens <;> constructor <;>
          simp [ledger, freshPage, boot, Past.nothing, List.filterMap_cons, Act.spends?, Act.hears?]
      covers := by simp [freshPage, boot] }

/-- In every careful run nothing is done twice. -/
theorem once_of_reachable
    {listens : Bool}
    {remembered : Client × Past}
    (reachable :
      recordingMachine.Reachable (LoadedWith listens)
        (fun state => careful listens state.1) remembered) :
    remembered.2.listens = listens ∧
      Cautious remembered.2 { remembered.1 with out := [] } := by
  induction reachable with
  | start loaded =>
      obtain ⟨spends, hears⟩ := quiet_of_booted loaded.2.booted
      have cautious := (Cautious.of_loaded loaded.2).forget
      simp only [Past.record, spends, hears, List.append_nil, ite_self] at cautious
      exact ⟨loaded.1, cautious⟩
  | next _ isEnabled careful inductionHypothesis =>
      obtain ⟨rfl, cautious⟩ := inductionHypothesis
      exact ⟨rfl, cautious.step isEnabled careful⟩

/--
No run encrypts twice under one key and nonce, however often the page is reloaded
and its session resumed.
-/
theorem nonces_unique
    {remembered : Client × Past}
    (reachable :
      recordingMachine.Reachable (LoadedWith false)
        (fun state => careful false state.1) remembered) :
    remembered.2.spent.Nodup := by
  have nodup := (once_of_reachable reachable).2.once.nodup
  simpa [ledger] using nodup

/-- A session that is upgraded, sends a message, and is resumed by a reloaded page. -/
def resumedRun : Client × Past :=
  recordingMachine.run (freshPage, .nothing false)
    (establish peerPublicKey ++ upgradeAlone 5 ++
      [plain (.send [97] []), plain .job, plain (.sendSettled .sent), plain .job] ++
        reloadAndProbe)

theorem nonces_unique_resumed : resumedRun.2.spent.length = 3 ∧ resumedRun.2.spent.Nodup :=
  ⟨by decide +kernel,
    nonces_unique
      (EventMachine.Machine.Reachable.run (.start (loadedWith_freshPage false))
        (EventMachine.Machine.legal_remember.mpr (by decide +kernel)))⟩

/--
No text of the peer is accepted twice: under one key the texts that are accepted
have rising counters, whatever is replayed and however often the page is reloaded.
-/
theorem texts_accepted_once
    {remembered : Client × Past}
    (reachable :
      recordingMachine.Reachable (LoadedWith true)
        (fun state => careful true state.1) remembered) :
    remembered.2.heard.Pairwise fun former latter =>
      former.1 = latter.1 → former.2 < latter.2 := by
  have ordered := (once_of_reachable reachable).2.once.ordered
  simpa [ledger] using ordered

/-- A frame of the peer that carries a text. -/
def textFrame (counter : Nat) (body : Text) : Option RelayFrame :=
  encryptRelayFrame .joiner establishedKey .msg counter (.envelope (.msg body []))

/-- The peer sends two texts, and the first is replayed to the page that resumes the session. -/
def replayedRun : Client × Past :=
  recordingMachine.run (freshPage, .nothing true)
    (establish peerPublicKey ++
      [ plain (.socketFrame (.relay ((textFrame 1 [97]).get (by decide +kernel)))),
        plain .job,
        plain .decrypted ] ++
      upgradeAlone 5 ++
      [ plain (.socketFrame (.relay ((textFrame 2 [98]).get (by decide +kernel)))),
        plain .job,
        plain .decrypted ] ++
      reloadAndProbe ++
      [ plain (.socketFrame (.relay ((textFrame 1 [97]).get (by decide +kernel)))),
        plain .job,
        plain .decrypted ])

theorem texts_accepted_once_replayed :
    replayedRun.2.heard = [(establishedKey, 1), (establishedKey, 2)] ∧
      replayedRun.2.heard.Pairwise fun former latter =>
        former.1 = latter.1 → former.2 < latter.2 :=
  ⟨by decide +kernel,
    texts_accepted_once
      (EventMachine.Machine.Reachable.run (.start (loadedWith_freshPage true))
        (EventMachine.Machine.legal_remember.mpr (by decide +kernel)))⟩

end Client

end Unseen
