import Unseen.SendingWorker

namespace Unseen

/-!
# Outgoing transfers and what they leave behind

A transfer that has ended leaves continuations, timers and workers behind: a
chunk whose send has not settled, the poll of a send loop, a worker that starts
or still produces chunks.  They should find that their transfer has ended and
leave a later one alone, and a transfer should tell at most one event.

Nearly all of them compare the transfer or the active worker first.  A chunk
send that is refused does not: it ends whatever transfer is active.  So does a
worker that refuses to be asked for more after a chunk was sent.
-/

/-- The event that an effect tells. -/
def FileEffect.event? : FileEffect → Option SystemEventKind
  | .appendSystemEvent event => some event
  | _ => none

/-- The outgoing transfer that a timer was armed for. -/
def FileTimerKind.outgoing? : FileTimerKind → Option Text
  | .offered tid | .verifying tid _ _ | .sendLoopPoll _ tid => some tid
  | .offerPending _ | .receiveStall _ => none

/-- The outgoing transfer that a continuation belongs to. -/
def FileCont.outgoing? : FileCont → Option Text
  | .offerSent tid | .chunkSent _ tid _ => some tid
  | .discard | .acceptSent _ _ => none

namespace Files

variable {known : Serial → Text → Prop} {files middle after : Files} {tid : Text}

/-- The events told in a segment. -/
def told (files : Files) : List SystemEventKind :=
  files.effects.filterMap FileEffect.event?

theorem told_emit (effect : FileEffect) :
    (files.emit effect).told = files.told ++ effect.event?.toList := by
  simp only [told, emit, List.filterMap_append]
  cases effect <;> rfl

theorem told_finishWithEvent (event : SystemEventKind) (worker : Option Serial) :
    (files.finishWithEvent event worker).told = files.told ++ [event] := by
  unfold finishWithEvent
  dsimp only
  split
  · rw [told_emit]
    change (files.emit (.postToSendWorker _ .abort)).told ++ [event] = _
    rw [told_emit]
    exact congrArg (· ++ [event]) (List.append_nil _)
  · exact told_emit _

theorem nextSerial_finishWithEvent (event : SystemEventKind) (worker : Option Serial) :
    (files.finishWithEvent event worker).nextSerial = files.nextSerial := by
  unfold finishWithEvent
  dsimp only
  split <;> rfl

theorem currentActiveTid_eq_none :
    files.currentActiveTid = none ↔ files.transferActive = none := by
  unfold currentActiveTid
  exact Option.map_eq_none_iff

theorem currentActiveTid_of_isStillSendingFor
    (isSending : files.isStillSendingFor tid = true) :
    files.currentActiveTid = some tid := by
  unfold isStillSendingFor at isSending
  split at isSending
  next current _ _ _ _ isActive =>
    rw [currentActiveTid, isActive]
    exact congrArg some (beq_iff_eq.mp isSending)
  next => cases isSending

theorem ne_tid_of_over
    {current : TransferState}
    (past : files.currentActiveTid ≠ some tid)
    (isActive : files.transferActive = some current) : tid ≠ current.tid := by
  rintro rfl
  rw [currentActiveTid, isActive] at past
  exact past rfl

/-- A worker is active only while there is a transfer. -/
def Busy (files : Files) : Prop :=
  ∀ worker, files.sender.activeWorker = some worker → files.currentActiveTid ≠ none

/-! ## What the sender does to the transfer -/

/-- The transfer goes on, only its own workers become active, and nothing is told. -/
structure KeepsOn (known : Serial → Text → Prop) (before after : Files) : Prop where
  current : after.currentActiveTid = before.currentActiveTid
  active : ∀ worker, after.sender.activeWorker = some worker →
    before.sender.activeWorker = some worker ∨
      ∃ tid, after.currentActiveTid = some tid ∧ known worker tid
  inits : ∀ init ∈ after.sender.inits, init ∈ before.sender.inits ∨ known init.worker init.tid
  told : after.told = before.told

/-- The transfer ends, no worker is active, and at most one event is told. -/
structure EndsOnce (known : Serial → Text → Prop) (before after : Files) : Prop where
  current : before.currentActiveTid ≠ none
  ended : after.currentActiveTid = none
  active : after.sender.activeWorker = none
  inits : ∀ init ∈ after.sender.inits, init ∈ before.sender.inits ∨ known init.worker init.tid
  told : ∃ events : List SystemEventKind,
    events.length ≤ 1 ∧ after.told = before.told ++ events

/-- What a segment of the sender does to the transfer, when `known` tells which workers are
started for which transfers. -/
def SenderAct (known : Serial → Text → Prop) (before after : Files) : Prop :=
  KeepsOn known before after ∨ EndsOnce known before after

namespace SenderAct

/-- Nothing the transfer is made of changes. -/
theorem same
    (current : after.currentActiveTid = files.currentActiveTid)
    (active : after.sender.activeWorker = files.sender.activeWorker)
    (inits : after.sender.inits = files.sender.inits)
    (told : after.told = files.told) :
    SenderAct known files after :=
  .inl
    { current
      active := fun _ isActive => .inl (active ▸ isActive)
      inits := fun _ isInit => .inl (inits ▸ isInit)
      told }

theorem refl : SenderAct known files files :=
  same rfl rfl rfl rfl

theorem trans
    (first : SenderAct known files middle)
    (second : SenderAct known middle after) :
    SenderAct known files after := by
  have inits
      (early : ∀ init ∈ middle.sender.inits,
        init ∈ files.sender.inits ∨ known init.worker init.tid)
      (late : ∀ init ∈ after.sender.inits,
        init ∈ middle.sender.inits ∨ known init.worker init.tid) :
      ∀ init ∈ after.sender.inits, init ∈ files.sender.inits ∨ known init.worker init.tid :=
    fun init isInit => (late init isInit).elim (early init) .inr
  rcases first with early | early
  · rcases second with late | late
    · refine .inl ⟨late.current.trans early.current, ?_, inits early.inits late.inits,
        late.told.trans early.told⟩
      intro worker isActive
      rcases late.active worker isActive with isEarlier | isKnown
      · rw [late.current]
        exact early.active worker isEarlier
      · exact .inr isKnown
    · refine .inr ⟨early.current ▸ late.current, late.ended, late.active,
        inits early.inits late.inits, ?_⟩
      rw [← early.told]
      exact late.told
  · rcases second with late | late
    · have ended := late.current.trans early.ended
      refine .inr ⟨early.current, ended, ?_, inits early.inits late.inits, ?_⟩
      · -- A worker becomes active only for a transfer, and there is none any more.
        rw [Option.eq_none_iff_forall_ne_some]
        intro worker isActive
        rcases late.active worker isActive with isEarlier | ⟨tid, isCurrent, _⟩
        · rw [early.active] at isEarlier
          cases isEarlier
        · rw [ended] at isCurrent
          cases isCurrent
      · rw [late.told]
        exact early.told
    · exact absurd early.ended late.current

theorem busy (act : SenderAct known files after) (busy : files.Busy) : after.Busy := by
  intro worker isActive
  rcases act with carries | ends
  · rcases carries.active worker isActive with isEarlier | ⟨tid, isCurrent, _⟩
    · rw [carries.current]
      exact busy worker isEarlier
    · rw [isCurrent]
      exact Option.some_ne_none tid
  · rw [ends.active] at isActive
    cases isActive

/-- The transfer ends without an event. -/
theorem reset : SenderAct known files { files with transferActive := none }.resetLocal := by
  cases isCurrent : files.currentActiveTid with
  | none =>
      refine .inl ⟨isCurrent.symm, ?_, fun init isInit => .inl isInit, rfl⟩
      intro worker isActive
      cases isActive
  | some tid =>
      refine .inr ⟨?_, rfl, rfl, fun init isInit => .inl isInit, [], Nat.zero_le _,
        (List.append_nil _).symm⟩
      rw [isCurrent]
      exact Option.some_ne_none tid

theorem emit {effect : FileEffect} (tellsNothing : effect.event? = none) :
    SenderAct known files (files.emit effect) := by
  refine same rfl rfl rfl ?_
  rw [told_emit, tellsNothing]
  exact List.append_nil _

theorem arm (due : Nat) (kind : FileTimerKind) : SenderAct known files (files.arm due kind) :=
  same rfl rfl rfl rfl

theorem finishWithEvent
    (event : SystemEventKind)
    (worker : Option Serial)
    (isActive : files.currentActiveTid ≠ none) :
    SenderAct known files (files.finishWithEvent event worker) := by
  refine .inr ⟨isActive, ?_, ?_, ?_, [event], Nat.le_refl _, told_finishWithEvent event worker⟩
  · rw [currentActiveTid_eq_none]
    exact (SenderMoves.finishWithEvent_inits event worker).1
  · unfold Files.finishWithEvent
    dsimp only
    split <;> rfl
  · rw [(SenderMoves.finishWithEvent_inits event worker).2]
    exact fun init isInit => .inl isInit

/-- The transfer is cancelled and the peer is told. -/
theorem cancelled
    (cancelledTid : Text)
    (reason : FileCancelReason)
    (event : SystemEventKind)
    (worker : Option Serial)
    (isActive : files.currentActiveTid ≠ none) :
    SenderAct known files
      ((files.sendCancelAsSender cancelledTid reason).finishWithEvent event worker) :=
  (emit rfl).trans (finishWithEvent event worker isActive)

theorem handleWorkerFatal (worker : Serial) :
    SenderAct known files (files.handleWorkerFatal worker) := by
  unfold Files.handleWorkerFatal
  split
  · exact refl
  next current isActive =>
    split
    · exact refl
    · refine cancelled _ _ _ _ ?_
      rw [currentActiveTid, isActive]
      exact Option.some_ne_none _

theorem advanceSentBytes (dataLength : Nat) :
    SenderAct known files (files.advanceSentBytes tid dataLength) := by
  unfold Files.advanceSentBytes
  split
  next isActive =>
    split
    · refine same ?_ rfl rfl rfl
      rw [currentActiveTid, currentActiveTid, isActive]
      rfl
    · exact refl
  · exact refl

theorem endSendLoop : SenderAct known files files.endSendLoop :=
  same rfl rfl rfl rfl

theorem sleepInSendLoop (env : FileEnv) (worker : Serial) :
    SenderAct known files (files.sleepInSendLoop env worker tid) :=
  arm _ _

/-- The worker is no longer active once its last chunk was sent. -/
theorem finalizeSendAfterDrain (env : FileEnv) (worker : Serial) (sha256Hex : Text) :
    SenderAct known files (files.finalizeSendAfterDrain env worker tid sha256Hex) := by
  unfold Files.finalizeSendAfterDrain
  split
  next current name size _ _ isActive =>
    split
    next isCurrent =>
      subst isCurrent
      refine .inl ⟨?_, ?_, fun init isInit => .inl isInit, ?_⟩
      · rw [currentActiveTid, currentActiveTid, isActive]
        rfl
      · intro other isActive
        cases isActive
      · change ((files.emit _).emit _).told = _
        rw [told_emit, told_emit]
        exact (List.append_nil _).trans (List.append_nil _)
    next => exact refl
  next => exact refl

theorem sendLoopTurn (env : FileEnv) (worker : Serial) :
    SenderAct known files (files.sendLoopTurn env worker tid) := by
  unfold Files.sendLoopTurn
  split
  · exact endSendLoop
  next isSending =>
    have isActive : files.currentActiveTid ≠ none := by
      rw [currentActiveTid_of_isStillSendingFor (by simpa using isSending)]
      exact Option.some_ne_none tid
    split
    · split
      · exact sleepInSendLoop env worker
      · split
        · next rest _ =>
            have taken : SenderAct known files
                { files with sender := { files.sender with pendingSendQueue := rest } } :=
              same rfl rfl rfl rfl
            exact taken.trans (emit rfl)
        · split
          · exact (finalizeSendAfterDrain env worker _).trans endSendLoop
          · exact sleepInSendLoop env worker
    · exact (cancelled _ _ _ _ isActive).trans endSendLoop

/-- A chunk that was sent, or refused while its transfer is being sent. -/
theorem chunkSent
    (env : FileEnv)
    (worker : Serial)
    (dataLength : Nat)
    (sent : Bool)
    (settles : files.isStillSendingFor tid = true ∨
      (sent = true ∧ (files.sender.workerFinalReceived = true ∨ env.postOk = true))) :
    SenderAct known files (files.chunkSent env worker tid dataLength sent) := by
  have isActive (isSending : files.isStillSendingFor tid = true) :
      files.currentActiveTid ≠ none := by
    rw [currentActiveTid_of_isStillSendingFor isSending]
    exact Option.some_ne_none tid
  unfold Files.chunkSent
  split
  next isRefused =>
    rcases settles with isSending | ⟨isSent, _⟩
    · exact (finishWithEvent _ _ (isActive isSending)).trans endSendLoop
    · rw [isSent] at isRefused
      cases isRefused
  next =>
    split
    next => exact (advanceSentBytes _).trans (sendLoopTurn env worker)
    next notFinal =>
      split
      next => exact ((emit rfl).trans (advanceSentBytes _)).trans (sendLoopTurn env worker)
      next notPosted =>
        rcases settles with isSending | ⟨_, isFinal | isPosted⟩
        · exact (cancelled _ _ _ _ (isActive isSending)).trans endSendLoop
        · exact absurd isFinal notFinal
        · exact absurd isPosted notPosted

theorem handleSendWorkerMessage (message : SendWorkerOut) (worker : Serial) :
    SenderAct known files (files.handleSendWorkerMessage message worker) := by
  unfold Files.handleSendWorkerMessage
  split
  · exact refl
  · cases message with
    | plaintextChunk => exact same rfl rfl rfl rfl
    | final sha256Hex =>
        change SenderAct known files (files.onWorkerFinal sha256Hex worker)
        unfold onWorkerFinal
        split
        · split
          · exact same rfl rfl rfl rfl
          · exact refl
        · exact refl
    | fatal => exact handleWorkerFatal worker
    | ready | closed => exact refl

/-- An accepted offer gets a worker of its own, or ends. -/
theorem initialiseWorker
    (env : FileEnv)
    (name : Text)
    (size : Nat)
    (isCurrent : files.currentActiveTid = some tid)
    (isKnown : env.spawnOk = true → known files.nextSerial tid) :
    SenderAct known files (files.initialiseWorker env tid name size) := by
  have isActive : files.currentActiveTid ≠ none := by
    rw [isCurrent]
    exact Option.some_ne_none tid
  unfold Files.initialiseWorker
  split
  · exact finishWithEvent _ _ isActive
  next isSpawned =>
    have ofNew := isKnown (by simpa using isSpawned)
    have spawned : SenderAct known files
        { files with
          nextSerial := files.nextSerial + 1
          sender := { files.sender with activeWorker := some files.nextSerial } } := by
      refine .inl ⟨rfl, ?_, fun init isInit => .inl isInit, rfl⟩
      intro worker isWorker
      obtain rfl := Option.some.inj isWorker
      exact .inr ⟨tid, isCurrent, ofNew⟩
    have awaited : ∀ {files : Files} {worker : Serial}, known worker tid →
        SenderAct known files
          { files with
            sender :=
              { files.sender with
                inits := files.sender.inits ++ [SenderInit.mk worker tid name size] } } := by
      intro files worker isKnown
      refine .inl ⟨rfl, fun _ isWorker => .inl isWorker, ?_, rfl⟩
      intro init isInit
      rcases List.mem_append.mp isInit with isEarlier | isNew
      · exact .inl isEarlier
      · rw [List.mem_singleton.mp isNew]
        exact .inr isKnown
    dsimp only
    split
    · exact spawned.trans (finishWithEvent _ _ isActive)
    · exact (spawned.trans (awaited ofNew)).trans (emit rfl)

/-- A start-up that is settled. -/
theorem settleSenderInit
    (env : FileEnv)
    (worker : Serial)
    (ready : Bool)
    (busy : files.Busy) :
    SenderAct known files (files.settleSenderInit env worker ready) := by
  unfold Files.settleSenderInit
  split
  · exact refl
  next init isFound =>
    have settled : SenderAct known files
        { files with
          sender :=
            { files.sender with
              inits := files.sender.inits.filter (fun other => other.worker != worker) } } :=
      .inl ⟨rfl, fun _ isActive => .inl isActive,
        fun init isInit => .inl (List.mem_filter.mp isInit).1, rfl⟩
    refine settled.trans ?_
    unfold Files.senderWorkerReady
    split
    · split
      next isActive => exact cancelled _ _ _ _ (busy init.worker isActive)
      next => exact refl
    · split
      next current name size file isOffered =>
        split
        next isCurrent =>
          subst isCurrent
          dsimp only
          have starts : SenderAct known
              { files with
                sender :=
                  { files.sender with
                    inits := files.sender.inits.filter (fun other => other.worker != worker) } }
              { files with
                transferActive :=
                  some (.sending init.tid init.name init.size 0 init.worker)
                sender :=
                  { files.sender with
                    inits :=
                      files.sender.inits.filter (fun other => other.worker != worker) } } := by
            refine same ?_ rfl rfl rfl
            rw [currentActiveTid, currentActiveTid, isOffered]
            rfl
          split
          · exact starts
          · have looping : ∀ {files : Files}, SenderAct known files
                { files with sender := { files.sender with sendLoopRunning := true } } :=
              same rfl rfl rfl rfl
            exact (starts.trans looping).trans (sendLoopTurn env _)
        next => exact emit rfl
      next => exact emit rfl

theorem offerSent (sent : Bool) : SenderAct known files (files.offerSent tid sent) := by
  unfold Files.offerSent
  split
  · exact reset
  · exact refl

theorem offeredTimeout : SenderAct known files (files.offeredTimeout tid) := by
  unfold Files.offeredTimeout
  split
  next isActive =>
    split
    · refine .inr ⟨?_, rfl, rfl, fun init isInit => .inl isInit, [.fileTransferCancelled],
        Nat.le_refl _, ?_⟩
      · rw [currentActiveTid, isActive]
        exact Option.some_ne_none _
      · rw [told_emit]
        change (files.emit _).told ++ _ = _
        rw [told_emit]
        exact congrArg (· ++ _) (List.append_nil _)
    · exact refl
  · exact refl

theorem finalizeVerifyingAsSuccess (name : Text) (size : Nat) :
    SenderAct known files (files.finalizeVerifyingAsSuccess tid name size) := by
  unfold Files.finalizeVerifyingAsSuccess
  split
  · split
    · dsimp only
      have attached : ∀ {files : Files} (record : AttachmentRecord),
          SenderAct known files (files.setAttachment tid record) :=
        fun _ => same rfl rfl rfl rfl
      split
      · exact reset.trans (attached _)
      · exact reset
    · exact refl
  · exact refl

theorem terminateActiveWorker : SenderAct known files files.terminateActiveWorker := by
  unfold Files.terminateActiveWorker
  split
  · exact emit rfl
  · exact refl

theorem cancelActiveAsSender (reason : FileCancelReason) :
    SenderAct known files (files.cancelActiveAsSender reason) := by
  unfold Files.cancelActiveAsSender
  split
  · exact refl
  next isActive =>
    refine cancelled _ _ _ _ ?_
    rw [currentActiveTid, isActive]
    exact Option.some_ne_none _

theorem senderPageHide (env : FileEnv) : SenderAct known files (files.senderPageHide env) := by
  unfold Files.senderPageHide
  split
  · exact refl
  · dsimp only
    split
    · exact ((emit rfl).trans terminateActiveWorker).trans reset
    · exact terminateActiveWorker.trans reset

theorem told_terminateActiveWorker : files.terminateActiveWorker.told = files.told := by
  unfold Files.terminateActiveWorker
  split
  · rw [told_emit]
    exact List.append_nil _
  · rfl

theorem senderOnWsClose : SenderAct known files files.senderOnWsClose := by
  have ends (isActive : files.transferActive ≠ none) :
      SenderAct known files
        (({ files.terminateActiveWorker with transferActive := none }.resetLocal).emit
          (.appendSystemEvent .fileTransferFailed)) := by
    refine .inr ⟨?_, rfl, rfl, ?_, [.fileTransferFailed], Nat.le_refl _, ?_⟩
    · rw [ne_eq, currentActiveTid_eq_none]
      exact isActive
    · intro init isInit
      left
      change init ∈ files.terminateActiveWorker.sender.inits at isInit
      unfold Files.terminateActiveWorker at isInit
      split at isInit <;> exact isInit
    · rw [told_emit]
      exact congrArg (· ++ _) told_terminateActiveWorker
  unfold Files.senderOnWsClose
  split
  · exact refl
  · exact refl
  next isActive => exact ends (isActive ▸ Option.some_ne_none _)

theorem senderShutdown : SenderAct known files files.senderShutdown := by
  have stopped : SenderAct known files
      { files.terminateActiveWorker with transferActive := none }.resetLocal :=
    terminateActiveWorker.trans reset
  exact stopped.trans (same rfl rfl rfl rfl)

/-- An envelope of the peer that accepts nothing. -/
theorem dispatchFromReceiver
    (env : FileEnv)
    (envelope : PlaintextEnvelope)
    (notAccept : ∀ tid, envelope ≠ .fileAccept tid) :
    SenderAct known files (files.dispatchFromReceiver env envelope) := by
  unfold Files.dispatchFromReceiver
  split
  · exact refl
  next current isCurrent =>
    have isActive : files.currentActiveTid ≠ none := by
      rw [currentActiveTid, isCurrent]
      exact Option.some_ne_none _
    split
    · exact absurd rfl (notAccept _)
    · split
      · exact finishWithEvent _ _ isActive
      · exact refl
    · split
      · split
        · exact finalizeVerifyingAsSuccess _ _
        · exact refl
      · exact refl
    · split
      · exact finishWithEvent _ _ isActive
      · exact refl
    · exact refl

end SenderAct

/-! ## What an ended transfer leaves behind -/

/-- Nothing of the transfer that is sent now is touched, and none of its chunks is sent. -/
structure Spares (before after : Files) : Prop where
  transferActive : after.transferActive = before.transferActive
  pendingSendQueue : after.sender.pendingSendQueue = before.sender.pendingSendQueue
  activeWorker : after.sender.activeWorker = before.sender.activeWorker
  workerFinalReceived : after.sender.workerFinalReceived = before.sender.workerFinalReceived
  pendingSha256Hex : after.sender.pendingSha256Hex = before.sender.pendingSha256Hex
  told : after.told = before.told
  chunks : ∀ plaintext continuation,
    FileEffect.sendChunk plaintext continuation ∈ after.effects →
      FileEffect.sendChunk plaintext continuation ∈ before.effects

namespace Spares

theorem refl : Spares files files :=
  ⟨rfl, rfl, rfl, rfl, rfl, rfl, fun _ _ isChunk => isChunk⟩

theorem trans (first : Spares files middle) (second : Spares middle after) :
    Spares files after where
  transferActive := second.transferActive.trans first.transferActive
  pendingSendQueue := second.pendingSendQueue.trans first.pendingSendQueue
  activeWorker := second.activeWorker.trans first.activeWorker
  workerFinalReceived := second.workerFinalReceived.trans first.workerFinalReceived
  pendingSha256Hex := second.pendingSha256Hex.trans first.pendingSha256Hex
  told := second.told.trans first.told
  chunks plaintext continuation isChunk :=
    first.chunks plaintext continuation (second.chunks plaintext continuation isChunk)

theorem endSendLoop : Spares files files.endSendLoop :=
  { refl with }

theorem post (worker : Serial) (message : SendWorkerIn) :
    Spares files (files.emit (.postToSendWorker worker message)) :=
  { refl with
    told := by
      rw [told_emit]
      exact List.append_nil _
    chunks := by
      intro plaintext continuation isChunk
      rcases List.mem_append.mp isChunk with isEarlier | isNew
      · exact isEarlier
      · cases List.mem_singleton.mp isNew }

theorem isStillSendingFor (past : files.currentActiveTid ≠ some tid) :
    files.isStillSendingFor tid = false :=
  Bool.eq_false_iff.mpr fun isSending =>
    past (currentActiveTid_of_isStillSendingFor isSending)

theorem sendLoopTurn
    (past : files.currentActiveTid ≠ some tid)
    (env : FileEnv)
    (worker : Serial) : Spares files (files.sendLoopTurn env worker tid) := by
  unfold Files.sendLoopTurn
  rw [isStillSendingFor past]
  exact endSendLoop

theorem advanceSentBytes (past : files.currentActiveTid ≠ some tid) (dataLength : Nat) :
    files.advanceSentBytes tid dataLength = files := by
  unfold Files.advanceSentBytes
  split
  next current _ _ _ _ isActive =>
    split
    next isCurrent =>
      rw [currentActiveTid, isActive, ← isCurrent] at past
      exact absurd rfl past
    next => rfl
  next => rfl

/-- A chunk of an ended transfer that was sent; its worker is asked for more in vain. -/
theorem chunkSent
    (past : files.currentActiveTid ≠ some tid)
    (env : FileEnv)
    (worker : Serial)
    (dataLength : Nat)
    (sent : Bool)
    (settles : files.isStillSendingFor tid = true ∨
      (sent = true ∧ (files.sender.workerFinalReceived = true ∨ env.postOk = true))) :
    Spares files (files.chunkSent env worker tid dataLength sent) := by
  rcases settles with isSending | ⟨rfl, settles⟩
  · exact absurd (currentActiveTid_of_isStillSendingFor isSending) past
  · unfold Files.chunkSent
    rw [if_neg (by simp)]
    split
    next =>
      rw [advanceSentBytes past]
      exact sendLoopTurn past env worker
    next notFinal =>
      have isPosted := settles.resolve_left notFinal
      have stillOver : (files.emit (.postToSendWorker worker .pull)).currentActiveTid ≠
          some tid := past
      rw [if_pos isPosted, advanceSentBytes stillOver]
      exact (post worker .pull).trans (sendLoopTurn stillOver env worker)

theorem offerSent (past : files.currentActiveTid ≠ some tid) (sent : Bool) :
    files.offerSent tid sent = files := by
  unfold Files.offerSent
  exact if_neg fun isCurrent => past isCurrent.2

theorem fireTimer
    {kind : FileTimerKind}
    (isOutgoing : kind.outgoing? = some tid)
    (past : files.currentActiveTid ≠ some tid)
    (env : FileEnv) : Spares files (files.fireTimer env kind) := by
  cases kind with
  | offered armed =>
      obtain rfl := Option.some.inj isOutgoing
      change Spares files (files.offeredTimeout armed)
      unfold offeredTimeout
      split
      next isActive =>
        split
        next isCurrent =>
          rw [currentActiveTid, isActive, ← isCurrent] at past
          exact absurd rfl past
        next => exact refl
      next => exact refl
  | verifying armed name size =>
      obtain rfl := Option.some.inj isOutgoing
      change Spares files (files.finalizeVerifyingAsSuccess armed name size)
      unfold finalizeVerifyingAsSuccess
      split
      next isActive =>
        split
        next isCurrent =>
          rw [currentActiveTid, isActive, ← isCurrent] at past
          exact absurd rfl past
        next => exact refl
      next => exact refl
  | sendLoopPoll worker armed =>
      obtain rfl := Option.some.inj isOutgoing
      exact sendLoopTurn past env worker
  | offerPending armed => cases isOutgoing
  | receiveStall armed => cases isOutgoing

/-- The start-up of a worker whose transfer has ended. -/
theorem settleSenderInit
    {worker : Serial}
    (notActive : files.sender.activeWorker ≠ some worker)
    (past : ∀ init ∈ files.sender.inits, init.worker = worker →
      files.currentActiveTid ≠ some init.tid)
    (env : FileEnv)
    (ready : Bool) : Spares files (files.settleSenderInit env worker ready) := by
  unfold Files.settleSenderInit
  split
  · exact refl
  next init isFound =>
    have isWorker : init.worker = worker := by
      have found := List.find?_some isFound
      exact beq_iff_eq.mp found
    have isOver := past init (List.mem_of_find?_eq_some isFound) isWorker
    have dropped : Spares files
        { files with
          sender :=
            { files.sender with
              inits := files.sender.inits.filter (fun other => other.worker != worker) } } :=
      { refl with }
    unfold Files.senderWorkerReady
    split
    · rw [if_neg (by rw [isWorker]; exact notActive)]
      exact dropped
    · split
      next current _ _ _ isActive =>
        split
        next isCurrent =>
          have isActive : files.transferActive = some _ := isActive
          rw [currentActiveTid, isActive, ← isCurrent] at isOver
          exact absurd rfl isOver
        next => exact dropped.trans (post _ _)
      next => exact dropped.trans (post _ _)

/-- A message or a failure of a worker that is not the active one goes to the start-up. -/
theorem handleSendWorkerMessage
    {worker : Serial}
    (notActive : files.sender.activeWorker ≠ some worker)
    (message : SendWorkerOut) : files.handleSendWorkerMessage message worker = files := by
  unfold Files.handleSendWorkerMessage
  exact if_pos notActive

theorem handleWorkerFatal
    {worker : Serial}
    (notActive : files.sender.activeWorker ≠ some worker) :
    files.handleWorkerFatal worker = files := by
  unfold Files.handleWorkerFatal
  split
  · rfl
  · exact if_pos notActive

end Spares

end Files

namespace FilePage

variable {page : FilePage} {input : FileInput} {tid : Text}

/-- Events told of one transfer are added to those told of it before. -/
theorem events_append
    {κ : Type}
    [BEq κ]
    [LawfulBEq κ]
    [DecidableEq κ]
    (told : List (κ × SystemEventKind))
    (subject : Option κ)
    (events : List SystemEventKind)
    (key : κ) :
    ((told ++ subject.toList.flatMap fun other => events.map fun event => (other, event)).filter
        fun entry => entry.1 == key).map Prod.snd =
      (told.filter fun entry => entry.1 == key).map Prod.snd ++
        if subject = some key then events else [] := by
  rw [List.filter_append, List.map_append]
  congr 1
  cases subject with
  | none => rfl
  | some other =>
      rw [Option.toList_some, List.flatMap_singleton]
      by_cases isKey : other = key
      · rw [if_pos (congrArg some isKey), List.filter_eq_self.mpr]
        · rw [List.map_map]
          exact List.map_id _
        · intro pair isPair
          obtain ⟨event, _, rfl⟩ := List.mem_map.mp isPair
          exact beq_iff_eq.mpr isKey
      · rw [if_neg fun isSame => isKey (Option.some.inj isSame), List.filter_eq_nil_iff.mpr]
        · rfl
        · intro pair isPair
          obtain ⟨event, _, rfl⟩ := List.mem_map.mp isPair
          simpa using isKey

/-! ## What is known of the outgoing transfers -/

/-- The workers started so far with the transfers they were started for, and the events
told with the transfers they were told of. -/
structure SenderLog extends SendLog where
  workers : List (Serial × Text)
  told : List (Text × SystemEventKind)
  deriving DecidableEq, Repr

/-- The worker that the step starts, and its transfer. -/
def startedWorker (page : FilePage) (input : FileInput) : Option (Serial × Text) :=
  (page.takenUp input).bind fun tid =>
    if input.env.spawnOk then some (page.files.nextSerial, tid) else none

/-- The transfer that a worker was started for. -/
def SenderLog.transferOf (log : SenderLog) (worker : Serial) : Option Text :=
  (log.workers.find? fun started => started.1 == worker).map Prod.snd

/-- The transfer whose continuation, worker or timer the step comes from. -/
def SenderLog.origin (log : SenderLog) (page : FilePage) (input : FileInput) : Option Text :=
  match input.call with
  | .settled index _ => page.pending[index]?.bind fun send => send.continuation.outgoing?
  | .event (.sendWorkerMessage worker _) => log.transferOf worker
  | .event (.sendWorkerError worker) => log.transferOf worker
  | .event (.sendWorkerReadyTimeout worker) => log.transferOf worker
  | .event (.timer id) =>
      (page.files.timers.find? fun timer => timer.id == id).bind fun timer =>
        timer.kind.outgoing?
  | _ => none

/-- The transfer that the events of the step are told of: the one it comes from, the one
that the peer names, or the one that the user or the connection ends. -/
def SenderLog.subject (log : SenderLog) (page : FilePage) (input : FileInput) : Option Text :=
  match input.call with
  | .cancelSender _ | .senderSocketClosed | .senderPageHide | .senderShutdown =>
      page.files.currentActiveTid
  | .envelope (.fileAccept tid) => some tid
  | .envelope (.fileDecline tid _) => some tid
  | .envelope (.fileProgress tid _) => some tid
  | .envelope (.fileCompleteAck tid) => some tid
  | .envelope (.fileCancel tid _ _) =>
      if page.files.currentActiveTid = some tid then some tid else none
  | _ => log.origin page input

def SenderLog.record (log : SenderLog) (page : FilePage) (input : FileInput) : SenderLog where
  toSendLog := log.toSendLog.record page input
  workers := log.workers ++ (page.startedWorker input).toList
  told :=
    log.told ++ (log.subject page input).toList.flatMap fun tid =>
      ((page.step input).out.filterMap FileEffect.event?).map fun event => (tid, event)

/-- The events told of a transfer. -/
def SenderLog.eventsOf (log : SenderLog) (tid : Text) : List SystemEventKind :=
  (log.told.filter fun told => told.1 == tid).map Prod.snd

/-- The page and what is known of its outgoing transfers. -/
def senderMachine : EventMachine.Machine (FilePage × SenderLog) FileInput :=
  machine.remember SenderLog.record

/-- Both machines have just been created, and nothing is known. -/
def Unused (remembered : FilePage × SenderLog) : Prop :=
  Created remembered.1 ∧ remembered.2 = ⟨⟨[], []⟩, [], []⟩

/-- Generated ids are new, and the page is reset after the sender was shut down. -/
structure CalledInTurn (remembered : FilePage × SenderLog) (input : FileInput) : Prop where
  fresh : FreshIds (remembered.1, remembered.2.toSendLog) input
  reset : input.call = .resetOnTerminate → remembered.1.files.transferActive = none

/-- A chunk send is refused only while its transfer is being sent, and then only is a worker
not to be reached when it is asked for more. -/
def ChunksSettle (page : FilePage) (input : FileInput) : Prop :=
  ∀ index sent send worker tid dataLength,
    input.call = .settled index sent → page.pending[index]? = some send →
      send.continuation = .chunkSent worker tid dataLength →
        page.files.isStillSendingFor tid = true ∨
          (sent = true ∧
            (page.files.sender.workerFinalReceived = true ∨ input.env.postOk = true))

structure SettlesInTime (remembered : FilePage × SenderLog) (input : FileInput) : Prop where
  called : CalledInTurn remembered input
  chunks : remembered.1.ChunksSettle input

/-! ## What one step does -/

/-- What holds of the outgoing transfers between any two segments. -/
structure SenderSound (page : FilePage) (log : SenderLog) : Prop where
  effects : page.files.effects = []
  active : ∀ worker, page.files.sender.activeWorker = some worker →
    ∃ tid, page.files.currentActiveTid = some tid ∧ (worker, tid) ∈ log.workers
  inits : ∀ init ∈ page.files.sender.inits, (init.worker, init.tid) ∈ log.workers
  serials : ∀ started ∈ log.workers, started.1 < page.files.nextSerial
  distinct : (log.workers.map Prod.fst).Nodup
  generated : ∀ tid, page.files.currentActiveTid = some tid → tid ∈ log.generated
  once : ∀ tid, (log.eventsOf tid).length ≤ 1
  past : ∀ tid, log.eventsOf tid ≠ [] →
    tid ∈ log.generated ∧ page.files.currentActiveTid ≠ some tid

namespace SenderSound

variable {log : SenderLog}

theorem busy (sound : page.SenderSound log) : page.files.Busy := by
  intro worker isActive
  obtain ⟨tid, isCurrent, _⟩ := sound.active worker isActive
  rw [isCurrent]
  exact Option.some_ne_none tid

theorem mem_of_transferOf {worker : Serial} (isKnown : log.transferOf worker = some tid) :
    (worker, tid) ∈ log.workers := by
  obtain ⟨⟨other, _⟩, isFound, rfl⟩ := Option.map_eq_some_iff.mp isKnown
  have same := List.find?_some isFound
  obtain rfl := beq_iff_eq.mp same
  exact List.mem_of_find?_eq_some isFound

/-- A worker is started for one transfer. -/
theorem sameTransfer
    (sound : page.SenderSound log)
    {worker : Serial}
    {other : Text}
    (isStarted : (worker, tid) ∈ log.workers)
    (alsoStarted : (worker, other) ∈ log.workers) : tid = other := by
  have same := List.inj_on_of_nodup_map sound.distinct isStarted alsoStarted rfl
  exact congrArg Prod.snd same

/-- The worker of a transfer that has ended is not the active one. -/
theorem notActive
    (sound : page.SenderSound log)
    {worker : Serial}
    (isKnown : log.transferOf worker = some tid)
    (past : page.files.currentActiveTid ≠ some tid) :
    page.files.sender.activeWorker ≠ some worker := by
  intro isActive
  obtain ⟨other, isCurrent, alsoStarted⟩ := sound.active worker isActive
  rw [sound.sameTransfer (mem_of_transferOf isKnown) alsoStarted] at past
  exact past isCurrent

theorem settleSenderInit
    (sound : page.SenderSound log)
    {worker : Serial}
    (isKnown : log.transferOf worker = some tid)
    (past : page.files.currentActiveTid ≠ some tid)
    (env : FileEnv)
    (ready : Bool) :
    Files.Spares page.files (page.files.settleSenderInit env worker ready) := by
  refine .settleSenderInit (sound.notActive isKnown past) ?_ env ready
  rintro init isInit rfl
  rw [← sound.sameTransfer (mem_of_transferOf isKnown) (sound.inits init isInit)]
  exact past

/-- What comes from a transfer that has ended leaves the transfer sent now alone. -/
theorem spares
    (sound : page.SenderSound log)
    (settles : page.ChunksSettle input)
    (isOrigin : log.origin page input = some tid)
    (past : page.files.currentActiveTid ≠ some tid) :
    Files.Spares page.files (page.segment input.env input.call) := by
  obtain ⟨call, env⟩ := input
  cases call with
  | settled index sent =>
      obtain ⟨send, isSend, isOutgoing⟩ := Option.bind_eq_some_iff.mp isOrigin
      have isSegment : page.segment env (.settled index sent) =
          page.files.resume env send.continuation sent := by
        simp only [segment, isSend]
      dsimp only
      rw [isSegment]
      cases isContinuation : send.continuation with
      | offerSent offered =>
          rw [isContinuation] at isOutgoing
          obtain rfl := Option.some.inj isOutgoing
          change Files.Spares page.files (page.files.offerSent offered sent)
          rw [Files.Spares.offerSent past]
          exact .refl
      | chunkSent worker sending dataLength =>
          rw [isContinuation] at isOutgoing
          obtain rfl := Option.some.inj isOutgoing
          exact .chunkSent past env worker dataLength sent
            (settles index sent send worker sending dataLength rfl isSend isContinuation)
      | discard =>
          rw [isContinuation] at isOutgoing
          cases isOutgoing
      | acceptSent offer worker =>
          rw [isContinuation] at isOutgoing
          cases isOutgoing
  | event event =>
      cases event with
      | sendWorkerMessage worker message =>
          have isKnown : log.transferOf worker = some tid := isOrigin
          have handled := Files.Spares.handleSendWorkerMessage
            (sound.notActive isKnown past) message
          cases message with
          | ready =>
              change Files.Spares page.files
                ((page.files.handleSendWorkerMessage .ready worker).settleSenderInit env worker
                  true)
              rw [handled]
              exact sound.settleSenderInit isKnown past env true
          | fatal =>
              change Files.Spares page.files
                ((page.files.handleSendWorkerMessage .fatal worker).settleSenderInit env worker
                  false)
              rw [handled]
              exact sound.settleSenderInit isKnown past env false
          | plaintextChunk seq data =>
              change Files.Spares page.files
                (page.files.handleSendWorkerMessage (.plaintextChunk seq data) worker)
              rw [handled]
              exact .refl
          | final sha256Hex =>
              change Files.Spares page.files
                (page.files.handleSendWorkerMessage (.final sha256Hex) worker)
              rw [handled]
              exact .refl
          | closed =>
              change Files.Spares page.files (page.files.handleSendWorkerMessage .closed worker)
              rw [handled]
              exact .refl
      | sendWorkerError worker =>
          have isKnown : log.transferOf worker = some tid := isOrigin
          change Files.Spares page.files
            ((page.files.handleWorkerFatal worker).settleSenderInit env worker false)
          rw [Files.Spares.handleWorkerFatal (sound.notActive isKnown past)]
          exact sound.settleSenderInit isKnown past env false
      | sendWorkerReadyTimeout worker => exact sound.settleSenderInit isOrigin past env false
      | timer id =>
          obtain ⟨timer, isTimer, isOutgoing⟩ := Option.bind_eq_some_iff.mp isOrigin
          change Files.Spares page.files (page.files.handle env (.timer id))
          have disarmed : Files.Spares page.files (page.files.disarm id) :=
            { Files.Spares.refl with }
          have stillOver : (page.files.disarm id).currentActiveTid ≠ some tid := past
          unfold Files.handle
          simp only [isTimer]
          split
          · exact disarmed.trans (.fireTimer isOutgoing stillOver env)
          · exact .refl
      | receiveWorkerMessage worker message => cases isOrigin
      | receiveWorkerError worker => cases isOrigin
      | receiveWorkerReadyTimeout worker => cases isOrigin
      | cleanedUp cleaned => cases isOrigin
      | initialised supported enabled => cases isOrigin
  | _ => cases isOrigin

end SenderSound

/-- What a step does, when `known` tells which workers are started for which transfers. -/
inductive SenderOutcome (known : Serial → Text → Prop) (subject : Option Text)
    (before after : Files) : Prop where
  | acts :
      Files.SenderAct known before after →
      (∀ tid, subject = some tid → before.currentActiveTid ≠ some tid →
        after.told = before.told) →
      SenderOutcome known subject before after
  | aside :
      subject = none →
      after.transferActive = before.transferActive →
      after.sender = before.sender →
      SenderOutcome known subject before after
  | offers :
      subject = none →
      before.currentActiveTid = none →
      after.sender.activeWorker = before.sender.activeWorker →
      after.sender.inits = before.sender.inits →
      SenderOutcome known subject before after

namespace SenderOutcome

variable {known : Serial → Text → Prop} {subject : Option Text} {files after : Files}

/-- A segment of the receiver. -/
theorem of_receiver
    (isAside : subject = none)
    (frame : Files.ReceiverFrame files after) :
    SenderOutcome known subject files after :=
  .aside isAside frame.transferActive frame.sender

theorem of_same (isSame : after = files) : SenderOutcome known subject files after :=
  .acts (isSame ▸ .refl) fun _ _ _ => congrArg Files.told isSame

/-- A segment for the transfer that is sent, if there is one. -/
theorem of_current
    (isCurrent : ∀ tid, subject = some tid → files.currentActiveTid = some tid)
    (act : Files.SenderAct known files after) :
    SenderOutcome known subject files after :=
  .acts act fun tid isSubject past => absurd (isCurrent tid isSubject) past

theorem of_created
    {created : Bool}
    (called : SenderOutcome known subject files after) :
    SenderOutcome known subject files (if created then after else files) := by
  cases created with
  | true => exact called
  | false => exact of_same rfl

end SenderOutcome

/-- The ids of workers and transfers that the log knows after the step. -/
def SenderLog.Knows (log : SenderLog) (page : FilePage) (input : FileInput)
    (worker : Serial) (tid : Text) : Prop :=
  (worker, tid) ∈ (log.record page input).workers

namespace SenderSound

variable {log : SenderLog}

/-- What an envelope of the peer does. -/
theorem outcome_envelope (env : FileEnv) (content : PlaintextEnvelope) :
    SenderOutcome (log.Knows page ⟨.envelope content, env⟩)
      (log.subject page ⟨.envelope content, env⟩) page.files
      (page.files.dispatchFileEnvelope env content) := by
  have answers
      (notAccept : ∀ tid, content ≠ .fileAccept tid)
      (named : ∀ tid, log.subject page ⟨.envelope content, env⟩ = some tid →
        page.files.currentActiveTid ≠ some tid →
          page.files.dispatchFromReceiver env content = page.files) :
      SenderOutcome (log.Knows page ⟨.envelope content, env⟩)
        (log.subject page ⟨.envelope content, env⟩) page.files
        (page.files.dispatchFromReceiver env content) :=
    .acts (.dispatchFromReceiver env content notAccept) fun tid isSubject past =>
      congrArg Files.told (named tid isSubject past)
  cases content with
  | fileOffer tid name size =>
      exact .of_created (.of_receiver rfl (Files.ReceiverFrame.dispatchOffer env tid name size))
  | fileComplete tid senderSha256 =>
      exact .of_created
        (.of_receiver rfl (Files.ReceiverFrame.dispatchComplete tid senderSha256))
  | fileAccept tid =>
      cases isTaken : page.takenUp ⟨.envelope (.fileAccept tid), env⟩ with
      | none => exact .of_same (segment_of_not_takenUp isTaken)
      | some taken =>
          obtain ⟨name, size, file, isActive, isCall, isSegment⟩ := segment_of_takenUp isTaken
          cases isCall
          have isCurrent : page.files.currentActiveTid = some tid := by
            rw [Files.currentActiveTid, isActive]
            rfl
          change SenderOutcome _ _ _ (page.segment env (.envelope (.fileAccept tid)))
          rw [isSegment]
          refine .of_current ?_ (.initialiseWorker env name size isCurrent ?_)
          · intro other isSubject
            rw [← isSubject]
            exact isCurrent
          · intro isSpawned
            refine List.mem_append_right _ ?_
            rw [startedWorker, isTaken, Option.bind_some, if_pos isSpawned]
            exact List.mem_singleton_self _
  | fileCancel tid side reason =>
      change SenderOutcome _ _ _ (page.files.routeFileCancel env tid side reason)
      unfold Files.routeFileCancel
      split
      next isCurrent =>
        refine .of_created (.of_current ?_ (.dispatchFromReceiver env _ (by simp)))
        intro other isSubject
        have isTid : (if page.files.currentActiveTid = some tid then some tid else none) =
            some other := isSubject
        rw [if_pos isCurrent] at isTid
        rw [← isTid]
        exact isCurrent
      next notCurrent =>
        have isAside : log.subject page ⟨.envelope (.fileCancel tid side reason), env⟩ = none :=
          if_neg notCurrent
        split
        · exact .of_receiver isAside (Files.ReceiverFrame.dispatchCancel tid side reason)
        · exact .of_same rfl
  | fileDecline tid reason =>
      refine .of_created (answers (by simp) ?_)
      intro other isSubject past
      obtain rfl := Option.some.inj isSubject
      unfold Files.dispatchFromReceiver
      split
      · rfl
      next current isActive => exact if_neg (Files.ne_tid_of_over past isActive)
  | fileCompleteAck tid =>
      refine .of_created (answers (by simp) ?_)
      intro other isSubject past
      obtain rfl := Option.some.inj isSubject
      unfold Files.dispatchFromReceiver
      split
      · rfl
      next current isActive => exact if_neg (Files.ne_tid_of_over past isActive)
  | fileProgress tid received =>
      refine .of_created (answers (by simp) ?_)
      intro other isSubject past
      unfold Files.dispatchFromReceiver
      split <;> rfl
  | msg | resume | resumeAck =>
      refine .of_created (answers (by simp) ?_)
      intro other isSubject past
      cases isSubject

/-- What the callback of a timer does. -/
theorem outcome_timer
    {env : FileEnv}
    {id : Serial}
    {timer : FileTimer}
    (isTimer : page.files.timers.find? (fun timer => timer.id == id) = some timer)
    (stale : ∀ tid, log.origin page ⟨.event (.timer id), env⟩ = some tid →
      page.files.currentActiveTid ≠ some tid →
        ((page.files.disarm id).fireTimer env timer.kind).told = page.files.told) :
    SenderOutcome (log.Knows page ⟨.event (.timer id), env⟩)
      (log.subject page ⟨.event (.timer id), env⟩) page.files
      ((page.files.disarm id).fireTimer env timer.kind) := by
  have isSubject : log.subject page ⟨.event (.timer id), env⟩ = timer.kind.outgoing? := by
    change (page.files.timers.find? (fun timer => timer.id == id)).bind
      (fun timer => timer.kind.outgoing?) = _
    rw [isTimer]
    rfl
  have disarmed : Files.SenderAct (log.Knows page ⟨.event (.timer id), env⟩) page.files
      (page.files.disarm id) :=
    .same rfl rfl rfl rfl
  have aside : Files.ReceiverFrame page.files (page.files.disarm id) :=
    Files.ReceiverFrame.of_own _ _ _ _ _ _
  cases isKind : timer.kind with
  | offered tid =>
      rw [isKind] at stale
      exact .acts (disarmed.trans .offeredTimeout) stale
  | verifying tid name size =>
      rw [isKind] at stale
      exact .acts (disarmed.trans (.finalizeVerifyingAsSuccess name size)) stale
  | sendLoopPoll worker tid =>
      rw [isKind] at stale
      exact .acts (disarmed.trans (.sendLoopTurn env worker)) stale
  | offerPending tid =>
      rw [isKind] at isSubject
      exact .of_receiver isSubject (aside.trans (Files.ReceiverFrame.offerPendingTimeout tid))
  | receiveStall tid =>
      rw [isKind] at isSubject
      exact .of_receiver isSubject (aside.trans (Files.ReceiverFrame.receiveStallTimeout tid))

/-- What an event of a worker, a timer or the page does. -/
theorem outcome_event
    (sound : page.SenderSound log)
    (env : FileEnv)
    (event : Files.Event)
    (stale : ∀ tid, log.origin page ⟨.event event, env⟩ = some tid →
      page.files.currentActiveTid ≠ some tid →
        (page.files.handle env event).told = page.files.told) :
    SenderOutcome (log.Knows page ⟨.event event, env⟩)
      (log.subject page ⟨.event event, env⟩) page.files (page.files.handle env event) := by
  cases event with
  | sendWorkerMessage worker message =>
      refine .acts ?_ stale
      have handles : Files.SenderAct (log.Knows page ⟨.event (.sendWorkerMessage worker message),
          env⟩) page.files (page.files.handleSendWorkerMessage message worker) :=
        .handleSendWorkerMessage message worker
      have busy := handles.busy sound.busy
      cases message with
      | ready => exact handles.trans (.settleSenderInit env worker true busy)
      | fatal => exact handles.trans (.settleSenderInit env worker false busy)
      | plaintextChunk | final | closed => exact handles
  | sendWorkerError worker =>
      refine .acts ?_ stale
      have handles : Files.SenderAct (log.Knows page ⟨.event (.sendWorkerError worker), env⟩)
          page.files (page.files.handleWorkerFatal worker) :=
        .handleWorkerFatal worker
      exact handles.trans (.settleSenderInit env worker false (handles.busy sound.busy))
  | sendWorkerReadyTimeout worker =>
      exact .acts (.settleSenderInit env worker false sound.busy) stale
  | receiveWorkerMessage worker message =>
      have handles : Files.ReceiverFrame page.files
          (page.files.handleReceiveWorkerMessage env message worker) :=
        .handleReceiveWorkerMessage env message worker
      cases message with
      | ready | fatal =>
          exact .of_receiver rfl (handles.trans (Files.ReceiverFrame.settleReceiverInit _ _))
      | written | shortWrite | done | closed => exact .of_receiver rfl handles
  | receiveWorkerError worker =>
      obtain ⟨aborted, isAborted, isHandled⟩ :=
        Files.handle_receiveWorkerError page.files env worker
      rw [isHandled]
      have handles : Files.ReceiverFrame page.files aborted := by
        rcases isAborted with rfl | ⟨state, rfl⟩
        · exact .refl
        · exact .integrityFailureAbort state
      exact .of_receiver rfl (handles.trans (.settleReceiverInit _ _))
  | receiveWorkerReadyTimeout worker =>
      exact .of_receiver rfl (Files.ReceiverFrame.settleReceiverInit _ _)
  | cleanedUp cleaned => exact .of_receiver rfl (Files.ReceiverFrame.workerDoneCleanedUp _)
  | timer id =>
      cases isTimer : page.files.timers.find? (fun timer => timer.id == id) with
      | none =>
          refine .of_same ?_
          unfold Files.handle
          simp only [isTimer]
      | some timer =>
          have isHandled : page.files.handle env (.timer id) =
              if timer.due ≤ env.now then (page.files.disarm id).fireTimer env timer.kind
              else page.files := by
            unfold Files.handle
            simp only [isTimer]
          by_cases isDue : timer.due ≤ env.now
          · rw [if_pos isDue] at isHandled
            rw [isHandled] at stale ⊢
            exact outcome_timer isTimer stale
          · rw [if_neg isDue] at isHandled
            exact .of_same isHandled
  | initialised supported enabled => exact .aside rfl rfl rfl

/-- What the offer of a file does. -/
theorem outcome_startTransfer (env : FileEnv) (file : LocalFile) (tid : Text) :
    SenderOutcome (log.Knows page ⟨.startTransfer file tid, env⟩)
      (log.subject page ⟨.startTransfer file tid, env⟩) page.files
      (page.files.startTransfer env file tid) := by
  unfold Files.startTransfer
  split
  · exact .of_same rfl
  next isFree =>
    split
    · exact .aside rfl rfl rfl
    · split
      · exact .aside rfl rfl rfl
      · refine .offers rfl ?_ rfl rfl
        rw [Files.currentActiveTid_eq_none]
        simp only [Bool.or_eq_true, Option.isSome_iff_ne_none, ne_eq, not_or, not_not] at isFree
        exact isFree.1

theorem outcome
    (sound : page.SenderSound log)
    (allowed : SettlesInTime (page, log) input) :
    SenderOutcome (log.Knows page input) (log.subject page input) page.files
      (page.segment input.env input.call) := by
  have stale : ∀ tid, log.origin page input = some tid →
      page.files.currentActiveTid ≠ some tid →
        (page.segment input.env input.call).told = page.files.told :=
    fun tid isOrigin past => (sound.spares allowed.chunks isOrigin past).told
  obtain ⟨call, env⟩ := input
  cases call with
  | startTransfer file tid => exact .of_created (outcome_startTransfer env file tid)
  | envelope content => exact outcome_envelope env content
  | event event => exact sound.outcome_event env event stale
  | settled index sent =>
      cases isSend : page.pending[index]? with
      | none =>
          refine .of_same ?_
          simp only [segment, isSend]
      | some send =>
          have isSegment : page.segment env (.settled index sent) =
              page.files.resume env send.continuation sent := by
            simp only [segment, isSend]
          have isSubject : log.subject page ⟨.settled index sent, env⟩ =
              send.continuation.outgoing? := by
            change (page.pending[index]?).bind (fun send => send.continuation.outgoing?) = _
            rw [isSend]
            rfl
          dsimp only at stale ⊢
          rw [isSegment] at stale ⊢
          cases isContinuation : send.continuation with
          | discard => exact .of_same rfl
          | offerSent tid =>
              rw [isContinuation] at stale
              exact .acts (.offerSent sent) stale
          | chunkSent worker tid dataLength =>
              rw [isContinuation] at stale
              exact .acts
                (.chunkSent env worker dataLength sent
                  (allowed.chunks index sent send worker tid dataLength rfl isSend
                    isContinuation))
                stale
          | acceptSent offer worker =>
              rw [isContinuation] at isSubject
              exact .of_receiver isSubject (Files.ReceiverFrame.acceptSent env offer worker sent)
  | resetOnTerminate =>
      have isNone : page.files.transferActive = none := allowed.called.reset rfl
      exact .aside rfl isNone.symm rfl
  | cancelSender reason =>
      exact .of_created (.of_current (fun _ isSubject => isSubject) (.cancelActiveAsSender reason))
  | senderSocketClosed =>
      exact .of_created (.of_current (fun _ isSubject => isSubject) .senderOnWsClose)
  | senderPageHide =>
      exact .of_created (.of_current (fun _ isSubject => isSubject) (.senderPageHide env))
  | senderShutdown =>
      exact .of_created (.of_current (fun _ isSubject => isSubject) .senderShutdown)
  | chunk parsed => exact .of_created (.of_receiver rfl (Files.ReceiverFrame.receiveChunk _ _))
  | acceptOffer => exact .of_created (.of_receiver rfl (Files.ReceiverFrame.acceptOffer _))
  | declineOffer => exact .of_created (.of_receiver rfl Files.ReceiverFrame.declineOffer)
  | cancelReceiver reason =>
      exact .of_created (.of_receiver rfl (Files.ReceiverFrame.cancelActiveAsReceiver _))
  | receiverSocketClosed =>
      exact .of_created (.of_receiver rfl Files.ReceiverFrame.receiverOnWsClose)
  | receiverPageHide =>
      exact .of_created (.of_receiver rfl Files.ReceiverFrame.receiverPageHide)
  | receiverShutdown =>
      exact .of_created (.of_receiver rfl Files.ReceiverFrame.receiverShutdown)

end SenderSound

/-! ## What every run keeps -/

/-- A transfer that is there after a step was there before, or its file is offered now. -/
theorem earlier_or_generated
    (isCurrent : (page.segment input.env input.call).currentActiveTid = some tid) :
    page.files.currentActiveTid = some tid ∨
      (page.generated input = some tid ∧ ∃ file, input.call = .startTransfer file tid) := by
  obtain ⟨transfer, isActive, rfl⟩ := Option.map_eq_some_iff.mp isCurrent
  have kind : SegmentKind False page input := page.segmentKind input fun strict => strict.elim
  cases kind with
  | oneSided oneSided =>
      left
      rcases oneSided with moves | frame
      · obtain ⟨earlier, isEarlier, sameTid⟩ := moves.tid isActive
        rw [Files.currentActiveTid, isEarlier, ← sameTid]
        rfl
      · rw [Files.currentActiveTid, ← frame.transferActive, isActive]
        rfl
  | offers file offered isCall offers =>
      right
      obtain ⟨noOutgoing, _, ⟨name, size, sent, isOffered⟩, _⟩ := offers
      obtain rfl := Option.some.inj (isOffered.symm.trans isActive)
      refine ⟨?_, file, isCall⟩
      have isActive : (page.step input).files.transferActive = some _ := isOffered
      rw [generated, isCall, noOutgoing, isActive]
      rfl
  | reset isReset =>
      rw [isReset] at isActive
      cases isActive

theorem segment_nextSerial (page : FilePage) (input : FileInput) :
    page.files.nextSerial ≤ (page.segment input.env input.call).nextSerial := by
  have kind : SegmentKind False page input := page.segmentKind input fun strict => strict.elim
  cases kind with
  | oneSided oneSided =>
      rcases oneSided with moves | frame
      · exact moves.nextSerial
      · exact frame.nextSerial
  | offers _ _ _ offers => exact offers.nextSerial
  | reset isReset =>
      rw [isReset]
      exact Nat.le_refl _

/-- A worker that is started takes the next serial. -/
theorem startedWorker_spec
    {started : Serial × Text}
    (starts : page.startedWorker input = some started) :
    started.1 = page.files.nextSerial ∧
      page.files.nextSerial < (page.segment input.env input.call).nextSerial := by
  obtain ⟨tid, isTaken, isStarted⟩ := Option.bind_eq_some_iff.mp starts
  split at isStarted
  next isSpawned =>
    obtain rfl := Option.some.inj isStarted
    obtain ⟨name, size, file, _, _, isSegment⟩ := segment_of_takenUp isTaken
    refine ⟨rfl, ?_⟩
    rw [isSegment]
    unfold Files.initialiseWorker
    rw [isSpawned]
    dsimp only [Bool.not_true]
    split
    · exact absurd ‹false = true› Bool.false_ne_true
    · split
      · rw [Files.nextSerial_finishWithEvent]
        exact Nat.lt_succ_self _
      · exact Nat.lt_succ_self _
  next => cases isStarted

namespace SenderSound

variable {log : SenderLog}

theorem eventsOf_record (log : SenderLog) (page : FilePage) (input : FileInput) (tid : Text) :
    (log.record page input).eventsOf tid =
      log.eventsOf tid ++
        if log.subject page input = some tid then (page.segment input.env input.call).told
        else [] := by
  exact events_append log.told (log.subject page input) (page.segment input.env input.call).told tid

/-- A step tells events only of the transfer that it ends, and then at most one. -/
theorem told_of_subject
    (sound : page.SenderSound log)
    (allowed : SettlesInTime (page, log) input)
    (isSubject : log.subject page input = some tid) :
    (page.segment input.env input.call).told = [] ∨
      (page.files.currentActiveTid = some tid ∧
        (page.segment input.env input.call).currentActiveTid = none ∧
        (page.segment input.env input.call).told.length ≤ 1) := by
  have before : page.files.told = [] := by
    rw [Files.told, sound.effects]
    rfl
  cases sound.outcome allowed with
  | acts act stale =>
      by_cases past : page.files.currentActiveTid = some tid
      · rcases act with carries | ends
        · exact .inl (carries.told.trans before)
        · obtain ⟨events, few, told⟩ := ends.told
          rw [before, List.nil_append] at told
          exact .inr ⟨past, ends.ended, told ▸ few⟩
      · exact .inl ((stale tid isSubject past).trans before)
  | aside isAside =>
      rw [isAside] at isSubject
      cases isSubject
  | offers isAside =>
      rw [isAside] at isSubject
      cases isSubject

theorem step
    (sound : page.SenderSound log)
    (allowed : SettlesInTime (page, log) input) :
    (page.step input).SenderSound (log.record page input) where
  effects := rfl
  active := by
    intro worker isActive
    have known : ∀ {tid}, (worker, tid) ∈ log.workers →
        (worker, tid) ∈ (log.record page input).workers :=
      fun isEarlier => List.mem_append_left _ isEarlier
    cases sound.outcome allowed with
    | acts act =>
        rcases act with carries | ends
        · rcases carries.active worker isActive with isEarlier | isKnown
          · obtain ⟨tid, isCurrent, isStarted⟩ := sound.active worker isEarlier
            exact ⟨tid, carries.current.trans isCurrent, known isStarted⟩
          · exact isKnown
        · exact absurd (ends.active.symm.trans isActive) (by simp)
    | aside _ sameTransfer sameSender =>
        obtain ⟨tid, isCurrent, isStarted⟩ :=
          sound.active worker ((congrArg SenderState.activeWorker sameSender).symm.trans isActive)
        refine ⟨tid, ?_, known isStarted⟩
        rw [← isCurrent]
        exact congrArg (Option.map TransferState.tid) sameTransfer
    | offers _ noCurrent sameWorker =>
        exact absurd noCurrent (sound.busy worker (sameWorker.symm.trans isActive))
  inits := by
    intro init isInit
    have earlier : init ∈ page.files.sender.inits →
        (init.worker, init.tid) ∈ (log.record page input).workers :=
      fun isEarlier => List.mem_append_left _ (sound.inits init isEarlier)
    cases sound.outcome allowed with
    | acts act =>
        rcases act with carries | ends
        · exact (carries.inits init isInit).elim earlier id
        · exact (ends.inits init isInit).elim earlier id
    | aside _ _ sameSender =>
        exact earlier ((congrArg SenderState.inits sameSender) ▸ isInit)
    | offers _ _ _ sameInits => exact earlier (sameInits ▸ isInit)
  serials := by
    intro started isStarted
    rcases List.mem_append.mp isStarted with isEarlier | isNew
    · exact Nat.lt_of_lt_of_le (sound.serials started isEarlier) (page.segment_nextSerial input)
    · obtain ⟨isNext, grows⟩ := startedWorker_spec (Option.mem_toList.mp isNew)
      rw [isNext]
      exact grows
  distinct := by
    change ((log.workers ++ (page.startedWorker input).toList).map Prod.fst).Nodup
    cases isStarted : page.startedWorker input with
    | none =>
        rw [Option.toList_none, List.append_nil]
        exact sound.distinct
    | some started =>
        rw [Option.toList_some, List.map_append, List.nodup_append]
        refine ⟨sound.distinct, List.nodup_singleton _, ?_⟩
        intro worker isWorker other isOther
        obtain ⟨earlier, isEarlier, rfl⟩ := List.mem_map.mp isWorker
        rw [List.map_singleton, List.mem_singleton] at isOther
        rw [isOther, (startedWorker_spec isStarted).1]
        exact Nat.ne_of_lt (sound.serials earlier isEarlier)
  generated := by
    intro tid isCurrent
    rcases earlier_or_generated isCurrent with isEarlier | ⟨isGenerated, _⟩
    · exact List.mem_append_left _ (sound.generated tid isEarlier)
    · exact List.mem_append_right _ (Option.mem_toList.mpr isGenerated)
  once := by
    intro tid
    rw [eventsOf_record]
    split
    next isSubject =>
      rcases sound.told_of_subject allowed isSubject with silent | ⟨isCurrent, _, few⟩
      · rw [silent, List.append_nil]
        exact sound.once tid
      · have noEvent : log.eventsOf tid = [] := by
          by_contra told
          exact (sound.past tid told).2 isCurrent
        rw [noEvent, List.nil_append]
        exact few
    next =>
      rw [List.append_nil]
      exact sound.once tid
  past := by
    intro tid told
    have earlier (toldEarlier : log.eventsOf tid ≠ []) :
        tid ∈ (log.record page input).generated ∧
          (page.segment input.env input.call).currentActiveTid ≠ some tid := by
      obtain ⟨isGenerated, notCurrent⟩ := sound.past tid toldEarlier
      refine ⟨List.mem_append_left _ isGenerated, fun isCurrent => ?_⟩
      rcases earlier_or_generated isCurrent with isEarlier | ⟨_, file, isCall⟩
      · exact notCurrent isEarlier
      · exact allowed.called.fresh file tid isCall isGenerated
    rw [eventsOf_record] at told
    split at told
    next isSubject =>
      rcases sound.told_of_subject allowed isSubject with silent | ⟨isCurrent, ended, _⟩
      · rw [silent, List.append_nil] at told
        exact earlier told
      · refine ⟨List.mem_append_left _ (sound.generated tid isCurrent), ?_⟩
        change (page.segment input.env input.call).currentActiveTid ≠ some tid
        rw [ended]
        simp
    next =>
      rw [List.append_nil] at told
      exact earlier told

end SenderSound

theorem senderSound_of_created (created : Created page) :
    page.SenderSound ⟨⟨[], []⟩, [], []⟩ := by
  obtain ⟨_, _, _, _, rfl⟩ := created
  refine ⟨rfl, ?_, ?_, ?_, List.nodup_nil, ?_, ?_, ?_⟩
  · intro worker isActive
    cases isActive
  · intro init isInit
    cases isInit
  · intro started isStarted
    cases isStarted
  · intro tid isCurrent
    cases isCurrent
  · intro tid
    exact Nat.zero_le 1
  · intro tid told
    exact absurd rfl told

theorem senderSound_of_reachable
    {remembered : FilePage × SenderLog}
    (reachable : senderMachine.Reachable Unused SettlesInTime remembered) :
    remembered.1.SenderSound remembered.2 := by
  induction reachable with
  | start unused =>
      rw [unused.2]
      exact senderSound_of_created unused.1
  | next _ _ allowed ih => exact ih.step allowed

/-- The step leaves the transfer that is sent now alone and sends none of its chunks. -/
structure SparesCurrent (page : FilePage) (input : FileInput) : Prop where
  phase : (page.step input).files.transferActive = page.files.transferActive
  queue : (page.step input).files.sender.pendingSendQueue = page.files.sender.pendingSendQueue
  worker : (page.step input).files.sender.activeWorker = page.files.sender.activeWorker
  final : (page.step input).files.sender.workerFinalReceived =
    page.files.sender.workerFinalReceived
  digest : (page.step input).files.sender.pendingSha256Hex = page.files.sender.pendingSha256Hex
  chunks : ∀ plaintext continuation, .sendChunk plaintext continuation ∉ (page.step input).out

/-- Every transfer told at most one event, and the next step, if it comes from a transfer
that has ended, leaves the transfer that is sent now alone. -/
structure OutgoingIsolated
    (allowed : FilePage × SenderLog → FileInput → Prop)
    (remembered : FilePage × SenderLog) : Prop where
  once : ∀ tid, (remembered.2.eventsOf tid).length ≤ 1
  spares : ∀ input tid,
    machine.enabled remembered.1 input → allowed remembered input →
      remembered.2.origin remembered.1 input = some tid →
        remembered.1.files.currentActiveTid ≠ some tid →
          remembered.1.SparesCurrent input

/--
In every run in which a chunk send is refused only while its transfer is being
sent, what an ended transfer leaves behind does not touch the phase, the queue,
the worker, the progress or the digest of a later one, and every transfer tells
at most one event.
-/
theorem outgoing_transfers_isolated
    {remembered : FilePage × SenderLog}
    (reachable : senderMachine.Reachable Unused SettlesInTime remembered) :
    OutgoingIsolated SettlesInTime remembered := by
  have sound := senderSound_of_reachable reachable
  refine ⟨sound.once, ?_⟩
  intro input tid _ allowed isOrigin past
  have spares := sound.spares allowed.chunks isOrigin past
  refine ⟨spares.transferActive, spares.pendingSendQueue, spares.activeWorker,
    spares.workerFinalReceived, spares.pendingSha256Hex, ?_⟩
  intro plaintext continuation isChunk
  have isEarlier := spares.chunks plaintext continuation isChunk
  rw [sound.effects] at isEarlier
  cases isEarlier

/-! ## A chunk that outlives its transfer -/

/-- Most calls are always in turn. -/
theorem settlesInTime_of_call
    {remembered : FilePage × SenderLog}
    (isNew : ∀ file tid, input.call = .startTransfer file tid →
      tid ∉ remembered.2.generated)
    (notReset : input.call ≠ .resetOnTerminate)
    (notSettled : ∀ index sent, input.call ≠ .settled index sent) :
    SettlesInTime remembered input where
  called := ⟨isNew, fun isReset => absurd isReset notReset⟩
  chunks index sent _ _ _ _ isCall := absurd isCall (notSettled index sent)

def Sample.laterId : Text := List.replicate 16 0x62

/-- A transfer is cancelled while a chunk of it is being sent, and another file is offered. -/
def Sample.cancelledWhileSending : List FileInput :=
  [ Sample.call (.startTransfer Sample.file Sample.transferId),
    Sample.call (.envelope (.fileAccept Sample.transferId)),
    Sample.call (.event (.sendWorkerMessage 1 (.plaintextChunk 0 (List.replicate 13 0)))),
    Sample.call (.event (.sendWorkerMessage 1 .ready)),
    Sample.call (.cancelSender .userAborted),
    Sample.call (.startTransfer Sample.file Sample.laterId) ]

/-- The page after that. -/
def Sample.laterOffered : FilePage × SenderLog :=
  senderMachine.run (Sample.newPage, ⟨⟨[], []⟩, [], []⟩) Sample.cancelledWhileSending

theorem reachable_laterOffered :
    senderMachine.Reachable Unused SettlesInTime Sample.laterOffered := by
  refine .run (.start ⟨Sample.created_newPage, rfl⟩)
    ⟨trivial, ?_, trivial, ?_, trivial, ?_, trivial, ?_, trivial, ?_, trivial, ?_, trivial⟩
  all_goals refine settlesInTime_of_call ?_ (by simp [Sample.call]) (by simp [Sample.call])
  · intro _ _ _ isGenerated
    cases isGenerated
  · simp [Sample.call]
  · simp [Sample.call]
  · simp [Sample.call]
  · simp [Sample.call]
  · intro file tid isCall
    cases isCall
    decide +kernel

/-- The chunk was sent after all; the file offered meanwhile is still offered. -/
theorem outgoing_transfers_isolated_in_sample :
    (Sample.laterOffered.1.step (Sample.call (.settled 1 true))).files.transferActive =
      some (.offered Sample.laterId Sample.file.name 1 Sample.file) := by
  have settles : SettlesInTime Sample.laterOffered (Sample.call (.settled 1 true)) := by
    refine ⟨⟨by simp [FreshIds, Sample.call], by simp [Sample.call]⟩, ?_⟩
    intro index sent send worker tid dataLength isCall _ _
    cases isCall
    exact .inr ⟨rfl, .inr rfl⟩
  have spares := (outgoing_transfers_isolated reachable_laterOffered).spares
    (Sample.call (.settled 1 true)) Sample.transferId (by decide +kernel) settles
    (by decide +kernel) (by decide +kernel)
  rw [spares.phase]
  decide +kernel

/-- The refused chunk of a cancelled transfer ends the one that was offered meanwhile. -/
theorem refused_chunk_ends_later_transfer :
    ¬ ∀ remembered, senderMachine.Reachable Unused CalledInTurn remembered →
      OutgoingIsolated CalledInTurn remembered := by
  intro claimed
  have reachable : senderMachine.Reachable Unused CalledInTurn Sample.laterOffered :=
    reachable_laterOffered.mono fun _ _ settles => settles.called
  have called : CalledInTurn Sample.laterOffered (Sample.call (.settled 1 false)) :=
    ⟨by simp [FreshIds, Sample.call], by simp [Sample.call]⟩
  have spares := (claimed _ reachable).spares
    (Sample.call (.settled 1 false)) Sample.transferId (by decide +kernel) called
    (by decide +kernel) (by decide +kernel)
  have isEnded : (Sample.laterOffered.1.step
      (Sample.call (.settled 1 false))).files.transferActive = none := by
    decide +kernel
  have isOffered := spares.phase
  rw [isEnded] at isOffered
  revert isOffered
  decide +kernel

end FilePage

end Unseen
