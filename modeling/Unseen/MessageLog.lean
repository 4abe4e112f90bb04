import Unseen.FileTransfer
import Unseen.History

namespace Unseen

/-!
# The message log

Messages are appended to a buffer, and an animation frame moves the buffer to
the list that is shown, which keeps only its last few hundred messages.  Frames
that were requested come at any later time, also after the log was cleared.
-/

/-- `ChatMessage` -/
structure ChatMessage where
  id : Text
  incoming : Bool
  body : Text
  receivedAtIso : Text

/-- `SystemMessage` -/
structure SystemMessage where
  id : Text
  event : SystemEventKind
  receivedAtIso : Text

/-- `FileMessage` -/
structure FileMessage where
  id : Text
  tid : Text
  incoming : Bool
  receivedAtIso : Text

/-- `Message` -/
inductive Message where
  | chat (message : ChatMessage)
  | system (message : SystemMessage)
  | file (message : FileMessage)

/-- The messages that `removeSystemMessage` takes out. -/
def Message.isSystemMessage (event : SystemEventKind) : Message → Bool
  | .system message => message.event == event
  | _ => false

/-- `MAX_DOM_MESSAGES` -/
def maxDomMessages : Nat := 500

/-- The signals of the log and its module variables; `frames` counts the callbacks that the
browser has not run yet. -/
structure MessageLog where
  messages : List Message
  prunedCount : Nat
  pending : List Message
  rafScheduled : Bool
  frames : Nat

namespace MessageLog

/-- The log of a page that has just been loaded. -/
def empty : MessageLog where
  messages := []
  prunedCount := 0
  pending := []
  rafScheduled := false
  frames := 0

/-- `flushPending` -/
def flushPending (log : MessageLog) : MessageLog :=
  let flushed := { log with rafScheduled := false }
  if flushed.pending.isEmpty then
    flushed
  else
    let next := flushed.messages ++ flushed.pending
    if maxDomMessages < next.length then
      let overflow := next.length - maxDomMessages
      { flushed with
        pending := []
        prunedCount := flushed.prunedCount + overflow
        messages := next.drop overflow }
    else
      { flushed with pending := [], messages := next }

/-- `scheduleFlush` -/
def scheduleFlush (log : MessageLog) : MessageLog :=
  if log.rafScheduled then
    log
  else
    { log with rafScheduled := true, frames := log.frames + 1 }

/-- What all three functions that append do with their message. -/
def push (log : MessageLog) (message : Message) : MessageLog :=
  { log with pending := log.pending ++ [message] }.scheduleFlush

/-- `appendMessage` -/
def appendMessage (log : MessageLog) (message : ChatMessage) : MessageLog :=
  log.push (.chat message)

/-- `appendSystemMessage`; `id` is the generated id. -/
def appendSystemMessage
    (log : MessageLog)
    (id : Text)
    (event : SystemEventKind)
    (receivedAtIso : Text) : MessageLog :=
  log.push (.system { id, event, receivedAtIso })

/-- `appendFileMessage`; `id` is the generated id. -/
def appendFileMessage
    (log : MessageLog)
    (id tid : Text)
    (incoming : Bool)
    (receivedAtIso : Text) : MessageLog :=
  log.push (.file { id, tid, incoming, receivedAtIso })

/-- `clearMessages`; callbacks that were requested stay requested. -/
def clearMessages (log : MessageLog) : MessageLog :=
  { log with pending := [], rafScheduled := false, prunedCount := 0, messages := [] }

/-- `removeSystemMessage` -/
def removeSystemMessage (log : MessageLog) (event : SystemEventKind) : MessageLog :=
  let remaining := { log with pending := log.pending.filter (!·.isSystemMessage event) }
  let filtered := log.messages.filter (!·.isSystemMessage event)
  if filtered.length ≠ log.messages.length then
    { remaining with messages := filtered }
  else
    remaining

/-- What happens to the log. -/
inductive Operation where
  | appendMessage (message : ChatMessage)
  | appendSystemMessage (id : Text) (event : SystemEventKind) (receivedAtIso : Text)
  | appendFileMessage (id tid : Text) (incoming : Bool) (receivedAtIso : Text)
  | frame
  | removeSystemMessage (event : SystemEventKind)
  | clearMessages

/-- The browser runs callbacks that were requested, whenever it likes. -/
def machine : EventMachine.Machine MessageLog Operation where
  enabled log operation :=
    match operation with
    | .frame => 0 < log.frames
    | _ => True
  step log operation :=
    match operation with
    | .appendMessage message => log.appendMessage message
    | .appendSystemMessage id event receivedAtIso =>
        log.appendSystemMessage id event receivedAtIso
    | .appendFileMessage id tid incoming receivedAtIso =>
        log.appendFileMessage id tid incoming receivedAtIso
    | .frame => { log with frames := log.frames - 1 }.flushPending
    | .removeSystemMessage event => log.removeSystemMessage event
    | .clearMessages => log.clearMessages

/-- The messages that are shown or wait, in order. -/
def kept (log : MessageLog) : List Message :=
  log.messages ++ log.pending

/-! ## The plain list -/

/-- The message that an operation appends. -/
def Operation.appended : Operation → Option Message
  | .appendMessage message => some (.chat message)
  | .appendSystemMessage id event receivedAtIso =>
      some (.system { id, event, receivedAtIso })
  | .appendFileMessage id tid incoming receivedAtIso =>
      some (.file { id, tid, incoming, receivedAtIso })
  | _ => none

/-- The messages appended since the log was last cleared and not removed, and how many
messages were too many for the cap when frames came since then. -/
structure Ledger where
  appended : List Message
  dropped : Nat

/-- What an operation means for the plain list. -/
def Ledger.record (ledger : Ledger) (log : MessageLog) (operation : Operation) : Ledger :=
  match operation with
  | .clearMessages => { appended := [], dropped := 0 }
  | .removeSystemMessage event =>
      { ledger with appended := ledger.appended.filter (!·.isSystemMessage event) }
  | .frame => { ledger with dropped := ledger.dropped + (log.kept.length - maxDomMessages) }
  | _ => { ledger with appended := ledger.appended ++ operation.appended.toList }

/-- The log and the plain list it stands for. -/
def ledgerMachine : EventMachine.Machine (MessageLog × Ledger) Operation :=
  machine.remember Ledger.record

/-- Nothing was appended. -/
def Loaded (remembered : MessageLog × Ledger) : Prop :=
  remembered = (empty, { appended := [], dropped := 0 })

/-- The log is a window at the end of the plain list: in order, within the cap, and missing
only what the counter says. -/
structure Conserves (log : MessageLog) (ledger : Ledger) : Prop where
  capped : log.messages.length ≤ maxDomMessages
  suffix : log.kept <:+ ledger.appended
  pruned : log.prunedCount = ledger.dropped
  complete : ledger.appended.length ≤ ledger.dropped + log.kept.length

variable {log : MessageLog} {ledger : Ledger}

/-- A frame shows the last messages, as many as the cap allows, and counts the others. -/
theorem flushPending_spec
    (capped : log.messages.length ≤ maxDomMessages) :
    log.flushPending.messages = log.kept.drop (log.kept.length - maxDomMessages) ∧
      log.flushPending.pending = [] ∧
      log.flushPending.prunedCount = log.prunedCount + (log.kept.length - maxDomMessages) := by
  unfold flushPending kept
  generalize maxDomMessages = cap at capped ⊢
  dsimp only
  split
  next isEmpty =>
    have nonePending : log.pending = [] := List.isEmpty_iff.mp isEmpty
    rw [nonePending, List.append_nil, Nat.sub_eq_zero_of_le capped]
    exact ⟨rfl, rfl, rfl⟩
  next =>
    split
    next => exact ⟨rfl, rfl, rfl⟩
    next fits =>
      rw [Nat.sub_eq_zero_of_le (Nat.le_of_not_lt fits)]
      exact ⟨rfl, rfl, rfl⟩

theorem kept_flushPending
    (capped : log.messages.length ≤ maxDomMessages) :
    log.flushPending.kept = log.kept.drop (log.kept.length - maxDomMessages) := by
  obtain ⟨isShown, nonePending, -⟩ := flushPending_spec capped
  rw [kept, isShown, nonePending, List.append_nil]

theorem Conserves.flush
    (conserves : Conserves log ledger) :
    Conserves log.flushPending
      { ledger with dropped := ledger.dropped + (log.kept.length - maxDomMessages) } := by
  obtain ⟨isShown, -, pruned⟩ := flushPending_spec conserves.capped
  have isKept := kept_flushPending conserves.capped
  refine ⟨?_, ?_, ?_, ?_⟩
  · rw [isShown, List.length_drop]
    omega
  · rw [isKept]
    exact (List.drop_suffix _ _).trans conserves.suffix
  · rw [pruned, conserves.pruned]
  · have complete := conserves.complete
    rw [isKept, List.length_drop]
    change ledger.appended.length ≤ ledger.dropped + _ + _
    omega

theorem scheduleFlush_spec (log : MessageLog) :
    log.scheduleFlush.messages = log.messages ∧ log.scheduleFlush.pending = log.pending ∧
      log.scheduleFlush.prunedCount = log.prunedCount := by
  unfold scheduleFlush
  split <;> exact ⟨rfl, rfl, rfl⟩

theorem Conserves.push (conserves : Conserves log ledger) (message : Message) :
    Conserves (log.push message) { ledger with appended := ledger.appended ++ [message] } := by
  obtain ⟨sameMessages, isPending, samePruned⟩ :=
    scheduleFlush_spec { log with pending := log.pending ++ [message] }
  have isKept : (log.push message).kept = log.kept ++ [message] := by
    rw [kept, MessageLog.push, sameMessages, isPending, kept, List.append_assoc]
  refine ⟨?_, ?_, samePruned.trans conserves.pruned, ?_⟩
  · rw [MessageLog.push, sameMessages]
    exact conserves.capped
  · rw [isKept]
    exact (List.suffix_append_self_iff.mpr conserves.suffix)
  · have complete := conserves.complete
    rw [isKept, List.length_append, List.length_append]
    change _ ≤ ledger.dropped + _
    omega

theorem removeSystemMessage_spec (log : MessageLog) (event : SystemEventKind) :
    (log.removeSystemMessage event).messages =
        log.messages.filter (!·.isSystemMessage event) ∧
      (log.removeSystemMessage event).pending =
        log.pending.filter (!·.isSystemMessage event) ∧
      (log.removeSystemMessage event).prunedCount = log.prunedCount := by
  unfold removeSystemMessage
  dsimp only
  split
  next => exact ⟨rfl, rfl, rfl⟩
  next sameLength =>
    have isSublist : (log.messages.filter (!·.isSystemMessage event)).Sublist log.messages :=
      List.filter_sublist
    exact ⟨(isSublist.eq_of_length (not_not.mp sameLength)).symm, rfl, rfl⟩

theorem Conserves.remove (conserves : Conserves log ledger) (event : SystemEventKind) :
    Conserves (log.removeSystemMessage event)
      { ledger with appended := ledger.appended.filter (!·.isSystemMessage event) } := by
  obtain ⟨isMessages, isPending, samePruned⟩ := removeSystemMessage_spec log event
  have isKept : (log.removeSystemMessage event).kept =
      log.kept.filter (!·.isSystemMessage event) := by
    rw [kept, isMessages, isPending, kept, List.filter_append]
  refine ⟨?_, ?_, samePruned.trans conserves.pruned, ?_⟩
  · rw [isMessages]
    exact Nat.le_trans (List.length_filter_le _ _) conserves.capped
  · rw [isKept]
    exact conserves.suffix.filter _
  · -- what is missing at the front can only become less
    obtain ⟨missing, isSplit⟩ := conserves.suffix
    have complete := conserves.complete
    rw [← isSplit, List.length_append] at complete
    have fewer := List.length_filter_le (!·.isSystemMessage event) missing
    rw [isKept]
    change (ledger.appended.filter _).length ≤ ledger.dropped + _
    rw [← isSplit, List.filter_append, List.length_append]
    omega

theorem Conserves.step (conserves : Conserves log ledger) (operation : Operation) :
    Conserves (machine.step log operation) (ledger.record log operation) := by
  cases operation with
  | appendMessage | appendSystemMessage | appendFileMessage => exact conserves.push _
  | frame =>
      have ran : Conserves { log with frames := log.frames - 1 } ledger :=
        ⟨conserves.capped, conserves.suffix, conserves.pruned, conserves.complete⟩
      exact ran.flush
  | removeSystemMessage event => exact conserves.remove event
  | clearMessages => exact ⟨Nat.zero_le _, List.suffix_refl _, rfl, Nat.le_refl _⟩

/-! ## Waiting messages -/

/-- A message that waits has a frame coming. -/
structure Scheduled (log : MessageLog) : Prop where
  requested : log.rafScheduled = true → 0 < log.frames
  waiting : log.pending ≠ [] → log.rafScheduled = true

theorem scheduled_of_empty
    (isEmpty : log.pending = [])
    (notScheduled : log.rafScheduled = false) :
    log.Scheduled where
  requested isScheduled := absurd (notScheduled.symm.trans isScheduled) Bool.false_ne_true
  waiting isWaiting := absurd isEmpty isWaiting

theorem Scheduled.push (scheduled : log.Scheduled) (message : Message) :
    (log.push message).Scheduled := by
  unfold MessageLog.push scheduleFlush
  split
  next isScheduled => exact ⟨scheduled.requested, fun _ => isScheduled⟩
  next => exact ⟨fun _ => Nat.succ_pos _, fun _ => rfl⟩

theorem scheduled_flushPending (log : MessageLog) : log.flushPending.Scheduled := by
  unfold flushPending
  dsimp only
  split
  next isEmpty => exact scheduled_of_empty (List.isEmpty_iff.mp isEmpty) rfl
  next => split <;> exact scheduled_of_empty rfl rfl

theorem Scheduled.remove (scheduled : log.Scheduled) (event : SystemEventKind) :
    (log.removeSystemMessage event).Scheduled := by
  have waiting : log.pending.filter (!·.isSystemMessage event) ≠ [] →
      log.rafScheduled = true := by
    intro remain
    apply scheduled.waiting
    rintro isEmpty
    rw [isEmpty] at remain
    exact remain rfl
  unfold removeSystemMessage
  dsimp only
  split <;> exact ⟨scheduled.requested, waiting⟩

/-- No message waits for ever: whatever happened, a frame that shows it is due. -/
theorem scheduled_of_reachable
    {remembered : MessageLog × Ledger}
    (reachable : ledgerMachine.Reachable Loaded EventMachine.Machine.anyStep remembered) :
    remembered.1.Scheduled := by
  induction reachable with
  | start isLoaded =>
      rw [isLoaded]
      exact scheduled_of_empty rfl rfl
  | @next remembered operation _ _ _ scheduled =>
      cases operation with
      | appendMessage | appendSystemMessage | appendFileMessage => exact scheduled.push _
      | frame => exact scheduled_flushPending _
      | removeSystemMessage event => exact scheduled.remove event
      | clearMessages => exact scheduled_of_empty rfl rfl

/-! ## The law of the log -/

theorem conserves_of_reachable
    {remembered : MessageLog × Ledger}
    (reachable : ledgerMachine.Reachable Loaded EventMachine.Machine.anyStep remembered) :
    Conserves remembered.1 remembered.2 := by
  induction reachable with
  | start isLoaded =>
      rw [isLoaded]
      exact ⟨Nat.zero_le _, List.suffix_refl _, rfl, Nat.le_refl _⟩
  | next _ _ _ ih => exact ih.step _

/--
Whatever is appended, removed and cleared, and whenever frames come, the shown
list keeps its cap, and with the buffer it is the end of the plain list, short
of exactly the messages that were too many when frames came.  A message that waits
has a frame coming, which shows the last messages, as many as the cap allows.
-/
theorem messageLog_conserves
    {remembered : MessageLog × Ledger}
    (reachable : ledgerMachine.Reachable Loaded EventMachine.Machine.anyStep remembered) :
    Conserves remembered.1 remembered.2 ∧
      remembered.1.Scheduled ∧
      remembered.1.flushPending.messages =
        remembered.1.kept.drop (remembered.1.kept.length - maxDomMessages) ∧
      remembered.1.flushPending.pending = [] := by
  have conserves := conserves_of_reachable reachable
  obtain ⟨isShown, nonePending, -⟩ := flushPending_spec conserves.capped
  exact ⟨conserves, scheduled_of_reachable reachable, isShown, nonePending⟩

instance (remembered : MessageLog × Ledger) (operation : Operation) :
    Decidable (ledgerMachine.enabled remembered operation) :=
  match operation with
  | .frame => inferInstanceAs (Decidable (0 < remembered.1.frames))
  | .appendMessage _ | .appendSystemMessage _ _ _ | .appendFileMessage _ _ _ _
  | .removeSystemMessage _ | .clearMessages => inferInstanceAs (Decidable True)

/-- The log is cleared while a frame is due, and that frame comes after the next append.
Then more messages are appended than are shown. -/
def Sample.operations : List Operation :=
  [ .appendSystemMessage [0x61] .sessionStarted [],
    .clearMessages,
    .appendSystemMessage [0x62] .peerDisconnected [],
    .frame,
    .appendSystemMessage [0x63] .peerReconnected [],
    .frame,
    .removeSystemMessage .peerDisconnected ] ++
  List.replicate 501 (.appendFileMessage [0x64] [0x65] true []) ++ [.frame]

/-- The log and the plain list after these operations. -/
def Sample.remembered : MessageLog × Ledger :=
  ledgerMachine.run (empty, { appended := [], dropped := 0 }) Sample.operations

theorem messageLog_conserves_in_sample :
    Sample.remembered.1.prunedCount = 2 ∧
      Conserves Sample.remembered.1 Sample.remembered.2 ∧
      Sample.remembered.1.Scheduled :=
  have law := messageLog_conserves (.run (.start rfl) (by decide +kernel))
  ⟨by decide +kernel, law.1, law.2.1⟩

end MessageLog

end Unseen
