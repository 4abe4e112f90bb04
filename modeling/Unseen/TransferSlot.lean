import Unseen.ReceivedFiles
import Unseen.SenderMoves

namespace Unseen

/-!
# One transfer at a time

The sender and the receiver share one slot.  Each looks at the other's signal
when it takes the slot, and writes its own signal again after awaits.  The
sender only ever goes on with a transfer that its signal still holds, and the
receiver only ever writes its signal while it holds an offer or a transfer; so
neither opens a transfer that the check did not see.
-/

namespace Files

variable {files after : Files}

/-- Every offer is declined while a file is sent. -/
theorem evaluatePreAccept_of_busy
    (tid name : Text)
    (size : Nat)
    (isBusy : files.transferActive ≠ none) :
    ∃ reason, files.evaluatePreAccept tid name size = (files, .decline reason) := by
  have isSending : files.transferActive.isSome = true := Option.isSome_iff_ne_none.mpr isBusy
  unfold evaluatePreAccept
  split
  · exact ⟨_, rfl⟩
  · split
    · exact ⟨_, rfl⟩
    · split
      · exact ⟨_, rfl⟩
      · rw [isSending, Bool.true_or, if_pos rfl]
        exact ⟨_, rfl⟩

/-- Nothing is received after, unless something was received before or no file is sent. -/
def KeepsVacant (before after : Files) : Prop :=
  before.incomingActive = none → before.transferActive ≠ none → after.incomingActive = none

theorem Standstill.keepsVacant (standstill : Standstill files after) :
    KeepsVacant files after := by
  intro isVacant _
  cases isIncoming : after.incomingActive with
  | none => rfl
  | some incoming =>
      have same := standstill.incomingActive incoming isIncoming
      rw [isVacant] at same
      cases same

/-- A segment that needs a transfer to be received. -/
theorem keepsVacant_of_incoming
    {incoming : IncomingState}
    (isIncoming : files.incomingActive = some incoming) :
    KeepsVacant files after := by
  intro isVacant
  rw [isIncoming] at isVacant
  cases isVacant

theorem keepsVacant_dispatchOffer (env : FileEnv) (tid name : Text) (size : Nat) :
    KeepsVacant files (files.dispatchOffer env tid name size) := by
  intro isVacant isBusy
  obtain ⟨reason, isDeclined⟩ := evaluatePreAccept_of_busy tid name size isBusy
  unfold Files.dispatchOffer
  rw [isDeclined]
  exact isVacant

theorem keepsVacant_acceptOffer (env : FileEnv) :
    KeepsVacant files (files.acceptOffer env) := by
  rcases acceptOffer_spec files env with standstill | ⟨offer, _, isOffer, _⟩
  · exact standstill.keepsVacant
  · exact keepsVacant_of_incoming isOffer

theorem keepsVacant_settleReceiverInit (worker : Serial) (ready : Bool) :
    KeepsVacant files (files.settleReceiverInit worker ready) := by
  rcases settleReceiverInit_spec files worker ready with
    standstill | ⟨init, between, _, _, standstill, isSettled⟩
  · exact standstill.keepsVacant
  · rw [isSettled]
    exact standstill.keepsVacant

theorem keepsVacant_acceptSent
    (env : FileEnv)
    (offer : PendingOffer)
    (worker : Serial)
    (sent : Bool) :
    KeepsVacant files (files.acceptSent env offer worker sent) := by
  rcases acceptSent_spec files env offer worker sent with standstill | ⟨isCurrent, _⟩
  · exact standstill.keepsVacant
  · unfold isCurrentOffer at isCurrent
    split at isCurrent
    next isShown => exact keepsVacant_of_incoming isShown
    next => cases isCurrent

theorem keepsVacant_receiveChunk (env : FileEnv) (chunk : ParsedChunk) :
    KeepsVacant files (files.receiveChunk env chunk) := by
  rcases receiveChunk_spec files env chunk with
    ⟨isSame, _⟩ | ⟨standstill, _⟩ | ⟨state, _, isActive, _⟩
  · rw [isSame]
    exact Standstill.refl.keepsVacant
  · exact standstill.keepsVacant
  · exact keepsVacant_of_incoming isActive

theorem keepsVacant_dispatchComplete (tid sha256 : Text) :
    KeepsVacant files (files.dispatchComplete tid sha256) := by
  rcases dispatchComplete_spec files tid sha256 with
    standstill | ⟨state, _, _, isActive, _⟩
  · exact standstill.keepsVacant
  · exact keepsVacant_of_incoming isActive

end Files

namespace FilePage

variable {page : FilePage} {input : FileInput}

/-- While a file is sent, no segment opens an incoming transfer. -/
theorem keepsVacant (page : FilePage) (input : FileInput) :
    Files.KeepsVacant page.files (page.segment input.env input.call) := by
  cases page.receiverSegment input with
  | standstill standstill => exact standstill.keepsVacant
  | dispatchOffer tid name size isSegment =>
      rw [isSegment]
      exact Files.keepsVacant_dispatchOffer _ _ _ _
  | acceptOffer isSegment =>
      rw [isSegment]
      exact Files.keepsVacant_acceptOffer _
  | settleReceiverInit worker ready isSegment =>
      rw [isSegment]
      exact Files.keepsVacant_settleReceiverInit _ _
  | acceptSent send offer worker sent _ _ isSegment =>
      rw [isSegment]
      exact Files.keepsVacant_acceptSent _ _ _ _
  | receiveChunk chunk _ isSegment =>
      rw [isSegment]
      exact Files.keepsVacant_receiveChunk _ _
  | dispatchComplete tid sha256 isSegment =>
      rw [isSegment]
      exact Files.keepsVacant_dispatchComplete _ _
  | handleWorkerWritten state seq bytes isActive => exact Files.keepsVacant_of_incoming isActive
  | handleWorkerDone state _ _ _ isActive => exact Files.keepsVacant_of_incoming isActive

/-- Not both an outgoing and an incoming transfer. -/
def SingleSlot (page : FilePage) : Prop :=
  page.files.transferActive = none ∨ page.files.incomingActive = none

theorem SingleSlot.step (slot : page.SingleSlot) (input : FileInput) :
    (page.step input).SingleSlot := by
  change (page.segment input.env input.call).transferActive = none ∨
    (page.segment input.env input.call).incomingActive = none
  have kind : SegmentKind False page input := page.segmentKind input False.elim
  cases kind with
  | oneSided oneSided =>
      rcases oneSided with moves | frame
      · rcases slot with noOutgoing | noIncoming
        · left
          cases isActive : (page.segment input.env input.call).transferActive with
          | none => rfl
          | some transfer =>
              obtain ⟨earlier, isEarlier, _⟩ := moves.tid isActive
              rw [noOutgoing] at isEarlier
              cases isEarlier
        · exact .inr (moves.incomingActive.trans noIncoming)
      · by_cases noOutgoing : page.files.transferActive = none
        · exact .inl (frame.transferActive.trans noOutgoing)
        · have noIncoming := slot.resolve_left noOutgoing
          exact .inr (page.keepsVacant input noIncoming noOutgoing)
  | offers file tid _ offers => exact .inr offers.incomingActive
  | reset isReset =>
      left
      rw [isReset]
      rfl

/-- Whatever happens in whatever order, a page never has both an outgoing and an incoming
transfer. -/
theorem singleSlot_of_reachable
    (reachable : machine.Reachable Created EventMachine.Machine.anyStep page) :
    page.SingleSlot := by
  refine reachable.invariant ?_ fun _ input slot _ _ => slot.step input
  rintro _ ⟨_, _, _, _, rfl⟩
  exact .inl rfl

/-- Two offers cross on the wire, and the peer accepts the one it was sent. -/
def Sample.crossing : List FileInput :=
  [ Sample.call (.startTransfer Sample.file Sample.transferId),
    Sample.call (.envelope (.fileOffer (List.replicate 16 0x62) Sample.file.name 1)),
    Sample.call (.envelope (.fileAccept Sample.transferId)),
    Sample.call (.event (.sendWorkerMessage 1 .ready)),
    Sample.call .acceptOffer ]

theorem singleSlot_in_sample : (machine.run Sample.newPage Sample.crossing).SingleSlot :=
  singleSlot_of_reachable (.run (.start Sample.created_newPage) (by decide +kernel))

end FilePage

end Unseen
