import Unseen.Machine
import Unseen.Receive

namespace Unseen

/-!
# The secure channel of one session key

Two parties hold one session key and exchange relay frames through a relay that
may drop, reorder, replay, alter, relabel or reflect them.  Each party encrypts
with the counter allocator, takes up one received frame at a time, and records
the counter of a frame once its decryption has settled.  A party may store its
record and be reloaded from it.

The encryption is ideal: the relay can hand out a ciphertext that authenticates
under the key only if a party produced it.
-/

/-! ## Numbered sequences -/

section Numbered

variable {Item : Type}

/--
A sequence whose items are found under consecutive numbers is a prefix of every
sequence with increasing numbers that contains them.
-/
theorem prefix_of_consecutive
    (base : Nat)
    (items : List Item)
    (numbered : List (Nat × Item))
    (increasing : numbered.Pairwise fun earlier later => earlier.1 < later.1)
    (above : ∀ entry ∈ numbered, base < entry.1)
    (found : ∀ index item, items[index]? = some item → (base + index + 1, item) ∈ numbered) :
    items <+: numbered.map Prod.snd := by
  induction items generalizing base numbered with
  | nil => exact List.nil_prefix
  | cons item rest inductionHypothesis =>
      have first : (base + 1, item) ∈ numbered := found 0 item rfl
      cases numbered with
      | nil => cases first
      | cons head tail =>
          obtain ⟨headFirst, tailIncreasing⟩ := List.pairwise_cons.mp increasing
          have headEq : head = (base + 1, item) := by
            rcases List.mem_cons.mp first with same | later
            · exact same.symm
            · have lower := headFirst _ later
              have higher := above head List.mem_cons_self
              simp only at lower
              omega
          subst headEq
          simp only [List.map_cons, List.cons_prefix_cons, true_and]
          apply inductionHypothesis (base + 1) tail tailIncreasing headFirst
          intro index later laterEq
          have member := found (index + 1) later (by simpa using laterEq)
          rcases List.mem_cons.mp member with same | inTail
          · have numberEq := congrArg Prod.fst same
            simp only at numberEq
            omega
          · rwa [show base + 1 + index + 1 = base + (index + 1) + 1 by omega]

end Numbered

/-! ## The parties -/

/-- The counters of a stored record. -/
structure StoredCounters where
  s : Nat
  n : Nat

/-- A frame that was encrypted, with the counter it was encrypted under. -/
structure Encryption where
  counter : Nat
  kind : RelayKind
  plaintext : Plaintext
  ciphertext : Ciphertext Plaintext

/-- A frame whose decryption is awaited, with what was read before it began. -/
structure Decryption where
  frame : RelayFrame
  mode : CounterMode
  state : ReceiveState

/-- A party as the channel sees it, with what it has encrypted and accepted. -/
structure Party where
  counterCommitted : Nat
  counterReserved : Nat
  counterRecv : Nat
  nextRecvMode : CounterMode
  stored : Option StoredCounters
  queue : List RelayFrame
  decrypting : Option Decryption
  terminated : Bool
  encrypted : List Encryption
  accepted : List (RelayKind × Plaintext)

namespace Party

/-- A party that just installed the session key. -/
def fresh : Party where
  counterCommitted := 0
  counterReserved := 0
  counterRecv := 0
  nextRecvMode := .strict
  stored := none
  queue := []
  decrypting := none
  terminated := false
  encrypted := []
  accepted := []

/-- What the counter allocator reads. -/
def sendState (party : Party) (role : Role) (sessionKey : SessionKey) : SendState where
  counterCommitted := party.counterCommitted
  counterReserved := party.counterReserved
  role
  sessionKey

/-- What the receive functions read. -/
def receiveState (party : Party) (role : Role) (sessionKey : SessionKey) : ReceiveState where
  counterRecv := party.counterRecv
  role
  sessionKey

/-- `persistCounterReserved`: only a stored record has one. -/
def persistCounterReserved
    (party : Party)
    (storageOk : Bool) : Option (PersistCounter (Option StoredCounters)) :=
  party.stored.map fun _ stored counter =>
    if storageOk then
      (stored.map fun counters => { counters with s := counter }, true)
    else
      (stored, false)

/-- `persistCounterRecv`: only a stored record has one. -/
def persistCounterRecv
    (party : Party)
    (storageOk : Bool) : Option (PersistCounter (Option StoredCounters)) :=
  party.stored.map fun _ stored counter =>
    if storageOk then
      (stored.map fun counters => { counters with n := counter }, true)
    else
      (stored, false)

/-- Allocate a counter and encrypt; a throw of either ends the session. -/
def encrypt
    (party : Party)
    (role : Role)
    (sessionKey : SessionKey)
    (kind : RelayKind)
    (plaintext : Plaintext)
    (storageOk : Bool) : Party :=
  match allocateCounter (party.persistCounterReserved storageOk) party.stored
      (party.sendState role sessionKey) kind with
  | (stored, _, none) => { party with stored, terminated := true }
  | (stored, allocated, some counter) =>
      let advanced :=
        { party with
          stored
          counterCommitted := allocated.counterCommitted
          counterReserved := allocated.counterReserved }
      match encryptRelayFrame role sessionKey kind counter plaintext with
      | none => { advanced with terminated := true }
      | some frame =>
          { advanced with
            encrypted :=
              party.encrypted ++ [{ counter, kind, plaintext, ciphertext := frame.ciphertext }] }

/-- The session record is stored with the counters of the session. -/
def storeRecord (party : Party) : Party :=
  { party with
    stored := some { s := party.counterReserved, n := party.counterRecv } }

/-- The page is reloaded and resumes with the stored counters. -/
def reload (party : Party) : Party :=
  match party.stored with
  | none => party
  | some counters =>
      { party with
        counterCommitted := counters.s
        counterReserved := counters.s
        counterRecv := counters.n
        nextRecvMode := .firstGapAllowed
        queue := []
        decrypting := none
        terminated := false }

/-- Take up the next received frame: decryption begins. -/
def takeUp (party : Party) (role : Role) (sessionKey : SessionKey) : Party :=
  match party.queue with
  | [] => party
  | frame :: rest =>
      { party with
        queue := rest
        nextRecvMode := .strict
        decrypting :=
          some
            { frame
              mode := party.nextRecvMode
              state := party.receiveState role sessionKey } }

/--
The decryption of a frame settled: it is accepted or ends the session.  Once the
session has ended, only a chunk is still handed on.
-/
def settle (party : Party) (storageOk : Bool) : Party :=
  match party.decrypting with
  | none => party
  | some { frame, mode, state } =>
      let settled := { party with decrypting := none }
      match frame.kind with
      | .msg =>
          match decryptIncoming (party.persistCounterRecv storageOk) party.stored state
              frame.nonce frame.ciphertext mode with
          | (stored, after, result) =>
              if party.terminated then
                { settled with stored }
              else
                match result with
                | .ok envelope _ =>
                    { settled with
                      stored
                      counterRecv := after.counterRecv
                      accepted := party.accepted ++ [(.msg, .envelope envelope)] }
                | _ => { settled with stored, terminated := true }
      | .chunk =>
          match decryptChunkFrame state frame.nonce frame.ciphertext mode with
          | (after, .ok plaintext _) =>
              { settled with
                counterRecv := after.counterRecv
                accepted := party.accepted ++ [(.chunk, plaintext)] }
          | _ => { settled with terminated := true }
      | kind =>
          match validateAndDecryptFrame state kind frame.nonce frame.ciphertext mode with
          | .ok plaintext counter =>
              if party.terminated then
                { settled with counterRecv := counter }
              else
                { settled with
                  counterRecv := counter
                  accepted := party.accepted ++ [(kind, plaintext)] }
          | _ => { settled with terminated := true }

end Party

/-- Two parties that hold one session key. -/
structure Channel where
  sessionKey : SessionKey
  party : Role → Party

namespace Channel

/-- Change one party. -/
def update (channel : Channel) (role : Role) (after : Party) : Channel :=
  { channel with party := Function.update channel.party role after }

/-- What the parties and the relay between them can do. -/
inductive Event where
  | encrypt (role : Role) (kind : RelayKind) (plaintext : Plaintext) (storageOk : Bool)
  | storeRecord (role : Role)
  | reload (role : Role)
  | peerReconnects (role : Role)
  | deliver (role : Role) (frame : RelayFrame)
  | takeUp (role : Role)
  | settle (role : Role) (storageOk : Bool)

/-- A ciphertext the relay can hand out: one that authenticates was produced. -/
def Available (channel : Channel) (ciphertext : Ciphertext Plaintext) : Prop :=
  ∀ nonce aad plaintext,
    ciphertext = .sealed channel.sessionKey nonce aad plaintext →
      ∃ role, ∃ encryption ∈ (channel.party role).encrypted,
        encryption.ciphertext = ciphertext

/-- The events that can occur. -/
def enabled (channel : Channel) : Event → Prop
  | .encrypt role _ _ _ => (channel.party role).terminated = false
  | .storeRecord role => (channel.party role).terminated = false
  | .reload _ => True
  | .peerReconnects _ => True
  | .deliver _ frame => channel.Available frame.ciphertext
  | .takeUp role =>
      (channel.party role).terminated = false ∧ (channel.party role).decrypting = none
  | .settle _ _ => True

/-- Handle one event. -/
def step (channel : Channel) : Event → Channel
  | .encrypt role kind plaintext storageOk =>
      channel.update role
        ((channel.party role).encrypt role channel.sessionKey kind plaintext storageOk)
  | .storeRecord role => channel.update role (channel.party role).storeRecord
  | .reload role => channel.update role (channel.party role).reload
  | .peerReconnects role =>
      channel.update role { channel.party role with nextRecvMode := .firstGapAllowed }
  | .deliver role frame =>
      channel.update role
        { channel.party role with queue := (channel.party role).queue ++ [frame] }
  | .takeUp role =>
      channel.update role ((channel.party role).takeUp role channel.sessionKey)
  | .settle role storageOk => channel.update role ((channel.party role).settle storageOk)

/-- The channel as an event machine. -/
def machine : EventMachine.Machine Channel Event where
  enabled := enabled
  step := step

/-- Both parties just installed the session key. -/
def Fresh (channel : Channel) : Prop :=
  ∀ role, channel.party role = Party.fresh

/-- The receiver is not told to accept a gap: it stays in strict receive mode. -/
def StaysStrict (receiver : Role) (_channel : Channel) (event : Event) : Prop :=
  event ≠ .reload receiver ∧ event ≠ .peerReconnects receiver

/-! ## What a party has encrypted -/

end Channel

namespace Party

@[simp]
theorem reload_encrypted (party : Party) : party.reload.encrypted = party.encrypted := by
  unfold Party.reload
  split <;> rfl

@[simp]
theorem takeUp_encrypted (party : Party) (role : Role) (sessionKey : SessionKey) :
    (party.takeUp role sessionKey).encrypted = party.encrypted := by
  unfold Party.takeUp
  split <;> rfl

@[simp]
theorem settle_encrypted (party : Party) (storageOk : Bool) :
    (party.settle storageOk).encrypted = party.encrypted := by
  unfold Party.settle
  split
  · rfl
  · simp only
    split
    · split
      · rfl
      · split <;> rfl
    · split <;> rfl
    · split
      · split <;> rfl
      · rfl

/-- The counters of a party bound what it has encrypted, each under its own counter. -/
structure Sound (role : Role) (sessionKey : SessionKey) (party : Party) : Prop where
  reserved : party.counterCommitted ≤ party.counterReserved
  stored : ∀ counters, party.stored = some counters → counters.s = party.counterReserved
  increasing :
    party.encrypted.Pairwise fun earlier later => earlier.counter < later.counter
  counters :
    ∀ encryption ∈ party.encrypted,
      0 < encryption.counter ∧ encryption.counter ≤ party.counterCommitted
  produced :
    ∀ encryption ∈ party.encrypted, ∃ nonce,
      makeNonce (directionForRole role) encryption.counter = some nonce ∧
        encryption.ciphertext =
          .sealed sessionKey nonce (aadFor encryption.kind) encryption.plaintext

namespace Sound

variable {role : Role} {sessionKey : SessionKey} {party : Party}

theorem fresh : Sound role sessionKey Party.fresh where
  reserved := Nat.le_refl _
  stored := by simp [Party.fresh]
  increasing := List.Pairwise.nil
  counters := by simp [Party.fresh]
  produced := by simp [Party.fresh]

/-- Receiving changes none of the send counters. -/
theorem receives
    {after : Party}
    (sound : Sound role sessionKey party)
    (committed : after.counterCommitted = party.counterCommitted)
    (reserved : after.counterReserved = party.counterReserved)
    (encrypted : after.encrypted = party.encrypted)
    (stored : after.stored.map StoredCounters.s = party.stored.map StoredCounters.s) :
    Sound role sessionKey after where
  reserved := by rw [committed, reserved]; exact sound.reserved
  stored := by
    intro counters hasStored
    rw [hasStored] at stored
    obtain ⟨before, beforeEq, same⟩ := Option.map_eq_some_iff.mp stored.symm
    rw [reserved, ← same]
    exact sound.stored before beforeEq
  increasing := by rw [encrypted]; exact sound.increasing
  counters := by rw [encrypted, committed]; exact sound.counters
  produced := by rw [encrypted]; exact sound.produced

/-- Advancing the allocator keeps everything below the new counters. -/
theorem advance
    (sound : Sound role sessionKey party)
    (stored : Option StoredCounters)
    (reserved : Nat)
    (bounded : party.counterCommitted + 1 ≤ reserved)
    (storedReserved : ∀ counters, stored = some counters → counters.s = reserved) :
    Sound role sessionKey
      { party with
        stored
        counterCommitted := party.counterCommitted + 1
        counterReserved := reserved } where
  reserved := bounded
  stored := storedReserved
  increasing := sound.increasing
  counters := by
    intro encryption member
    have bounds := sound.counters encryption member
    exact ⟨bounds.1, Nat.le_succ_of_le bounds.2⟩
  produced := sound.produced

/-- The allocator hands out the next counter, and persists its bound first. -/
theorem allocated
    (sound : Sound role sessionKey party)
    (kind : RelayKind)
    (storageOk : Bool) :
    allocateCounter (party.persistCounterReserved storageOk) party.stored
          (party.sendState role sessionKey) kind =
        (party.stored, party.sendState role sessionKey, none) ∨
      ∃ stored reserved,
        allocateCounter (party.persistCounterReserved storageOk) party.stored
            (party.sendState role sessionKey) kind =
          (stored,
            { counterCommitted := party.counterCommitted + 1
              counterReserved := reserved
              role
              sessionKey },
            some (party.counterCommitted + 1)) ∧
          party.counterCommitted + 1 ≤ reserved ∧
          ∀ counters, stored = some counters → counters.s = reserved := by
  have bounded := sound.reserved
  have positive := blockSizeFor_pos kind
  have persists :
      ∀ persist, party.persistCounterReserved storageOk = some persist →
        ∀ bound,
          (persist party.stored bound = (party.stored, false) ∨
            ∃ counters, persist party.stored bound = (some counters, true) ∧
              counters.s = bound) := by
    intro persist isPersist bound
    obtain ⟨counters, hasStored, rfl⟩ := Option.map_eq_some_iff.mp isPersist
    rw [hasStored]
    cases storageOk with
    | false => exact Or.inl rfl
    | true => exact Or.inr ⟨_, rfl, rfl⟩
  rcases allocateCounter_cases (party.persistCounterReserved storageOk) party.stored
      (party.sendState role sessionKey) kind with
    ⟨available, handedOut⟩ | ⟨exhausted, reserves | ⟨stored, persist, isPersist, threw, refused⟩⟩
  · exact Or.inr ⟨_, _, handedOut, available, sound.stored⟩
  · obtain ⟨stored, reservedBy, handedOut⟩ := reserves
    have exhausted : party.counterReserved ≤ party.counterCommitted := exhausted
    refine Or.inr ⟨_, _, handedOut, ?_, ?_⟩
    · simp only [sendState]
      omega
    · rcases reservedBy with ⟨noPersist, rfl⟩ | ⟨persist, isPersist, persisted⟩
      · intro counters hasStored
        simp [persistCounterReserved, hasStored] at noPersist
      · rcases persists persist isPersist _ with refused | ⟨counters, stores, bound⟩
        · rw [refused] at persisted
          cases persisted
        · rw [stores] at persisted
          obtain ⟨rfl, -⟩ := Prod.mk.inj persisted
          intro later laterEq
          obtain rfl := Option.some.inj laterEq
          exact bound
  · rcases persists persist isPersist
        ((party.sendState role sessionKey).counterReserved + blockSizeFor kind) with
      kept | ⟨counters, stores, -⟩
    · rw [kept] at threw
      obtain ⟨rfl, -⟩ := Prod.mk.inj threw
      exact Or.inl refused
    · rw [stores] at threw
      cases threw

theorem encrypt
    (sound : Sound role sessionKey party)
    (kind : RelayKind)
    (plaintext : Plaintext)
    (storageOk : Bool) :
    Sound role sessionKey (party.encrypt role sessionKey kind plaintext storageOk) := by
  unfold Party.encrypt
  rcases sound.allocated kind storageOk with refused | ⟨stored, reserved, handedOut, bounded,
    storedReserved⟩
  · rw [refused]
    exact { sound with }
  · rw [handedOut]
    have advanced := sound.advance stored reserved bounded storedReserved
    simp only
    split
    · exact { advanced with }
    · rename_i frame encrypted
      obtain ⟨nonce, made, rfl⟩ := encryptRelayFrame_eq_some encrypted
      exact
        { advanced with
          increasing := by
            apply List.pairwise_append.mpr
            refine ⟨sound.increasing, List.pairwise_singleton _ _, ?_⟩
            intro earlier member new isNew
            obtain rfl := List.mem_singleton.mp isNew
            exact Nat.lt_succ_of_le (sound.counters earlier member).2
          counters := by
            intro encryption member
            rcases List.mem_append.mp member with earlier | isNew
            · exact advanced.counters encryption earlier
            · obtain rfl := List.mem_singleton.mp isNew
              exact ⟨Nat.succ_pos _, Nat.le_refl _⟩
          produced := by
            intro encryption member
            rcases List.mem_append.mp member with earlier | isNew
            · exact sound.produced encryption earlier
            · obtain rfl := List.mem_singleton.mp isNew
              exact ⟨nonce, made, rfl⟩ }

theorem storeRecord (sound : Sound role sessionKey party) :
    Sound role sessionKey party.storeRecord :=
  { sound with
    stored := by
      intro counters isStored
      obtain rfl := Option.some.inj isStored
      rfl }

/-- A reload continues above every counter that was handed out. -/
theorem reload (sound : Sound role sessionKey party) :
    Sound role sessionKey party.reload := by
  unfold Party.reload
  split
  · exact sound
  · rename_i counters isStored
    have storedReserved := sound.stored counters isStored
    exact
      { reserved := Nat.le_refl _
        stored := by
          intro later laterEq
          rw [isStored] at laterEq
          obtain rfl := Option.some.inj laterEq
          rfl
        increasing := sound.increasing
        counters := by
          intro encryption member
          have bounds := sound.counters encryption member
          refine ⟨bounds.1, Nat.le_trans bounds.2 ?_⟩
          rw [storedReserved]
          exact sound.reserved
        produced := sound.produced }

theorem takeUp (sound : Sound role sessionKey party) :
    Sound role sessionKey (party.takeUp role sessionKey) := by
  unfold Party.takeUp
  split
  · exact sound
  · exact { sound with }

/-- Persisting a receive counter keeps the stored send bound. -/
theorem settle
    (sound : Sound role sessionKey party)
    (storageOk : Bool) : Sound role sessionKey (party.settle storageOk) := by
  unfold Party.settle
  split
  · exact sound
  · rename_i frame mode state isDecrypting
    simp only
    split
    · have kept :=
        decryptIncoming_store (party.persistCounterRecv storageOk)
          (fun stored =>
            stored.map StoredCounters.s = party.stored.map StoredCounters.s)
          (by
            intro persist member stored counter same
            obtain ⟨counters, -, rfl⟩ := Option.map_eq_some_iff.mp member
            cases storageOk with
            | false => exact same
            | true =>
                rw [← same]
                cases stored <;> rfl)
          state frame.nonce frame.ciphertext mode rfl
      generalize
        decryptIncoming (party.persistCounterRecv storageOk) party.stored state
          frame.nonce frame.ciphertext mode = decrypted at kept
      obtain ⟨stored, after, result⟩ := decrypted
      simp only
      split
      · exact sound.receives rfl rfl rfl kept
      · cases result <;> exact sound.receives rfl rfl rfl kept
    · split <;> exact { sound with }
    · split
      · split <;> exact { sound with }
      · exact { sound with }

/-- A party forgets nothing of what it has encrypted. -/
theorem encrypt_grows
    (sound : Sound role sessionKey party)
    (kind : RelayKind)
    (plaintext : Plaintext)
    (storageOk : Bool) :
    party.encrypted ⊆
      (party.encrypt role sessionKey kind plaintext storageOk).encrypted := by
  unfold Party.encrypt
  rcases sound.allocated kind storageOk with refused | ⟨stored, reserved, handedOut, -⟩
  · rw [refused]
    exact List.Subset.refl _
  · rw [handedOut]
    simp only
    split
    · exact List.Subset.refl _
    · exact List.subset_append_left _ _

/-- Encrypting changes nothing of the receiving side. -/
theorem encrypt_receives
    (sound : Sound role sessionKey party)
    (kind : RelayKind)
    (plaintext : Plaintext)
    (storageOk : Bool) :
    let after := party.encrypt role sessionKey kind plaintext storageOk
    after.counterRecv = party.counterRecv ∧
      after.nextRecvMode = party.nextRecvMode ∧
      after.queue = party.queue ∧
      after.decrypting = party.decrypting ∧
      (party.terminated = true → after.terminated = true) ∧
      after.accepted = party.accepted := by
  unfold Party.encrypt
  rcases sound.allocated kind storageOk with refused | ⟨stored, reserved, handedOut, -⟩
  · rw [refused]
    exact ⟨rfl, rfl, rfl, rfl, fun _ => rfl, rfl⟩
  · rw [handedOut]
    simp only
    split
    · exact ⟨rfl, rfl, rfl, rfl, fun _ => rfl, rfl⟩
    · exact ⟨rfl, rfl, rfl, rfl, id, rfl⟩

end Sound

end Party

namespace Channel

/-! ## What a strict receiver accepts -/

theorem Available.grows
    {before after : Channel}
    {ciphertext : Ciphertext Plaintext}
    (available : before.Available ciphertext)
    (sameKey : after.sessionKey = before.sessionKey)
    (grows : ∀ role, (before.party role).encrypted ⊆ (after.party role).encrypted) :
    after.Available ciphertext := by
  intro nonce aad plaintext isSealed
  rw [sameKey] at isSealed
  obtain ⟨role, encryption, member, same⟩ := available nonce aad plaintext isSealed
  exact ⟨role, encryption, grows role member, same⟩

/-- The receiver counts what it accepts, and its peer has encrypted it in this order. -/
structure Receiving (receiver : Role) (channel : Channel) (party : Party) : Prop where
  mode : party.nextRecvMode = .strict
  queue : ∀ frame ∈ party.queue, channel.Available frame.ciphertext
  decrypting :
    ∀ decryption, party.decrypting = some decryption →
      decryption.mode = .strict ∧
        decryption.state = party.receiveState receiver channel.sessionKey ∧
        channel.Available decryption.frame.ciphertext
  counted :
    (party.decrypting = none ∧ party.terminated = true) ∨
      party.counterRecv = party.accepted.length
  found :
    ∀ index kind plaintext, party.accepted[index]? = some (kind, plaintext) →
      ∃ encryption ∈ (channel.party receiver.peer).encrypted,
        encryption.counter = index + 1 ∧
          encryption.kind = kind ∧ encryption.plaintext = plaintext

namespace Receiving

variable {receiver : Role} {channel : Channel} {party : Party}

theorem fresh : Receiving receiver channel Party.fresh where
  mode := rfl
  queue := by simp [Party.fresh]
  decrypting := by simp [Party.fresh]
  counted := Or.inr rfl
  found := by simp [Party.fresh]

theorem grows
    {after : Channel}
    (receiving : Receiving receiver channel party)
    (sameKey : after.sessionKey = channel.sessionKey)
    (grows : ∀ role, (channel.party role).encrypted ⊆ (after.party role).encrypted) :
    Receiving receiver after party where
  mode := receiving.mode
  queue := fun frame member => (receiving.queue frame member).grows sameKey grows
  decrypting := by
    intro decryption isDecrypting
    obtain ⟨mode, state, available⟩ := receiving.decrypting decryption isDecrypting
    exact ⟨mode, by rw [state, sameKey], available.grows sameKey grows⟩
  counted := receiving.counted
  found := by
    intro index kind plaintext isAccepted
    obtain ⟨encryption, member, same⟩ := receiving.found index kind plaintext isAccepted
    exact ⟨encryption, grows _ member, same⟩

/-- Sending leaves the receiving side as it is. -/
theorem sends
    {after : Party}
    (receiving : Receiving receiver channel party)
    (counterRecv : after.counterRecv = party.counterRecv)
    (mode : after.nextRecvMode = party.nextRecvMode)
    (queue : after.queue = party.queue)
    (decrypting : after.decrypting = party.decrypting)
    (terminated : party.terminated = true → after.terminated = true)
    (accepted : after.accepted = party.accepted) : Receiving receiver channel after where
  mode := mode.trans receiving.mode
  queue := by rw [queue]; exact receiving.queue
  decrypting := by
    simp only [decrypting, Party.receiveState, counterRecv]
    exact receiving.decrypting
  counted := by
    rw [decrypting, counterRecv, accepted]
    exact receiving.counted.imp (And.imp id terminated) id
  found := by rw [accepted]; exact receiving.found

/--
An authentic frame that passes the checks is the next one of the peer: the direction
excludes the own frames, the counter all but one of the peer's, and the associated
data fixes its kind.
-/
theorem next_of_valid
    (sound : ∀ role, Party.Sound role channel.sessionKey (channel.party role))
    {frame : RelayFrame}
    (available : channel.Available frame.ciphertext)
    {kind : RelayKind}
    {plaintext : Plaintext}
    {counter : Nat}
    (valid :
      validateAndDecryptFrame (party.receiveState receiver channel.sessionKey) kind
          frame.nonce frame.ciphertext .strict =
        .ok plaintext counter) :
    counter = party.counterRecv + 1 ∧
      ∃ encryption ∈ (channel.party receiver.peer).encrypted,
        encryption.counter = counter ∧
          encryption.kind = kind ∧ encryption.plaintext = plaintext := by
  obtain ⟨fields, follows, isSealed⟩ := validateAndDecryptFrame_ok valid
  have next : counter = party.counterRecv + 1 := by
    simpa [counterFollows, Party.receiveState] using follows
  refine ⟨next, ?_⟩
  obtain ⟨role, encryption, member, same⟩ := available _ _ _ isSealed
  obtain ⟨nonce, made, produced⟩ := (sound role).produced encryption member
  have agree := (produced.symm.trans same).trans isSealed
  obtain ⟨-, rfl, sameAad, samePlaintext⟩ := Ciphertext.sealed.inj agree
  have parsed := (parseNonce_makeNonce made).symm.trans fields
  obtain ⟨sameDirection, sameCounter, -⟩ := NonceFields.mk.inj parsed
  have samePeer : role = receiver.peer := by
    apply directionForRole_injective
    rw [sameDirection, expectedPeerDirection_eq]
    rfl
  subst samePeer
  exact ⟨encryption, member, sameCounter, aadFor_injective sameAad, samePlaintext⟩

/-- The next frame of the peer is accepted and counted. -/
theorem accept
    (receiving : Receiving receiver channel party)
    {after : Party}
    (live : party.counterRecv = party.accepted.length)
    {kind : RelayKind}
    {plaintext : Plaintext}
    {counter : Nat}
    (next : counter = party.counterRecv + 1)
    (encrypted :
      ∃ encryption ∈ (channel.party receiver.peer).encrypted,
        encryption.counter = counter ∧
          encryption.kind = kind ∧ encryption.plaintext = plaintext)
    (mode : after.nextRecvMode = party.nextRecvMode)
    (queue : after.queue = party.queue)
    (decrypting : after.decrypting = none)
    (counterRecv : after.counterRecv = counter)
    (accepted : after.accepted = party.accepted ++ [(kind, plaintext)]) :
    Receiving receiver channel after where
  mode := mode.trans receiving.mode
  queue := by rw [queue]; exact receiving.queue
  decrypting := by simp [decrypting]
  counted := Or.inr (by rw [counterRecv, accepted, next, live]; simp)
  found := by
    intro index otherKind otherPlaintext isAccepted
    rw [accepted] at isAccepted
    rcases Nat.lt_trichotomy index party.accepted.length with earlier | same | later
    · rw [List.getElem?_append_left earlier] at isAccepted
      exact receiving.found index otherKind otherPlaintext isAccepted
    · subst same
      simp only [List.getElem?_concat_length, Option.some.injEq, Prod.mk.injEq] at isAccepted
      obtain ⟨rfl, rfl⟩ := isAccepted
      obtain ⟨encryption, member, sameCounter, same⟩ := encrypted
      exact ⟨encryption, member, by rw [sameCounter, next, live], same⟩
    · rw [List.getElem?_eq_none (by simp; omega)] at isAccepted
      cases isAccepted

/-- A frame that is not accepted ends the session. -/
theorem refuse
    (receiving : Receiving receiver channel party)
    {after : Party}
    (mode : after.nextRecvMode = party.nextRecvMode)
    (queue : after.queue = party.queue)
    (decrypting : after.decrypting = none)
    (terminated : after.terminated = true)
    (accepted : after.accepted = party.accepted) : Receiving receiver channel after where
  mode := mode.trans receiving.mode
  queue := by rw [queue]; exact receiving.queue
  decrypting := by simp [decrypting]
  counted := Or.inl ⟨decrypting, terminated⟩
  found := by rw [accepted]; exact receiving.found

theorem takeUp
    (receiving : Receiving receiver channel party)
    (live : party.terminated = false) :
    Receiving receiver channel (party.takeUp receiver channel.sessionKey) := by
  unfold Party.takeUp
  split
  · exact receiving
  · rename_i frame rest queueEq
    have counted : party.counterRecv = party.accepted.length := by
      rcases receiving.counted with ⟨-, ended⟩ | counted
      · rw [live] at ended
        cases ended
      · exact counted
    exact
      { mode := rfl
        queue := fun later member => receiving.queue later (by simp [queueEq, member])
        decrypting := by
          intro decryption isDecrypting
          obtain rfl := Option.some.inj isDecrypting
          exact ⟨receiving.mode, rfl, receiving.queue frame (by simp [queueEq])⟩
        counted := Or.inr counted
        found := receiving.found }

theorem settle
    (receiving : Receiving receiver channel party)
    (sound : ∀ role, Party.Sound role channel.sessionKey (channel.party role))
    (storageOk : Bool) : Receiving receiver channel (party.settle storageOk) := by
  unfold Party.settle
  split
  · exact receiving
  · rename_i frame mode state isDecrypting
    obtain ⟨isStrict, isState, available⟩ := receiving.decrypting _ isDecrypting
    simp only at isStrict isState available
    subst isStrict isState
    have live : party.counterRecv = party.accepted.length := by
      rcases receiving.counted with ⟨none, -⟩ | counted
      · rw [isDecrypting] at none
        cases none
      · exact counted
    simp only
    split
    · rename_i isMessage
      generalize decryptedEq :
        decryptIncoming (party.persistCounterRecv storageOk) party.stored
          (party.receiveState receiver channel.sessionKey) frame.nonce frame.ciphertext
          .strict = decrypted
      obtain ⟨stored, after, result⟩ := decrypted
      simp only
      split
      · rename_i ended
        exact receiving.refuse rfl rfl rfl ended rfl
      · cases result with
        | ok envelope counter =>
            obtain ⟨plaintext, valid, decodes, recorded⟩ :=
              decryptIncoming_ok (party.persistCounterRecv storageOk) party.stored
                (party.receiveState receiver channel.sessionKey) frame.nonce
                frame.ciphertext .strict envelope counter (by rw [decryptedEq])
            rw [decryptedEq] at recorded
            obtain ⟨next, encrypted⟩ := next_of_valid sound available valid
            have isEnvelope : plaintext = .envelope envelope := by
              cases plaintext <;> simp_all [decodeEnvelope]
            subst isEnvelope
            exact receiving.accept live next encrypted rfl rfl rfl
              (by simp only at recorded; rw [recorded]) rfl
        | _ => exact receiving.refuse rfl rfl rfl rfl rfl
    · split
      · rename_i after plaintext counter decrypted
        obtain ⟨valid, recorded⟩ := decryptChunkFrame_ok decrypted
        obtain ⟨next, encrypted⟩ := next_of_valid sound available valid
        exact receiving.accept live next encrypted rfl rfl rfl (by rw [recorded]) rfl
      · exact receiving.refuse rfl rfl rfl rfl rfl
    · split
      · rename_i plaintext counter valid
        obtain ⟨next, encrypted⟩ := next_of_valid sound available valid
        split
        · rename_i ended
          exact receiving.refuse rfl rfl rfl ended rfl
        · exact receiving.accept live next encrypted rfl rfl rfl rfl rfl
      · exact receiving.refuse rfl rfl rfl rfl rfl

end Receiving

/-! ## The prefix law -/

/-- Both parties are sound, and the receiver has accepted a sequence of its peer. -/
structure Ordered (receiver : Role) (channel : Channel) : Prop where
  sound : ∀ role, Party.Sound role channel.sessionKey (channel.party role)
  receiving : Receiving receiver channel (channel.party receiver)

namespace Ordered

variable {receiver : Role} {channel : Channel}

/-- One party changes: it stays sound, and as the receiver it counts what it accepts. -/
theorem update
    (ordered : Ordered receiver channel)
    {role : Role}
    {after : Party}
    (sound : Party.Sound role channel.sessionKey after)
    (grows : (channel.party role).encrypted ⊆ after.encrypted)
    (receiving : role = receiver → Receiving receiver channel after) :
    Ordered receiver (channel.update role after) := by
  have growsAll :
      ∀ other,
        (channel.party other).encrypted ⊆
          ((channel.update role after).party other).encrypted := by
    intro other
    by_cases same : other = role
    · subst same
      simpa [Channel.update] using grows
    · simp [Channel.update, Function.update_of_ne same]
  refine ⟨?_, ?_⟩
  · intro other
    by_cases same : other = role
    · subst same
      simpa [Channel.update] using sound
    · simpa [Channel.update, Function.update_of_ne same] using ordered.sound other
  · by_cases same : receiver = role
    · have partyEq : (channel.update role after).party receiver = after := by
        simp [Channel.update, same]
      rw [partyEq]
      exact (receiving same.symm).grows rfl growsAll
    · have partyEq :
          (channel.update role after).party receiver = channel.party receiver := by
        simp [Channel.update, Function.update_of_ne same]
      rw [partyEq]
      exact ordered.receiving.grows rfl growsAll

/-- Every step of a channel whose receiver stays strict keeps the order. -/
theorem step
    (ordered : Ordered receiver channel)
    {event : Event}
    (isEnabled : channel.enabled event)
    (staysStrict : StaysStrict receiver channel event) :
    Ordered receiver (channel.step event) := by
  cases event with
  | encrypt role kind plaintext storageOk =>
      have sound := ordered.sound role
      refine ordered.update (sound.encrypt kind plaintext storageOk)
        (sound.encrypt_grows kind plaintext storageOk) ?_
      rintro rfl
      obtain ⟨counterRecv, mode, queue, decrypting, terminated, accepted⟩ :=
        sound.encrypt_receives kind plaintext storageOk
      exact ordered.receiving.sends counterRecv mode queue decrypting terminated accepted
  | storeRecord role =>
      refine ordered.update (ordered.sound role).storeRecord (List.Subset.refl _) ?_
      rintro rfl
      exact ordered.receiving.sends rfl rfl rfl rfl id rfl
  | reload role =>
      refine ordered.update (ordered.sound role).reload
        (by rw [Party.reload_encrypted]; exact List.Subset.refl _) ?_
      rintro rfl
      exact absurd rfl staysStrict.1
  | peerReconnects role =>
      refine ordered.update { ordered.sound role with } (List.Subset.refl _) ?_
      rintro rfl
      exact absurd rfl staysStrict.2
  | deliver role frame =>
      refine ordered.update { ordered.sound role with } (List.Subset.refl _) ?_
      rintro rfl
      exact
        { ordered.receiving with
          queue := by
            intro later member
            rcases List.mem_append.mp member with earlier | isNew
            · exact ordered.receiving.queue later earlier
            · obtain rfl := List.mem_singleton.mp isNew
              exact isEnabled }
  | takeUp role =>
      refine ordered.update (ordered.sound role).takeUp
        (by rw [Party.takeUp_encrypted]; exact List.Subset.refl _) ?_
      rintro rfl
      exact ordered.receiving.takeUp isEnabled.1
  | settle role storageOk =>
      refine ordered.update ((ordered.sound role).settle storageOk)
        (by rw [Party.settle_encrypted]; exact List.Subset.refl _) ?_
      rintro rfl
      exact ordered.receiving.settle ordered.sound storageOk

end Ordered

/--
Whatever the relay does, a receiver that stays in strict receive mode has accepted a
prefix of what its peer encrypted: the same frame kinds and plaintexts, in order and
without gap or repetition.
-/
theorem accepted_prefix_of_encrypted
    (receiver : Role)
    {channel : Channel}
    (reachable : machine.Reachable Fresh (StaysStrict receiver) channel) :
    (channel.party receiver).accepted <+:
      (channel.party receiver.peer).encrypted.map fun encryption =>
        (encryption.kind, encryption.plaintext) := by
  have ordered : Ordered receiver channel := by
    apply reachable.invariant
    · intro start isFresh
      exact
        { sound := fun role => by rw [isFresh role]; exact .fresh
          receiving := by rw [isFresh receiver]; exact .fresh }
    · intro state event holds isEnabled isAllowed
      exact holds.step isEnabled isAllowed
  have numbered :=
    prefix_of_consecutive 0 (channel.party receiver).accepted
      ((channel.party receiver.peer).encrypted.map fun encryption =>
        (encryption.counter, (encryption.kind, encryption.plaintext)))
      (List.pairwise_map.mpr (ordered.sound receiver.peer).increasing)
      (by
        intro entry member
        obtain ⟨encryption, isEncrypted, rfl⟩ := List.mem_map.mp member
        exact ((ordered.sound receiver.peer).counters encryption isEncrypted).1)
      (by
        rintro index ⟨kind, plaintext⟩ isAccepted
        obtain ⟨encryption, isEncrypted, counterEq, rfl, rfl⟩ :=
          ordered.receiving.found index kind plaintext isAccepted
        exact List.mem_map.mpr ⟨encryption, isEncrypted, by rw [counterEq, Nat.zero_add]⟩)
  simpa [List.map_map, Function.comp_def] using numbered

/-- Two parties that just completed a handshake. -/
def established : Channel where
  sessionKey := .handshake { device := 0, serial := 0 } { device := 1, serial := 0 }
  party := fun _ => Party.fresh

/-- The first message of the initiator. -/
def greeting : RelayFrame :=
  (encryptRelayFrame .initiator established.sessionKey .msg 1 (.envelope (.msg [] []))).get
    (by decide)

/-- The initiator sends a message and a chunk, of which the message arrives. -/
def greetingArrives : List Event :=
  [ .encrypt .initiator .msg (.envelope (.msg [] [])) true,
    .encrypt .initiator .chunk (.bytes []) true,
    .deliver .joiner greeting,
    .takeUp .joiner,
    .settle .joiner true ]

/-- The law when one of two frames has arrived. -/
theorem accepted_prefix_of_encrypted_greeting :
    ((machine.run established greetingArrives).party .joiner).accepted =
        [(.msg, .envelope (.msg [] []))] ∧
      ((machine.run established greetingArrives).party .joiner).accepted <+:
        ((machine.run established greetingArrives).party .initiator).encrypted.map
          fun encryption => (encryption.kind, encryption.plaintext) := by
  refine ⟨rfl, accepted_prefix_of_encrypted .joiner (.run (.start fun _ => rfl) ?_)⟩
  have available :
      (machine.run established
        [ .encrypt .initiator .msg (.envelope (.msg [] [])) true,
          .encrypt .initiator .chunk (.bytes []) true ]).Available greeting.ciphertext :=
    fun _ _ _ _ => ⟨.initiator, _, List.mem_iff_getElem?.mpr ⟨0, rfl⟩, rfl⟩
  exact
    ⟨rfl, ⟨nofun, nofun⟩, rfl, ⟨nofun, nofun⟩, available, ⟨nofun, nofun⟩, ⟨rfl, rfl⟩,
      ⟨nofun, nofun⟩, trivial, ⟨nofun, nofun⟩, trivial⟩

end Channel

end Unseen
