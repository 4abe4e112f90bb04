import Mathlib.Data.List.Nodup
import Mathlib.Data.Prod.Basic
import Unseen.InboundChain

namespace Unseen

/-!
# The ledger of session keys

AES-GCM is broken by two encryptions under one key and nonce.  What keeps a
client from that is spread over its life: the counters of the active context,
the reserved bound in the stored record and in its mirrors, the mark that a
rekey is under way, and the key pairs that no session key was derived from yet.
The same holds of a text that is accepted twice, with the receive counter in
the place of the reserved bound.  `Ledger` is this part of a client together
with all that was ever encrypted and accepted, and `Ledger.Sound` says how its
entries protect each other.
-/

/-- What the active context seals and opens frames with. -/
structure Sealer where
  role : Role
  key : SessionKey
  mirror : Option MirrorId
  committed : Nat
  reserved : Nat
  received : Nat

/-- What the active context seals and opens frames with. -/
def ActiveContext.sealer (active : ActiveContext) : Sealer where
  role := active.role
  key := active.sessionKey.material
  mirror := active.mirror
  committed := active.counterCommitted
  reserved := active.counterReserved
  received := active.counterRecv

/-- The key and nonce that an action encrypts under. -/
def Act.spends? : Act → Option (SessionKey × Nonce)
  | .encrypt key _ frame => some (key, frame.nonce)
  | _ => none

/-- The key and counter of a text that an action accepts. -/
def Act.hears? : Act → Option (SessionKey × Nat)
  | .accept key counter kind _ => if kind = .msg then some (key, counter) else none
  | _ => none

/-- What a client did before. -/
structure Past where
  /-- every key and nonce that it encrypted under -/
  spent : List (SessionKey × Nonce)
  /-- the key and counter of every text that it accepted -/
  heard : List (SessionKey × Nat)
  /-- whether the texts it accepts are followed -/
  listens : Bool

/-- The key pair that an upgrade generates for the rekey it starts. -/
def Upgrade.keygen? : Upgrade → Option Draw
  | .rekeyKeygen pair => some pair
  | _ => none

/-- The key pair that a handler generates for the rekey it starts. -/
def Handler.keygen? : Handler → Option Draw
  | .rekeyKeygen pair => some pair
  | _ => none

/-- The session key that a continuation will commit. -/
def SendCont.answers? : SendCont → Option SessionKey
  | .rekeyAck newSessionKey => some newSessionKey
  | _ => none

structure Ledger where
  device : Nat
  nextDraw : Nat
  storage : Option StoredSession
  mirrors : List StoredSession
  ended : Bool
  sealer : Option Sealer
  ephemeral : Option Draw
  inFlight : Bool
  pending : Option Draw
  keygens : List Draw
  handler : Option Handler
  /-- the session keys whose rekey_ack is still to be sent -/
  answers : List SessionKey
  spent : List (SessionKey × Nonce)
  heard : List (SessionKey × Nat)
  listens : Bool

/-- The ledger of a client, after everything that it did before. -/
def Client.ledger (client : Client) (past : Past) : Ledger where
  device := client.page.device
  nextDraw := client.page.nextDraw
  storage := client.store.storage
  mirrors := client.store.mirrors
  ended := client.vars.terminated
  sealer := client.vars.internal.context?.map ActiveContext.sealer
  ephemeral := client.handshake.ephemeral
  inFlight := client.vars.rekeyInFlight
  pending := client.vars.pendingRekeyPair
  keygens := client.vars.upgrades.filterMap Upgrade.keygen?
  handler := client.inbound.handler
  answers := client.waiters.filterMap SendCont.answers?
  spent := past.spent ++ client.out.filterMap Act.spends?
  heard := past.heard ++ if past.listens then client.out.filterMap Act.hears? else []
  listens := past.listens

/-- The client did nothing before. -/
def Past.nothing (listens : Bool) : Past where
  spent := []
  heard := []
  listens := listens

/-- The past of a client, with what it did in the last step. -/
def Past.record (past : Past) (client : Client) : Past where
  spent := past.spent ++ client.out.filterMap Act.spends?
  heard := past.heard ++ if past.listens then client.out.filterMap Act.hears? else []
  listens := past.listens

namespace Ledger

variable (ledger : Ledger)

/-- The key pair drawn next. -/
def fresh : Draw where
  device := ledger.device
  serial := ledger.nextDraw

/-- The public key is not one that this device is yet to draw. -/
def Drawn (publicKey : PublicKey) : Prop :=
  publicKey.device = ledger.device → publicKey.serial < ledger.nextDraw

/-- The session key was derived from public keys that exist. -/
def Earlier (key : SessionKey) : Prop :=
  ∀ publicKey, key.Uses publicKey → ledger.Drawn publicKey

/-- A key pair of this device that nothing was encrypted or accepted with. -/
structure Spare (pair : Draw) : Prop where
  own : pair.device = ledger.device
  drawn : pair.serial < ledger.nextDraw
  unspent : ∀ entry ∈ ledger.spent, ¬ entry.1.Uses pair
  unheard : ∀ entry ∈ ledger.heard, ¬ entry.1.Uses pair
  unkeyed : ∀ sealer ∈ ledger.sealer, ¬ sealer.key.Uses pair

/-- Resuming from the record repeats nothing: its counters cover what was done. -/
def Covers (record : StoredSession) : Prop :=
  record.rekeyInProgress = false → ∀ key wrapKey, record.k = .wrapped key wrapKey →
    ledger.Earlier key ∧
      (∀ nonce, (key, nonce) ∈ ledger.spent → (parseNonce nonce).counter ≤ record.s) ∧
        ∀ counter, (key, counter) ∈ ledger.heard → counter ≤ record.n

/-- The key pairs of rekeys that this side began. -/
def initiations : List Draw :=
  ledger.keygens ++ ledger.pending.toList ++ (ledger.handler.bind Handler.keygen?).toList

/-- A session key that a rekey was answered with and that is still to be committed. -/
structure Answer (key : SessionKey) : Prop where
  earlier : ledger.Earlier key
  spare : ∃ pair, key.Uses pair ∧ ledger.Spare pair

/-- What a handler of a running session holds fits the session. -/
def Handles (sealer : Sealer) : Handler → Prop
  | .handshake _ _ => False
  | .decrypting _ _ _ mirror =>
      mirror = sealer.mirror ∨ mirror = none ∧ ledger.listens = false
  | .rekeyKeygen _ => True
  | .rekeyInit pair _ =>
      sealer.role = .joiner ∧ ledger.inFlight = true ∧ ledger.Spare pair
  | .rekeyAck pair _ => ledger.pending = some pair
  | .commitWrap key _ _ =>
      key = sealer.key ∧ ledger.inFlight = true ∧ ledger.initiations = [] ∧
        ledger.answers = []
  | .sending => True

/-- Before there is a session key the handlers can only establish one. -/
def Shakes : Handler → Prop
  | .handshake _ pair => ledger.ephemeral = some pair
  | .sending => True
  | _ => False

end Ledger

namespace Ledger

/-- A record that is written while the sealer is in use: a page that resumes from it
encrypts under fresh nonces and accepts fresh texts. -/
def Backs (ledger : Ledger) (sealer : Sealer) (record : StoredSession) : Prop :=
  record.rekeyInProgress = true ∨
    (∃ wrapKey, record.k = .wrapped sealer.key wrapKey) ∧ sealer.reserved ≤ record.s ∧
      ∀ counter, (sealer.key, counter) ∈ ledger.heard → counter ≤ record.n

/-- A page that resumes the session accepts no text up to the counter. -/
structure Floor (ledger : Ledger) (sealer : Sealer) (counter : Nat) : Prop where
  mirrored :
    ∀ mirror ∈ sealer.mirror, ∀ record ∈ ledger.mirrors[mirror]?,
      record.rekeyInProgress = true ∨ counter ≤ record.n
  stored : ∀ record ∈ ledger.storage, record.rekeyInProgress = true ∨ counter ≤ record.n

/-- A live connected page without a session key. -/
structure Unkeyed (ledger : Ledger) : Prop where
  unstored : ledger.storage = none
  landed : ledger.inFlight = false
  idle : ledger.initiations = []
  unanswered : ledger.answers = []
  ephemeral : ∀ pair ∈ ledger.ephemeral, ledger.Spare pair
  handler : ∀ handler ∈ ledger.handler, ledger.Shakes handler

/-- A live page with a session key. -/
structure Keyed (ledger : Ledger) (sealer : Sealer) : Prop where
  earlier : ledger.Earlier sealer.key
  spent :
    ∀ nonce, (sealer.key, nonce) ∈ ledger.spent →
      (parseNonce nonce).counter ≤ sealer.committed
  bound : sealer.committed ≤ sealer.reserved
  heard : ∀ counter, (sealer.key, counter) ∈ ledger.heard → counter ≤ sealer.received
  unmirrored : sealer.mirror = none → ledger.storage = none
  mirrored :
    ∀ mirror ∈ sealer.mirror, ∀ record ∈ ledger.mirrors[mirror]?, ledger.Backs sealer record
  storage : ∀ record ∈ ledger.storage, ledger.Backs sealer record
  /-- while a rekey is under way its record is marked, so that no page resumes from it -/
  marked :
    ledger.inFlight = true →
      (∀ mirror ∈ sealer.mirror, ∀ record ∈ ledger.mirrors[mirror]?,
        record.rekeyInProgress = true) ∧
        ∀ record ∈ ledger.storage, record.rekeyInProgress = true
  single : ledger.initiations.length ≤ 1
  initiates :
    ∀ pair ∈ ledger.initiations,
      ledger.inFlight = true ∧ sealer.role = .initiator ∧ ledger.Spare pair
  answers :
    ∀ key ∈ ledger.answers,
      sealer.role = .joiner ∧ ledger.inFlight = true ∧ ledger.Answer key
  handler : ∀ handler ∈ ledger.handler, ledger.Handles sealer handler

/-- Nothing was done twice, and under existing keys only. -/
structure Once (ledger : Ledger) : Prop where
  nodup : ledger.spent.Nodup
  earlier : ∀ entry ∈ ledger.spent, ledger.Earlier entry.1
  /-- under one key texts are accepted in the order of their counters -/
  ordered :
    ledger.heard.Pairwise fun former latter => former.1 = latter.1 → former.2 < latter.2
  existing : ∀ entry ∈ ledger.heard, ledger.Earlier entry.1

/-- Nothing was done twice, and nothing will be. -/
structure Sound (ledger : Ledger) : Prop extends Once ledger where
  covers : ∀ record ∈ ledger.storage, ledger.Covers record
  unkeyed : ledger.ended = false → ledger.sealer = none → ledger.Unkeyed
  keyed :
    ledger.ended = false → ∀ sealer, ledger.sealer = some sealer → ledger.Keyed sealer

/-! ## What outlives a change of the ledger -/

section Transport

variable {before after : Ledger}

theorem Drawn.mono
    {publicKey : PublicKey}
    (drawn : before.Drawn publicKey)
    (device : after.device = before.device)
    (draws : before.nextDraw ≤ after.nextDraw) : after.Drawn publicKey :=
  fun own => Nat.lt_of_lt_of_le (drawn (own.trans device)) draws

theorem Earlier.mono
    {key : SessionKey}
    (earlier : before.Earlier key)
    (device : after.device = before.device)
    (draws : before.nextDraw ≤ after.nextDraw) : after.Earlier key :=
  fun publicKey uses => (earlier publicKey uses).mono device draws

/-- A spare pair stays spare while nothing but the session's key is used. -/
theorem Spare.mono
    {pair : Draw}
    (spare : before.Spare pair)
    (device : after.device = before.device)
    (draws : before.nextDraw ≤ after.nextDraw)
    (spent :
      ∀ entry ∈ after.spent,
        entry ∈ before.spent ∨ ∃ sealer ∈ before.sealer, entry.1 = sealer.key)
    (heard :
      ∀ entry ∈ after.heard,
        entry ∈ before.heard ∨ ∃ sealer ∈ before.sealer, entry.1 = sealer.key)
    (keys : ∀ sealer ∈ after.sealer, ∃ former ∈ before.sealer, sealer.key = former.key) :
    after.Spare pair where
  own := spare.own.trans device.symm
  drawn := Nat.lt_of_lt_of_le spare.drawn draws
  unspent := by
    intro entry member
    rcases spent entry member with old | ⟨sealer, isSealer, sameKey⟩
    · exact spare.unspent entry old
    · rw [sameKey]
      exact spare.unkeyed sealer isSealer
  unheard := by
    intro entry member
    rcases heard entry member with old | ⟨sealer, isSealer, sameKey⟩
    · exact spare.unheard entry old
    · rw [sameKey]
      exact spare.unkeyed sealer isSealer
  unkeyed := by
    intro sealer isSealer
    obtain ⟨former, isFormer, sameKey⟩ := keys sealer isSealer
    rw [sameKey]
    exact spare.unkeyed former isFormer

/-- The next draw is spare: no key that exists depends on it. -/
theorem Sound.spare_fresh
    {ledger : Ledger}
    (sound : ledger.Sound)
    (keys : ∀ sealer ∈ ledger.sealer, ledger.Earlier sealer.key) :
    Spare { ledger with nextDraw := ledger.nextDraw + 1 } ledger.fresh where
  own := rfl
  drawn := Nat.lt_succ_self _
  unspent := fun entry member uses =>
    Nat.lt_irrefl _ (sound.earlier entry member ledger.fresh uses rfl)
  unheard := fun entry member uses =>
    Nat.lt_irrefl _ (sound.existing entry member ledger.fresh uses rfl)
  unkeyed := fun sealer isSealer uses =>
    Nat.lt_irrefl _ (keys sealer isSealer ledger.fresh uses rfl)

/-- What a step of a running session leaves alone unless it is about keys. -/
structure Running (before after : Ledger) : Prop where
  mirrors : after.mirrors = before.mirrors
  sealer : after.sealer = before.sealer
  ephemeral : after.ephemeral = before.ephemeral
  inFlight : after.inFlight = before.inFlight
  pending : after.pending = before.pending
  handler : after.handler = before.handler
  keygens : after.keygens.Sublist before.keygens
  answers : after.answers ⊆ before.answers

/-- Nothing was done; the session ended or goes on with its keys as they were. -/
structure Keeps (before after : Ledger) : Prop where
  device : after.device = before.device
  draws : before.nextDraw ≤ after.nextDraw
  spent : after.spent = before.spent
  heard : after.heard = before.heard
  listens : after.listens = before.listens
  storage :
    after.storage = before.storage ∨ after.ended = true ∧ after.storage = none
  live : after.ended = true ∨ before.ended = false ∧ Running before after

theorem Running.initiations
    (running : Running before after) :
    after.initiations.Sublist before.initiations := by
  unfold Ledger.initiations
  rw [running.pending, running.handler]
  exact (running.keygens.append_right _).append_right _

theorem Keeps.spare
    {pair : Draw}
    (keeps : Keeps before after)
    (running : Running before after)
    (spare : before.Spare pair) : after.Spare pair := by
  refine spare.mono keeps.device keeps.draws ?_ ?_ ?_
  · rw [keeps.spent]
    exact fun entry member => .inl member
  · rw [keeps.heard]
    exact fun entry member => .inl member
  · rw [running.sealer]
    exact fun sealer isSealer => ⟨sealer, isSealer, rfl⟩

theorem Keeps.handles
    {sealer : Sealer}
    {handler : Handler}
    (keeps : Keeps before after)
    (running : Running before after)
    (handles : before.Handles sealer handler) : after.Handles sealer handler := by
  cases handler with
  | decrypting frame mode state mirror =>
      exact handles.imp_right (And.imp_right keeps.listens.trans)
  | rekeyInit pair peerPub =>
      exact ⟨handles.1, running.inFlight.trans handles.2.1, keeps.spare running handles.2.2⟩
  | rekeyAck pair peerPub => exact running.pending.trans handles
  | commitWrap key wrapKey credentialId =>
      refine ⟨handles.1, running.inFlight.trans handles.2.1, ?_, ?_⟩
      · exact List.sublist_nil.mp (handles.2.2.1 ▸ running.initiations)
      · exact List.subset_nil.mp (handles.2.2.2 ▸ running.answers)
  | _ => exact handles

theorem Keeps.once (keeps : Keeps before after) (once : before.Once) : after.Once where
  nodup := by
    rw [keeps.spent]
    exact once.nodup
  earlier := by
    rw [keeps.spent]
    exact fun entry member => (once.earlier entry member).mono keeps.device keeps.draws
  ordered := by
    rw [keeps.heard]
    exact once.ordered
  existing := by
    rw [keeps.heard]
    exact fun entry member => (once.existing entry member).mono keeps.device keeps.draws

theorem Keeps.covers
    (keeps : Keeps before after)
    (covers : ∀ record ∈ before.storage, before.Covers record) :
    ∀ record ∈ after.storage, after.Covers record := by
  rcases keeps.storage with same | ⟨-, cleared⟩
  · rw [same]
    intro record isStored unmarked key wrapKey wraps
    rw [keeps.spent, keeps.heard]
    exact
      (covers record isStored unmarked key wrapKey wraps).imp_left fun earlier =>
        earlier.mono keeps.device keeps.draws
  · simp [cleared]

/-- What is not about keys keeps the ledger sound. -/
theorem Sound.keeps
    (sound : before.Sound)
    (keeps : Keeps before after) : after.Sound where
  toOnce := keeps.once sound.toOnce
  covers := keeps.covers sound.covers
  unkeyed := by
    intro live noSealer
    rcases keeps.live with ended | ⟨wasLive, running⟩
    · simp [ended] at live
    · have same : after.storage = before.storage :=
        keeps.storage.resolve_right fun gone => by simp [gone.1] at live
      have unkeyed := sound.unkeyed wasLive (running.sealer ▸ noSealer)
      exact
        { unstored := same.trans unkeyed.unstored
          landed := running.inFlight.trans unkeyed.landed
          idle := List.sublist_nil.mp (unkeyed.idle ▸ running.initiations)
          unanswered := List.subset_nil.mp (unkeyed.unanswered ▸ running.answers)
          ephemeral := by
            rw [running.ephemeral]
            exact fun pair isPair => keeps.spare running (unkeyed.ephemeral pair isPair)
          handler := by
            rw [running.handler]
            intro handler isHandler
            have shakes := unkeyed.handler handler isHandler
            cases handler with
            | handshake ciphertext pair => exact running.ephemeral.trans shakes
            | sending => exact trivial
            | _ => exact shakes }
  keyed := by
    intro live sealer isSealer
    rcases keeps.live with ended | ⟨wasLive, running⟩
    · simp [ended] at live
    · have same : after.storage = before.storage :=
        keeps.storage.resolve_right fun gone => by simp [gone.1] at live
      have keyed := sound.keyed wasLive sealer (running.sealer ▸ isSealer)
      exact
        { earlier := keyed.earlier.mono keeps.device keeps.draws
          spent := by rw [keeps.spent]; exact keyed.spent
          bound := keyed.bound
          heard := by rw [keeps.heard]; exact keyed.heard
          unmirrored := by rw [same]; exact keyed.unmirrored
          mirrored := by
            unfold Backs
            rw [running.mirrors, keeps.heard]
            exact keyed.mirrored
          storage := by
            unfold Backs
            rw [same, keeps.heard]
            exact keyed.storage
          marked := by rw [running.inFlight, running.mirrors, same]; exact keyed.marked
          single := Nat.le_trans running.initiations.length_le keyed.single
          initiates := by
            intro pair member
            obtain ⟨inFlight, role, spare⟩ :=
              keyed.initiates pair (running.initiations.subset member)
            exact ⟨running.inFlight.trans inFlight, role, keeps.spare running spare⟩
          answers := by
            intro key member
            obtain ⟨role, inFlight, answer⟩ := keyed.answers key (running.answers member)
            obtain ⟨pair, uses, spare⟩ := answer.spare
            exact
              ⟨role, running.inFlight.trans inFlight,
                answer.earlier.mono keeps.device keeps.draws,
                pair, uses, keeps.spare running spare⟩
          handler := by
            rw [running.handler]
            exact fun handler isHandler =>
              keeps.handles running (keyed.handler handler isHandler) }

end Transport

/-! ## The operations on keys -/

section Operations

variable {ledger : Ledger} {sealer : Sealer}

/-- A live session with its key. -/
theorem Sound.of_keyed
    (isSealer : ledger.sealer = some sealer)
    (once : ledger.Once)
    (covers : ∀ record ∈ ledger.storage, ledger.Covers record)
    (keyed : ledger.Keyed sealer) : ledger.Sound where
  toOnce := once
  covers := covers
  unkeyed := fun _ noSealer => by simp [isSealer] at noSealer
  keyed := by
    intro _ other isOther
    obtain rfl := Option.some.inj (isSealer.symm.trans isOther)
    exact keyed

/-- The record covers what was done under the key that it backs. -/
theorem Keyed.covers
    (keyed : ledger.Keyed sealer)
    {record : StoredSession}
    (backed : ledger.Backs sealer record) : ledger.Covers record := by
  intro unmarked key wrapKey wraps
  rcases backed with isMarked | ⟨⟨otherWrapKey, wrapsKey⟩, bounded, floor⟩
  · simp [isMarked] at unmarked
  · obtain ⟨rfl, -⟩ := WrappedKey.wrapped.inj (wraps.symm.trans wrapsKey)
    exact
      ⟨keyed.earlier,
        fun nonce member =>
          Nat.le_trans (keyed.spent nonce member) (Nat.le_trans keyed.bound bounded),
        floor⟩

/-- A draw changes nothing that was done. -/
theorem Once.draw (once : ledger.Once) : Once { ledger with nextDraw := ledger.nextDraw + 1 } :=
  { once with
    earlier := fun entry member => (once.earlier entry member).mono rfl (Nat.le_succ _)
    existing := fun entry member => (once.existing entry member).mono rfl (Nat.le_succ _) }

/-- The page draws its key pair of the handshake. -/
theorem Sound.ephemeral
    (sound : ledger.Sound)
    (unkeyed : ledger.sealer = none)
    (undrawn : ledger.ephemeral = none) :
    Sound
      { ledger with
        nextDraw := ledger.nextDraw + 1
        ephemeral := some ledger.fresh } where
  toOnce := { sound.toOnce.draw with }
  covers := by
    intro record isStored unmarked key wrapKey wraps
    exact
      (sound.covers record isStored unmarked key wrapKey wraps).imp_left fun earlier =>
        earlier.mono rfl (Nat.le_succ _)
  unkeyed := by
    intro live noSealer
    have former := sound.unkeyed live noSealer
    have spare := sound.spare_fresh fun sealer isSealer => by simp [unkeyed] at isSealer
    exact
      { former with
        ephemeral := by
          intro pair isPair
          obtain rfl := Option.some.inj isPair
          exact { spare with }
        handler := by
          intro handler isHandler
          have shakes := former.handler handler isHandler
          cases handler with
          | handshake ciphertext pair =>
              have isPair : ledger.ephemeral = some pair := shakes
              rw [undrawn] at isPair
              cases isPair
          | _ => exact shakes }
  keyed := fun _ sealer isSealer => by simp [unkeyed] at isSealer

/-- The inbound chain goes on with another handler, or with none. -/
theorem Sound.hold
    (sound : ledger.Sound)
    {handler : Option Handler}
    (noKeygen : handler.bind Handler.keygen? = none)
    (shakes :
      ledger.ended = false → ledger.sealer = none → ∀ held ∈ handler, ledger.Shakes held)
    (handles :
      ledger.ended = false → ∀ sealer ∈ ledger.sealer, ∀ held ∈ handler,
        Handles { ledger with handler := handler } sealer held) :
    Sound { ledger with handler := handler } := by
  have fewer :
      (initiations { ledger with handler := handler }).Sublist ledger.initiations := by
    unfold initiations
    simp only [noKeygen, Option.toList_none, List.append_nil]
    exact List.sublist_append_left _ _
  exact
    { toOnce := { sound.toOnce with }
      covers := sound.covers
      unkeyed := fun live noSealer =>
        { sound.unkeyed live noSealer with
          idle := List.sublist_nil.mp ((sound.unkeyed live noSealer).idle ▸ fewer)
          ephemeral := fun pair isPair =>
            { (sound.unkeyed live noSealer).ephemeral pair isPair with }
          handler := fun held isHeld => by
            have shaken := shakes live noSealer held isHeld
            cases held <;> exact shaken }
      keyed := fun live sealer isSealer =>
        { sound.keyed live sealer isSealer with
          single := Nat.le_trans fewer.length_le (sound.keyed live sealer isSealer).single
          initiates := fun pair member =>
            ((sound.keyed live sealer isSealer).initiates pair (fewer.subset member)).imp_right
              (And.imp_right fun spare => { spare with })
          answers := fun key member =>
            ((sound.keyed live sealer isSealer).answers key member).imp_right
              (And.imp_right fun answer =>
                { answer with
                  spare := answer.spare.imp fun _ => And.imp_right fun spare => { spare with } })
          handler := handles live sealer isSealer } }

/-- The handler returns. -/
theorem Sound.release (sound : ledger.Sound) : Sound { ledger with handler := none } :=
  sound.hold rfl (by simp) (by simp)

/-- The handler awaits a send. -/
theorem Sound.sending (sound : ledger.Sound) :
    Sound { ledger with handler := some .sending } :=
  sound.hold rfl (by simp [Shakes]) (by simp [Handles])

/-- A pair that is spare stays so while the session's key stays. -/
theorem Spare.stays
    {after : Ledger}
    {pair : Draw}
    (spare : ledger.Spare pair)
    (isSealer : ledger.sealer = some sealer)
    (device : after.device = ledger.device)
    (draws : ledger.nextDraw ≤ after.nextDraw)
    (spent :
      ∀ entry ∈ after.spent, entry ∈ ledger.spent ∨ entry.1 = sealer.key)
    (heard :
      ∀ entry ∈ after.heard, entry ∈ ledger.heard ∨ entry.1 = sealer.key)
    (keys : ∀ later ∈ after.sealer, later.key = sealer.key) : after.Spare pair :=
  spare.mono device draws
    (fun entry member =>
      (spent entry member).imp_right fun sameKey => ⟨sealer, isSealer, sameKey⟩)
    (fun entry member =>
      (heard entry member).imp_right fun sameKey => ⟨sealer, isSealer, sameKey⟩)
    fun later isLater => ⟨sealer, isSealer, keys later isLater⟩

/-- What a handler holds still fits the session after its bounds or its record changed. -/
theorem Handles.stays
    {after : Ledger}
    {later : Sealer}
    {handler : Handler}
    (handles : ledger.Handles sealer handler)
    (role : later.role = sealer.role)
    (key : later.key = sealer.key)
    (mirror : later.mirror = sealer.mirror)
    (listens : after.listens = ledger.listens)
    (inFlight : ledger.inFlight = true → after.inFlight = true)
    (pending : after.pending = ledger.pending)
    (initiations : after.initiations = ledger.initiations)
    (answers : after.answers = ledger.answers)
    (spare : ∀ pair, ledger.Spare pair → after.Spare pair) :
    after.Handles later handler := by
  cases handler with
  | decrypting frame mode state held =>
      exact handles.imp (fun same => same.trans mirror.symm) (And.imp_right listens.trans)
  | rekeyInit pair peerPub =>
      exact ⟨role.trans handles.1, inFlight handles.2.1, spare pair handles.2.2⟩
  | rekeyAck pair peerPub => exact pending.trans handles
  | commitWrap committed wrapKey credentialId =>
      exact
        ⟨handles.1.trans key.symm, inFlight handles.2.1, initiations.trans handles.2.2.1,
          answers.trans handles.2.2.2⟩
  | _ => exact handles

/--
A mirror rewrites the stored record: with a higher bound, another receive counter or
the mark of a rekey.
-/
theorem Sound.write
    (sound : ledger.Sound)
    (live : ledger.ended = false)
    (isSealer : ledger.sealer = some sealer)
    {mirror : MirrorId}
    (isMirror : sealer.mirror = some mirror)
    {record : StoredSession}
    (held : ledger.mirrors[mirror]? = some record)
    (change : StoredSession → StoredSession)
    {reserved : Nat}
    {inFlight : Bool}
    (more : sealer.reserved ≤ reserved)
    (backed : ledger.Backs { sealer with reserved := reserved } (change record))
    (begun : ledger.inFlight = true → inFlight = true)
    (marks : inFlight = true → (change record).rekeyInProgress = true) :
    Sound
      { ledger with
        storage := some (change record)
        mirrors := ledger.mirrors.modify mirror change
        sealer := some { sealer with reserved := reserved }
        inFlight := inFlight } := by
  have keyed := sound.keyed live sealer isSealer
  have spares :
      ∀ pair, ledger.Spare pair →
        Spare
          { ledger with
            storage := some (change record)
            mirrors := ledger.mirrors.modify mirror change
            sealer := some { sealer with reserved := reserved }
            inFlight := inFlight }
          pair := fun pair spare =>
    spare.stays isSealer rfl (Nat.le_refl _) (fun _ member => .inl member)
      (fun _ member => .inl member) fun later isLater => by rw [← Option.some.inj isLater]
  have isRecord :
      ∀ other ∈ sealer.mirror, ∀ rewritten ∈ (ledger.mirrors.modify mirror change)[other]?,
        rewritten = change record := by
    intro other isOther rewritten isRewritten
    obtain rfl := Option.some.inj (isMirror.symm.trans isOther)
    rw [List.getElem?_modify_eq, held] at isRewritten
    exact (Option.some.inj isRewritten).symm
  have after :
      Keyed
        { ledger with
          storage := some (change record)
          mirrors := ledger.mirrors.modify mirror change
          sealer := some { sealer with reserved := reserved }
          inFlight := inFlight }
        { sealer with reserved := reserved } :=
    { earlier := keyed.earlier
      spent := keyed.spent
      bound := Nat.le_trans keyed.bound more
      heard := keyed.heard
      unmirrored := fun none => by simp [isMirror] at none
      mirrored := fun other isOther rewritten isRewritten => by
        rw [isRecord other isOther rewritten isRewritten]
        exact backed
      storage := fun rewritten isRewritten => by
        rw [← Option.some.inj isRewritten]
        exact backed
      marked := fun isInFlight =>
        ⟨fun other isOther rewritten isRewritten => by
          rw [isRecord other isOther rewritten isRewritten]
          exact marks isInFlight,
        fun rewritten isRewritten => by
          rw [← Option.some.inj isRewritten]
          exact marks isInFlight⟩
      single := keyed.single
      initiates := fun pair member =>
        ⟨begun (keyed.initiates pair member).1, (keyed.initiates pair member).2.1,
          spares pair (keyed.initiates pair member).2.2⟩
      answers := fun key member =>
        ⟨(keyed.answers key member).1, begun (keyed.answers key member).2.1,
          { earlier := (keyed.answers key member).2.2.earlier
            spare := (keyed.answers key member).2.2.spare.imp fun pair =>
              And.imp_right (spares pair) }⟩
      handler := fun handler isHandler =>
        (keyed.handler handler isHandler).stays rfl rfl rfl rfl begun rfl rfl rfl spares }
  refine .of_keyed rfl { sound.toOnce with } ?_ after
  intro rewritten isRewritten
  exact after.covers (after.storage rewritten isRewritten)

/-- Without a mirror a higher bound and the mark of a rekey are kept in memory only. -/
theorem Sound.unmirrored
    (sound : ledger.Sound)
    (live : ledger.ended = false)
    (isSealer : ledger.sealer = some sealer)
    (noMirror : sealer.mirror = none)
    {reserved : Nat}
    {inFlight : Bool}
    (more : sealer.reserved ≤ reserved)
    (begun : ledger.inFlight = true → inFlight = true) :
    Sound
      { ledger with
        sealer := some { sealer with reserved := reserved }
        inFlight := inFlight } := by
  have keyed := sound.keyed live sealer isSealer
  have noRecord := keyed.unmirrored noMirror
  have spares :
      ∀ pair, ledger.Spare pair →
        Spare
          { ledger with
            sealer := some { sealer with reserved := reserved }
            inFlight := inFlight }
          pair := fun pair spare =>
    spare.stays isSealer rfl (Nat.le_refl _) (fun _ member => .inl member)
      (fun _ member => .inl member) fun later isLater => by rw [← Option.some.inj isLater]
  refine .of_keyed rfl { sound.toOnce with } sound.covers ?_
  exact
    { earlier := keyed.earlier
      spent := keyed.spent
      bound := Nat.le_trans keyed.bound more
      heard := keyed.heard
      unmirrored := fun _ => noRecord
      mirrored := by simp [noMirror]
      storage := by simp [noRecord]
      marked := by simp [noMirror, noRecord]
      single := keyed.single
      initiates := fun pair member =>
        ⟨begun (keyed.initiates pair member).1, (keyed.initiates pair member).2.1,
          spares pair (keyed.initiates pair member).2.2⟩
      answers := fun key member =>
        ⟨(keyed.answers key member).1, begun (keyed.answers key member).2.1,
          { earlier := (keyed.answers key member).2.2.earlier
            spare := (keyed.answers key member).2.2.spare.imp fun pair =>
              And.imp_right (spares pair) }⟩
      handler := fun handler isHandler =>
        (keyed.handler handler isHandler).stays rfl rfl rfl rfl begun rfl rfl rfl spares }

/-- The next reserved counter is handed out, and a frame may be encrypted under it. -/
theorem Sound.handOut
    (sound : ledger.Sound)
    (live : ledger.ended = false)
    (isSealer : ledger.sealer = some sealer)
    (isReserved : sealer.committed < sealer.reserved)
    {nonces : List Nonce}
    (atMostOne : nonces.Nodup)
    (isNext : ∀ nonce ∈ nonces, (parseNonce nonce).counter = sealer.committed + 1) :
    Sound
      { ledger with
        sealer := some { sealer with committed := sealer.committed + 1 }
        spent := ledger.spent ++ nonces.map (Prod.mk sealer.key) } := by
  have keyed := sound.keyed live sealer isSealer
  have isEntry :
      ∀ entry ∈ ledger.spent ++ nonces.map (Prod.mk sealer.key),
        entry ∈ ledger.spent ∨ ∃ nonce ∈ nonces, entry = (sealer.key, nonce) := by
    intro entry member
    rcases List.mem_append.mp member with old | new
    · exact .inl old
    · obtain ⟨nonce, isNonce, rfl⟩ := List.mem_map.mp new
      exact .inr ⟨nonce, isNonce, rfl⟩
  have spares :
      ∀ pair, ledger.Spare pair →
        Spare
          { ledger with
            sealer := some { sealer with committed := sealer.committed + 1 }
            spent := ledger.spent ++ nonces.map (Prod.mk sealer.key) }
          pair := fun pair spare =>
    spare.stays isSealer rfl (Nat.le_refl _)
      (fun entry member =>
        (isEntry entry member).imp_right fun isNew => by
          obtain ⟨nonce, -, rfl⟩ := isNew
          rfl)
      (fun _ member => .inl member) fun later isLater => by rw [← Option.some.inj isLater]
  have unspent : ∀ nonce ∈ nonces, (sealer.key, nonce) ∉ ledger.spent := by
    intro nonce isNonce member
    have counted := keyed.spent nonce member
    have next := isNext nonce isNonce
    omega
  have after :
      Keyed
        { ledger with
          sealer := some { sealer with committed := sealer.committed + 1 }
          spent := ledger.spent ++ nonces.map (Prod.mk sealer.key) }
        { sealer with committed := sealer.committed + 1 } :=
    { keyed with
      spent := by
        intro nonce member
        rcases isEntry _ member with old | ⟨other, isNonce, same⟩
        · exact Nat.le_succ_of_le (keyed.spent nonce old)
        · obtain ⟨-, rfl⟩ := Prod.mk.inj same
          exact Nat.le_of_eq (isNext nonce isNonce)
      bound := isReserved
      initiates := fun pair member =>
        (keyed.initiates pair member).imp_right (And.imp_right (spares pair))
      answers := fun key member =>
        (keyed.answers key member).imp_right (And.imp_right fun answer =>
          { earlier := answer.earlier
            spare := answer.spare.imp fun pair => And.imp_right (spares pair) })
      handler := fun handler isHandler =>
        (keyed.handler handler isHandler).stays rfl rfl rfl rfl id rfl rfl rfl spares }
  refine .of_keyed rfl ?_ ?_ after
  · refine { sound.toOnce with nodup := ?_, earlier := ?_ }
    · refine List.nodup_append.mpr ⟨sound.nodup, ?_, ?_⟩
      · exact atMostOne.map (Prod.mk_right_injective sealer.key)
      · rintro entry old other new rfl
        obtain ⟨nonce, isNonce, rfl⟩ := List.mem_map.mp new
        exact unspent nonce isNonce old
    · intro entry member
      rcases isEntry entry member with old | ⟨nonce, -, rfl⟩
      · exact sound.earlier entry old
      · exact keyed.earlier
  · intro record isStored
    exact after.covers (after.storage record isStored)

/-- A frame is accepted, and its counter is the last one received. -/
theorem Sound.accept
    (sound : ledger.Sound)
    (live : ledger.ended = false)
    (isSealer : ledger.sealer = some sealer)
    {counter : Nat}
    (follows : sealer.received < counter)
    {texts : List Nat}
    (atMostOne : texts.Sublist [counter])
    (floor : texts ≠ [] → ledger.Floor sealer counter) :
    Sound
      { ledger with
        sealer := some { sealer with received := counter }
        heard := ledger.heard ++ texts.map (Prod.mk sealer.key) } := by
  have keyed := sound.keyed live sealer isSealer
  have isEntry :
      ∀ entry ∈ ledger.heard ++ texts.map (Prod.mk sealer.key),
        entry ∈ ledger.heard ∨ texts ≠ [] ∧ entry = (sealer.key, counter) := by
    intro entry member
    rcases List.mem_append.mp member with old | new
    · exact .inl old
    · obtain ⟨text, isText, rfl⟩ := List.mem_map.mp new
      rw [List.mem_singleton.mp (atMostOne.subset isText)]
      exact .inr ⟨List.ne_nil_of_mem isText, rfl⟩
  have spares :
      ∀ pair, ledger.Spare pair →
        Spare
          { ledger with
            sealer := some { sealer with received := counter }
            heard := ledger.heard ++ texts.map (Prod.mk sealer.key) }
          pair := fun pair spare =>
    spare.stays isSealer rfl (Nat.le_refl _) (fun _ member => .inl member)
      (fun entry member =>
        (isEntry entry member).imp_right fun isNew => congrArg Prod.fst isNew.2)
      fun later isLater => by rw [← Option.some.inj isLater]
  have backs :
      ∀ record, ledger.Backs sealer record →
        (texts ≠ [] → record.rekeyInProgress = true ∨ counter ≤ record.n) →
          Backs
            { ledger with
              sealer := some { sealer with received := counter }
              heard := ledger.heard ++ texts.map (Prod.mk sealer.key) }
            { sealer with received := counter } record := by
    intro record backed bounds
    rcases backed with isMarked | ⟨wraps, bounded, covered⟩
    · exact .inl isMarked
    · rcases Bool.eq_false_or_eq_true record.rekeyInProgress with isMarked | unmarked
      · exact .inl isMarked
      · refine .inr ⟨wraps, bounded, fun other member => ?_⟩
        rcases isEntry _ member with old | ⟨isText, same⟩
        · exact covered other old
        · obtain ⟨-, rfl⟩ := Prod.mk.inj same
          exact (bounds isText).resolve_left (by simp [unmarked])
  have after :
      Keyed
        { ledger with
          sealer := some { sealer with received := counter }
          heard := ledger.heard ++ texts.map (Prod.mk sealer.key) }
        { sealer with received := counter } :=
    { keyed with
      heard := by
        intro other member
        rcases isEntry _ member with old | ⟨-, same⟩
        · exact Nat.le_of_lt (Nat.lt_of_le_of_lt (keyed.heard other old) follows)
        · exact Nat.le_of_eq (congrArg Prod.snd same)
      mirrored := fun mirror isMirror record held =>
        backs record (keyed.mirrored mirror isMirror record held) fun isText =>
          (floor isText).mirrored mirror isMirror record held
      storage := fun record isStored =>
        backs record (keyed.storage record isStored) fun isText =>
          (floor isText).stored record isStored
      initiates := fun pair member =>
        (keyed.initiates pair member).imp_right (And.imp_right (spares pair))
      answers := fun key member =>
        (keyed.answers key member).imp_right (And.imp_right fun answer =>
          { earlier := answer.earlier
            spare := answer.spare.imp fun pair => And.imp_right (spares pair) })
      handler := fun handler isHandler =>
        (keyed.handler handler isHandler).stays rfl rfl rfl rfl id rfl rfl rfl spares }
  refine .of_keyed rfl ?_ ?_ after
  · refine { sound.toOnce with ordered := ?_, existing := ?_ }
    · refine List.pairwise_append.mpr ⟨sound.ordered, ?_, ?_⟩
      · rcases List.sublist_singleton.mp atMostOne with none | one
        · simp [none]
        · simp [one]
      · intro former old latter new sameKey
        obtain ⟨text, isText, rfl⟩ := List.mem_map.mp new
        rw [List.mem_singleton.mp (atMostOne.subset isText)]
        have isOld : (sealer.key, former.2) ∈ ledger.heard := by
          rw [← show former.1 = sealer.key from sameKey]
          exact old
        exact Nat.lt_of_le_of_lt (keyed.heard former.2 isOld) follows
    · intro entry member
      rcases isEntry entry member with old | ⟨-, rfl⟩
      · exact sound.existing entry old
      · exact keyed.earlier
  · intro record isStored
    exact after.covers (after.storage record isStored)

/-- A fresh pair is drawn while the rest of the ledger may start to hold it. -/
theorem Keyed.draw
    (sound : ledger.Sound)
    (keyed : ledger.Keyed sealer)
    (isSealer : ledger.sealer = some sealer) :
    Keyed { ledger with nextDraw := ledger.nextDraw + 1 } sealer ∧
      Spare { ledger with nextDraw := ledger.nextDraw + 1 } ledger.fresh := by
  have spares :
      ∀ pair, ledger.Spare pair →
        Spare { ledger with nextDraw := ledger.nextDraw + 1 } pair := fun pair spare =>
    spare.stays isSealer rfl (Nat.le_succ _) (fun _ member => .inl member)
      (fun _ member => .inl member) fun later isLater => by
        rw [← Option.some.inj (isSealer.symm.trans isLater)]
  refine ⟨?_, sound.spare_fresh fun other isOther => ?_⟩
  · exact
      { keyed with
        earlier := keyed.earlier.mono rfl (Nat.le_succ _)
        initiates := fun pair member =>
          (keyed.initiates pair member).imp_right (And.imp_right (spares pair))
        answers := fun key member =>
          (keyed.answers key member).imp_right (And.imp_right fun answer =>
            { earlier := answer.earlier.mono rfl (Nat.le_succ _)
              spare := answer.spare.imp fun pair => And.imp_right (spares pair) })
        handler := fun handler isHandler =>
          (keyed.handler handler isHandler).stays rfl rfl rfl rfl id rfl rfl rfl spares }
  · obtain rfl := Option.some.inj (isSealer.symm.trans isOther)
    exact keyed.earlier

/-- The page draws a value that no key depends on. -/
theorem Sound.draw (sound : ledger.Sound) :
    Sound { ledger with nextDraw := ledger.nextDraw + 1 } where
  toOnce := sound.toOnce.draw
  covers := by
    intro record isStored unmarked key wrapKey wraps
    exact
      (sound.covers record isStored unmarked key wrapKey wraps).imp_left fun earlier =>
        earlier.mono rfl (Nat.le_succ _)
  unkeyed := fun live noSealer =>
    { sound.unkeyed live noSealer with
      ephemeral := fun pair isPair =>
        ((sound.unkeyed live noSealer).ephemeral pair isPair).mono rfl (Nat.le_succ _)
          (fun _ member => .inl member) (fun _ member => .inl member) fun sealer isSealer => ⟨sealer, isSealer, rfl⟩
      handler := fun handler isHandler => by
        have shakes := (sound.unkeyed live noSealer).handler handler isHandler
        cases handler <;> exact shakes }
  keyed := fun live sealer isSealer =>
    ((sound.keyed live sealer isSealer).draw sound isSealer).1

/-- The initiator generates a key pair for a rekey, which is the only one it holds. -/
theorem Sound.initiate
    (sound : ledger.Sound)
    (live : ledger.ended = false)
    (isSealer : ledger.sealer = some sealer)
    (isInitiator : sealer.role = .initiator)
    (inFlight : ledger.inFlight = true)
    {keygens : List Draw}
    {pending : Option Draw}
    {handler : Option Handler}
    (holds :
      initiations
        { ledger with keygens := keygens, pending := pending, handler := handler } =
          [ledger.fresh])
    (handles :
      ∀ held ∈ handler,
        ledger.Handles sealer held ∧ held.stage ≠ .rekeyAck ∧ held.stage ≠ .commitWrap) :
    Sound
      { ledger with
        nextDraw := ledger.nextDraw + 1
        keygens := keygens
        pending := pending
        handler := handler } := by
  have keyed := sound.keyed live sealer isSealer
  obtain ⟨drawn, spare⟩ := keyed.draw sound isSealer
  have spares :
      ∀ pair, ledger.Spare pair →
        Spare
          { ledger with
            nextDraw := ledger.nextDraw + 1
            keygens := keygens
            pending := pending
            handler := handler }
          pair := fun pair former =>
    former.stays isSealer rfl (Nat.le_succ _) (fun _ member => .inl member)
      (fun _ member => .inl member) fun later isLater => by
        rw [← Option.some.inj (isSealer.symm.trans isLater)]
  have held :
      initiations
        { ledger with
          nextDraw := ledger.nextDraw + 1
          keygens := keygens
          pending := pending
          handler := handler } =
        [ledger.fresh] := holds
  refine .of_keyed isSealer { sound.draw.toOnce with } sound.draw.covers ?_
  exact
    { drawn with
      single := by rw [held]; simp
      initiates := by
        intro pair member
        rw [held] at member
        rw [List.mem_singleton.mp member]
        exact ⟨inFlight, isInitiator, { spare with }⟩
      answers := fun key member =>
        (drawn.answers key member).imp_right (And.imp_right fun answer =>
          { answer with
            spare := answer.spare.imp fun _ => And.imp_right fun former => { former with } })
      handler := by
        intro handler isHandler
        obtain ⟨handles, notAck, notCommit⟩ := handles handler isHandler
        cases handler with
        | rekeyInit pair peerPub => exact ⟨handles.1, handles.2.1, spares pair handles.2.2⟩
        | rekeyAck pair peerPub => exact absurd rfl notAck
        | commitWrap key wrapKey credentialId => exact absurd rfl notCommit
        | _ => exact handles }

/-- The pair of a rekey that this side began is published. -/
theorem Sound.publish
    (sound : ledger.Sound)
    (live : ledger.ended = false)
    (isSealer : ledger.sealer = some sealer)
    {pair : Draw}
    (begun : pair ∈ ledger.initiations)
    {keygens : List Draw}
    {pending : Option Draw}
    {handler : Option Handler}
    (holds :
      initiations
        { ledger with keygens := keygens, pending := pending, handler := handler } = [pair])
    (handles :
      ∀ held ∈ handler,
        ledger.Handles sealer held ∧ held.stage ≠ .rekeyAck ∧ held.stage ≠ .commitWrap) :
    Sound { ledger with keygens := keygens, pending := pending, handler := handler } := by
  have keyed := sound.keyed live sealer isSealer
  refine .of_keyed isSealer { sound.toOnce with } sound.covers ?_
  exact
    { keyed with
      single := by rw [holds]; simp
      initiates := by
        intro other member
        rw [holds] at member
        rw [List.mem_singleton.mp member]
        exact (keyed.initiates pair begun).imp_right (And.imp_right fun spare => { spare with })
      answers := fun key member =>
        (keyed.answers key member).imp_right (And.imp_right fun answer =>
          { answer with
            spare := answer.spare.imp fun _ => And.imp_right fun spare => { spare with } })
      handler := by
        intro handler isHandler
        obtain ⟨handles, notAck, notCommit⟩ := handles handler isHandler
        cases handler with
        | rekeyInit pair peerPub => exact ⟨handles.1, handles.2.1, { handles.2.2 with }⟩
        | rekeyAck pair peerPub => exact absurd rfl notAck
        | commitWrap key wrapKey credentialId => exact absurd rfl notCommit
        | _ => exact handles }

/-- The joiner answers a rekey: its new key waits for the answer to be sent. -/
theorem Sound.answer
    (sound : ledger.Sound)
    (live : ledger.ended = false)
    (isSealer : ledger.sealer = some sealer)
    (isJoiner : sealer.role = .joiner)
    (inFlight : ledger.inFlight = true)
    {key : SessionKey}
    (answer : ledger.Answer key)
    {answers : List SessionKey}
    (answered : answers ⊆ key :: ledger.answers) :
    Sound { ledger with answers := answers, handler := some .sending } := by
  have keyed := sound.keyed live sealer isSealer
  have kept := sound.sending.keyed live sealer isSealer
  refine .of_keyed isSealer { sound.toOnce with } sound.covers ?_
  exact
    { kept with
      initiates := fun pair member =>
        (kept.initiates pair member).imp_right (And.imp_right fun spare => { spare with })
      answers := by
        intro other member
        have isAnswer : ledger.Answer other := by
          rcases List.mem_cons.mp (answered member) with rfl | old
          · exact answer
          · exact (keyed.answers other old).2.2
        exact
          ⟨isJoiner, inFlight,
            { isAnswer with
              spare := isAnswer.spare.imp fun _ => And.imp_right fun spare => { spare with } }⟩
      handler := by simp [Handles] }

/-- A rekey is committed: the session goes on under the new key from counter 0. -/
theorem Sound.commit
    (sound : ledger.Sound)
    (live : ledger.ended = false)
    (isSealer : ledger.sealer = some sealer)
    (inFlight : ledger.inFlight = true)
    (generated : ledger.keygens = [])
    {key : SessionKey}
    (answer : ledger.Answer key)
    (wrapKey : WrapKey)
    (credentialId : CredentialId) :
    Sound
      { ledger with
        sealer := some { sealer with key := key, committed := 0, reserved := 0, received := 0 }
        pending := none
        answers := []
        handler := some (.commitWrap key wrapKey credentialId) } := by
  have keyed := sound.keyed live sealer isSealer
  obtain ⟨mirrorMarked, storageMarked⟩ := keyed.marked inFlight
  have none :
      initiations
        { ledger with
          sealer := some { sealer with key := key, committed := 0, reserved := 0, received := 0 }
          pending := Option.none
          answers := []
          handler := some (.commitWrap key wrapKey credentialId) } = [] := by
    simp [initiations, generated, Handler.keygen?]
  refine .of_keyed rfl { sound.toOnce with } sound.covers ?_
  exact
    { earlier := answer.earlier
      spent := by
        intro nonce member
        obtain ⟨pair, uses, spare⟩ := answer.spare
        exact absurd uses (spare.unspent _ member)
      bound := Nat.le_refl _
      heard := by
        intro counter member
        obtain ⟨pair, uses, spare⟩ := answer.spare
        exact absurd uses (spare.unheard _ member)
      unmirrored := keyed.unmirrored
      mirrored := fun mirror isMirror record held =>
        .inl (mirrorMarked mirror isMirror record held)
      storage := fun record isStored => .inl (storageMarked record isStored)
      marked := fun _ => ⟨mirrorMarked, storageMarked⟩
      single := by rw [none]; exact Nat.zero_le 1
      initiates := by simp [none]
      answers := by simp
      handler := by
        intro handler isHandler
        rw [← Option.some.inj isHandler]
        exact ⟨rfl, inFlight, none, rfl⟩ }

/-- A rekey that stores nothing is complete. -/
theorem Sound.complete
    (sound : ledger.Sound)
    (live : ledger.ended = false)
    (isSealer : ledger.sealer = some sealer)
    {key : SessionKey}
    {wrapKey : WrapKey}
    {credentialId : CredentialId}
    (commits : ledger.handler = some (.commitWrap key wrapKey credentialId)) :
    Sound { ledger with inFlight := false, handler := some .sending } := by
  have keyed := sound.keyed live sealer isSealer
  obtain ⟨-, -, idle, unanswered⟩ := keyed.handler _ commits
  have none :
      initiations { ledger with inFlight := false, handler := some .sending } = [] := by
    simp only [initiations, List.append_eq_nil_iff] at idle
    simp [initiations, idle, Handler.keygen?]
  refine .of_keyed isSealer { sound.toOnce with } sound.covers ?_
  exact
    { keyed with
      marked := by simp
      single := by rw [none]; exact Nat.zero_le 1
      initiates := by simp [none]
      answers := by simp [unanswered]
      handler := by simp [Handles] }

/-- The session key in use is stored, with the bound that is reserved by now. -/
theorem Sound.install
    (sound : ledger.Sound)
    (live : ledger.ended = false)
    (isSealer : ledger.sealer = some sealer)
    (idle : ledger.initiations = [])
    (unanswered : ledger.answers = [])
    {record : StoredSession}
    (backed : ledger.Backs sealer record)
    {handler : Option Handler}
    (handles :
      ∀ held ∈ handler,
        held = .sending ∨
          ledger.listens = false ∧
            ∃ frame mode state, held = .decrypting frame mode state none) :
    Sound
      { ledger with
        storage := some record
        mirrors := ledger.mirrors ++ [record]
        sealer := some { sealer with mirror := some ledger.mirrors.length }
        inFlight := false
        handler := handler } := by
  have keyed := sound.keyed live sealer isSealer
  have noKeygen : handler.bind Handler.keygen? = none := by
    cases isHandler : handler with
    | none => rfl
    | some held =>
        rcases handles held isHandler with rfl | ⟨-, frame, mode, state, rfl⟩ <;> rfl
  have none :
      initiations
        { ledger with
          storage := some record
          mirrors := ledger.mirrors ++ [record]
          sealer := some { sealer with mirror := some ledger.mirrors.length }
          inFlight := false
          handler := handler } = [] := by
    simp only [initiations, List.append_eq_nil_iff] at idle
    simp [initiations, idle, noKeygen]
  refine .of_keyed rfl { sound.toOnce with } ?_ ?_
  · intro other isOther
    rw [← Option.some.inj isOther]
    exact keyed.covers backed
  · exact
      { earlier := keyed.earlier
        spent := keyed.spent
        bound := keyed.bound
        heard := keyed.heard
        unmirrored := by simp
        mirrored := by
          intro mirror isMirror other held
          rw [← Option.some.inj isMirror] at held
          simp only [List.getElem?_concat_length, Option.mem_def, Option.some.injEq] at held
          rw [← held]
          exact backed
        storage := by
          intro other isOther
          rw [← Option.some.inj isOther]
          exact backed
        marked := by simp
        single := by rw [none]; exact Nat.zero_le 1
        initiates := by simp [none]
        answers := by simp [unanswered]
        handler := by
          intro held isHeld
          rcases handles held isHeld with rfl | ⟨unfollowed, frame, mode, state, rfl⟩
          · exact trivial
          · exact .inr ⟨rfl, unfollowed⟩ }

/-- The handshake establishes the first session key of the page. -/
theorem Sound.establish
    (sound : ledger.Sound)
    (live : ledger.ended = false)
    (unkeyed : ledger.sealer = none)
    {ciphertext : HandshakeCiphertext}
    {pair : Draw}
    (shaking : ledger.handler = some (.handshake ciphertext pair))
    {key : SessionKey}
    (uses : key.Uses pair)
    (earlier : ledger.Earlier key)
    (role : Role) :
    Sound
      { ledger with
        sealer :=
          some
            { role, key, mirror := none, committed := 0, reserved := 0, received := 0 }
        handler := none } := by
  have former := sound.unkeyed live unkeyed
  have isPair := former.handler _ shaking
  have noRecord := former.unstored
  have spare := former.ephemeral pair isPair
  have idle :
      initiations
        { ledger with
          sealer :=
          some
            { role, key, mirror := none, committed := 0, reserved := 0, received := 0 }
          handler := none } = [] := by
    have before := former.idle
    simp only [initiations, List.append_eq_nil_iff] at before
    simp [initiations, before]
  refine .of_keyed rfl { sound.toOnce with } sound.covers ?_
  exact
    { earlier := earlier
      spent := fun nonce member => absurd uses (spare.unspent _ member)
      bound := Nat.le_refl _
      heard := fun counter member => absurd uses (spare.unheard _ member)
      unmirrored := fun _ => noRecord
      mirrored := by simp
      storage := by simp [noRecord]
      marked := by simp [noRecord]
      single := by rw [idle]; exact Nat.zero_le 1
      initiates := by simp [idle]
      answers := by simp [former.unanswered]
      handler := by simp }

/-! ## Pages that were not connected yet -/

/-- A page that loaded with a record, or with none, and has not opened a connection. -/
structure Rested (ledger : Ledger) (stored : Option StoredSession) : Prop
    extends Once ledger where
  covers : ∀ record ∈ ledger.storage, ledger.Covers record
  unkeyed : ledger.sealer = none
  undisturbed : ledger.handler = none
  unanswered : ledger.answers = []
  live :
    ledger.ended = false →
      ledger.storage = stored ∧ (∀ record ∈ stored, record.rekeyInProgress = false) ∧
        ledger.inFlight = false ∧ ledger.initiations = [] ∧ ledger.ephemeral = none

theorem Rested.keeps
    {after : Ledger}
    {stored : Option StoredSession}
    (rested : ledger.Rested stored)
    (keeps : Keeps ledger after)
    (unkeyed : after.sealer = none)
    (undisturbed : after.handler = none)
    (unanswered : after.answers = []) : after.Rested stored where
  toOnce := keeps.once rested.toOnce
  covers := keeps.covers rested.covers
  unkeyed := unkeyed
  undisturbed := undisturbed
  unanswered := unanswered
  live := by
    intro live
    rcases keeps.live with ended | ⟨wasLive, running⟩
    · simp [ended] at live
    · obtain ⟨storage, unmarked, landed, idle, undrawn⟩ := rested.live wasLive
      have same : after.storage = ledger.storage :=
        keeps.storage.resolve_right fun gone => by simp [gone.1] at live
      exact
        ⟨same.trans storage, unmarked, running.inFlight.trans landed,
          List.sublist_nil.mp (idle ▸ running.initiations), running.ephemeral.trans undrawn⟩

/-- A page without a record connects. -/
theorem Rested.connects (rested : ledger.Rested none) : ledger.Sound where
  toOnce := rested.toOnce
  covers := rested.covers
  unkeyed := fun live _ =>
    { unstored := (rested.live live).1
      landed := (rested.live live).2.2.1
      idle := (rested.live live).2.2.2.1
      unanswered := rested.unanswered
      ephemeral := by simp [(rested.live live).2.2.2.2]
      handler := by simp [rested.undisturbed] }
  keyed := fun _ sealer isSealer => by simp [rested.unkeyed] at isSealer

/-- A stored session is resumed from the bound that its record reserved. -/
theorem Rested.resumes
    {record : StoredSession}
    (rested : ledger.Rested (some record))
    (isLive : ledger.ended = false)
    {key : SessionKey}
    {wrapKey : WrapKey}
    (wraps : record.k = .wrapped key wrapKey)
    (role : Role) :
    Sound
      { ledger with
        mirrors := ledger.mirrors ++ [record]
        sealer :=
          some
            { role
              key
              mirror := some ledger.mirrors.length
              committed := record.s
              reserved := record.s
              received := record.n } } := by
  obtain ⟨inStorage, unmarked, landed, idle, -⟩ := rested.live isLive
  obtain ⟨earlier, covered, floor⟩ :=
    rested.covers record inStorage (unmarked record rfl) key wrapKey wraps
  have backed :
      ledger.Backs
        { role
          key
          mirror := some ledger.mirrors.length
          committed := record.s
          reserved := record.s
          received := record.n }
        record :=
    .inr ⟨⟨wrapKey, wraps⟩, Nat.le_refl _, floor⟩
  have none :
      initiations
        { ledger with
          mirrors := ledger.mirrors ++ [record]
          sealer :=
            some
              { role
                key
                mirror := some ledger.mirrors.length
                committed := record.s
                reserved := record.s
                received := record.n } } = [] := idle
  refine .of_keyed rfl { rested.toOnce with } rested.covers ?_
  exact
    { earlier := earlier
      spent := covered
      bound := Nat.le_refl _
      heard := floor
      unmirrored := by simp
      mirrored := by
        intro mirror isMirror other held
        rw [← Option.some.inj isMirror] at held
        simp only [List.getElem?_concat_length, Option.mem_def, Option.some.injEq] at held
        rw [← held]
        exact backed
      storage := by
        intro other isOther
        rw [← Option.some.inj (inStorage.symm.trans isOther)]
        exact backed
      marked := by simp [landed]
      single := by rw [none]; exact Nat.zero_le 1
      initiates := by simp [none]
      answers := by simp [rested.unanswered]
      handler := by simp [rested.undisturbed] }

end Operations

end Ledger

end Unseen
