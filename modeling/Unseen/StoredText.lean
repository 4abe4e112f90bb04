import Unseen.JsonRecord
import Unseen.RoomLink
import Unseen.SessionStore

namespace Unseen

open Opfs

/-!
# The stored record as text

The record lies in `sessionStorage` as the JSON text of an object whose keys and
identifiers are base64url texts and whose counters are decimal texts.
-/

namespace Json

open Unicode

/-! ## Records that end in a flag -/

/-- Members that are each followed by a comma. -/
def stringifyLeading (written : List (CodeUnits × Property)) : CodeUnits :=
  written.flatMap fun member => stringifyMember member ++ [comma]

def trueText : CodeUnits := ascii ['t', 'r', 'u', 'e']

/-- `JSON.stringify` on a record whose last property is `true`. -/
def stringifyFlagged (written : List (CodeUnits × Property)) (flag : CodeUnits) : CodeUnits :=
  leftBrace :: (stringifyLeading written ++ (quote flag ++ colon :: (trueText ++ [rightBrace])))

/-- Members behind which others follow are read one after the other. -/
theorem parseMembers_leading
    {parse : CodeUnits → Option (Value × CodeUnits)}
    (reads : ∀ {property : Property}, property.IsSafe → ∀ rest,
      parse (stringifyProperty property ++ comma :: rest) = some (property.toValue, comma :: rest))
    {written : List (CodeUnits × Property)}
    (safe : ∀ member ∈ written, member.2.IsSafe)
    {members : OrderedMap CodeUnits Value}
    (distinct : (members.entries.map Prod.fst ++ written.map Prod.fst).Nodup)
    (fuel : Nat)
    (rest : CodeUnits) :
    ∃ after : OrderedMap CodeUnits Value,
      after.entries = members.entries ++ written.map toEntry ∧
        parseMembers parse (fuel + written.length) members (stringifyLeading written ++ rest) =
          parseMembers parse fuel after rest := by
  induction written generalizing members with
  | nil => exact ⟨members, by simp, rfl⟩
  | cons member others ih =>
      have isNew : member.1 ∉ members.entries.map Prod.fst := by
        intro isOld
        rw [List.map_cons] at distinct
        exact (List.disjoint_of_nodup_append distinct) isOld List.mem_cons_self
      have isSet := entries_set isNew member.2.toValue
      have areDistinct :
          ((members.set member.1 member.2.toValue).entries.map Prod.fst ++
            others.map Prod.fst).Nodup := by
        rw [isSet]
        simpa using distinct
      obtain ⟨after, isAfter, parsed⟩ :=
        ih (fun other isOther => safe other (List.mem_cons_of_mem _ isOther)) areDistinct
      refine ⟨after, ?_, ?_⟩
      · rw [isAfter, isSet, List.append_assoc]
        rfl
      · rw [← parsed, List.length_cons, ← Nat.add_assoc]
        have isText : stringifyLeading (member :: others) ++ rest =
            stringifyMember member ++ comma :: (stringifyLeading others ++ rest) := by
          simp [stringifyLeading]
        rw [isText, parseMembers_member (reads (safe _ List.mem_cons_self) _) (.inl rfl),
          if_pos rfl]

theorem parseValue_true (fuel : Nat) :
    parseValue (fuel + 1) (trueText ++ [rightBrace]) = some (.bool true, [rightBrace]) :=
  rfl

/-- The last member of a flagged record. -/
theorem parseMembers_flag
    {flag : CodeUnits}
    {members : OrderedMap CodeUnits Value}
    (isNew : flag ∉ members.entries.map Prod.fst)
    (fuel outer : Nat) :
    parseMembers (parseValue (fuel + 1)) (outer + 1) members
        (quote flag ++ colon :: (trueText ++ [rightBrace])) =
      some (.object (members.entries ++ [(flag, .bool true)]), []) := by
  simp only [parseMembers, parseName_quote, parseValue_true, Option.bind_eq_bind, Option.bind_some,
    skipWhitespace_cons (show isWhitespace rightBrace = false by decide),
    if_neg (show rightBrace ≠ comma by decide), if_true, entries_set isNew]

theorem length_le_stringifyLeading (written : List (CodeUnits × Property)) :
    written.length ≤ (stringifyLeading written).length := by
  induction written with
  | nil => exact Nat.zero_le _
  | cons member others ih =>
      simp only [stringifyLeading, List.flatMap_cons, List.length_append, List.length_cons,
        List.length_nil] at ih ⊢
      omega

/-- What was written with a flag is read back with the flag. -/
theorem parse_stringifyFlagged
    {written : List (CodeUnits × Property)}
    {flag : CodeUnits}
    (safe : ∀ member ∈ written, member.2.IsSafe)
    (distinct : (written.map Prod.fst ++ [flag]).Nodup) :
    parse (stringifyFlagged written flag) =
      some (.object (written.map toEntry ++ [(flag, .bool true)])) := by
  have isLong := length_le_stringifyLeading written
  obtain ⟨outer, isOuter⟩ : ∃ outer, (stringifyFlagged written flag).length =
      outer + 1 + written.length := by
    refine ⟨(stringifyFlagged written flag).length - 1 - written.length, ?_⟩
    simp only [stringifyFlagged, List.length_cons, List.length_append]
    omega
  have isDistinct : ((OrderedMap.empty : OrderedMap CodeUnits Value).entries.map Prod.fst ++
      written.map Prod.fst).Nodup := by
    simpa [OrderedMap.empty] using (List.nodup_append.mp distinct).1
  obtain ⟨after, isAfter, parsed⟩ := parseMembers_leading
    (fun isSafe rest => parseValue_property (.inl rfl) isSafe (outer + written.length) rest)
    safe isDistinct (outer + 1) (quote flag ++ colon :: (trueText ++ [rightBrace]))
  have isNew : flag ∉ after.entries.map Prod.fst := by
    rw [isAfter]
    intro isOld
    have isName : flag ∈ written.map Prod.fst := by
      simpa [OrderedMap.empty, toEntry] using isOld
    exact (List.disjoint_of_nodup_append distinct) isName List.mem_cons_self
  obtain ⟨first, isText⟩ : ∃ first,
      stringifyLeading written ++ (quote flag ++ colon :: (trueText ++ [rightBrace])) =
        quotationMark :: first := by
    cases written <;> exact ⟨_, rfl⟩
  rw [parseMembers_flag isNew, isAfter, isText] at parsed
  have isFuel : outer + 1 + written.length = outer + written.length + 1 := by omega
  rw [isFuel] at parsed
  rw [parse_eq (Nat.lt_succ_self _), isOuter, isFuel, stringifyFlagged, isText, parseValue,
    skipWhitespace_cons (by decide)]
  simp only [parseComposite, if_true, skipWhitespace_cons
    (show isWhitespace quotationMark = false by decide),
    if_neg (show quotationMark ≠ rightBrace by decide)]
  rw [parsed]
  rfl

end Json

/-! ## The record and its text -/

/-- `StoredSession` as it is written: all fields but the flags are texts. -/
structure StoredRecord where
  r : ShortRole
  k : Text
  s : Text
  n : Text
  cid : Text
  sas : Option Text
  modePhase : Option ModePhase
  rekeyInProgress : Bool
deriving DecidableEq

namespace StoredRecord

def rName : Text := Json.ascii ['r']
def kName : Text := Json.ascii ['k']
def sName : Text := Json.ascii ['s']
def nName : Text := Json.ascii ['n']
def cidName : Text := Json.ascii ['c', 'i', 'd']
def sasName : Text := Json.ascii ['s', 'a', 's']
def modePhaseName : Text := Json.ascii ['m', 'o', 'd', 'e', '_', 'p', 'h', 'a', 's', 'e']
def rekeyName : Text :=
  Json.ascii
    ['r', 'e', 'k', 'e', 'y', '_', 'i', 'n', '_', 'p', 'r', 'o', 'g', 'r', 'e', 's', 's']

def roleText : ShortRole → Text
  | .i => Json.ascii ['i']
  | .j => Json.ascii ['j']

def phaseText : ModePhase → Text
  | .soft => Json.ascii ['s', 'o', 'f', 't']
  | .hardened => Json.ascii ['h', 'a', 'r', 'd', 'e', 'n', 'e', 'd']

/-- The members that are texts, in the order in which they are written. -/
def members (record : StoredRecord) : List (Text × Json.Property) :=
  [ (rName, .string (roleText record.r)), (kName, .string record.k), (sName, .string record.s),
    (nName, .string record.n), (cidName, .string record.cid) ] ++
    (record.sas.map fun sas => (sasName, .string sas)).toList ++
    (record.modePhase.map fun phase => (modePhaseName, .string (phaseText phase))).toList

/-- `JSON.stringify(state)` of `writeStoredSession` -/
def stringify (record : StoredRecord) : Text :=
  if record.rekeyInProgress then Json.stringifyFlagged record.members rekeyName
  else Json.stringify record.members

end StoredRecord

/-! ## Reading the text -/

section Reading

open StoredRecord

/-- `isCounterString` -/
def isCounterString (text : Text) : Bool :=
  text ≠ [] && text.all Json.isDigit

/-- The text of a property, when it is a string. -/
def stringOf : Option Json.Value → Option Text
  | some (.string text) => some text
  | _ => none

def roleOf (text : Text) : Option ShortRole :=
  if text = roleText .i then some .i
  else if text = roleText .j then some .j
  else none

def phaseOf (text : Text) : Option ModePhase :=
  if text = phaseText .soft then some .soft
  else if text = phaseText .hardened then some .hardened
  else none

def isTrueMember : Option Json.Value → Bool
  | some (.bool true) => true
  | _ => false

/-- The record of an object that has the required fields. -/
def recordOf (fields : List (Text × Json.Value)) : Option StoredRecord := do
  let r ← (stringOf (fields.lookup rName)).bind roleOf
  let k ← stringOf (fields.lookup kName)
  let s ← (stringOf (fields.lookup sName)).filter isCounterString
  let n ← (stringOf (fields.lookup nName)).filter isCounterString
  let cid ← stringOf (fields.lookup cidName)
  some
    { r := r
      k := k
      s := s
      n := n
      cid := cid
      sas := stringOf (fields.lookup sasName)
      modePhase := (stringOf (fields.lookup modePhaseName)).bind phaseOf
      rekeyInProgress := isTrueMember (fields.lookup rekeyName) }

/-- `parseStored`; an array has none of the fields. -/
def parseStored (raw : Text) : Option StoredRecord :=
  match Json.parse raw with
  | some (.object fields) => recordOf fields
  | _ => none

/-! ## Writing and reading back -/

/-- Both counters of the record are decimal texts. -/
def StoredRecord.WellFormed (record : StoredRecord) : Prop :=
  isCounterString record.s = true ∧ isCounterString record.n = true

theorem members_safe (record : StoredRecord) :
    ∀ member ∈ record.members, member.2.IsSafe := by
  obtain ⟨r, k, s, n, cid, sas, modePhase, rekeyInProgress⟩ := record
  cases sas <;> cases modePhase <;>
    simp [StoredRecord.members, Json.Property.IsSafe]

theorem members_distinct (record : StoredRecord) :
    (record.members.map Prod.fst ++ [rekeyName]).Nodup := by
  obtain ⟨r, k, s, n, cid, sas, modePhase, rekeyInProgress⟩ := record
  cases sas <;> cases modePhase <;>
    · simp only [StoredRecord.members, Option.map_none, Option.map_some, Option.toList_none,
        Option.toList_some, List.append_nil, List.cons_append, List.nil_append, List.map_cons,
        List.map_nil]
      decide

/-- The object that the text of a record is read as. -/
def StoredRecord.fields (record : StoredRecord) : List (Text × Json.Value) :=
  record.members.map Json.toEntry ++
    if record.rekeyInProgress then [(rekeyName, .bool true)] else []

theorem parse_stringify (record : StoredRecord) :
    Json.parse record.stringify = some (.object record.fields) := by
  unfold StoredRecord.stringify StoredRecord.fields
  split
  · exact Json.parse_stringifyFlagged (members_safe record) (members_distinct record)
  · rw [List.append_nil]
    exact Json.parse_stringify (members_safe record)
      (List.nodup_append.mp (members_distinct record)).1

theorem roleOf_roleText (r : ShortRole) : roleOf (roleText r) = some r := by
  cases r <;> decide

theorem phaseOf_phaseText (phase : ModePhase) : phaseOf (phaseText phase) = some phase := by
  cases phase <;> decide

theorem lookup_fields (record : StoredRecord) :
    record.fields.lookup rName = some (.string (roleText record.r)) ∧
      record.fields.lookup kName = some (.string record.k) ∧
      record.fields.lookup sName = some (.string record.s) ∧
      record.fields.lookup nName = some (.string record.n) ∧
      record.fields.lookup cidName = some (.string record.cid) ∧
      record.fields.lookup sasName = record.sas.map Json.Value.string ∧
      record.fields.lookup modePhaseName =
        record.modePhase.map (fun phase => Json.Value.string (phaseText phase)) ∧
      record.fields.lookup rekeyName =
        if record.rekeyInProgress then some (.bool true) else none := by
  obtain ⟨r, k, s, n, cid, sas, modePhase, rekeyInProgress⟩ := record
  cases sas <;> cases modePhase <;> cases rekeyInProgress <;>
    exact ⟨rfl, rfl, rfl, rfl, rfl, rfl, rfl, rfl⟩

/-- Every field of the object is the one that was written. -/
theorem recordOf_fields
    {record : StoredRecord}
    (formed : record.WellFormed) :
    recordOf record.fields = some record := by
  obtain ⟨isR, isK, isS, isN, isCid, isSas, isPhase, isRekey⟩ := lookup_fields record
  simp only [recordOf, isR, isK, isS, isN, isCid, isSas, isPhase, isRekey, stringOf,
    Option.bind_some, roleOf_roleText, Option.filter_some, formed.1, formed.2, if_true,
    Option.bind_eq_bind, Option.some.injEq]
  obtain ⟨r, k, s, n, cid, sas, modePhase, rekeyInProgress⟩ := record
  cases sas <;> cases modePhase <;> cases rekeyInProgress <;>
    simp [isTrueMember, phaseOf_phaseText]

/-- The text of a record is read back as the record. -/
theorem parseStored_stringify
    {record : StoredRecord}
    (formed : record.WellFormed) :
    parseStored record.stringify = some record := by
  rw [parseStored, parse_stringify]
  exact recordOf_fields formed

/-- What is accepted is well formed. -/
theorem wellFormed_of_parseStored
    {raw : Text}
    {record : StoredRecord}
    (accepted : parseStored raw = some record) :
    record.WellFormed := by
  unfold parseStored at accepted
  split at accepted
  · rename_i fields isObject
    simp only [recordOf, Option.bind_eq_bind, Option.bind_eq_some_iff, Option.filter_eq_some_iff,
      Option.some.injEq] at accepted
    obtain ⟨r, -, k, -, s, ⟨-, isSend⟩, n, ⟨-, isRecv⟩, cid, -, rfl⟩ := accepted
    exact ⟨isSend, isRecv⟩
  · cases accepted

/-- Whatever text lies in the storage, the record that is read from it is read again
from the text it is written as. -/
theorem parseStored_stable (raw : Text) :
    (parseStored raw).bind (fun record => parseStored record.stringify) = parseStored raw := by
  cases accepted : parseStored raw with
  | none => rfl
  | some record => exact parseStored_stringify (wellFormed_of_parseStored accepted)

end Reading

/-! ## What a session keeps in the record -/

/-- What `persistWrappedSessionKey` puts into a record, and `attemptResume` takes out of
it. -/
structure SessionRecord where
  role : Role
  wrapped : Bytes
  counterReserved : Nat
  counterRecv : Nat
  credentialId : Bytes
  sasBytes : Option Bytes
  modePhase : Option ModePhase
  rekeyInProgress : Bool
deriving DecidableEq

namespace SessionRecord

def toStored (record : SessionRecord) : StoredRecord where
  r := encodeRole record.role
  k := base64urlEncode record.wrapped
  s := Json.decimal record.counterReserved
  n := Json.decimal record.counterRecv
  cid := base64urlEncode record.credentialId
  sas := record.sasBytes.map base64urlEncode
  modePhase := record.modePhase
  rekeyInProgress := record.rekeyInProgress

end SessionRecord

/-- The fields as `attemptResume` decodes them; `BigInt` of a counter is its value. -/
def StoredRecord.restore (record : StoredRecord) : Option SessionRecord := do
  let wrapped ← base64urlDecode record.k
  let credentialId ← base64urlDecode record.cid
  some
    { role := decodeRole record.r
      wrapped := wrapped
      counterReserved := Json.digitsValue record.s
      counterRecv := Json.digitsValue record.n
      credentialId := credentialId
      sasBytes := record.sas.bind base64urlDecode
      modePhase := record.modePhase
      rekeyInProgress := record.rekeyInProgress }

theorem isCounterString_decimal (counter : Nat) : isCounterString (Json.decimal counter) = true := by
  simp only [isCounterString, Bool.and_eq_true, decide_eq_true_eq, List.all_eq_true]
  exact ⟨Json.decimal_ne_nil counter, fun _ => Json.isDigit_of_mem_decimal⟩

theorem toStored_wellFormed (record : SessionRecord) : record.toStored.WellFormed :=
  ⟨isCounterString_decimal _, isCounterString_decimal _⟩

theorem restore_toStored (record : SessionRecord) : record.toStored.restore = some record := by
  obtain ⟨role, wrapped, counterReserved, counterRecv, credentialId, sasBytes, modePhase,
    rekeyInProgress⟩ := record
  simp only [StoredRecord.restore, SessionRecord.toStored, base64urlDecode_base64urlEncode,
    Option.bind_eq_bind, Option.bind_some, decodeRole_encodeRole, Json.digitsValue_decimal]
  cases sasBytes <;> simp [base64urlDecode_base64urlEncode]

/-! ## The store over texts and the store of records -/

/-- The calls a session makes on its store. -/
inductive StoreCall where
  /-- A new record, which the mirror holds from then on. -/
  | persist (record : SessionRecord)
  | setCounterSend (counter : Nat)
  | setCounterRecv (counter : Nat)
  | setRekeyInProgress
  /-- The record of an ended session is removed, and its mirror writes no more. -/
  | clear
  /-- The page boots and mirrors the record it reads. -/
  | reload

/-- The item of `sessionStorage` and the record in the mirror. -/
structure TextStore where
  item : Option Text
  mirror : Option StoredRecord

namespace TextStore

def empty : TextStore where
  item := none
  mirror := none

/-- `write` of the mirror, with the record that is current from now on. -/
def flush (current : StoredRecord) : TextStore where
  item := some current.stringify
  mirror := some current

/-- A setter of `mirrorStoredSession`; without a mirror there is no setter. -/
def update (store : TextStore) (change : StoredRecord → StoredRecord) : TextStore :=
  match store.mirror with
  | none => store
  | some current => flush (change current)

/-- A call on the store. Writes to `sessionStorage` do not fail here. `reload` mirrors what
it parses, also a record marked `rekey_in_progress`, which `startSession` removes instead:
such a boot is a `clear`. A record without `sas` is restored without one, for which
`attemptResume` takes zeros. -/
def call (store : TextStore) : StoreCall → TextStore
  | .persist record => flush record.toStored
  | .setCounterSend counter =>
      store.update fun current => { current with s := Json.decimal counter }
  | .setCounterRecv counter =>
      store.update fun current => { current with n := Json.decimal counter }
  | .setRekeyInProgress => store.update fun current => { current with rekeyInProgress := true }
  | .clear => empty
  | .reload => { store with mirror := store.item.bind parseStored }

/-- What `attemptResume` would find. -/
def restored (store : TextStore) : Option SessionRecord :=
  (store.item.bind parseStored).bind StoredRecord.restore

end TextStore

/-- A store that holds the record itself. -/
structure RecordStore where
  item : Option SessionRecord
  mirror : Option SessionRecord

namespace RecordStore

def empty : RecordStore where
  item := none
  mirror := none

def flush (current : SessionRecord) : RecordStore where
  item := some current
  mirror := some current

def update (store : RecordStore) (change : SessionRecord → SessionRecord) : RecordStore :=
  match store.mirror with
  | none => store
  | some current => flush (change current)

def call (store : RecordStore) : StoreCall → RecordStore
  | .persist record => flush record
  | .setCounterSend counter => store.update fun current => { current with counterReserved := counter }
  | .setCounterRecv counter => store.update fun current => { current with counterRecv := counter }
  | .setRekeyInProgress => store.update fun current => { current with rekeyInProgress := true }
  | .clear => empty
  | .reload => { store with mirror := store.item }

end RecordStore

/-- The texts of a store are those of the records. -/
structure Represents (texts : TextStore) (records : RecordStore) : Prop where
  item : texts.item = records.item.map fun record => record.toStored.stringify
  mirror : texts.mirror = records.mirror.map SessionRecord.toStored

theorem Represents.flush (record : SessionRecord) :
    Represents (TextStore.flush record.toStored) (RecordStore.flush record) :=
  ⟨rfl, rfl⟩

theorem Represents.update
    {texts : TextStore}
    {records : RecordStore}
    (represents : Represents texts records)
    {change : StoredRecord → StoredRecord}
    {recordChange : SessionRecord → SessionRecord}
    (same : ∀ record, change record.toStored = (recordChange record).toStored) :
    Represents (texts.update change) (records.update recordChange) := by
  have isMirror := represents.mirror
  unfold TextStore.update RecordStore.update
  cases isRecord : records.mirror with
  | none =>
      rw [isRecord] at isMirror
      simp only [isMirror, Option.map_none]
      exact represents
  | some current =>
      rw [isRecord] at isMirror
      simp only [isMirror, Option.map_some, same]
      exact .flush _

theorem Represents.parsed
    {texts : TextStore}
    {records : RecordStore}
    (represents : Represents texts records) :
    texts.item.bind parseStored = records.item.map SessionRecord.toStored := by
  rw [represents.item]
  cases records.item with
  | none => rfl
  | some record => exact parseStored_stringify (toStored_wellFormed record)

theorem Represents.call
    {texts : TextStore}
    {records : RecordStore}
    (represents : Represents texts records)
    (storeCall : StoreCall) :
    Represents (texts.call storeCall) (records.call storeCall) := by
  cases storeCall with
  | persist record => exact .flush record
  | setCounterSend counter => exact represents.update fun _ => rfl
  | setCounterRecv counter => exact represents.update fun _ => rfl
  | setRekeyInProgress => exact represents.update fun _ => rfl
  | clear => exact ⟨rfl, rfl⟩
  | reload => exact ⟨represents.item, represents.parsed⟩

/-- After any calls, a boot restores from the text what the store of records holds. -/
theorem restored_eq (calls : List StoreCall) :
    (calls.foldl TextStore.call .empty).restored = (calls.foldl RecordStore.call .empty).item := by
  have represents : Represents (calls.foldl TextStore.call .empty)
      (calls.foldl RecordStore.call .empty) := by
    have run : ∀ {texts records}, Represents texts records →
        Represents (calls.foldl TextStore.call texts) (calls.foldl RecordStore.call records) := by
      induction calls with
      | nil => exact fun represents => represents
      | cons storeCall calls ih => exact fun represents => ih (represents.call storeCall)
    exact run ⟨rfl, rfl⟩
  rw [TextStore.restored, represents.parsed]
  cases (calls.foldl RecordStore.call .empty).item with
  | none => rfl
  | some record => exact restore_toStored record

end Unseen
