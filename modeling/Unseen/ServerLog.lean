import Unseen.Json

namespace Unseen.ServerLog

open Unicode (CodeUnits)

/-!
# The log lines of the server

A line is one JSON record.  The logger starts it with its own level, time and
message and then puts the caller's fields into it, as far as their keys are
allowed; fields whose values are names have to look like names.

What the caller puts under the other keys is not looked at, and what it puts
under the logger's own keys replaces the logger's values.

A line is modelled as the record that its text spells.
-/

/-! ## Values of fields -/

/-- What `JSON.stringify` makes of the value of a property. -/
inductive Spelling where
  | omitted
  | throws
  | value (value : Json.Value)

/-- A JavaScript value.  An object is known by its spelling, which its members, its class or
its `toJSON` method decide. -/
inductive JsValue where
  | undefined
  | null
  | boolean (value : Bool)
  | number (value : Json.Number)
  | notANumber
  | bigint
  | string (value : CodeUnits)
  | symbol
  | function
  | object (spelling : Spelling)

/-- `JSON.stringify` on the value of a property. -/
def JsValue.spelling : JsValue → Spelling
  | .undefined => .omitted
  | .null => .value .null
  | .boolean value => .value (.bool value)
  | .number (.finite value) => .value (.number (.finite value))
  | .number (.infinite _) => .value .null
  | .notANumber => .value .null
  | .bigint => .throws
  | .string value => .value (.string value)
  | .symbol => .omitted
  | .function => .omitted
  | .object spelling => spelling

/-! ## The allowlists -/

def levelKey : CodeUnits := Json.ascii ['l', 'e', 'v', 'e', 'l']
def timeKey : CodeUnits := Json.ascii ['t', 'i', 'm', 'e']
def msgKey : CodeUnits := Json.ascii ['m', 's', 'g']
def portKey : CodeUnits := Json.ascii ['p', 'o', 'r', 't']
def errorClassKey : CodeUnits :=
  Json.ascii ['e', 'r', 'r', 'o', 'r', 'C', 'l', 'a', 's', 's']
def errorCodeKey : CodeUnits :=
  Json.ascii ['e', 'r', 'r', 'o', 'r', 'C', 'o', 'd', 'e']
def activeRoomsKey : CodeUnits :=
  Json.ascii ['a', 'c', 't', 'i', 'v', 'e', 'R', 'o', 'o', 'm', 's']
def waitingRoomsKey : CodeUnits :=
  Json.ascii ['w', 'a', 'i', 't', 'i', 'n', 'g', 'R', 'o', 'o', 'm', 's']
def totalConnectionsKey : CodeUnits :=
  Json.ascii
    ['t', 'o', 't', 'a', 'l', 'C', 'o', 'n', 'n', 'e', 'c', 't', 'i', 'o', 'n', 's']
def rateLimitBucketKey : CodeUnits :=
  Json.ascii ['r', 'a', 't', 'e', 'L', 'i', 'm', 'i', 't', 'B', 'u', 'c', 'k', 'e', 't']

/-- `ALLOWED_KEYS` -/
def allowedKeys : List CodeUnits :=
  [ levelKey, timeKey, msgKey, portKey, errorClassKey, errorCodeKey, activeRoomsKey,
    waitingRoomsKey, totalConnectionsKey, rateLimitBucketKey ]

/-- `ENUM_VALUE_KEYS` -/
def enumValueKeys : List CodeUnits :=
  [errorClassKey, errorCodeKey, rateLimitBucketKey]

/-- The keys that the logger sets itself. -/
def ownKeys : List CodeUnits :=
  [levelKey, timeKey, msgKey]

def isUpper (unit : UInt16) : Bool :=
  0x41 ≤ unit && unit ≤ 0x5A

def isLower (unit : UInt16) : Bool :=
  0x61 ≤ unit && unit ≤ 0x7A

/-- `ENUM_VALUE_RE` -/
def matchesEnumValue (text : CodeUnits) : Bool :=
  match text with
  | [] => false
  | first :: rest =>
      isUpper first && rest.length ≤ 63 &&
        rest.all fun unit => isUpper unit || Json.isDigit unit || unit == 0x5F

/-- `MSG_RE` -/
def matchesMsg (text : CodeUnits) : Bool :=
  1 ≤ text.length && text.length ≤ 200 &&
    text.all fun unit =>
      isUpper unit || isLower unit || Json.isDigit unit ||
        [0x20, 0x2E, 0x2C, 0x3A, 0x5F, 0x2D].contains unit

/-- What takes the place of a message that is rejected. -/
def logMsgRejected : CodeUnits :=
  Json.ascii
    ['l', 'o', 'g', '_', 'm', 's', 'g', '_', 'r', 'e', 'j', 'e', 'c', 't', 'e', 'd']

/-! ## Lines -/

/-- `LogLevel` -/
inductive LogLevel where
  | info
  | warn
  | error

/-- The level as the line has it. -/
def LogLevel.text : LogLevel → CodeUnits
  | .info => Json.ascii ['i', 'n', 'f', 'o']
  | .warn => Json.ascii ['w', 'a', 'r', 'n']
  | .error => Json.ascii ['e', 'r', 'r', 'o', 'r']

/-- `LogFields`: the own properties of an object, in order. -/
abbrev LogFields := OrderedMap CodeUnits JsValue

/-- The record that a line spells. -/
abbrev Line := List (CodeUnits × Json.Value)

/-- `typeof value === 'string' && ENUM_VALUE_RE.test(value)` -/
def isEnumValue : JsValue → Bool
  | .string text => matchesEnumValue text
  | _ => false

/-- Whether the loop of `sanitize` takes a field over. -/
def accepts (key : CodeUnits) (value : JsValue) : Bool :=
  allowedKeys.contains key && (!enumValueKeys.contains key || isEnumValue value)

/-- What `sanitize` starts from; `now` is what `Date.now()` returns. -/
def ownFields (now : ℚ) (level : LogLevel) (msg : CodeUnits) : LogFields :=
  ((OrderedMap.empty.set levelKey (.string level.text)).set timeKey (.number (.finite now))).set
    msgKey (.string (if matchesMsg msg then msg else logMsgRejected))

/-- The loop of `sanitize`. -/
def mergeFields : LogFields → List (CodeUnits × JsValue) → LogFields
  | out, [] => out
  | out, (key, value) :: rest =>
      mergeFields (if accepts key value then out.set key value else out) rest

/-- `JSON.stringify` on a record; `none` when it throws. -/
def stringify : List (CodeUnits × JsValue) → Option Line
  | [] => some []
  | (key, value) :: rest =>
      match value.spelling with
      | .throws => none
      | .omitted => stringify rest
      | .value spelled => (stringify rest).map fun line => (key, spelled) :: line

/-- `sanitize`; `none` when it throws, and no line is written. -/
def sanitize
    (now : ℚ)
    (level : LogLevel)
    (msg : CodeUnits)
    (fields : LogFields) : Option Line :=
  stringify (mergeFields (ownFields now level msg) fields.entries).entries

/-- Where lines go. -/
inductive Stream where
  | stdout
  | stderr

/-- `write` -/
def write
    (now : ℚ)
    (level : LogLevel)
    (msg : CodeUnits)
    (fields : LogFields) : Option (Stream × Line) :=
  (sanitize now level msg fields).map fun line =>
    (match level with
      | .info => .stdout
      | .warn | .error => .stderr, line)

/-! ## What a line should guarantee -/

/-- The line keeps to the logger's own values, to names and to numbers. -/
structure Guaranteed (now : ℚ) (level : LogLevel) (line : Line) : Prop where
  keys : ∀ entry ∈ line, entry.1 ∈ allowedKeys
  level : ∀ value, (levelKey, value) ∈ line ↔ value = .string level.text
  time : ∀ value, (timeKey, value) ∈ line ↔ value = .number (.finite now)
  msg : ∃ text, (∀ value, (msgKey, value) ∈ line ↔ value = .string text) ∧
    (matchesMsg text = true ∨ text = logMsgRejected)
  names : ∀ entry ∈ line, entry.1 ∈ enumValueKeys →
    ∃ text, entry.2 = .string text ∧ matchesEnumValue text = true
  numbers : ∀ entry ∈ line, entry.1 ∉ enumValueKeys → entry.1 ∉ ownKeys →
    ∃ number, entry.2 = .number number

/-- A field that does no harm under its key: it repeats what the logger would have put there
itself, or is a number where no name is asked for. -/
structure Harmless (now : ℚ) (level : LogLevel) (key : CodeUnits) (spelling : Spelling) :
    Prop where
  level : key = levelKey → spelling = .value (.string level.text)
  time : key = timeKey → spelling = .value (.number (.finite now))
  msg : key = msgKey → ∃ text, spelling = .value (.string text) ∧
    (matchesMsg text = true ∨ text = logMsgRejected)
  number : key ∈ allowedKeys → key ∉ enumValueKeys → key ∉ ownKeys →
    ∀ value, spelling = .value value → ∃ number, value = .number number

/-- Some field that is taken over cannot be written as JSON, so that no line is written. -/
def Unwritable (fields : LogFields) : Prop :=
  ∃ entry ∈ fields.entries, accepts entry.1 entry.2 = true ∧ entry.2.spelling = .throws

/-! ## How the record comes about -/

variable {now : ℚ} {level : LogLevel} {msg key : CodeUnits} {value : JsValue}
variable {fields out : LogFields} {entries : List (CodeUnits × JsValue)}

theorem get_ownFields_level :
    (ownFields now level msg).get levelKey = some (.string level.text) := by
  rw [ownFields, OrderedMap.get_set_other (by decide), OrderedMap.get_set_other (by decide),
    OrderedMap.get_set_self]

theorem get_ownFields_time :
    (ownFields now level msg).get timeKey = some (.number (.finite now)) := by
  rw [ownFields, OrderedMap.get_set_other (by decide), OrderedMap.get_set_self]

theorem get_ownFields_msg :
    (ownFields now level msg).get msgKey =
      some (.string (if matchesMsg msg then msg else logMsgRejected)) := by
  rw [ownFields, OrderedMap.get_set_self]

theorem get_ownFields_other (isOther : key ∉ ownKeys) :
    (ownFields now level msg).get key = none := by
  have notLevel : key ≠ levelKey := fun same => isOther (same ▸ by decide)
  have notTime : key ≠ timeKey := fun same => isOther (same ▸ by decide)
  have notMsg : key ≠ msgKey := fun same => isOther (same ▸ by decide)
  rw [ownFields, OrderedMap.get_set_other notMsg, OrderedMap.get_set_other notTime,
    OrderedMap.get_set_other notLevel, OrderedMap.get_empty]

/-- A key under which no field is taken over keeps its value. -/
theorem get_mergeFields_of_not_accepted
    (notAccepted : ∀ value, (key, value) ∈ entries → accepts key value = false) :
    (mergeFields out entries).get key = out.get key := by
  induction entries generalizing out with
  | nil => rfl
  | cons entry rest inductionHypothesis =>
      obtain ⟨first, held⟩ := entry
      rw [mergeFields, inductionHypothesis fun value isEntry =>
        notAccepted value (List.mem_cons_of_mem _ isEntry)]
      split
      next isAccepted =>
        apply OrderedMap.get_set_other
        rintro rfl
        rw [notAccepted held List.mem_cons_self] at isAccepted
        cases isAccepted
      next => rfl

/-- A field that is taken over stands under its key. -/
theorem get_mergeFields_of_accepted
    (distinct : (entries.map Prod.fst).Nodup)
    (isEntry : (key, value) ∈ entries)
    (isAccepted : accepts key value = true) :
    (mergeFields out entries).get key = some value := by
  induction entries generalizing out with
  | nil => cases isEntry
  | cons entry rest inductionHypothesis =>
      rw [List.map_cons, List.nodup_cons] at distinct
      rcases List.mem_cons.mp isEntry with rfl | isLater
      · rw [mergeFields, if_pos isAccepted, get_mergeFields_of_not_accepted,
          OrderedMap.get_set_self]
        intro other isOther
        exact absurd (List.mem_map.mpr ⟨_, isOther, rfl⟩) distinct.1
      · rw [mergeFields]
        exact inductionHypothesis distinct.2 isLater

/-- Where a value of the record comes from. -/
theorem get_merged :
    (mergeFields (ownFields now level msg) fields.entries).get key = some value ↔
      (key, value) ∈ fields.entries ∧ accepts key value = true ∨
        (∀ other, (key, other) ∈ fields.entries → accepts key other = false) ∧
          (ownFields now level msg).get key = some value := by
  by_cases taken : ∃ other, (key, other) ∈ fields.entries ∧ accepts key other = true
  · obtain ⟨other, isOther, isAccepted⟩ := taken
    rw [get_mergeFields_of_accepted fields.distinct isOther isAccepted, Option.some_inj]
    constructor
    · rintro rfl
      exact .inl ⟨isOther, isAccepted⟩
    · rintro (⟨isEntry, _⟩ | ⟨notAccepted, _⟩)
      · exact Option.some.inj ((OrderedMap.get_eq_some_iff.mpr isOther).symm.trans
          (OrderedMap.get_eq_some_iff.mpr isEntry))
      · rw [notAccepted other isOther] at isAccepted
        cases isAccepted
  · have notAccepted : ∀ other, (key, other) ∈ fields.entries → accepts key other = false := by
      intro other isOther
      exact Bool.eq_false_iff.mpr fun isAccepted => taken ⟨other, isOther, isAccepted⟩
    rw [get_mergeFields_of_not_accepted notAccepted]
    constructor
    · exact fun isOwn => .inr ⟨notAccepted, isOwn⟩
    · rintro (⟨isEntry, isAccepted⟩ | ⟨_, isOwn⟩)
      · exact absurd ⟨value, isEntry, isAccepted⟩ taken
      · exact isOwn

/-- The entries of a line are the values that can be written. -/
theorem mem_stringify {line : Line} (isLine : stringify entries = some line)
    {spelled : Json.Value} :
    (key, spelled) ∈ line ↔ ∃ value, (key, value) ∈ entries ∧ value.spelling = .value spelled := by
  induction entries generalizing line with
  | nil =>
      cases isLine
      simp
  | cons entry rest inductionHypothesis =>
      obtain ⟨first, held⟩ := entry
      rw [stringify] at isLine
      cases isSpelling : held.spelling with
      | throws =>
          rw [isSpelling] at isLine
          cases isLine
      | omitted =>
          rw [isSpelling] at isLine
          rw [inductionHypothesis isLine]
          constructor
          · rintro ⟨value, isEntry, isValue⟩
            exact ⟨value, List.mem_cons_of_mem _ isEntry, isValue⟩
          · rintro ⟨value, isEntry, isValue⟩
            rcases List.mem_cons.mp isEntry with isFirst | isLater
            · cases isFirst
              rw [isSpelling] at isValue
              cases isValue
            · exact ⟨value, isLater, isValue⟩
      | value own =>
          rw [isSpelling] at isLine
          obtain ⟨later, isRest, rfl⟩ := Option.map_eq_some_iff.mp isLine
          rw [List.mem_cons, inductionHypothesis isRest]
          constructor
          · rintro (isFirst | ⟨value, isEntry, isValue⟩)
            · cases isFirst
              exact ⟨held, List.mem_cons_self, isSpelling⟩
            · exact ⟨value, List.mem_cons_of_mem _ isEntry, isValue⟩
          · rintro ⟨value, isEntry, isValue⟩
            rcases List.mem_cons.mp isEntry with isFirst | isLater
            · cases isFirst
              rw [isSpelling] at isValue
              cases isValue
              exact .inl rfl
            · exact .inr ⟨value, isLater, isValue⟩

theorem stringify_eq_none :
    stringify entries = none ↔ ∃ entry ∈ entries, entry.2.spelling = .throws := by
  induction entries with
  | nil => simp [stringify]
  | cons entry rest inductionHypothesis =>
      obtain ⟨first, held⟩ := entry
      rw [stringify]
      cases isSpelling : held.spelling with
      | throws => simp [isSpelling]
      | omitted => simp [isSpelling, inductionHypothesis]
      | value own => simp [isSpelling, inductionHypothesis]

/-- Keys without names are taken over whatever their value. -/
theorem accepts_of_not_enum
    (isAllowed : key ∈ allowedKeys)
    (notEnum : key ∉ enumValueKeys) :
    accepts key value = true := by
  have isContained : allowedKeys.contains key = true := List.contains_iff_mem.mpr isAllowed
  have notContained : enumValueKeys.contains key = false := by
    rw [Bool.eq_false_iff]
    exact fun isContained => notEnum (List.contains_iff_mem.mp isContained)
  rw [accepts, isContained, notContained]
  rfl

theorem allowed_of_accepts (isAccepted : accepts key value = true) : key ∈ allowedKeys := by
  rw [accepts, Bool.and_eq_true] at isAccepted
  exact List.contains_iff_mem.mp isAccepted.1

/-- Under a key for names only a name is taken over. -/
theorem name_of_accepts
    (isAccepted : accepts key value = true)
    (isEnum : key ∈ enumValueKeys) :
    ∃ text, value = .string text ∧ matchesEnumValue text = true := by
  have isContained : enumValueKeys.contains key = true := List.contains_iff_mem.mpr isEnum
  rw [accepts, isContained, Bool.and_eq_true] at isAccepted
  have isName : isEnumValue value = true := isAccepted.2
  cases value with
  | string text => exact ⟨text, rfl, isName⟩
  | _ => cases isName

/-- The entries of the line that is written. -/
theorem mem_sanitize
    {line : Line}
    {spelled : Json.Value}
    (isLine : sanitize now level msg fields = some line) :
    (key, spelled) ∈ line ↔
      ∃ value, value.spelling = .value spelled ∧
        ((key, value) ∈ fields.entries ∧ accepts key value = true ∨
          (∀ other, (key, other) ∈ fields.entries → accepts key other = false) ∧
            (ownFields now level msg).get key = some value) := by
  rw [mem_stringify isLine]
  constructor
  · rintro ⟨value, isEntry, isSpelled⟩
    exact ⟨value, isSpelled, get_merged.mp (OrderedMap.get_eq_some_iff.mpr isEntry)⟩
  · rintro ⟨value, isSpelled, origin⟩
    exact ⟨value, OrderedMap.get_eq_some_iff.mp (get_merged.mpr origin), isSpelled⟩

/-- Under one of the logger's keys stands what a field has there, or else the logger's. -/
theorem mem_sanitize_own
    {line : Line}
    {own : JsValue}
    (isLine : sanitize now level msg fields = some line)
    (isOwn : (ownFields now level msg).get key = some own)
    (isAllowed : key ∈ allowedKeys)
    (notEnum : key ∉ enumValueKeys) :
    (∀ value, (key, value) ∈ fields.entries →
        ∀ spelled, (key, spelled) ∈ line ↔ value.spelling = .value spelled) ∧
      ((∀ value, (key, value) ∉ fields.entries) →
        ∀ spelled, (key, spelled) ∈ line ↔ own.spelling = .value spelled) := by
  have accepted : ∀ value, accepts key value = true := fun _ =>
    accepts_of_not_enum isAllowed notEnum
  constructor
  · intro value isEntry spelled
    rw [mem_sanitize isLine]
    constructor
    · rintro ⟨other, isSpelled, ⟨isOther, _⟩ | ⟨notAccepted, _⟩⟩
      · have same := (OrderedMap.get_eq_some_iff.mpr isOther).symm.trans
          (OrderedMap.get_eq_some_iff.mpr isEntry)
        cases same
        exact isSpelled
      · have isRejected := notAccepted value isEntry
        rw [accepted value] at isRejected
        cases isRejected
    · exact fun isSpelled => ⟨value, isSpelled, .inl ⟨isEntry, accepted value⟩⟩
  · intro noEntry spelled
    rw [mem_sanitize isLine]
    constructor
    · rintro ⟨other, isSpelled, ⟨isOther, _⟩ | ⟨_, alsoOwn⟩⟩
      · exact absurd isOther (noEntry other)
      · rw [isOwn] at alsoOwn
        cases alsoOwn
        exact isSpelled
    · exact fun isSpelled => ⟨own, isSpelled,
        .inr ⟨fun other isOther => absurd isOther (noEntry other), isOwn⟩⟩

/-- The value of one of the logger's keys, where a field of that name agrees with it. -/
theorem own_value
    {line : Line}
    {own : JsValue}
    {expected : Json.Value}
    (isLine : sanitize now level msg fields = some line)
    (isOwn : (ownFields now level msg).get key = some own)
    (isAllowed : key ∈ allowedKeys)
    (notEnum : key ∉ enumValueKeys)
    (agrees : ∀ value, (key, value) ∈ fields.entries → value.spelling = .value expected)
    (isExpected : (∀ value, (key, value) ∉ fields.entries) → own.spelling = .value expected)
    (spelled : Json.Value) :
    (key, spelled) ∈ line ↔ spelled = expected := by
  obtain ⟨ofField, ofLogger⟩ := mem_sanitize_own isLine isOwn isAllowed notEnum
  by_cases given : ∃ value, (key, value) ∈ fields.entries
  · obtain ⟨value, isEntry⟩ := given
    rw [ofField value isEntry, agrees value isEntry, Spelling.value.injEq]
    exact eq_comm
  · have noEntry : ∀ value, (key, value) ∉ fields.entries := fun value isEntry =>
      given ⟨value, isEntry⟩
    rw [ofLogger noEntry, isExpected noEntry, Spelling.value.injEq]
    exact eq_comm

theorem mem_ownKeys_of_get
    (isOwn : (ownFields now level msg).get key = some value) :
    key ∈ ownKeys := by
  by_contra isOther
  rw [get_ownFields_other isOther] at isOwn
  cases isOwn

theorem allowed_of_own (isOwn : key ∈ ownKeys) : key ∈ allowedKeys :=
  List.forall_iff_forall_mem.mp (by decide : ownKeys.Forall (· ∈ allowedKeys)) key isOwn

theorem not_enum_of_own (isOwn : key ∈ ownKeys) : key ∉ enumValueKeys :=
  List.forall_iff_forall_mem.mp (by decide : ownKeys.Forall (· ∉ enumValueKeys)) key isOwn

/-- The logger's own values can be written. -/
theorem own_not_throws
    (isOwn : (ownFields now level msg).get key = some value) :
    value.spelling ≠ .throws := by
  intro throws
  have isKey := mem_ownKeys_of_get isOwn
  simp only [ownKeys, List.mem_cons, List.not_mem_nil, or_false] at isKey
  rcases isKey with rfl | rfl | rfl
  · rw [get_ownFields_level] at isOwn
    cases isOwn
    cases throws
  · rw [get_ownFields_time] at isOwn
    cases isOwn
    cases throws
  · rw [get_ownFields_msg] at isOwn
    cases isOwn
    cases throws

/-- No line is written exactly if a field that is taken over cannot be. -/
theorem sanitize_eq_none : sanitize now level msg fields = none ↔ Unwritable fields := by
  rw [sanitize, stringify_eq_none]
  constructor
  · rintro ⟨⟨key, value⟩, isEntry, throws⟩
    rcases get_merged.mp (OrderedMap.get_eq_some_iff.mpr isEntry) with
      ⟨isField, isAccepted⟩ | ⟨_, isOwn⟩
    · exact ⟨(key, value), isField, isAccepted, throws⟩
    · exact absurd throws (own_not_throws isOwn)
  · rintro ⟨⟨key, value⟩, isField, isAccepted, throws⟩
    exact ⟨(key, value),
      OrderedMap.get_eq_some_iff.mp (get_merged.mpr (.inl ⟨isField, isAccepted⟩)), throws⟩

/-! ## When a line is guaranteed -/

theorem guaranteed_of_harmless
    {line : Line}
    (isLine : sanitize now level msg fields = some line)
    (harmless : ∀ entry ∈ fields.entries, Harmless now level entry.1 entry.2.spelling) :
    Guaranteed now level line := by
  refine ⟨?_, ?_, ?_, ?_, ?_, ?_⟩
  · rintro ⟨key, spelled⟩ isEntry
    obtain ⟨value, _, ⟨_, isAccepted⟩ | ⟨_, isOwn⟩⟩ := (mem_sanitize isLine).mp isEntry
    · exact allowed_of_accepts isAccepted
    · exact allowed_of_own (mem_ownKeys_of_get isOwn)
  · exact own_value isLine get_ownFields_level (by decide) (by decide)
      (fun value isEntry => (harmless _ isEntry).level rfl) fun _ => rfl
  · exact own_value isLine get_ownFields_time (by decide) (by decide)
      (fun value isEntry => (harmless _ isEntry).time rfl) fun _ => rfl
  · by_cases given : ∃ value, (msgKey, value) ∈ fields.entries
    · obtain ⟨value, isEntry⟩ := given
      obtain ⟨text, isText, isGood⟩ := (harmless _ isEntry).msg rfl
      refine ⟨text, ?_, isGood⟩
      apply own_value isLine get_ownFields_msg (by decide) (by decide)
      · intro other isOther
        have same := (OrderedMap.get_eq_some_iff.mpr isOther).symm.trans
          (OrderedMap.get_eq_some_iff.mpr isEntry)
        rw [Option.some.inj same]
        exact isText
      · exact fun noEntry => absurd isEntry (noEntry value)
    · refine ⟨if matchesMsg msg then msg else logMsgRejected, ?_, ?_⟩
      · exact own_value isLine get_ownFields_msg (by decide) (by decide)
          (fun value isEntry => absurd ⟨value, isEntry⟩ given) fun _ => rfl
      · split
        next isGood => exact .inl isGood
        next => exact .inr rfl
  · rintro ⟨key, spelled⟩ isEntry isEnum
    obtain ⟨value, isSpelled, ⟨_, isAccepted⟩ | ⟨_, isOwn⟩⟩ := (mem_sanitize isLine).mp isEntry
    · obtain ⟨text, rfl, isName⟩ := name_of_accepts isAccepted isEnum
      cases isSpelled
      exact ⟨text, rfl, isName⟩
    · exact absurd isEnum (not_enum_of_own (mem_ownKeys_of_get isOwn))
  · rintro ⟨key, spelled⟩ isEntry notEnum notOwn
    obtain ⟨value, isSpelled, ⟨isField, isAccepted⟩ | ⟨_, isOwn⟩⟩ :=
      (mem_sanitize isLine).mp isEntry
    · exact (harmless _ isField).number (allowed_of_accepts isAccepted) notEnum notOwn spelled
        isSpelled
    · exact absurd (mem_ownKeys_of_get isOwn) notOwn

theorem harmless_of_guaranteed
    {line : Line}
    (isLine : sanitize now level msg fields = some line)
    (guaranteed : Guaranteed now level line)
    (isField : (key, value) ∈ fields.entries) :
    Harmless now level key value.spelling := by
  refine ⟨?_, ?_, ?_, ?_⟩
  · rintro rfl
    exact ((mem_sanitize_own isLine get_ownFields_level (by decide) (by decide)).1 value isField
      _).mp ((guaranteed.level _).mpr rfl)
  · rintro rfl
    exact ((mem_sanitize_own isLine get_ownFields_time (by decide) (by decide)).1 value isField
      _).mp ((guaranteed.time _).mpr rfl)
  · rintro rfl
    obtain ⟨text, isText, isGood⟩ := guaranteed.msg
    exact ⟨text, ((mem_sanitize_own isLine get_ownFields_msg (by decide) (by decide)).1 value
      isField _).mp ((isText _).mpr rfl), isGood⟩
  · intro isAllowed notEnum notOwn spelled isSpelled
    have isEntry : (key, spelled) ∈ line := (mem_sanitize isLine).mpr
      ⟨value, isSpelled, .inl ⟨isField, accepts_of_not_enum isAllowed notEnum⟩⟩
    exact guaranteed.numbers _ isEntry notEnum notOwn

/-- What is written is the line. -/
theorem write_eq_some {written : Stream × Line}
    (isWritten : write now level msg fields = some written) :
    sanitize now level msg fields = some written.2 := by
  obtain ⟨line, isLine, rfl⟩ := Option.map_eq_some_iff.mp isWritten
  exact isLine

/--
Every line that is written keeps the guarantee exactly if all fields are
harmless, or one cannot be written and there is no line.
-/
theorem write_guaranteed_iff
    (now : ℚ)
    (level : LogLevel)
    (msg : CodeUnits)
    (fields : LogFields) :
    (∀ written, write now level msg fields = some written →
        Guaranteed now level written.2) ↔
      Unwritable fields ∨
        ∀ entry ∈ fields.entries, Harmless now level entry.1 entry.2.spelling := by
  constructor
  · intro guaranteed
    cases isLine : sanitize now level msg fields with
    | none => exact .inl (sanitize_eq_none.mp isLine)
    | some line =>
        have isWritten : ∃ stream, write now level msg fields = some (stream, line) := by
          simp [write, isLine]
        obtain ⟨_, isWritten⟩ := isWritten
        exact .inr fun entry isField =>
          harmless_of_guaranteed isLine (guaranteed _ isWritten) isField
  · rintro (unwritable | harmless) written isWritten
    · have isLine := write_eq_some isWritten
      rw [sanitize_eq_none.mpr unwritable] at isLine
      cases isLine
    · exact guaranteed_of_harmless (write_eq_some isWritten) harmless

/-- A port that is an address. -/
def Sample.addressAsPort : LogFields where
  entries :=
    [ (portKey, .string (Json.ascii
        ['2', '0', '3', '.', '0', '.', '1', '1', '3', '.', '7'])) ]
  distinct := by decide

def Sample.startup : CodeUnits := Json.ascii ['s', 't', 'a', 'r', 't', 'u', 'p']

/-- The address is on the line. -/
theorem address_logged_as_port :
    ¬ ∀ written, write 0 .info Sample.startup Sample.addressAsPort = some written →
      Guaranteed 0 .info written.2 := by
  intro guaranteed
  cases isLine : sanitize 0 .info Sample.startup Sample.addressAsPort with
  | none =>
      obtain ⟨entry, isEntry, _, throws⟩ := sanitize_eq_none.mp isLine
      rw [List.mem_singleton.mp isEntry] at throws
      cases throws
  | some line =>
      have isWritten : write 0 .info Sample.startup Sample.addressAsPort = some (.stdout, line) := by
        rw [write, isLine]
        rfl
      have harmless := harmless_of_guaranteed isLine (guaranteed _ isWritten)
        List.mem_cons_self
      obtain ⟨number, isNumber⟩ :=
        harmless.number (by decide) (by decide) (by decide) _ rfl
      cases isNumber

end Unseen.ServerLog
