import Mathlib.Data.List.Nodup
import Mathlib.Data.List.Perm.Subperm

/-!
# Maps that keep the order of insertion

A map is the list of its entries in the order in which their keys were
inserted.  Setting a key that is present keeps its place, setting a new key
appends it.  That no key occurs twice is part of the map.
-/

/-- Entries in order of insertion, with distinct keys. -/
structure OrderedMap (Key Value : Type) where
  entries : List (Key × Value)
  distinct : (entries.map Prod.fst).Nodup

namespace OrderedMap

variable {Key Value : Type} [DecidableEq Key]

/-- The map without entries. -/
def empty : OrderedMap Key Value :=
  ⟨[], List.nodup_nil⟩

/-- The value under a key. -/
def get (map : OrderedMap Key Value) (key : Key) : Option Value :=
  map.entries.lookup key

/-- Replace the value of every entry with a given key. -/
def replaceEntries (key : Key) (value : Value) (entries : List (Key × Value)) :
    List (Key × Value) :=
  entries.map fun entry => if entry.1 = key then (key, value) else entry

theorem keys_replaceEntries (key : Key) (value : Value) (entries : List (Key × Value)) :
    (replaceEntries key value entries).map Prod.fst = entries.map Prod.fst := by
  rw [replaceEntries, List.map_map]
  apply List.map_congr_left
  intro entry _
  by_cases same : entry.1 = key
  · simp [same]
  · simp [same]

/-- Put a value under a key: in the place of the key, or behind all entries. -/
def set (map : OrderedMap Key Value) (key : Key) (value : Value) :
    OrderedMap Key Value :=
  if present : key ∈ map.entries.map Prod.fst then
    { entries := replaceEntries key value map.entries
      distinct := by
        rw [keys_replaceEntries]
        exact map.distinct }
  else
    { entries := map.entries ++ [(key, value)]
      distinct := by
        rw [List.map_append, List.nodup_append]
        refine ⟨map.distinct, List.nodup_singleton _, ?_⟩
        intro other member last isLast
        simp only [List.map_cons, List.map_nil, List.mem_singleton] at isLast
        subst isLast
        rintro rfl
        exact present member }

/-- Remove a key. -/
def erase (map : OrderedMap Key Value) (key : Key) : OrderedMap Key Value where
  entries := map.entries.filter fun entry => entry.1 ≠ key
  distinct := map.distinct.sublist (List.filter_sublist.map Prod.fst)

/-- Keep the entries whose values pass a test. -/
def filter (map : OrderedMap Key Value) (keep : Value → Bool) : OrderedMap Key Value where
  entries := map.entries.filter fun entry => keep entry.2
  distinct := map.distinct.sublist (List.filter_sublist.map Prod.fst)

/-- The values in the order of their keys. -/
def values (map : OrderedMap Key Value) : List Value :=
  map.entries.map Prod.snd

/-- The keys in order of insertion. -/
def keys (map : OrderedMap Key Value) : List Key :=
  map.entries.map Prod.fst

/-- The number of entries. -/
def size (map : OrderedMap Key Value) : Nat :=
  map.entries.length

variable {map : OrderedMap Key Value} {key other : Key} {value : Value}

/-- The entries of a list with distinct keys are found under their keys. -/
theorem lookup_eq_some_iff
    {entries : List (Key × Value)}
    (distinct : (entries.map Prod.fst).Nodup) :
    entries.lookup key = some value ↔ (key, value) ∈ entries := by
  induction entries with
  | nil => simp
  | cons entry rest inductionHypothesis =>
      obtain ⟨first, held⟩ := entry
      rw [List.map_cons, List.nodup_cons] at distinct
      by_cases isFirst : key = first
      · subst isFirst
        have notLater : (key, value) ∉ rest := by
          intro member
          exact distinct.1 (List.mem_map.mpr ⟨_, member, rfl⟩)
        simp only [List.lookup_cons_self, Option.some.injEq, List.mem_cons, Prod.mk.injEq,
          true_and, notLater, or_false]
        exact eq_comm
      · have different : (key == first) = false := beq_false_of_ne isFirst
        rw [List.lookup_cons, different, inductionHypothesis distinct.2]
        simp [isFirst]

theorem get_eq_some_iff : map.get key = some value ↔ (key, value) ∈ map.entries :=
  lookup_eq_some_iff map.distinct

theorem mem_values_iff : value ∈ map.values ↔ ∃ key, map.get key = some value := by
  simp only [values, List.mem_map, get_eq_some_iff, Prod.exists, exists_eq_right]

theorem mem_keys_iff : key ∈ map.keys ↔ ∃ value, map.get key = some value := by
  simp only [keys, List.mem_map, get_eq_some_iff, Prod.exists, exists_and_right,
    exists_eq_right]

@[simp]
theorem get_empty : (empty : OrderedMap Key Value).get key = none :=
  rfl

theorem get_set_self : (map.set key value).get key = some value := by
  rw [get_eq_some_iff, set]
  split
  next present =>
    obtain ⟨entry, member, isKey⟩ := List.mem_map.mp present
    exact List.mem_map.mpr ⟨entry, member, if_pos isKey⟩
  next absent => simp

theorem get_set_other (different : other ≠ key) :
    (map.set key value).get other = map.get other := by
  apply Option.ext
  intro found
  rw [get_eq_some_iff, get_eq_some_iff, set]
  split
  next present =>
    simp only [replaceEntries, List.mem_map]
    constructor
    · rintro ⟨entry, member, isEntry⟩
      by_cases isKey : entry.1 = key
      · rw [if_pos isKey] at isEntry
        exact absurd (congrArg Prod.fst isEntry).symm different
      · rw [if_neg isKey] at isEntry
        exact isEntry ▸ member
    · intro member
      exact ⟨(other, found), member, if_neg different⟩
  next absent => simp [different]

theorem get_erase_self : (map.erase key).get key = none := by
  apply Option.eq_none_iff_forall_ne_some.mpr
  intro found isFound
  have member := get_eq_some_iff.mp isFound
  simp [erase] at member

theorem get_erase_other (different : other ≠ key) :
    (map.erase key).get other = map.get other := by
  apply Option.ext
  intro found
  rw [get_eq_some_iff, get_eq_some_iff]
  simp [erase, different]

theorem get_filter (keep : Value → Bool) : (map.filter keep).get key = (map.get key).filter keep := by
  apply Option.ext
  intro found
  rw [get_eq_some_iff, Option.filter_eq_some_iff, get_eq_some_iff]
  simp [filter]

omit [DecidableEq Key] in
theorem size_eq_length_keys : map.size = map.keys.length :=
  (List.length_map _).symm

/-- A map whose keys are all keys of another one is no larger. -/
theorem size_le_of_keys
    {smaller larger : OrderedMap Key Value}
    (areKeys : ∀ key, (smaller.get key).isSome = true → (larger.get key).isSome = true) :
    smaller.size ≤ larger.size := by
  rw [size_eq_length_keys, size_eq_length_keys]
  refine (List.subperm_of_subset smaller.distinct ?_).length_le
  intro key isKey
  obtain ⟨value, isValue⟩ := mem_keys_iff.mp isKey
  obtain ⟨other, isOther⟩ := Option.isSome_iff_exists.mp (areKeys key (by rw [isValue]; rfl))
  exact mem_keys_iff.mpr ⟨other, isOther⟩

/-- Every value of the map is what a partial function makes of its key. -/
def Memoizes (map : OrderedMap Key Value) (compute : Key → Option Value) : Prop :=
  ∀ key value, map.get key = some value → compute key = some value

theorem memoizes_empty (compute : Key → Option Value) : empty.Memoizes compute := by
  intro key value isValue
  cases isValue

/-- Setting a key to its computed value keeps all values computed ones. -/
theorem Memoizes.set
    {compute : Key → Option Value}
    (memoizes : map.Memoizes compute)
    (computed : compute key = some value) :
    (map.set key value).Memoizes compute := by
  intro other found isFound
  by_cases same : other = key
  · subst same
    rw [get_set_self] at isFound
    rw [computed, isFound]
  · rw [get_set_other same] at isFound
    exact memoizes other found isFound

end OrderedMap
