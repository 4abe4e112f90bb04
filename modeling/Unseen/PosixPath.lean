import Unseen.Json
import Unseen.Wire

namespace Unseen

/-!
# Paths of a POSIX file system

An absolute path is kept as its segments, none of which is empty, `.` or `..`,
so every path here is already normalized.  `resolve` is `path.resolve` for an
absolute directory and one more argument.
-/

/-- The separator of paths. -/
def slash : UInt16 := 0x2F

/-- The name of a directory for itself. -/
def currentName : Text := [Json.fullStop]

/-- The name of a directory for its parent. -/
def parentName : Text := [Json.fullStop, Json.fullStop]

/-- What stands between two separators of a normalized path. -/
structure IsSegment (segment : Text) : Prop where
  notEmpty : segment ≠ []
  notCurrent : segment ≠ currentName
  notParent : segment ≠ parentName
  noSlash : slash ∉ segment

instance (segment : Text) : Decidable (IsSegment segment) :=
  decidable_of_iff
    (segment ≠ [] ∧ segment ≠ currentName ∧ segment ≠ parentName ∧ slash ∉ segment)
    ⟨fun ⟨notEmpty, notCurrent, notParent, noSlash⟩ =>
        ⟨notEmpty, notCurrent, notParent, noSlash⟩,
      fun segment =>
        ⟨segment.notEmpty, segment.notCurrent, segment.notParent, segment.noSlash⟩⟩

/-- An absolute path without `.`, `..` and doubled separators. -/
structure AbsolutePath where
  segments : List Text
  normal : ∀ segment ∈ segments, IsSegment segment
deriving DecidableEq

namespace AbsolutePath

theorem ext_segments
    {first second : AbsolutePath}
    (same : first.segments = second.segments) :
    first = second := by
  cases first
  cases second
  cases same
  rfl

/-- The separator before every segment. -/
def joined (segments : List Text) : Text :=
  segments.flatMap (slash :: ·)

@[simp]
theorem joined_nil : joined [] = [] :=
  rfl

@[simp]
theorem joined_cons (segment : Text) (segments : List Text) :
    joined (segment :: segments) = slash :: segment ++ joined segments :=
  rfl

theorem joined_append (first second : List Text) :
    joined (first ++ second) = joined first ++ joined second :=
  List.flatMap_append

/-- The path as text. -/
def text (path : AbsolutePath) : Text :=
  if path.segments = [] then [slash] else joined path.segments

/-- The path as text, with one separator at its end. -/
def asDirectory (path : AbsolutePath) : Text :=
  if [slash].isSuffixOf path.text then path.text else path.text ++ [slash]

/-! ## Resolving -/

/-- One part of a path that is being normalized. -/
def advance (segments : List Text) (part : Text) : List Text :=
  if part = [] ∨ part = currentName then segments
  else if part = parentName then segments.dropLast
  else segments ++ [part]

/-- The parts of a text, from given segments on. -/
def follow (segments : List Text) (text : Text) : List Text :=
  (text.splitOn slash).foldl advance segments

theorem advance_normal
    {segments : List Text}
    {part : Text}
    (normal : ∀ segment ∈ segments, IsSegment segment)
    (noSlash : slash ∉ part) :
    ∀ segment ∈ advance segments part, IsSegment segment := by
  unfold advance
  split
  · exact normal
  · rename_i kept
    split
    · exact fun segment isSegment => normal segment (List.dropLast_subset _ isSegment)
    · rename_i notParent
      intro segment isSegment
      rcases List.mem_append.mp isSegment with isSegment | isPart
      · exact normal segment isSegment
      · rw [List.mem_singleton.mp isPart]
        exact ⟨fun isEmpty => kept (.inl isEmpty), fun isCurrent => kept (.inr isCurrent),
          notParent, noSlash⟩

theorem slash_notMem_of_mem_splitOn
    {text part : Text}
    (isPart : part ∈ text.splitOn slash) :
    slash ∉ part := by
  induction text generalizing part with
  | nil =>
      rw [List.splitOn_nil, List.mem_singleton] at isPart
      simp [isPart]
  | cons unit rest ih =>
      rw [List.splitOn_cons_eq_if_modifyHead] at isPart
      split at isPart
      · rcases List.mem_cons.mp isPart with rfl | isLater
        · simp
        · exact ih isLater
      · rename_i isOther
        obtain ⟨head, parts, isSplit⟩ := List.exists_cons_of_ne_nil (List.splitOn_ne_nil slash rest)
        rw [isSplit] at isPart ih
        rcases List.mem_cons.mp isPart with rfl | isLater
        · intro isSlash
          rcases List.mem_cons.mp isSlash with rfl | isSlash
          · simp at isOther
          · exact ih List.mem_cons_self isSlash
        · exact ih (List.mem_cons_of_mem _ isLater)

theorem foldl_advance_normal
    (parts : List Text)
    {segments : List Text}
    (noSlash : ∀ part ∈ parts, slash ∉ part)
    (normal : ∀ segment ∈ segments, IsSegment segment) :
    ∀ segment ∈ parts.foldl advance segments, IsSegment segment := by
  induction parts generalizing segments with
  | nil => exact normal
  | cons part parts ih =>
      exact ih (fun other isOther => noSlash other (List.mem_cons_of_mem _ isOther))
        (advance_normal normal (noSlash part List.mem_cons_self))

/-- `path.resolve(root, text)` -/
def resolve (root : AbsolutePath) (text : Text) : AbsolutePath where
  segments := follow (if text.head? = some slash then [] else root.segments) text
  normal := by
    refine foldl_advance_normal _ (fun part isPart => slash_notMem_of_mem_splitOn isPart) ?_
    split
    · simp
    · exact root.normal

/-- The last segment from its last dot on, when that dot is not its first unit. -/
def extname (path : AbsolutePath) : Text :=
  let name := path.segments.getLast?.getD []
  let extension := (name.reverse.takeWhile (· ≠ Json.fullStop)).reverse
  if extension.length + 1 < name.length then Json.fullStop :: extension else []

/-! ## Segments and text -/

/-- Parts that are segments are kept. -/
theorem foldl_advance
    {parts : List Text}
    (areSegments : ∀ part ∈ parts, IsSegment part)
    (segments : List Text) :
    parts.foldl advance segments = segments ++ parts := by
  induction parts generalizing segments with
  | nil => simp
  | cons part parts ih =>
      have isSegment := areSegments part List.mem_cons_self
      have kept : advance segments part = segments ++ [part] := by
        rw [advance, if_neg, if_neg isSegment.notParent]
        rintro (isEmpty | isCurrent)
        · exact isSegment.notEmpty isEmpty
        · exact isSegment.notCurrent isCurrent
      rw [List.foldl_cons, kept,
        ih fun other isOther => areSegments other (List.mem_cons_of_mem _ isOther)]
      simp

/-- A part in front of segments. -/
theorem splitOn_joined
    {first : Text}
    {segments : List Text}
    (noSlash : ∀ segment ∈ first :: segments, slash ∉ segment) :
    (first ++ joined segments).splitOn slash = first :: segments := by
  induction segments generalizing first with
  | nil =>
      rw [joined_nil, List.append_nil]
      exact List.splitOn_eq_singleton (noSlash first List.mem_cons_self)
  | cons second segments ih =>
      rw [joined_cons, List.cons_append, List.splitOn_append_cons_self,
        List.splitOn_eq_singleton (noSlash first List.mem_cons_self),
        ih fun segment isSegment => noSlash segment (List.mem_cons_of_mem _ isSegment)]
      rfl

/-- `./` in front of segments is resolved to these segments below the root. -/
theorem resolve_joined
    (root : AbsolutePath)
    {segments : List Text}
    (areSegments : ∀ segment ∈ segments, IsSegment segment) :
    (root.resolve (currentName ++ joined segments)).segments = root.segments ++ segments := by
  have noSlash : ∀ segment ∈ currentName :: segments, slash ∉ segment := by
    intro segment isSegment
    rcases List.mem_cons.mp isSegment with rfl | isSegment
    · decide
    · exact (areSegments segment isSegment).noSlash
  have relative : (currentName ++ joined segments).head? ≠ some slash := by
    simp [currentName, Json.fullStop, slash]
  simp only [resolve, if_neg relative, follow, splitOn_joined noSlash, List.foldl_cons,
    foldl_advance areSegments]
  simp [advance]

/-- The segments of a path are read off its text. -/
theorem joined_isPrefix_iff
    {first second : List Text}
    (firstNormal : ∀ segment ∈ first, IsSegment segment)
    (secondNormal : ∀ segment ∈ second, IsSegment segment) :
    joined first ++ [slash] <+: joined second ↔ ∃ below, below ≠ [] ∧ second = first ++ below := by
  constructor
  · rintro ⟨rest, isText⟩
    induction first generalizing second with
    | nil =>
        refine ⟨second, ?_, rfl⟩
        rintro rfl
        simp at isText
    | cons segment first ih =>
        cases second with
        | nil => simp at isText
        | cons other second =>
            have isSegment := (firstNormal segment List.mem_cons_self).noSlash
            have isOther := (secondNormal other List.mem_cons_self).noSlash
            simp only [joined_cons, List.cons_append, List.append_assoc, List.nil_append,
              List.cons.injEq, true_and] at isText
            have leads : ∀ segments : List Text, ∀ rest : Text, ∃ after,
                joined segments ++ slash :: rest = slash :: after := by
              intro segments rest
              cases segments with
              | nil => exact ⟨rest, rfl⟩
              | cons segment segments => exact ⟨_, rfl⟩
            obtain ⟨after, isAfter⟩ := leads first rest
            -- both texts start with a part up to their next separator
            have sameSplit := congrArg (List.splitOn slash) isText
            rw [isAfter, List.splitOn_append_cons_self,
              List.splitOn_eq_singleton isSegment,
              splitOn_joined fun segment isSegment =>
                (secondNormal segment isSegment).noSlash] at sameSplit
            simp only [List.singleton_append, List.cons.injEq] at sameSplit
            obtain ⟨rfl, -⟩ := sameSplit
            have sameRest : joined first ++ [slash] ++ rest = joined second := by
              simpa [isAfter] using isText
            obtain ⟨below, notEmpty, isSecond⟩ :=
              ih (fun other isOther => firstNormal other (List.mem_cons_of_mem _ isOther))
                (fun other isOther => secondNormal other (List.mem_cons_of_mem _ isOther)) sameRest
            exact ⟨below, notEmpty, by rw [isSecond, List.cons_append]⟩
  · rintro ⟨below, notEmpty, rfl⟩
    obtain ⟨segment, below, rfl⟩ := List.exists_cons_of_ne_nil notEmpty
    exact ⟨segment ++ joined below, by simp [joined_append]⟩

theorem asDirectory_eq (path : AbsolutePath) :
    path.asDirectory = joined path.segments ++ [slash] := by
  rw [asDirectory, text]
  by_cases isRoot : path.segments = []
  · rw [if_pos isRoot, isRoot]
    rfl
  · rw [if_neg isRoot, if_neg]
    rw [List.isSuffixOf_iff_suffix, List.singleton_suffix_iff_getLast?_eq_some]
    obtain ⟨init, last, isLast⟩ := (List.eq_nil_or_concat' path.segments).resolve_left isRoot
    have isSegment := path.normal last (by simp [isLast])
    obtain ⟨units, unit, rfl⟩ := (List.eq_nil_or_concat' last).resolve_left isSegment.notEmpty
    have isOther : unit ≠ slash := by
      rintro rfl
      exact isSegment.noSlash (by simp)
    rw [isLast, joined_append, joined_cons, joined_nil, List.append_nil, ← List.cons_append,
      ← List.append_assoc, List.getLast?_concat]
    exact fun same => isOther (Option.some.inj same)

end AbsolutePath

end Unseen
