import Mathlib.Data.List.Infix
import Unseen.MarkdownText

namespace Unseen

namespace Markdown

/-!
# Text that the markdown parser loses

Everything that is neither whitespace nor markup should be shown: all but a
heading's hashes and the info string of a closed fenced block.  The line that
opens such a block is dropped whole, though, also when it is no info string
but a code span with text after it.
-/

/-! ## What should be shown -/

/-- Neither whitespace nor markup. -/
def isEssential (unit : UInt16) : Bool :=
  !isWhitespace unit && !isMarkup unit

def essential (text : Text) : Text :=
  text.filter isEssential

/-- The text after the opening backticks of a fence. -/
def infoString (line : Text) : Text :=
  line.dropWhile (· == backtick)

/-- What should be shown of a line that opens a closed fenced block: an info string has no
backticks. -/
def essentialOfOpening (line : Text) : Text :=
  if backtick ∈ infoString line then essential line else []

/-- What should be shown of a line that is not fenced. -/
def essentialOfLine (line : Text) : Text :=
  if (headingOf line).isSome then essential (line.dropWhile (· == hash)) else essential line

def closesFence (line : Text) : Bool :=
  trimEnd line == fence

/-- What is shown of lines, the first of which is fenced or not, given what is shown of the
openings of closed fenced blocks. -/
def shownOfLines (ofOpening : Text → Text) : Bool → List Text → Text
  | _, [] => []
  | true, line :: rest => essential line ++ shownOfLines ofOpening (!closesFence line) rest
  | false, line :: rest =>
      if opensFence line && rest.any closesFence then
        ofOpening line ++ shownOfLines ofOpening true rest
      else
        essentialOfLine line ++ shownOfLines ofOpening false rest

/-- What should be shown of a source. -/
def essentialOfSource (source : Text) : Text :=
  shownOfLines essentialOfOpening false (splitLines source)

/-- The lines that open closed fenced blocks. -/
def openings : Bool → List Text → List Text
  | _, [] => []
  | true, line :: rest => openings (!closesFence line) rest
  | false, line :: rest =>
      if opensFence line && rest.any closesFence then line :: openings true rest
      else openings false rest

/-- The text, code, code-block and link contents of nodes, in order. -/
def contents (nodes : List Node) : Text :=
  readAll (fun url text => text ++ url) nodes

/-- Everything essential is shown, in its order. -/
def LosesNothing (ast : Ast) : Prop :=
  (essentialOfSource ast.source).Sublist (contents ast.nodes)

/-- The lines that open closed fenced blocks are no more than backticks and an info string
without any, whitespace and markup apart. -/
def OpensPlainly (source : Text) : Prop :=
  ∀ line ∈ openings false (splitLines source), essentialOfOpening line = []

/-- No address in the text would become a link of its own. -/
def NoAutolinks (text : Text) : Prop :=
  ∀ start ∈ autolinkPrefixes, ¬ start <:+: text

/-! ## Openings -/

theorem shownOfLines_sublist (ofOpening : Text → Text) (isFenced : Bool) (lines : List Text) :
    (shownOfLines (fun _ => []) isFenced lines).Sublist
      (shownOfLines ofOpening isFenced lines) := by
  fun_induction shownOfLines ofOpening isFenced lines with
  | case1 => exact .slnil
  | case2 line rest ih => exact (List.Sublist.refl _).append ih
  | case3 line rest opens ih =>
      rw [shownOfLines, if_pos opens]
      exact (List.nil_sublist _).append ih
  | case4 line rest notOpens ih =>
      rw [shownOfLines, if_neg notOpens]
      exact (List.Sublist.refl _).append ih

/-- Openings are all that makes the difference. -/
theorem shownOfLines_eq_iff (ofOpening : Text → Text) (isFenced : Bool) (lines : List Text) :
    shownOfLines ofOpening isFenced lines = shownOfLines (fun _ => []) isFenced lines ↔
      ∀ line ∈ openings isFenced lines, ofOpening line = [] := by
  fun_induction shownOfLines ofOpening isFenced lines with
  | case1 isFenced =>
      cases isFenced
      all_goals exact ⟨fun _ _ isMember => absurd isMember List.not_mem_nil, fun _ => rfl⟩
  | case2 line rest ih =>
      rw [shownOfLines, openings, List.append_cancel_left_eq]
      exact ih
  | case3 line rest opens ih =>
      rw [shownOfLines, openings, if_pos opens, if_pos opens, List.nil_append,
        List.forall_mem_cons, ← ih]
      constructor
      · intro same
        have lengths := congrArg List.length same
        have most := (shownOfLines_sublist ofOpening true rest).length_le
        rw [List.length_append] at lengths
        have isEmpty : ofOpening line = [] := List.length_eq_zero_iff.mp (by omega)
        rw [isEmpty, List.nil_append] at same
        exact ⟨isEmpty, same⟩
      · rintro ⟨isEmpty, same⟩
        rw [isEmpty, same, List.nil_append]
  | case4 line rest notOpens ih =>
      rw [shownOfLines, openings, if_neg notOpens, if_neg notOpens, List.append_cancel_left_eq]
      exact ih

/-! ## Essential characters -/

theorem essential_append (first second : Text) :
    essential (first ++ second) = essential first ++ essential second :=
  List.filter_append ..

theorem essential_essential (text : Text) : essential (essential text) = essential text := by
  simp [essential]

theorem essential_eq_nil {text : Text} (none : ∀ unit ∈ text, isEssential unit = false) :
    essential text = [] := by
  rw [essential, List.filter_eq_nil_iff]
  intro unit isUnit
  rw [none unit isUnit]
  decide

theorem essential_dropWhile
    {drops : UInt16 → Bool}
    (none : ∀ unit, drops unit = true → isEssential unit = false)
    (text : Text) :
    essential (text.dropWhile drops) = essential text := by
  have dropped : essential (text.takeWhile drops) = [] :=
    essential_eq_nil fun unit isUnit => none unit (List.mem_takeWhile_imp isUnit)
  calc essential (text.dropWhile drops)
      = essential (text.takeWhile drops ++ text.dropWhile drops) := by
        rw [essential_append, dropped, List.nil_append]
    _ = essential text := by rw [List.takeWhile_append_dropWhile]

theorem not_essential_of_isWhitespace
    (unit : UInt16)
    (isSpace : isWhitespace unit = true) :
    isEssential unit = false := by
  rw [isEssential, isSpace]
  rfl

theorem not_essential_of_isBlank (unit : UInt16) (isSpace : isBlank unit = true) :
    isEssential unit = false := by
  apply not_essential_of_isWhitespace
  simp [isWhitespace, isSpace]

theorem not_essential_of_isMarkup (unit : UInt16) (isMark : isMarkup unit = true) :
    isEssential unit = false := by
  rw [isEssential, isMark, Bool.not_true, Bool.and_false]

theorem essential_reverse (text : Text) : essential text.reverse = (essential text).reverse :=
  List.filter_reverse ..

theorem essential_trimEnd (text : Text) : essential (trimEnd text) = essential text := by
  rw [trimEnd, essential_reverse, essential_dropWhile not_essential_of_isWhitespace,
    essential_reverse, List.reverse_reverse]

theorem essential_trim (text : Text) : essential (trim text) = essential text := by
  rw [trim, essential_trimEnd, essential_dropWhile not_essential_of_isWhitespace]

theorem essential_of_closesFence {line : Text} (closes : closesFence line = true) :
    essential line = [] := by
  rw [← essential_trimEnd, eq_of_beq closes]
  decide

/-! ## Lines -/

theorem joinLines_cons (line next : Text) (rest : List Text) :
    joinLines (line :: next :: rest) = line ++ newline :: joinLines (next :: rest) := by
  rw [joinLines, List.intercalate_cons_cons, List.append_assoc]
  rfl

theorem joinLines_singleton (line : Text) : joinLines [line] = line :=
  List.append_nil line

theorem essential_joinLines (lines : List Text) :
    essential (joinLines lines) = lines.flatMap essential := by
  induction lines with
  | nil => rfl
  | cons line rest ih =>
      cases rest with
      | nil => rw [joinLines_singleton, List.flatMap_singleton]
      | cons next rest =>
          have isBreak : essential (newline :: joinLines (next :: rest)) =
              essential (joinLines (next :: rest)) := List.filter_cons_of_neg (by decide)
          rw [joinLines_cons, essential_append, isBreak, ih, ← List.flatMap_cons]

theorem splitLines_of_not_mem {line : Text} (isLine : newline ∉ line) :
    splitLines line = [line] := by
  induction line with
  | nil => rfl
  | cons unit rest ih =>
      rw [List.mem_cons, not_or] at isLine
      rw [splitLines, if_neg (Ne.symm isLine.1), ih isLine.2]

theorem splitLines_append
    {line : Text}
    (isLine : newline ∉ line)
    (rest : Text) :
    splitLines (line ++ newline :: rest) = line :: splitLines rest := by
  induction line with
  | nil => rw [List.nil_append, splitLines, if_pos rfl]
  | cons unit others ih =>
      rw [List.mem_cons, not_or] at isLine
      rw [List.cons_append, splitLines, if_neg (Ne.symm isLine.1), ih isLine.2]

theorem splitLines_joinLines
    {lines : List Text}
    (notEmpty : lines ≠ [])
    (areLines : ∀ line ∈ lines, newline ∉ line) :
    splitLines (joinLines lines) = lines := by
  induction lines with
  | nil => exact absurd rfl notEmpty
  | cons line rest ih =>
      rw [List.forall_mem_cons] at areLines
      cases rest with
      | nil => rw [joinLines_singleton, splitLines_of_not_mem areLines.1]
      | cons next rest =>
          rw [joinLines_cons, splitLines_append areLines.1, ih (List.cons_ne_nil _ _) areLines.2]

theorem not_mem_splitLines (source : Text) : ∀ line ∈ splitLines source, newline ∉ line := by
  fun_induction splitLines source with
  | case1 => exact List.forall_mem_singleton.mpr List.not_mem_nil
  | case2 rest ih => exact List.forall_mem_cons.mpr ⟨List.not_mem_nil, ih⟩
  | case3 unit rest notNewline isEmpty ih =>
      exact List.forall_mem_singleton.mpr fun isMember =>
        notNewline (List.mem_singleton.mp isMember).symm
  | case4 unit rest notNewline line lines isSplit ih =>
      rw [isSplit, List.forall_mem_cons] at ih
      refine List.forall_mem_cons.mpr ⟨fun isMember => ?_, ih.2⟩
      rcases List.mem_cons.mp isMember with isUnit | isRest
      · exact notNewline isUnit.symm
      · exact ih.1 isRest

/-! ## Headings -/

theorem drop_runLength (line : Text) (unit : UInt16) :
    line.drop (runLength line 0 unit) = line.dropWhile (· == unit) := by
  have split : line.takeWhile (· == unit) ++ line.dropWhile (· == unit) = line :=
    List.takeWhile_append_dropWhile
  calc line.drop (runLength line 0 unit)
      = (line.takeWhile (· == unit) ++ line.dropWhile (· == unit)).drop
          (line.takeWhile (· == unit)).length := by rw [split]; rfl
    _ = line.dropWhile (· == unit) := List.drop_left

/-- What is shown of a heading is what follows its hashes. -/
theorem essential_of_heading
    {line heading : Text}
    (isHeading : headingOf line = some heading) :
    essential heading = essential (line.dropWhile (· == hash)) := by
  unfold headingOf at isHeading
  dsimp only at isHeading
  rw [drop_runLength] at isHeading
  have unblanked := essential_dropWhile not_essential_of_isBlank (line.dropWhile (· == hash))
  split at isHeading
  next => cases isHeading
  next =>
    split at isHeading
    next isEmpty =>
      split at isHeading
      next => cases isHeading
      next =>
        obtain ⟨last, isLast, rfl⟩ := Option.map_eq_some_iff.mp isHeading
        have isBlankUnit := List.mem_of_mem_drop (List.mem_of_getLast? isLast)
        rw [List.isEmpty_iff.mp isEmpty] at unblanked
        rw [← unblanked]
        exact essential_eq_nil (List.forall_mem_singleton.mpr
          (not_essential_of_isBlank last (List.mem_takeWhile_imp isBlankUnit)))
    next =>
      split at isHeading
      next => cases isHeading
      next =>
        cases isHeading
        exact unblanked

theorem essential_rewriteHeadings
    {lines : List Text}
    (notEmpty : lines ≠ [])
    (areLines : ∀ line ∈ lines, newline ∉ line) :
    essential (rewriteHeadings (joinLines lines)) = lines.flatMap essentialOfLine := by
  rw [rewriteHeadings, splitLines_joinLines notEmpty areLines, essential_joinLines,
    List.flatMap_map]
  congr 1
  funext line
  unfold essentialOfLine
  cases isHeading : headingOf line with
  | none => rfl
  | some heading =>
      have marks : essential [asterisk, asterisk] = [] := by decide
      rw [Option.isSome_some, if_pos rfl, ← essential_of_heading isHeading]
      dsimp only
      rw [essential_append, essential_append, marks, List.nil_append, List.append_nil]

/-! ## Segments -/

/-- The text of a segment that the parser goes on with. -/
def BlockSegment.shown : BlockSegment → Text
  | .inline value => rewriteHeadings value
  | .codeBlock value => value

/-- What should be shown of some segments. -/
def essentialOfSegments (segments : List BlockSegment) : Text :=
  segments.flatMap fun segment => essential segment.shown

theorem essentialOfSegments_append (first second : List BlockSegment) :
    essentialOfSegments (first ++ second) =
      essentialOfSegments first ++ essentialOfSegments second :=
  List.flatMap_append

theorem essential_flushInline
    {buffer : List Text}
    (areLines : ∀ line ∈ buffer, newline ∉ line) :
    essentialOfSegments (flushInline buffer) = buffer.flatMap essentialOfLine := by
  unfold flushInline
  split
  next isEmpty =>
    rw [List.isEmpty_iff.mp isEmpty]
    rfl
  next notEmpty =>
    have notEmpty : buffer ≠ [] := fun isEmpty => notEmpty (List.isEmpty_iff.mpr isEmpty)
    rw [essentialOfSegments, List.flatMap_singleton, BlockSegment.shown,
      essential_rewriteHeadings notEmpty areLines]

theorem findFenceClose_eq_none {lines : List Text} :
    findFenceClose lines = none ↔ lines.any closesFence = false := by
  induction lines with
  | nil => exact ⟨fun _ => rfl, fun _ => rfl⟩
  | cons line rest ih =>
      rw [findFenceClose, List.any_cons]
      by_cases closes : trimEnd line = fence
      · rw [if_pos closes, closesFence, closes, beq_self_eq_true, Bool.true_or]
        constructor
        · intro isNone
          cases isNone
        · intro isFalse
          cases isFalse
      · have notCloses : closesFence line = false := beq_eq_false_iff_ne.mpr closes
        rw [if_neg closes, Option.map_eq_none_iff, notCloses, Bool.false_or]
        exact ih

/-- The code of a closed fenced block is shown, and its closing line has nothing to show. -/
theorem findFenceClose_shown
    {lines : List Text}
    {parts : List Text × List Text}
    (isClosed : findFenceClose lines = some parts)
    (ofOpening : Text → Text) :
    shownOfLines ofOpening true lines =
      essential (joinLines parts.1) ++ shownOfLines ofOpening false parts.2 := by
  induction lines generalizing parts with
  | nil => cases isClosed
  | cons line rest ih =>
      rw [findFenceClose] at isClosed
      rw [shownOfLines]
      split at isClosed
      next closes =>
        cases isClosed
        have closes : closesFence line = true := beq_iff_eq.mpr closes
        rw [closes, essential_of_closesFence closes]
        rfl
      next notCloses =>
        have notCloses : closesFence line = false := beq_eq_false_iff_ne.mpr notCloses
        obtain ⟨inner, isInner, rfl⟩ := Option.map_eq_some_iff.mp isClosed
        rw [notCloses, Bool.not_false, ih isInner, essential_joinLines, essential_joinLines,
          List.flatMap_cons, List.append_assoc]

theorem findFenceClose_mem
    {lines : List Text}
    {parts : List Text × List Text}
    (isClosed : findFenceClose lines = some parts) :
    ∀ line ∈ parts.2, line ∈ lines := by
  induction lines generalizing parts with
  | nil => cases isClosed
  | cons line rest ih =>
      rw [findFenceClose] at isClosed
      split at isClosed
      next =>
        cases isClosed
        exact fun _ => List.mem_cons_of_mem line
      next =>
        obtain ⟨inner, isInner, rfl⟩ := Option.map_eq_some_iff.mp isClosed
        exact fun other isMember => List.mem_cons_of_mem line (ih isInner other isMember)

theorem splitBlocksFrom_shown
    {fuel : Nat}
    {buffer lines : List Text}
    (enough : lines.length ≤ fuel)
    (areLines : ∀ line ∈ buffer ++ lines, newline ∉ line) :
    essentialOfSegments (splitBlocksFrom fuel buffer lines) =
      buffer.flatMap essentialOfLine ++ shownOfLines (fun _ => []) false lines := by
  induction fuel generalizing buffer lines with
  | zero =>
      obtain rfl := List.length_eq_zero_iff.mp (Nat.le_zero.mp enough)
      rw [List.append_nil] at areLines
      rw [splitBlocksFrom, essential_flushInline areLines, shownOfLines, List.append_nil]
  | succ fuel ih =>
      cases lines with
      | nil =>
          rw [List.append_nil] at areLines
          rw [splitBlocksFrom, essential_flushInline areLines, shownOfLines, List.append_nil]
      | cons line rest =>
          have enough : rest.length ≤ fuel := Nat.le_of_succ_le_succ enough
          have buffers : essentialOfSegments (splitBlocksFrom fuel (buffer ++ [line]) rest) =
              buffer.flatMap essentialOfLine ++
                (essentialOfLine line ++ shownOfLines (fun _ => []) false rest) := by
            rw [ih enough (by rwa [List.append_assoc]), List.flatMap_append,
              List.flatMap_singleton, List.append_assoc]
          rw [splitBlocksFrom, shownOfLines]
          cases opensFence line with
          | false =>
              rw [if_neg Bool.false_ne_true, Bool.false_and]
              exact buffers
          | true =>
              rw [if_pos rfl, Bool.true_and]
              cases isClosed : findFenceClose rest with
              | none =>
                  rw [if_neg (Bool.eq_false_iff.mp (findFenceClose_eq_none.mp isClosed))]
                  exact buffers
              | some parts =>
                  have isAny : rest.any closesFence = true := by
                    rw [← Bool.not_eq_false, ← findFenceClose_eq_none, isClosed]
                    exact Option.some_ne_none parts
                  rw [List.forall_mem_append, List.forall_mem_cons] at areLines
                  obtain ⟨inBuffer, -, inRest⟩ := areLines
                  have isFewer := Nat.le_of_lt (length_findFenceClose isClosed)
                  have later := ih (Nat.le_trans isFewer enough) <|
                    List.forall_mem_append.mpr ⟨fun _ isMember => absurd isMember List.not_mem_nil,
                      fun other isMember => inRest other (findFenceClose_mem isClosed other isMember)⟩
                  rw [if_pos isAny, findFenceClose_shown isClosed, List.nil_append]
                  dsimp only
                  rw [essentialOfSegments_append, essential_flushInline inBuffer,
                    essentialOfSegments, List.flatMap_cons, ← essentialOfSegments, later]
                  rfl

/-- Of a source, the segments hold all but the openings of closed fenced blocks. -/
theorem essential_splitBlocks (source : Text) :
    essentialOfSegments (splitBlocks source) =
      shownOfLines (fun _ => []) false (splitLines source) := by
  rw [splitBlocks, splitBlocksFrom_shown (Nat.le_refl _) (not_mem_splitLines source)]
  rfl

/-! ## Autolinks -/

theorem NoAutolinks.of_infix
    {text part : Text}
    (noLinks : NoAutolinks text)
    (isPart : part <:+: text) :
    NoAutolinks part :=
  fun start isStart isThere => noLinks start isStart (isThere.trans isPart)

theorem autolinkPrefixes_plain :
    ∀ start ∈ autolinkPrefixes, start ≠ [] ∧ newline ∉ start ∧ asterisk ∉ start := by
  decide

/-- What stands across a character contains it. -/
theorem infix_append_cons
    {part first second : Text}
    {unit : UInt16}
    (isPart : part <:+: first ++ unit :: second)
    (notIn : unit ∉ part) :
    part <:+: first ∨ part <:+: second := by
  rcases List.infix_append_iff.mp isPart with inFirst | inRest |
    ⟨before, after, rfl, isBefore, isAfter⟩
  · exact .inl inFirst
  · rcases List.infix_cons_iff.mp inRest with isPrefix | inSecond
    · cases part with
      | nil => exact .inl ( List.nil_infix)
      | cons other others =>
          rw [List.cons_prefix_cons] at isPrefix
          exact absurd (List.mem_cons.mpr (.inl isPrefix.1.symm)) notIn
    · exact .inr inSecond
  · cases after with
    | nil =>
        rw [List.append_nil]
        exact .inl isBefore.isInfix
    | cons other others =>
        rw [List.cons_prefix_cons] at isAfter
        refine absurd (List.mem_append_right before ?_) notIn
        exact List.mem_cons.mpr (.inl isAfter.1.symm)

theorem noAutolinks_joinLines
    {lines : List Text}
    (noLinks : ∀ line ∈ lines, NoAutolinks line) :
    NoAutolinks (joinLines lines) := by
  induction lines with
  | nil =>
      intro start isStart isThere
      exact (autolinkPrefixes_plain start isStart).1 (List.eq_nil_of_infix_nil isThere)
  | cons line rest ih =>
      rw [List.forall_mem_cons] at noLinks
      cases rest with
      | nil =>
          rw [joinLines_singleton]
          exact noLinks.1
      | cons next rest =>
          intro start isStart isThere
          rw [joinLines_cons] at isThere
          rcases infix_append_cons isThere (autolinkPrefixes_plain start isStart).2.1 with
            inLine | inRest
          · exact noLinks.1 start isStart inLine
          · exact ih noLinks.2 start isStart inRest

/-- The markers of a heading make no link. -/
theorem noAutolinks_marked
    {heading : Text}
    (noLinks : NoAutolinks heading) :
    NoAutolinks ([asterisk, asterisk] ++ heading ++ [asterisk, asterisk]) := by
  intro start isStart isThere
  obtain ⟨notEmpty, -, noMarks⟩ := autolinkPrefixes_plain start isStart
  have notNil : ¬ start <:+: [] := fun isNil => notEmpty (List.eq_nil_of_infix_nil isNil)
  have isThere : start <:+: [] ++ asterisk :: ([] ++ asterisk :: (heading ++ asterisk ::
      ([] ++ [asterisk]))) := isThere
  rcases infix_append_cons isThere noMarks with isNil | isThere
  · exact notNil isNil
  rcases infix_append_cons isThere noMarks with isNil | isThere
  · exact notNil isNil
  rcases infix_append_cons isThere noMarks with inHeading | isThere
  · exact noLinks start isStart inHeading
  rcases infix_append_cons isThere noMarks with isNil | isNil
  · exact notNil isNil
  · exact notNil isNil

theorem heading_inside
    {line heading : Text}
    (isHeading : headingOf line = some heading) :
    heading <:+: line := by
  unfold headingOf at isHeading
  dsimp only at isHeading
  have isSuffix := List.drop_suffix (runLength line 0 hash) line
  split at isHeading
  next => cases isHeading
  next =>
    split at isHeading
    next =>
      split at isHeading
      next => cases isHeading
      next =>
        obtain ⟨last, isLast, rfl⟩ := Option.map_eq_some_iff.mp isHeading
        have isBlankUnit := List.mem_of_mem_drop (List.mem_of_getLast? isLast)
        rw [List.singleton_infix_iff]
        exact isSuffix.mem (( List.takeWhile_prefix _).mem isBlankUnit)
    next =>
      split at isHeading
      next => cases isHeading
      next =>
        cases isHeading
        exact ((List.dropWhile_suffix _).trans isSuffix).isInfix

theorem splitLines_ne_nil (source : Text) : splitLines source ≠ [] := by
  unfold splitLines
  split
  · exact List.cons_ne_nil _ _
  · split
    · exact List.cons_ne_nil _ _
    · split
      · exact List.cons_ne_nil _ _
      · exact List.cons_ne_nil _ _

theorem joinLines_splitLines (source : Text) : joinLines (splitLines source) = source := by
  fun_induction splitLines source with
  | case1 => rfl
  | case2 rest ih =>
      obtain ⟨next, others, isSplit⟩ := List.exists_cons_of_ne_nil (splitLines_ne_nil rest)
      rw [isSplit] at ih ⊢
      rw [joinLines_cons, ih, List.nil_append]
  | case3 unit rest notNewline isEmpty ih => exact absurd isEmpty (splitLines_ne_nil rest)
  | case4 unit rest notNewline line lines isSplit ih =>
      rw [isSplit] at ih
      rw [joinLines, List.intercalate_cons_cons_left, ← joinLines, ih]

theorem infix_joinLines
    {lines : List Text}
    {line : Text}
    (isLine : line ∈ lines) :
    line <:+: joinLines lines := by
  induction lines with
  | nil => cases isLine
  | cons first rest ih =>
      cases rest with
      | nil =>
          rw [joinLines_singleton, List.mem_singleton.mp isLine]
      | cons next rest =>
          rw [joinLines_cons]
          rcases List.mem_cons.mp isLine with rfl | inRest
          · exact List.infix_append_left
          · exact List.infix_append_of_infix_right (List.infix_cons (ih inRest))

/-- A value is that of some of the lines. -/
def IsOfLines (value : Text) (lines : List Text) : Prop :=
  ∃ others, others ≠ [] ∧ value = joinLines others ∧ ∀ line ∈ others, line ∈ lines

theorem IsOfLines.mono
    {value : Text}
    {lines more : List Text}
    (isOf : IsOfLines value lines)
    (subset : ∀ line ∈ lines, line ∈ more) :
    IsOfLines value more := by
  obtain ⟨others, notEmpty, isValue, areLines⟩ := isOf
  exact ⟨others, notEmpty, isValue, fun line isLine => subset line (areLines line isLine)⟩

theorem inline_of_flushInline
    {buffer : List Text}
    {value : Text}
    (isInline : .inline value ∈ flushInline buffer)
    (lines : List Text) :
    IsOfLines value (buffer ++ lines) := by
  unfold flushInline at isInline
  split at isInline
  next => cases isInline
  next notEmpty =>
    rw [List.mem_singleton, BlockSegment.inline.injEq] at isInline
    exact ⟨buffer, fun isEmpty => notEmpty (List.isEmpty_iff.mpr isEmpty), isInline,
      fun _ => List.mem_append_left lines⟩

theorem inline_of_splitBlocksFrom
    {fuel : Nat}
    {buffer lines : List Text}
    {value : Text}
    (isInline : .inline value ∈ splitBlocksFrom fuel buffer lines) :
    IsOfLines value (buffer ++ lines) := by
  induction fuel generalizing buffer lines with
  | zero => exact inline_of_flushInline isInline lines
  | succ fuel ih =>
      cases lines with
      | nil => exact inline_of_flushInline isInline []
      | cons line rest =>
          have buffers : .inline value ∈ splitBlocksFrom fuel (buffer ++ [line]) rest →
              IsOfLines value (buffer ++ line :: rest) := by
            intro isInline
            have isOf := ih isInline
            rwa [List.append_assoc, List.singleton_append] at isOf
          rw [splitBlocksFrom] at isInline
          split at isInline
          · split at isInline
            next => exact buffers isInline
            next codeLines later isClosed =>
              rcases List.mem_append.mp isInline with isFlushed | isInline
              · exact inline_of_flushInline isFlushed _
              · rcases List.mem_cons.mp isInline with isCode | isLater
                · cases isCode
                · refine (ih isLater).mono fun other isMember => ?_
                  rw [List.nil_append] at isMember
                  exact List.mem_append_right _
                    (List.mem_cons_of_mem _ (findFenceClose_mem isClosed other isMember))
          · exact buffers isInline

/-- Where a source has no address to link, no inline segment has. -/
theorem NoAutolinks.inline
    {source value : Text}
    (noLinks : NoAutolinks source)
    (isInline : .inline value ∈ splitBlocks source) :
    NoAutolinks (rewriteHeadings value) := by
  obtain ⟨others, notEmpty, rfl, areLines⟩ := inline_of_splitBlocksFrom isInline
  rw [List.nil_append] at areLines
  have noBreaks : ∀ line ∈ others, newline ∉ line :=
    fun line isLine => not_mem_splitLines source line (areLines line isLine)
  rw [rewriteHeadings, splitLines_joinLines notEmpty noBreaks]
  apply noAutolinks_joinLines
  rw [List.forall_mem_map]
  intro line isLine
  have isPart := infix_joinLines (areLines line isLine)
  rw [joinLines_splitLines] at isPart
  have noLinks := noLinks.of_infix isPart
  cases isHeading : headingOf line with
  | none => exact noLinks
  | some heading => exact noAutolinks_marked (noLinks.of_infix (heading_inside isHeading))

/-! ## What is shown -/

/-- Scans show what is essential of the text, and without autolinks nothing else that
would be. -/
def essentialReading : Reading where
  ofLink url text := text ++ url
  Yields text shown :=
    (essential text).Sublist shown ∧ (NoAutolinks text → essential shown = essential text)
  same text := ⟨List.filter_sublist, fun _ => rfl⟩
  markup text areMarkup := by
    have isEmpty : essential text = [] :=
      essential_eq_nil fun unit isUnit => not_essential_of_isMarkup unit (areMarkup unit isUnit)
    rw [isEmpty]
    exact ⟨List.nil_sublist _, fun _ => rfl⟩
  lineBreak := ⟨List.nil_sublist _, fun _ => rfl⟩
  append := by
    rintro first second ofFirst ofSecond ⟨firstShown, firstOnly⟩ ⟨secondShown, secondOnly⟩
    rw [essential_append, essential_append]
    refine ⟨firstShown.append secondShown, fun noLinks => ?_⟩
    rw [firstOnly (noLinks.of_infix List.infix_append_left),
      secondOnly (noLinks.of_infix List.infix_append_right)]
  bracketed text url := by
    have between : essential [0x5D, 0x28] = [] := by decide
    rw [essential_append, essential_append, essential_append, essential_trim, between,
      List.append_nil]
    refine ⟨List.filter_sublist.append ?_, fun _ => rfl⟩
    rw [← essential_trim]
    exact List.filter_sublist
  autolink start isStart body :=
    ⟨List.filter_sublist.trans (List.sublist_append_left _ _),
      fun noLinks => absurd List.infix_append_left (noLinks start isStart)⟩

theorem contents_append (first second : List Node) :
    contents (first ++ second) = contents first ++ contents second :=
  readAll_append _ first second

/-- What the nodes of one segment show. -/
theorem parseSegment_shows
    {accumulator : Accumulator}
    {segment : BlockSegment}
    (isWithin : (parseSegment accumulator segment).overflow = false) :
    ∃ added, (parseSegment accumulator segment).nodes = accumulator.nodes ++ added ∧
      (essential segment.shown).Sublist (contents added) ∧
        ((∀ value, .inline value = segment → NoAutolinks (rewriteHeadings value)) →
          essential (contents added) = essential segment.shown) := by
  cases segment with
  | codeBlock value =>
      have isCode : contents [.codeBlock value] = value := List.append_nil value
      refine ⟨[.codeBlock value], rfl, ?_, fun _ => ?_⟩
      · rw [isCode]
        exact List.filter_sublist
      · rw [isCode]
        rfl
  | inline value =>
      have isWithin : (parseInline maxEmphasisDepth
          (segmentCursor accumulator value)).1.overflow = false := isWithin
      obtain ⟨shown, only⟩ := parseInline_yields essentialReading (Nat.zero_add _) isWithin
      exact ⟨_, rfl, shown, fun noLinks => only (noLinks value rfl)⟩

/-- What the nodes of some segments show. -/
theorem parseSegments_shows
    {accumulator : Accumulator}
    {segments : List BlockSegment}
    (notOver : (parseSegments accumulator segments).overflow = false) :
    ∃ added, (parseSegments accumulator segments).nodes = accumulator.nodes ++ added ∧
      (essentialOfSegments segments).Sublist (contents added) ∧
        ((∀ value, .inline value ∈ segments → NoAutolinks (rewriteHeadings value)) →
          essential (contents added) = essentialOfSegments segments) := by
  induction segments generalizing accumulator with
  | nil => exact ⟨[], (List.append_nil _).symm, List.nil_sublist _, fun _ => rfl⟩
  | cons segment rest ih =>
      rw [parseSegments_cons] at notOver ⊢
      split at notOver
      next => cases notOver
      next notFull =>
        have isWithin : (parseSegment accumulator segment).overflow = false := by
          rw [← Bool.not_eq_true] at notOver ⊢
          exact fun isOver => notOver (parseSegments_overflow isOver rest)
        obtain ⟨first, isFirst, firstShown, firstOnly⟩ := parseSegment_shows isWithin
        obtain ⟨later, isLater, laterShown, laterOnly⟩ := ih notOver
        rw [if_neg notFull]
        refine ⟨first ++ later, ?_, ?_, fun noLinks => ?_⟩
        · rw [isLater, isFirst, List.append_assoc]
        · rw [contents_append]
          exact firstShown.append laterShown
        · rw [contents_append, essential_append,
            firstOnly fun value isSegment => noLinks value (isSegment ▸ List.mem_cons_self),
            laterOnly fun value isInline => noLinks value (List.mem_cons_of_mem _ isInline)]
          rfl

/-- Only essential characters should be shown. -/
theorem essential_shownOfLines
    {ofOpening : Text → Text}
    (ofOpenings : ∀ line, essential (ofOpening line) = ofOpening line)
    (isFenced : Bool)
    (lines : List Text) :
    essential (shownOfLines ofOpening isFenced lines) = shownOfLines ofOpening isFenced lines := by
  have ofLine : ∀ line, essential (essentialOfLine line) = essentialOfLine line := by
    intro line
    unfold essentialOfLine
    split
    · exact essential_essential _
    · exact essential_essential _
  fun_induction shownOfLines ofOpening isFenced lines with
  | case1 => rfl
  | case2 line rest ih => rw [essential_append, essential_essential, ih]
  | case3 line rest opens ih => rw [essential_append, ofOpenings, ih]
  | case4 line rest notOpens ih => rw [essential_append, ofLine, ih]

/--
Within the parser's limits no text is lost where the closed fenced blocks open
plainly; and where nothing is shown twice, as the text of an autolink and its
address are, text is lost in all other messages.
-/
theorem loses_nothing_iff_opensPlainly
    (unicode : Unicode)
    (raw : Text)
    (isWithin : (parseMarkdownString unicode raw).bombFallback = false) :
    (OpensPlainly (parseMarkdownString unicode raw).source →
        LosesNothing (parseMarkdownString unicode raw)) ∧
      (NoAutolinks (parseMarkdownString unicode raw).source →
        LosesNothing (parseMarkdownString unicode raw) →
          OpensPlainly (parseMarkdownString unicode raw).source) := by
  obtain ⟨added, isNodes, shown, only⟩ := parseSegments_shows isWithin
  rw [essential_splitBlocks] at shown only
  have isNodes : (parseMarkdownString unicode raw).nodes = added := isNodes
  have opensPlainly := shownOfLines_eq_iff essentialOfOpening false
    (splitLines (parseMarkdownString unicode raw).source)
  rw [LosesNothing, isNodes, essentialOfSource]
  constructor
  · intro plainly
    rw [opensPlainly.mpr plainly]
    exact shown
  · intro noLinks loses
    have ofOpenings : ∀ line, essential (essentialOfOpening line) = essentialOfOpening line := by
      intro line
      unfold essentialOfOpening
      split
      · exact essential_essential line
      · rfl
    have shownOnly := loses.filter isEssential
    rw [← essential, ← essential, only fun value isInline => noLinks.inline isInline,
      essential_shownOfLines ofOpenings] at shownOnly
    exact opensPlainly.mp (shownOnly.antisymm (shownOfLines_sublist _ _ _))

instance (ast : Ast) : Decidable (LosesNothing ast) :=
  inferInstanceAs (Decidable (List.Sublist _ _))

instance (source : Text) : Decidable (OpensPlainly source) :=
  inferInstanceAs (Decidable (∀ _ ∈ _, _))

/-- Basic Latin only. -/
def Sample.unicode : Unicode where
  normalizeNfc := id
  isNonspacingMark _ := false

/-- A block with an info string, and code that looks like a heading. -/
def Sample.fenced : Text :=
  fence ++ [0x6A, 0x73, newline, hash, space, 0x61, newline] ++ fence

/-- A code span with text after it, and a fence. -/
def Sample.spanBeforeFence : Text :=
  fence ++ [0x72, 0x6D] ++ fence ++ [space, 0x61, newline] ++ fence

theorem loses_nothing_of_fenced :
    LosesNothing (parseMarkdownString Sample.unicode Sample.fenced) :=
  (loses_nothing_iff_opensPlainly Sample.unicode Sample.fenced (by decide)).1 (by decide)

/-- The code span and the text after it are not shown. -/
theorem loses_span_before_fence :
    ¬ ∀ raw, (parseMarkdownString Sample.unicode raw).bombFallback = false →
      LosesNothing (parseMarkdownString Sample.unicode raw) := by
  intro loses
  have notLost := loses Sample.spanBeforeFence (by decide)
  revert notLost
  decide

end Markdown

end Unseen
