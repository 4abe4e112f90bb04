import Unseen.Loop
import Unseen.Markdown

namespace Unseen

namespace Markdown

/-!
# Bounds of the markdown parser

The loops of the parser end, the trees it makes are small and flat, and the
overflow flag is raised wherever the tokens ran out.
-/

/-! ## The size and the nesting of trees -/

mutual

/-- The nodes of a tree. -/
def Node.count : Node → Nat
  | .text _ => 1
  | .strong children => 1 + countAll children
  | .emphasis children => 1 + countAll children
  | .code _ => 1
  | .codeBlock _ => 1
  | .link _ _ => 1
  | .lineBreak => 1

/-- The nodes of some trees. -/
def countAll : List Node → Nat
  | [] => 0
  | node :: nodes => node.count + countAll nodes

end

mutual

/-- How deep emphasis is nested in a tree. -/
def Node.nesting : Node → Nat
  | .text _ => 0
  | .strong children => 1 + nestingAll children
  | .emphasis children => 1 + nestingAll children
  | .code _ => 0
  | .codeBlock _ => 0
  | .link _ _ => 0
  | .lineBreak => 0

/-- How deep emphasis is nested in some trees. -/
def nestingAll : List Node → Nat
  | [] => 0
  | node :: nodes => max node.nesting (nestingAll nodes)

end

theorem countAll_append (first second : List Node) :
    countAll (first ++ second) = countAll first + countAll second := by
  induction first with
  | nil => rw [List.nil_append, countAll, Nat.zero_add]
  | cons node nodes ih => rw [List.cons_append, countAll, countAll, ih, Nat.add_assoc]

theorem nestingAll_append (first second : List Node) :
    nestingAll (first ++ second) = max (nestingAll first) (nestingAll second) := by
  induction first with
  | nil => rw [List.nil_append, nestingAll, Nat.zero_max]
  | cons node nodes ih => rw [List.cons_append, nestingAll, nestingAll, ih, Nat.max_assoc]

theorem countAll_singleton (node : Node) : countAll [node] = node.count := by
  rw [countAll, countAll, Nat.add_zero]

theorem nestingAll_singleton (node : Node) : nestingAll [node] = node.nesting := by
  rw [nestingAll, nestingAll, Nat.max_zero]

/-! ## Turns of the loops -/

/-- A turn of `tryConsumeCode`'s loop. -/
def codeTurn (source : Text) (openTicks searchFrom : Nat) : Nat ⊕ Option Nat :=
  if searchFrom < source.length then
    match indexOf source (List.replicate openTicks backtick) searchFrom with
    | none => .inr none
    | some closeIdx =>
        let closeTicks := runLength source closeIdx backtick
        if closeTicks = openTicks then .inr (some closeIdx) else .inl (closeIdx + closeTicks)
  else
    .inr none

/-- A turn of `tryConsumeEmphasis`'s loop. -/
def emphasisTurn (source closer : Text) (search : Nat) : Nat ⊕ Option Nat :=
  if search < source.length then
    match indexOf source closer search with
    | none => .inr none
    | some idx =>
        if source[idx - 1]? = some space ∨ source[idx - 1]? = some newline then
          .inl (idx + closer.length)
        else
          .inr (some idx)
  else
    .inr none

/-- A turn of `findUnescaped`'s loop. -/
def unescapedTurn (source : Text) (target : UInt16) (index : Nat) : Nat ⊕ Option Nat :=
  match source[index]? with
  | none => .inr none
  | some unit =>
      if unit = backslash then .inl (index + 2)
      else if unit = target then .inr (some index)
      else .inl (index + 1)

/-- A turn of `splitBlocks`'s loop: the segments so far, the buffered lines and the
lines to come. -/
def blockTurn (state : List BlockSegment × List Text × List Text) :
    (List BlockSegment × List Text × List Text) ⊕ List BlockSegment :=
  match state with
  | (segments, buffer, []) => .inr (segments ++ flushInline buffer)
  | (segments, buffer, line :: rest) =>
      if opensFence line then
        match findFenceClose rest with
        | none => .inl (segments, buffer ++ [line], rest)
        | some (codeLines, later) =>
            .inl (segments ++ flushInline buffer ++ [.codeBlock (joinLines codeLines)], [], later)
      else
        .inl (segments, buffer ++ [line], rest)

/-- What `parseInline`'s loop works on: the cursor, the buffered text and the nodes so
far. -/
structure Head where
  cursor : Cursor
  buffer : Text
  nodes : List Node

/-- `parseInline` begins with nothing. -/
def Head.start (cursor : Cursor) : Head :=
  ⟨cursor, [], []⟩

/-- The buffer goes to the nodes. -/
def Head.flush (head : Head) : Cursor × List Node :=
  flushBuffer head.cursor head.buffer head.nodes

/-- A turn of `parseInline`'s loop. -/
def inlineTurn (parseInner : Cursor → Cursor × List Node) (head : Head) :
    Head ⊕ (Cursor × List Node) :=
  match head.cursor.source[head.cursor.pos]? with
  | none => .inr head.flush
  | some unit =>
      if maxTokens ≤ head.cursor.tokens then
        .inr (flushBuffer { head.cursor with overflow := true } head.buffer head.nodes)
      else
        let escaped := head.cursor.source[head.cursor.pos + 1]?
        if unit = backslash ∧ escaped.isSome then
          .inl
            { head with
              cursor := { head.cursor with pos := head.cursor.pos + 2 }
              buffer := head.buffer ++ escaped.toList }
        else if unit = newline then
          let (flushed, sink) := head.flush
          let (broken, sink) := emit flushed .lineBreak sink
          .inl ⟨{ broken with pos := broken.pos + 1 }, [], sink⟩
        else
          match tryConsumeToken parseInner head.cursor unit with
          | (consumed, some token) =>
              let (flushed, sink) := flushBuffer consumed head.buffer head.nodes
              let (emitted, sink) := emit flushed token sink
              .inl ⟨emitted, [], sink⟩
          | (unchanged, none) =>
              .inl
                ⟨{ unchanged with pos := unchanged.pos + 1 }, head.buffer ++ [unit], head.nodes⟩

/-- The scanner for what is inside emphasis. -/
def innerParser : Nat → Cursor → Cursor × List Node
  | 0 => fun inner => (inner, [])
  | deeper + 1 => parseInline deeper

theorem parseInline_eq (deeper : Nat) (cursor : Cursor) :
    parseInline deeper cursor =
      parseInlineFrom (innerParser deeper) cursor.source.length cursor [] [] := by
  cases deeper <;> rfl

/-! ## The loops of the parser are loops -/

theorem indexOf_eq_none
    {text needle : Text}
    {start : Nat}
    (isEnd : text.length ≤ start) :
    indexOf text needle start = none := by
  rw [indexOf, Nat.sub_eq_zero_of_le isEnd]
  rfl

theorem indexOf_eq_some
    {text needle : Text}
    {start index : Nat}
    (isIndex : indexOf text needle start = some index) :
    start ≤ index ∧ index < text.length ∧ needle.isPrefixOf (text.drop index) = true := by
  have isMember := List.mem_of_find?_eq_some isIndex
  have isFound : needle.isPrefixOf (text.drop index) = true :=
    List.find?_some (p := fun index => needle.isPrefixOf (text.drop index)) isIndex
  rw [List.mem_range'_1] at isMember
  refine ⟨isMember.1, ?_, isFound⟩
  omega

theorem findCodeClose_eq (source : Text) (openTicks fuel searchFrom : Nat) :
    findCodeClose source openTicks fuel searchFrom =
      Loop.run (codeTurn source openTicks) (fun _ => none) fuel searchFrom := by
  induction fuel generalizing searchFrom with
  | zero => rfl
  | succ fuel ih =>
      rw [findCodeClose, Loop.run, codeTurn]
      by_cases inText : searchFrom < source.length
      · rw [if_pos inText]
        cases indexOf source (List.replicate openTicks backtick) searchFrom with
        | none => rfl
        | some closeIdx =>
            dsimp only
            split
            · rfl
            · exact ih _
      · rw [if_neg inText, indexOf_eq_none (Nat.not_lt.mp inText)]

theorem findEmphasisClose_eq (source closer : Text) (fuel search : Nat) :
    findEmphasisClose source closer fuel search =
      Loop.run (emphasisTurn source closer) (fun _ => none) fuel search := by
  induction fuel generalizing search with
  | zero => rfl
  | succ fuel ih =>
      rw [findEmphasisClose, Loop.run, emphasisTurn]
      by_cases inText : search < source.length
      · rw [if_pos inText]
        cases indexOf source closer search with
        | none => rfl
        | some idx =>
            dsimp only
            split
            · exact ih _
            · rfl
      · rw [if_neg inText, indexOf_eq_none (Nat.not_lt.mp inText)]

theorem findUnescaped_eq (source : Text) (target : UInt16) (fuel index : Nat) :
    findUnescaped source target fuel index =
      Loop.run (unescapedTurn source target) (fun _ => none) fuel index := by
  induction fuel generalizing index with
  | zero => rfl
  | succ fuel ih =>
      rw [findUnescaped, Loop.run, unescapedTurn]
      cases source[index]? with
      | none => rfl
      | some unit =>
          dsimp only
          split
          · exact ih _
          · split
            · rfl
            · exact ih _

theorem splitBlocksFrom_eq
    (fuel : Nat)
    (segments : List BlockSegment)
    (buffer lines : List Text) :
    segments ++ splitBlocksFrom fuel buffer lines =
      Loop.run blockTurn (fun state => state.1 ++ flushInline state.2.1) fuel
        (segments, buffer, lines) := by
  induction fuel generalizing segments buffer lines with
  | zero => rfl
  | succ fuel ih =>
      cases lines with
      | nil => rfl
      | cons line rest =>
          rw [splitBlocksFrom, Loop.run, blockTurn]
          split
          · cases findFenceClose rest with
            | none => exact ih segments (buffer ++ [line]) rest
            | some parts =>
                dsimp only
                rw [← ih]
                simp
          · exact ih segments (buffer ++ [line]) rest

theorem parseInlineFrom_eq
    (parseInner : Cursor → Cursor × List Node)
    (fuel : Nat)
    (cursor : Cursor)
    (buffer : Text)
    (nodes : List Node) :
    parseInlineFrom parseInner fuel cursor buffer nodes =
      Loop.run (inlineTurn parseInner) Head.flush fuel ⟨cursor, buffer, nodes⟩ := by
  induction fuel generalizing cursor buffer nodes with
  | zero => rfl
  | succ fuel ih =>
      rw [parseInlineFrom, Loop.run, inlineTurn]
      cases cursor.source[cursor.pos]? with
      | none => rfl
      | some unit =>
          dsimp only
          split
          · rfl
          · split
            · exact ih _ _ _
            · split
              · exact ih _ _ _
              · generalize tryConsumeToken parseInner cursor unit = tried
                obtain ⟨consumed, token⟩ := tried
                cases token with
                | none => exact ih _ _ _
                | some token => exact ih _ _ _

/-! ## The loops end -/

theorem runLength_pos
    {text : Text}
    {index : Nat}
    {unit : UInt16}
    (isUnit : text[index]? = some unit) :
    0 < runLength text index unit := by
  obtain ⟨inText, isUnit⟩ := List.getElem?_eq_some_iff.mp isUnit
  rw [runLength, List.drop_eq_getElem_cons inText, isUnit, List.takeWhile_cons,
    if_pos (beq_self_eq_true unit)]
  exact Nat.succ_pos _

/-- Where a run of backticks was found, there is at least one, or none was sought. -/
theorem closeTicks_pos
    {source : Text}
    {openTicks searchFrom closeIdx : Nat}
    (isIndex : indexOf source (List.replicate openTicks backtick) searchFrom = some closeIdx)
    (notSame : runLength source closeIdx backtick ≠ openTicks) :
    0 < runLength source closeIdx backtick := by
  obtain ⟨-, inText, isFound⟩ := indexOf_eq_some isIndex
  cases openTicks with
  | zero => exact Nat.pos_of_ne_zero notSame
  | succ others =>
      apply runLength_pos
      rw [List.drop_eq_getElem_cons inText, List.replicate_succ, List.isPrefixOf,
        Bool.and_eq_true] at isFound
      rw [List.getElem?_eq_getElem inText, ← eq_of_beq isFound.1]

theorem findCodeClose_ends (source : Text) (openTicks searchFrom : Nat) :
    Loop.Ends (codeTurn source openTicks) searchFrom
      (findCodeClose source openTicks source.length searchFrom) := by
  rw [findCodeClose_eq]
  apply Loop.ends_run (source.length - ·)
  · intro searchFrom next goesOn
    unfold codeTurn at goesOn
    split at goesOn
    next inText =>
      split at goesOn
      next => cases goesOn
      next closeIdx isIndex =>
        dsimp only at goesOn
        split at goesOn
        next => cases goesOn
        next notSame =>
          have isAfter := (indexOf_eq_some isIndex).1
          have isRun := closeTicks_pos isIndex notSame
          cases goesOn
          omega
    next => cases goesOn
  · intro searchFrom isEnd
    exact if_neg (by omega)
  · omega

theorem findEmphasisClose_ends
    {closer : Text}
    (notEmpty : closer ≠ [])
    (source : Text)
    (search : Nat) :
    Loop.Ends (emphasisTurn source closer) search
      (findEmphasisClose source closer source.length search) := by
  rw [findEmphasisClose_eq]
  apply Loop.ends_run (source.length - ·)
  · intro search next goesOn
    unfold emphasisTurn at goesOn
    split at goesOn
    next inText =>
      split at goesOn
      next => cases goesOn
      next idx isIndex =>
        split at goesOn
        next =>
          have isAfter := (indexOf_eq_some isIndex).1
          have isCloser := List.length_pos_of_ne_nil notEmpty
          cases goesOn
          omega
        next => cases goesOn
    next => cases goesOn
  · intro search isEnd
    exact if_neg (by omega)
  · omega

theorem findUnescaped_ends (source : Text) (target : UInt16) (index : Nat) :
    Loop.Ends (unescapedTurn source target) index
      (findUnescaped source target source.length index) := by
  rw [findUnescaped_eq]
  apply Loop.ends_run (source.length - ·)
  · intro index next goesOn
    unfold unescapedTurn at goesOn
    split at goesOn
    next => cases goesOn
    next unit isUnit =>
      obtain ⟨inText, -⟩ := List.getElem?_eq_some_iff.mp isUnit
      split at goesOn
      · cases goesOn
        omega
      · split at goesOn
        · cases goesOn
        · cases goesOn
          omega
  · intro index isEnd
    rw [unescapedTurn, List.getElem?_eq_none (by omega)]
  · omega

/-- The lines after a closing fence are fewer. -/
theorem length_findFenceClose
    {lines : List Text}
    {parts : List Text × List Text}
    (isClosed : findFenceClose lines = some parts) :
    parts.2.length < lines.length := by
  induction lines generalizing parts with
  | nil => cases isClosed
  | cons line rest ih =>
      rw [findFenceClose] at isClosed
      split at isClosed
      · cases isClosed
        exact Nat.lt_succ_self _
      · obtain ⟨inner, isInner, rfl⟩ := Option.map_eq_some_iff.mp isClosed
        have isFewer := ih isInner
        exact Nat.lt_succ_of_lt isFewer

theorem splitBlocks_ends (source : Text) :
    Loop.Ends blockTurn ([], [], splitLines source) (splitBlocks source) := by
  rw [splitBlocks, ← List.nil_append (splitBlocksFrom _ _ _), splitBlocksFrom_eq]
  apply Loop.ends_run fun state => state.2.2.length
  · rintro ⟨segments, buffer, lines⟩ next goesOn
    cases lines with
    | nil => cases goesOn
    | cons line rest =>
        rw [blockTurn] at goesOn
        split at goesOn
        · split at goesOn
          next =>
            cases goesOn
            exact Nat.lt_succ_self _
          next codeLines later isClosed =>
            have isFewer := length_findFenceClose isClosed
            cases goesOn
            exact Nat.lt_succ_of_lt isFewer
        · cases goesOn
          exact Nat.lt_succ_self _
  · rintro ⟨segments, buffer, lines⟩ isEnd
    cases lines with
    | nil => rfl
    | cons line rest => cases isEnd
  · exact Nat.le_refl _

/-! ## Nodes and tokens -/

/-- A node goes to the sink: it costs a token, or is joined to the text before it. -/
structure Emits (cursor : Cursor) (node : Node) (sink : List Node)
    (result : Cursor × List Node) : Prop where
  kept : result.1 = { cursor with tokens := result.1.tokens }
  most : result.1.tokens ≤ cursor.tokens + 1
  counted : countAll result.2 + cursor.tokens + 1 = countAll sink + node.count + result.1.tokens
  nested : nestingAll result.2 = max (nestingAll sink) node.nesting

theorem emit_emits (cursor : Cursor) (node : Node) (sink : List Node) :
    Emits cursor node sink (emit cursor node sink) := by
  unfold emit
  split
  next value last isLast =>
    obtain ⟨others, rfl⟩ := List.getLast?_eq_some_iff.mp isLast
    refine ⟨rfl, Nat.le_succ _, ?_, ?_⟩
    · simp only [List.dropLast_concat, countAll_append, countAll_singleton, Node.count]
      omega
    · simp only [List.dropLast_concat, nestingAll_append, nestingAll_singleton, Node.nesting,
        Nat.max_zero]
  next =>
    refine ⟨rfl, Nat.le_refl _, ?_, ?_⟩
    · simp only [countAll_append, countAll_singleton]
      omega
    · simp only [nestingAll_append, nestingAll_singleton]

/-- The buffer goes to the sink: for a token, if there is any text in it. -/
structure Flushes (cursor : Cursor) (buffer : Text) (nodes : List Node)
    (result : Cursor × List Node) : Prop where
  kept : result.1 = { cursor with tokens := result.1.tokens }
  most : result.1.tokens ≤ cursor.tokens + 1
  free : buffer = [] → result.1.tokens = cursor.tokens
  counted : countAll result.2 + cursor.tokens = countAll nodes + result.1.tokens
  nested : nestingAll result.2 = nestingAll nodes

theorem flushBuffer_flushes (cursor : Cursor) (buffer : Text) (nodes : List Node) :
    Flushes cursor buffer nodes (flushBuffer cursor buffer nodes) := by
  unfold flushBuffer
  split
  next => exact ⟨rfl, Nat.le_succ _, fun _ => rfl, rfl, rfl⟩
  next notEmpty =>
    have emits := emit_emits cursor (.text buffer) nodes
    refine ⟨emits.kept, emits.most, ?_, ?_, ?_⟩
    · rintro rfl
      exact absurd rfl notEmpty
    · have counted := emits.counted
      rw [Node.count] at counted
      omega
    · rw [emits.nested, Node.nesting, Nat.max_zero]

/-- `openLength` of `tryConsumeEmphasis` -/
def openLength (cursor : Cursor) (marker : UInt16) : Nat :=
  if 2 ≤ runLength cursor.source cursor.pos marker then 2 else 1

theorem openLength_pos (cursor : Cursor) (marker : UInt16) : 0 < openLength cursor marker := by
  unfold openLength
  split <;> decide

/-- The cursor for what is inside emphasis, when there is any here. -/
def innerCursor (cursor : Cursor) (marker : UInt16) : Option Cursor :=
  if maxEmphasisDepth ≤ cursor.depth then
    none
  else
    let innerStart := cursor.pos + openLength cursor marker
    if cursor.source[innerStart]? = none ∨ cursor.source[innerStart]? = some space then
      none
    else
      (findEmphasisClose cursor.source (List.replicate (openLength cursor marker) marker)
          cursor.source.length innerStart).map fun idx =>
        { source := cursor.source.take idx
          pos := innerStart
          tokens := cursor.tokens
          depth := cursor.depth + 1
          overflow := cursor.overflow }

theorem innerCursor_eq_some
    {cursor inner : Cursor}
    {marker : UInt16}
    (enters : innerCursor cursor marker = some inner) :
    cursor.depth < maxEmphasisDepth ∧ inner.depth = cursor.depth + 1 ∧
      inner.tokens = cursor.tokens := by
  unfold innerCursor at enters
  split at enters
  next => cases enters
  next notDeep =>
    dsimp only at enters
    split at enters
    next => cases enters
    next =>
      obtain ⟨idx, -, rfl⟩ := Option.map_eq_some_iff.mp enters
      exact ⟨Nat.not_le.mp notDeep, rfl, rfl⟩

/-- What an attempt to consume a token can do. -/
inductive Consumes (parseInner : Cursor → Cursor × List Node) (cursor : Cursor)
    (unit : UInt16) : Cursor × Option Node → Prop where
  | nothing (overflow : Bool) (keepsFlag : cursor.overflow = true → overflow = true) :
      Consumes parseInner cursor unit ({ cursor with overflow }, none)
  | flat (pos : Nat) (token : Node)
      (advances : cursor.pos < pos)
      (isOne : token.count = 1)
      (isFlat : token.nesting = 0) :
      Consumes parseInner cursor unit ({ cursor with pos }, some token)
  | nested (pos : Nat) (token : Node) (inner : Cursor)
      (advances : cursor.pos < pos)
      (enters : innerCursor cursor unit = some inner)
      (counted : token.count = 1 + countAll (parseInner inner).2)
      (nests : token.nesting = 1 + nestingAll (parseInner inner).2) :
      Consumes parseInner cursor unit
        ({ cursor with
            pos
            tokens := (parseInner inner).1.tokens
            overflow := (parseInner inner).1.overflow || cursor.overflow },
          some token)

section Consuming

variable {parseInner : Cursor → Cursor × List Node} {cursor : Cursor} {unit : UInt16}

theorem Consumes.unchanged : Consumes parseInner cursor unit (cursor, none) :=
  .nothing cursor.overflow id

/-- The close that was found lies after the start of the search. -/
theorem findCodeClose_ge
    {source : Text}
    {openTicks fuel searchFrom closeIdx : Nat}
    (isClose : findCodeClose source openTicks fuel searchFrom = some closeIdx) :
    searchFrom ≤ closeIdx := by
  induction fuel generalizing searchFrom with
  | zero => cases isClose
  | succ fuel ih =>
      rw [findCodeClose] at isClose
      split at isClose
      next => cases isClose
      next index isIndex =>
        have isAfter := (indexOf_eq_some isIndex).1
        dsimp only at isClose
        split at isClose
        · cases isClose
          exact isAfter
        · exact Nat.le_trans isAfter (Nat.le_trans (Nat.le_add_right _ _) (ih isClose))

theorem findEmphasisClose_ge
    {source closer : Text}
    {fuel search idx : Nat}
    (isClose : findEmphasisClose source closer fuel search = some idx) :
    search ≤ idx := by
  induction fuel generalizing search with
  | zero => cases isClose
  | succ fuel ih =>
      rw [findEmphasisClose] at isClose
      split at isClose
      next => cases isClose
      next index isIndex =>
        have isAfter := (indexOf_eq_some isIndex).1
        split at isClose
        · exact Nat.le_trans isAfter (Nat.le_trans (Nat.le_add_right _ _) (ih isClose))
        · cases isClose
          exact isAfter

theorem findUnescaped_ge
    {source : Text}
    {target : UInt16}
    {fuel index found : Nat}
    (isFound : findUnescaped source target fuel index = some found) :
    index ≤ found := by
  induction fuel generalizing index with
  | zero => cases isFound
  | succ fuel ih =>
      rw [findUnescaped] at isFound
      split at isFound
      next => cases isFound
      next =>
        split at isFound
        · exact Nat.le_trans (Nat.le_add_right _ _) (ih isFound)
        · split at isFound
          · cases isFound
            exact Nat.le_refl _
          · exact Nat.le_trans (Nat.le_add_right _ _) (ih isFound)

theorem tryConsumeCode_consumes
    (isTick : cursor.source[cursor.pos]? = some backtick) :
    Consumes parseInner cursor unit (tryConsumeCode cursor) := by
  unfold tryConsumeCode
  dsimp only
  split
  next => exact .unchanged
  next closeIdx isClose =>
    have isAfter := findCodeClose_ge isClose
    have isRun := runLength_pos isTick
    exact .flat _ _ (by omega) rfl rfl

theorem tryConsumeEmphasis_eq :
    tryConsumeEmphasis parseInner cursor unit =
      if maxEmphasisDepth ≤ cursor.depth then
        ({ cursor with overflow := true }, none)
      else
        let innerStart := cursor.pos + openLength cursor unit
        if cursor.source[innerStart]? = none ∨ cursor.source[innerStart]? = some space then
          (cursor, none)
        else
          match findEmphasisClose cursor.source (List.replicate (openLength cursor unit) unit)
              cursor.source.length innerStart with
          | none => (cursor, none)
          | some idx =>
              let (inner, children) :=
                parseInner
                  { source := cursor.source.take idx
                    pos := innerStart
                    tokens := cursor.tokens
                    depth := cursor.depth + 1
                    overflow := cursor.overflow }
              ({ cursor with
                  pos := idx + openLength cursor unit
                  tokens := inner.tokens
                  overflow := inner.overflow || cursor.overflow },
                some (if 2 ≤ runLength cursor.source cursor.pos unit then .strong children
                  else .emphasis children)) :=
  rfl

theorem tryConsumeEmphasis_consumes :
    Consumes parseInner cursor unit (tryConsumeEmphasis parseInner cursor unit) := by
  rw [tryConsumeEmphasis_eq]
  by_cases isDeep : maxEmphasisDepth ≤ cursor.depth
  · rw [if_pos isDeep]
    exact .nothing true fun _ => rfl
  · rw [if_neg isDeep]
    dsimp only
    split
    next => exact .unchanged
    next notBlank =>
      split
      next => exact .unchanged
      next idx isClose =>
        have isAfter := findEmphasisClose_ge isClose
        have isOpen := openLength_pos cursor unit
        refine .nested _ _
          { source := cursor.source.take idx
            pos := cursor.pos + openLength cursor unit
            tokens := cursor.tokens
            depth := cursor.depth + 1
            overflow := cursor.overflow } ?_ ?_ ?_ ?_
        · omega
        · rw [innerCursor, if_neg isDeep]
          dsimp only
          rw [if_neg notBlank, isClose]
          rfl
        · split <;> rw [Node.count]
        · split <;> rw [Node.nesting]

theorem tryConsumeLink_consumes :
    Consumes parseInner cursor unit (tryConsumeLink cursor) := by
  unfold tryConsumeLink
  split
  next => exact .unchanged
  next textEnd isText =>
    split
    next => exact .unchanged
    next =>
      split
      next => exact .unchanged
      next urlEnd isUrl =>
        have textAfter := findUnescaped_ge isText
        have urlAfter := findUnescaped_ge isUrl
        dsimp only
        split
        · exact .unchanged
        · exact .flat _ _ (by omega) rfl rfl

theorem tryConsumeAutolink_consumes :
    Consumes parseInner cursor unit (tryConsumeAutolink cursor) := by
  unfold tryConsumeAutolink
  dsimp only
  split
  next => exact .unchanged
  next start isStart =>
    split
    · exact .unchanged
    · split
      · exact .unchanged
      next notEmpty =>
        have isBody := List.length_pos_iff.mpr fun isEmpty =>
          notEmpty (List.isEmpty_iff.mpr isEmpty)
        refine .flat _ _ ?_ rfl rfl
        rw [List.length_append]
        omega

theorem tryConsumeToken_consumes
    (isUnit : cursor.source[cursor.pos]? = some unit) :
    Consumes parseInner cursor unit (tryConsumeToken parseInner cursor unit) := by
  unfold tryConsumeToken
  split
  next isTick =>
    subst isTick
    exact tryConsumeCode_consumes isUnit
  next =>
    split
    · exact tryConsumeEmphasis_consumes
    · split
      · exact tryConsumeLink_consumes
      · split
        · exact tryConsumeAutolink_consumes
        · exact .unchanged

end Consuming

/-! ## One turn of the scanner -/

/-- A turn that goes on advances in the same text, at the same depth, and never takes
the overflow flag back. -/
structure Head.Advances (head next : Head) : Prop where
  source : next.cursor.source = head.cursor.source
  depth : next.cursor.depth = head.cursor.depth
  pos : head.cursor.pos < next.cursor.pos
  overflow : head.cursor.overflow = true → next.cursor.overflow = true

/-- Where the tokens ran out before the end of the text. -/
def Head.OutOfTokens (head : Head) : Prop :=
  head.cursor.source[head.cursor.pos]? ≠ none ∧ maxTokens ≤ head.cursor.tokens

/-- What a turn of the scanner can do. -/
inductive Turns (parseInner : Cursor → Cursor × List Node) (head : Head) :
    Head ⊕ (Cursor × List Node) → Prop where
  | atEnd (isEnd : head.cursor.source[head.cursor.pos]? = none) :
      Turns parseInner head (.inr head.flush)
  | outOfTokens (isOut : head.OutOfTokens) :
      Turns parseInner head
        (.inr (flushBuffer { head.cursor with overflow := true } head.buffer head.nodes))
  | buffers (next : Head)
      (notFull : head.cursor.tokens < maxTokens)
      (advances : head.Advances next)
      (sameTokens : next.cursor.tokens = head.cursor.tokens)
      (sameNodes : next.nodes = head.nodes) :
      Turns parseInner head (.inl next)
  | emits (next : Head) (node : Node) (tokens : Nat)
      (notFull : head.cursor.tokens < maxTokens)
      (advances : head.Advances next)
      (isEmpty : next.buffer = [])
      (most : next.cursor.tokens ≤ tokens + 2)
      (counted : countAll next.nodes + tokens + 1 =
        countAll head.nodes + node.count + next.cursor.tokens)
      (nested : nestingAll next.nodes = max (nestingAll head.nodes) node.nesting)
      (isNode : (node.count = 1 ∧ node.nesting = 0 ∧ tokens = head.cursor.tokens) ∨
        ∃ unit inner, innerCursor head.cursor unit = some inner ∧
          node.count = 1 + countAll (parseInner inner).2 ∧
          node.nesting = 1 + nestingAll (parseInner inner).2 ∧
          tokens = (parseInner inner).1.tokens) :
      Turns parseInner head (.inl next)

section Turning

variable {parseInner : Cursor → Cursor × List Node} {head : Head}

/-- The buffer and then a node go to the nodes. -/
theorem flush_emit
    (cursor : Cursor)
    (buffer : Text)
    (nodes : List Node)
    (node : Node) :
    let flushed := flushBuffer cursor buffer nodes
    let emitted := emit flushed.1 node flushed.2
    emitted.1 = { cursor with tokens := emitted.1.tokens } ∧
      emitted.1.tokens ≤ cursor.tokens + 2 ∧
      countAll emitted.2 + cursor.tokens + 1 =
        countAll nodes + node.count + emitted.1.tokens ∧
      nestingAll emitted.2 = max (nestingAll nodes) node.nesting := by
  intro flushed emitted
  have flushes : Flushes cursor buffer nodes flushed := flushBuffer_flushes cursor buffer nodes
  have emits : Emits flushed.1 node flushed.2 emitted := emit_emits flushed.1 node flushed.2
  refine ⟨?_, ?_, ?_, ?_⟩
  · rw [emits.kept, flushes.kept]
  · have first := flushes.most
    have second := emits.most
    omega
  · have first := flushes.counted
    have second := emits.counted
    omega
  · rw [emits.nested, flushes.nested]

theorem inlineTurn_turns (parseInner : Cursor → Cursor × List Node) (head : Head) :
    Turns parseInner head (inlineTurn parseInner head) := by
  unfold inlineTurn
  split
  next isEnd => exact .atEnd isEnd
  next unit isUnit =>
    split
    next isFull =>
      exact .outOfTokens ⟨by rw [isUnit]; exact Option.some_ne_none unit, isFull⟩
    next notFull =>
      have notFull := Nat.not_le.mp notFull
      dsimp only
      split
      next => exact .buffers _ notFull ⟨rfl, rfl, Nat.lt_add_of_pos_right (by decide), id⟩ rfl rfl
      next =>
        split
        next =>
          obtain ⟨kept, most, counted, nested⟩ :=
            flush_emit head.cursor head.buffer head.nodes .lineBreak
          refine .emits _ .lineBreak head.cursor.tokens notFull ⟨?_, ?_, ?_, ?_⟩ rfl most counted
            nested (.inl ⟨rfl, rfl, rfl⟩)
          · have same := congrArg Cursor.source kept
            exact same
          · have same := congrArg Cursor.depth kept
            exact same
          · have same := congrArg Cursor.pos kept
            exact Nat.lt_succ_of_le (Nat.le_of_eq same.symm)
          · have same := congrArg Cursor.overflow kept
            exact fun isOver => same.trans isOver
        next =>
          have consumes : Consumes parseInner head.cursor unit
              (tryConsumeToken parseInner head.cursor unit) :=
            tryConsumeToken_consumes isUnit
          split
          next consumed token isToken =>
            rw [isToken] at consumes
            obtain ⟨kept, most, counted, nested⟩ :=
              flush_emit consumed head.buffer head.nodes token
            have advances : ∀ next : Cursor,
                consumed.source = head.cursor.source → consumed.depth = head.cursor.depth →
                head.cursor.pos < consumed.pos →
                (head.cursor.overflow = true → consumed.overflow = true) →
                next = { consumed with tokens := next.tokens } →
                  ∀ buffer nodes, head.Advances ⟨next, buffer, nodes⟩ := by
              intro next source depth pos overflow kept buffer nodes
              rw [kept]
              exact ⟨source, depth, pos, overflow⟩
            cases consumes with
            | flat pos token advancesTo isOne isFlat =>
                exact .emits _ token _ notFull
                  (advances _ rfl rfl advancesTo id kept _ _) rfl most counted nested
                  (.inl ⟨isOne, isFlat, rfl⟩)
            | nested pos token inner advancesTo enters countsInner nests =>
                refine .emits _ token _ notFull (advances _ rfl rfl advancesTo ?_ kept _ _) rfl most
                  counted nested (.inr ⟨unit, inner, enters, countsInner, nests, rfl⟩)
                intro isOver
                dsimp only
                rw [isOver, Bool.or_true]
          next unchanged isToken =>
            rw [isToken] at consumes
            cases consumes with
            | nothing overflow keepsFlag =>
                exact .buffers _ notFull ⟨rfl, rfl, Nat.lt_succ_self _, keepsFlag⟩ rfl rfl

/-- The loop of the scanner ends, whatever the scanner for what is inside emphasis
does. -/
theorem parseInlineFrom_ends (parseInner : Cursor → Cursor × List Node) (cursor : Cursor) :
    Loop.Ends (inlineTurn parseInner) (Head.start cursor)
      (parseInlineFrom parseInner cursor.source.length cursor [] []) := by
  rw [parseInlineFrom_eq]
  apply Loop.ends_run fun head => head.cursor.source.length - head.cursor.pos
  · intro head next goesOn
    have inText : head.cursor.pos < head.cursor.source.length := by
      by_contra isPast
      rw [inlineTurn, List.getElem?_eq_none (Nat.not_lt.mp isPast)] at goesOn
      cases goesOn
    have turns := inlineTurn_turns parseInner head
    rw [goesOn] at turns
    have advances : head.Advances next := by
      cases turns with
      | buffers _ _ advances => exact advances
      | emits _ _ _ _ advances => exact advances
    have isLater := advances.pos
    rw [advances.source]
    omega
  · intro head isEnd
    rw [inlineTurn, List.getElem?_eq_none (by omega)]
  · exact Nat.sub_le _ _

end Turning

/-! ## How many nodes, and how deep -/

/-- What the scanner returns costs as many tokens as it has nodes, and is bounded by
how much deeper it may go. -/
structure WithinBounds (deeper start : Nat) (result : Cursor × List Node) : Prop where
  counted : result.1.tokens = start + countAll result.2
  most : result.1.tokens ≤ maxTokens + 1 + 2 * deeper
  nested : nestingAll result.2 ≤ deeper

/-- The bounds at the head of the loop; a buffered text can still become a node. -/
structure Head.WithinBounds (deeper start : Nat) (head : Head) : Prop where
  level : head.cursor.depth + deeper = maxEmphasisDepth
  counted : head.cursor.tokens = start + countAll head.nodes
  most : head.cursor.tokens ≤ maxTokens + 1 + 2 * deeper
  buffered : head.buffer ≠ [] → head.cursor.tokens < maxTokens
  nested : nestingAll head.nodes ≤ deeper

theorem Head.WithinBounds.start
    {deeper : Nat}
    {cursor : Cursor}
    (notFull : cursor.tokens < maxTokens)
    (level : cursor.depth + deeper = maxEmphasisDepth) :
    (Head.start cursor).WithinBounds deeper cursor.tokens where
  level := level
  counted := by rw [Head.start, countAll, Nat.add_zero]
  most := by
    dsimp only [Head.start]
    omega
  buffered notEmpty := absurd rfl notEmpty
  nested := Nat.zero_le _

theorem Head.WithinBounds.flush
    {deeper start : Nat}
    {head : Head}
    (within : head.WithinBounds deeper start)
    {cursor : Cursor}
    (sameTokens : cursor.tokens = head.cursor.tokens) :
    Markdown.WithinBounds deeper start (flushBuffer cursor head.buffer head.nodes) := by
  have flushes := flushBuffer_flushes cursor head.buffer head.nodes
  have counted := flushes.counted
  have before := within.counted
  refine ⟨by omega, ?_, ?_⟩
  · by_cases isEmpty : head.buffer = []
    · rw [flushes.free isEmpty, sameTokens]
      exact within.most
    · have isSmall := within.buffered isEmpty
      have most := flushes.most
      omega
  · rw [flushes.nested]
    exact within.nested

/-- A turn keeps the bounds, if the scanner for what is inside emphasis has them. -/
theorem Head.WithinBounds.turn
    {deeper start : Nat}
    {head next : Head}
    (within : head.WithinBounds deeper start)
    (isInner : ∀ inner : Cursor, inner.tokens < maxTokens → 0 < deeper →
      inner.depth + (deeper - 1) = maxEmphasisDepth →
        Markdown.WithinBounds (deeper - 1) inner.tokens (innerParser deeper inner))
    (goesOn : inlineTurn (innerParser deeper) head = .inl next) :
    next.WithinBounds deeper start := by
  have turns := inlineTurn_turns (innerParser deeper) head
  rw [goesOn] at turns
  have level := within.level
  have counted := within.counted
  cases turns with
  | buffers _ notFull advances sameTokens sameNodes =>
      have sameDepth := advances.depth
      refine ⟨by omega, ?_, ?_, fun _ => by omega, ?_⟩
      · rw [sameTokens, sameNodes]
        exact counted
      · rw [sameTokens]
        exact within.most
      · rw [sameNodes]
        exact within.nested
  | emits _ node tokens notFull advances isEmpty most counts nests isNode =>
      have sameDepth := advances.depth
      have before := within.nested
      rcases isNode with ⟨isOne, isFlat, sameTokens⟩ |
        ⟨unit, inner, enters, isCount, isNesting, innerTokens⟩
      · refine ⟨by omega, by omega, by omega, fun notEmpty => absurd isEmpty notEmpty, ?_⟩
        omega
      · obtain ⟨notDeep, innerDepth, sameTokens⟩ := innerCursor_eq_some enters
        have bounds := isInner inner (by omega) (by omega) (by omega)
        have innerCounted := bounds.counted
        have innerMost := bounds.most
        have innerNested := bounds.nested
        refine ⟨by omega, by omega, by omega, fun notEmpty => absurd isEmpty notEmpty, ?_⟩
        omega

theorem Head.WithinBounds.leave
    {deeper start : Nat}
    {head : Head}
    (within : head.WithinBounds deeper start)
    {parseInner : Cursor → Cursor × List Node}
    {result : Cursor × List Node}
    (leaves : inlineTurn parseInner head = .inr result) :
    Markdown.WithinBounds deeper start result := by
  have turns := inlineTurn_turns parseInner head
  rw [leaves] at turns
  cases turns with
  | atEnd => exact within.flush rfl
  | outOfTokens => exact within.flush rfl

/-- The scanner keeps to its bounds, by how much deeper it may go. -/
theorem parseInline_withinBounds
    (deeper : Nat)
    (cursor : Cursor)
    (notFull : cursor.tokens < maxTokens)
    (level : cursor.depth + deeper = maxEmphasisDepth) :
    WithinBounds deeper cursor.tokens (parseInline deeper cursor) := by
  induction deeper generalizing cursor with
  | zero =>
      rw [parseInline_eq]
      refine (parseInlineFrom_ends (innerParser 0) cursor).induct
        (Head.WithinBounds 0 cursor.tokens) (WithinBounds 0 cursor.tokens) ?_ ?_ ?_
      · intro head next within goesOn
        exact within.turn (fun _ _ isPositive => absurd isPositive (Nat.lt_irrefl 0)) goesOn
      · intro head result within leaves
        exact within.leave leaves
      · exact Head.WithinBounds.start notFull level
  | succ deeper ih =>
      rw [parseInline_eq]
      refine (parseInlineFrom_ends (innerParser (deeper + 1)) cursor).induct
        (Head.WithinBounds (deeper + 1) cursor.tokens) (WithinBounds (deeper + 1) cursor.tokens)
        ?_ ?_ ?_
      · intro head next within goesOn
        exact within.turn (fun inner isSmall _ isLevel => ih inner isSmall isLevel) goesOn
      · intro head result within leaves
        exact within.leave leaves
      · exact Head.WithinBounds.start notFull level

/-! ## Where the tokens run out -/

/-- The cursor for what is inside emphasis, when this turn of the loop enters it. -/
def Head.inside (head : Head) : Option Cursor :=
  match head.cursor.source[head.cursor.pos]? with
  | none => none
  | some unit =>
      if (unit = asterisk ∨ unit = lowLine) ∧ head.cursor.tokens < maxTokens then
        innerCursor head.cursor unit
      else
        none

/-- The heads of loops that a scan comes to, at any depth. -/
inductive Visits : Nat → Head → Head → Prop where
  | here (deeper : Nat) (head : Head) : Visits deeper head head
  | turn {deeper : Nat} {head next visited : Head}
      (goesOn : inlineTurn (innerParser deeper) head = .inl next)
      (visits : Visits deeper next visited) : Visits deeper head visited
  | inside {deeper : Nat} {head visited : Head} {inner : Cursor}
      (enters : head.inside = some inner)
      (visits : Visits deeper (Head.start inner) visited) : Visits (deeper + 1) head visited

theorem flushBuffer_overflow (cursor : Cursor) (buffer : Text) (nodes : List Node) :
    (flushBuffer cursor buffer nodes).1.overflow = cursor.overflow := by
  rw [(flushBuffer_flushes cursor buffer nodes).kept]

/-- The flag is never taken back. -/
theorem overflow_of_ends
    {parseInner : Cursor → Cursor × List Node}
    {head : Head}
    {result : Cursor × List Node}
    (ends : Loop.Ends (inlineTurn parseInner) head result)
    (isOver : head.cursor.overflow = true) :
    result.1.overflow = true := by
  refine ends.induct (fun head => head.cursor.overflow = true)
    (fun result => result.1.overflow = true) ?_ ?_ isOver
  · intro head next isOver goesOn
    have turns := inlineTurn_turns parseInner head
    rw [goesOn] at turns
    cases turns with
    | buffers _ _ advances => exact advances.overflow isOver
    | emits _ _ _ _ advances => exact advances.overflow isOver
  · intro head result isOver leaves
    have turns := inlineTurn_turns parseInner head
    rw [leaves] at turns
    cases turns with
    | atEnd => exact (flushBuffer_overflow _ _ _).trans isOver
    | outOfTokens => exact flushBuffer_overflow _ _ _

/-- Emphasis that is entered becomes a token, and brings the flag of what is inside. -/
theorem tryConsumeEmphasis_of_inner
    (parseInner : Cursor → Cursor × List Node)
    {cursor inner : Cursor}
    {unit : UInt16}
    (enters : innerCursor cursor unit = some inner) :
    ∃ consumed token, tryConsumeEmphasis parseInner cursor unit = (consumed, some token) ∧
      consumed.overflow = ((parseInner inner).1.overflow || cursor.overflow) := by
  rw [tryConsumeEmphasis_eq]
  unfold innerCursor at enters
  split at enters
  next => cases enters
  next notDeep =>
    rw [if_neg notDeep]
    dsimp only at enters ⊢
    split at enters
    next => cases enters
    next notBlank =>
      obtain ⟨idx, isClose, rfl⟩ := Option.map_eq_some_iff.mp enters
      rw [if_neg notBlank, isClose]
      exact ⟨_, _, rfl, rfl⟩

theorem turn_of_inside
    (parseInner : Cursor → Cursor × List Node)
    {head : Head}
    {inner : Cursor}
    (enters : head.inside = some inner)
    (isOver : (parseInner inner).1.overflow = true) :
    ∃ next, inlineTurn parseInner head = .inl next ∧ next.cursor.overflow = true := by
  unfold Head.inside at enters
  split at enters
  next => cases enters
  next unit isUnit =>
    split at enters
    next isMarker =>
      obtain ⟨isMarker, notFull⟩ := isMarker
      obtain ⟨consumed, token, isToken, overflow⟩ := tryConsumeEmphasis_of_inner parseInner enters
      have notSlash : unit ≠ backslash ∧ unit ≠ newline ∧ unit ≠ backtick := by
        rcases isMarker with rfl | rfl
        all_goals decide
      have isConsumed : tryConsumeToken parseInner head.cursor unit = (consumed, some token) := by
        rw [tryConsumeToken, if_neg notSlash.2.2, if_pos isMarker, isToken]
      unfold inlineTurn
      rw [isUnit]
      dsimp only
      rw [if_neg (Nat.not_le.mpr notFull), if_neg fun both => notSlash.1 both.1,
        if_neg notSlash.2.1, isConsumed]
      refine ⟨_, rfl, ?_⟩
      have kept := (flush_emit consumed head.buffer head.nodes token).1
      have same := congrArg Cursor.overflow kept
      exact same.trans (by rw [overflow, isOver, Bool.true_or])
    next => cases enters

/-- Where a scan comes to the end of its tokens before the end of a text, its flag is
raised. -/
theorem overflow_of_visits
    {deeper : Nat}
    {head visited : Head}
    (visits : Visits deeper head visited)
    (isOut : visited.OutOfTokens)
    {result : Cursor × List Node}
    (ends : Loop.Ends (inlineTurn (innerParser deeper)) head result) :
    result.1.overflow = true := by
  induction visits generalizing result with
  | here deeper head =>
      obtain ⟨inText, isFull⟩ := isOut
      obtain ⟨unit, isUnit⟩ := Option.ne_none_iff_exists'.mp inText
      have leaves : inlineTurn (innerParser deeper) head =
          .inr (flushBuffer { head.cursor with overflow := true } head.buffer head.nodes) := by
        rw [inlineTurn, isUnit]
        exact if_pos isFull
      rw [ends.of_leaves leaves]
      exact flushBuffer_overflow _ _ _
  | turn goesOn _ ih => exact ih isOut (ends.of_goesOn goesOn)
  | @inside deeper head visited inner enters _ ih =>
      have innerEnds := parseInlineFrom_ends (innerParser deeper) inner
      rw [← parseInline_eq] at innerEnds
      obtain ⟨next, goesOn, isOver⟩ :=
        turn_of_inside (innerParser (deeper + 1)) enters (ih isOut innerEnds)
      exact overflow_of_ends (ends.of_goesOn goesOn) isOver

/-! ## Messages -/

/-- The cursor at the start of an inline segment. -/
def segmentCursor (accumulator : Accumulator) (value : Text) : Cursor where
  source := rewriteHeadings value
  pos := 0
  tokens := accumulator.tokens
  depth := 0
  overflow := accumulator.overflow

/-- A turn of `parseMarkdownString`'s loop, with tokens left. -/
def parseSegment (accumulator : Accumulator) (segment : BlockSegment) : Accumulator :=
  match segment with
  | .codeBlock value =>
      { accumulator with
        nodes := accumulator.nodes ++ [.codeBlock value]
        tokens := accumulator.tokens + 1 }
  | .inline value =>
      let (cursor, inlineNodes) :=
        parseInline maxEmphasisDepth (segmentCursor accumulator value)
      { nodes := accumulator.nodes ++ inlineNodes
        tokens := cursor.tokens
        overflow := cursor.overflow }

theorem parseSegments_cons
    (accumulator : Accumulator)
    (segment : BlockSegment)
    (rest : List BlockSegment) :
    parseSegments accumulator (segment :: rest) =
      if maxTokens ≤ accumulator.tokens then { accumulator with overflow := true }
      else parseSegments (parseSegment accumulator segment) rest := by
  cases segment <;> rfl

/-- The tokens run out before the end of some segments: before one of them, or at some
depth inside one. -/
inductive TokensRunOut : Accumulator → List BlockSegment → Prop where
  | before {accumulator : Accumulator} {segment : BlockSegment} {rest : List BlockSegment}
      (isFull : maxTokens ≤ accumulator.tokens) : TokensRunOut accumulator (segment :: rest)
  | inside {accumulator : Accumulator} {value : Text} {rest : List BlockSegment} {head : Head}
      (notFull : accumulator.tokens < maxTokens)
      (visits : Visits maxEmphasisDepth (Head.start (segmentCursor accumulator value)) head)
      (isOut : head.OutOfTokens) : TokensRunOut accumulator (.inline value :: rest)
  | after {accumulator : Accumulator} {segment : BlockSegment} {rest : List BlockSegment}
      (notFull : accumulator.tokens < maxTokens)
      (runsOut : TokensRunOut (parseSegment accumulator segment) rest) :
      TokensRunOut accumulator (segment :: rest)

theorem parseInline_ends (deeper : Nat) (cursor : Cursor) :
    Loop.Ends (inlineTurn (innerParser deeper)) (Head.start cursor) (parseInline deeper cursor) := by
  rw [parseInline_eq]
  exact parseInlineFrom_ends (innerParser deeper) cursor

theorem parseSegment_overflow
    {accumulator : Accumulator}
    (isOver : accumulator.overflow = true)
    (segment : BlockSegment) :
    (parseSegment accumulator segment).overflow = true := by
  cases segment with
  | codeBlock value => exact isOver
  | inline value =>
      have ends := parseInline_ends maxEmphasisDepth (segmentCursor accumulator value)
      exact overflow_of_ends ends isOver

theorem parseSegments_overflow
    {accumulator : Accumulator}
    (isOver : accumulator.overflow = true)
    (segments : List BlockSegment) :
    (parseSegments accumulator segments).overflow = true := by
  induction segments generalizing accumulator with
  | nil => exact isOver
  | cons segment rest ih =>
      rw [parseSegments_cons]
      split
      · rfl
      · exact ih (parseSegment_overflow isOver segment)

theorem overflow_of_tokensRunOut
    {accumulator : Accumulator}
    {segments : List BlockSegment}
    (runsOut : TokensRunOut accumulator segments) :
    (parseSegments accumulator segments).overflow = true := by
  induction runsOut with
  | before isFull => rw [parseSegments_cons, if_pos isFull]
  | inside notFull visits isOut =>
      rw [parseSegments_cons, if_neg (Nat.not_le.mpr notFull)]
      apply parseSegments_overflow
      exact overflow_of_visits visits isOut (parseInline_ends _ _)
  | after notFull _ ih =>
      rw [parseSegments_cons, if_neg (Nat.not_le.mpr notFull)]
      exact ih

/-- The bounds on what was parsed so far. -/
structure Accumulator.WithinBounds (accumulator : Accumulator) : Prop where
  counted : accumulator.tokens = countAll accumulator.nodes
  most : accumulator.tokens ≤ maxTokens + 1 + 2 * maxEmphasisDepth
  nested : nestingAll accumulator.nodes ≤ maxEmphasisDepth

theorem Accumulator.WithinBounds.parseSegment
    {accumulator : Accumulator}
    (within : accumulator.WithinBounds)
    (notFull : accumulator.tokens < maxTokens)
    (segment : BlockSegment) :
    (Markdown.parseSegment accumulator segment).WithinBounds := by
  have counted := within.counted
  have nested := within.nested
  cases segment with
  | codeBlock value =>
      refine ⟨?_, ?_, ?_⟩
      · simp only [Markdown.parseSegment, countAll_append, countAll_singleton, Node.count, counted]
      · simp only [Markdown.parseSegment]
        omega
      · simp only [Markdown.parseSegment, nestingAll_append, nestingAll_singleton, Node.nesting,
          Nat.max_zero]
        exact nested
  | inline value =>
      have bounds := parseInline_withinBounds maxEmphasisDepth (segmentCursor accumulator value)
        notFull (Nat.zero_add _)
      have innerCounted := bounds.counted
      refine ⟨?_, bounds.most, ?_⟩
      · simp only [Markdown.parseSegment, countAll_append]
        rw [innerCounted, ← counted]
        rfl
      · simp only [Markdown.parseSegment, nestingAll_append]
        exact Nat.max_le.mpr ⟨nested, bounds.nested⟩

theorem Accumulator.WithinBounds.parseSegments
    {accumulator : Accumulator}
    (within : accumulator.WithinBounds)
    (segments : List BlockSegment) :
    (Markdown.parseSegments accumulator segments).WithinBounds := by
  induction segments generalizing accumulator with
  | nil => exact within
  | cons segment rest ih =>
      rw [parseSegments_cons]
      split
      next => exact ⟨within.counted, within.most, within.nested⟩
      next notFull => exact ih (within.parseSegment (Nat.not_le.mp notFull) segment)

/-- The loops of the parser, run until they leave, end with what its functions return;
at the greatest depth nothing deeper is scanned. -/
structure LoopsEnd : Prop where
  blocks : ∀ source, Loop.Ends blockTurn ([], [], splitLines source) (splitBlocks source)
  inline : ∀ deeper cursor,
    Loop.Ends (inlineTurn (innerParser deeper)) (Head.start cursor) (parseInline deeper cursor)
  deepest : ∀ (parseInner other : Cursor → Cursor × List Node) (head : Head),
    maxEmphasisDepth ≤ head.cursor.depth → inlineTurn parseInner head = inlineTurn other head
  code : ∀ source openTicks searchFrom, Loop.Ends (codeTurn source openTicks) searchFrom
    (findCodeClose source openTicks source.length searchFrom)
  emphasis : ∀ source closer search, closer ≠ [] → Loop.Ends (emphasisTurn source closer) search
    (findEmphasisClose source closer source.length search)
  unescaped : ∀ source target index, Loop.Ends (unescapedTurn source target) index
    (findUnescaped source target source.length index)

theorem loopsEnd : LoopsEnd where
  blocks := splitBlocks_ends
  inline := parseInline_ends
  deepest parseInner other head isDeep := by
    have same : ∀ unit, tryConsumeToken parseInner head.cursor unit =
        tryConsumeToken other head.cursor unit := by
      intro unit
      simp only [tryConsumeToken, tryConsumeEmphasis, if_pos isDeep]
    simp only [inlineTurn, same]
  code := findCodeClose_ends
  emphasis source _ search notEmpty := findEmphasisClose_ends notEmpty source search
  unescaped := findUnescaped_ends

/-- The parser ends on every message, with at most 507 nodes, emphasis at most three
deep, and its flag raised where the tokens ran out before the end of some part. -/
theorem parseMarkdownString_bounded :
    LoopsEnd ∧
      ∀ (unicode : Unicode) (raw : Text),
        countAll (parseMarkdownString unicode raw).nodes ≤
            maxTokens + 2 * maxEmphasisDepth + 1 ∧
          nestingAll (parseMarkdownString unicode raw).nodes ≤ maxEmphasisDepth ∧
          (TokensRunOut ⟨[], 0, false⟩ (splitBlocks (parseMarkdownString unicode raw).source) →
            (parseMarkdownString unicode raw).bombFallback = true) := by
  refine ⟨loopsEnd, fun unicode raw => ?_⟩
  have start : Accumulator.WithinBounds ⟨[], 0, false⟩ :=
    ⟨rfl, Nat.zero_le _, Nat.zero_le _⟩
  have bounds := start.parseSegments (splitBlocks (sanitizeUnicode unicode raw))
  have counted := bounds.counted
  have most := bounds.most
  refine ⟨?_, bounds.nested, overflow_of_tokensRunOut⟩
  rw [parseMarkdownString]
  dsimp only
  omega

end Markdown

end Unseen
