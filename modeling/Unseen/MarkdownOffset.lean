import Unseen.MarkdownText

namespace Unseen

namespace Markdown

/-!
# The scanner at an offset

The scanner never looks at what lies before its start, but for the character
before an address.  So a text scanned from its beginning, and scanned where it
stands behind another text that ends in no letter or digit, become the same
nodes.
-/

variable {before : Text}

/-- The cursor for the same text behind another. -/
def Cursor.behind (before : Text) (cursor : Cursor) : Cursor :=
  { cursor with source := before ++ cursor.source, pos := before.length + cursor.pos }

/-- The turn of a scan at the same place of the longer source. -/
def Head.behind (before : Text) (head : Head) : Head :=
  { head with cursor := head.cursor.behind before }

/-- What a scanner returns, for the same text behind another. -/
def returnedBehind {Result : Type} (before : Text) (returned : Cursor × Result) :
    Cursor × Result :=
  (returned.1.behind before, returned.2)

/-! ## Texts behind others -/

/-- Positions of a source keep their units behind a prefix. -/
theorem getElem?_behind (before source : Text) (pos : Nat) :
    (before ++ source)[before.length + pos]? = source[pos]? := by
  rw [List.getElem?_append_right (Nat.le_add_right _ _), Nat.add_sub_cancel_left]

theorem drop_behind (before source : Text) (pos : Nat) :
    (before ++ source).drop (before.length + pos) = source.drop pos := by
  rw [← List.drop_drop, List.drop_left]

theorem take_behind (before source : Text) (pos : Nat) :
    (before ++ source).take (before.length + pos) = before ++ source.take pos := by
  rw [List.take_length_add_append]

theorem slice_behind (before source : Text) (start stop : Nat) :
    slice (before ++ source) (before.length + start) (before.length + stop) =
      slice source start stop := by
  rw [slice, take_behind, drop_behind]
  rfl

/-- A run of one unit is as long behind a prefix. -/
theorem runLength_behind (before source : Text) (start : Nat) (unit : UInt16) :
    runLength (before ++ source) (before.length + start) unit = runLength source start unit := by
  rw [runLength, drop_behind]
  rfl

/-- A search that starts behind a prefix finds what it found without it. -/
theorem indexOf_behind (before source needle : Text) (start : Nat) :
    indexOf (before ++ source) needle (before.length + start) =
      (indexOf source needle start).map (before.length + ·) := by
  rw [indexOf, List.length_append, Nat.add_sub_add_left, ← List.map_add_range', List.find?_map]
  congr 2
  funext index
  rw [Function.comp_apply, drop_behind]

/-! ## Searches behind other texts -/

/-- One turn of the search for closing ticks looks at the same run. -/
theorem codeTurn_behind (before source : Text) (openTicks searchFrom : Nat) :
    codeTurn (before ++ source) openTicks (before.length + searchFrom) =
      (codeTurn source openTicks searchFrom).map (before.length + ·)
        (Option.map (before.length + ·)) := by
  unfold codeTurn
  rw [List.length_append, indexOf_behind]
  by_cases inText : searchFrom < source.length
  · rw [if_pos inText, if_pos (Nat.add_lt_add_left inText _)]
    cases indexOf source (List.replicate openTicks backtick) searchFrom with
    | none => rfl
    | some closeIdx =>
        dsimp only [Option.map_some]
        rw [runLength_behind]
        split
        · rfl
        · rw [Nat.add_assoc]
          rfl
  · rw [if_neg inText, if_neg fun isLess => inText (Nat.lt_of_add_lt_add_left isLess)]
    rfl

/-- A code span closes at the same place; the search never looks back. -/
theorem findCodeClose_behind (before source : Text) (openTicks searchFrom : Nat) :
    findCodeClose (before ++ source) openTicks (before ++ source).length
        (before.length + searchFrom) =
      (findCodeClose source openTicks source.length searchFrom).map (before.length + ·) :=
  (findCodeClose_ends _ _ _).unique <|
    (findCodeClose_ends source openTicks searchFrom).map (before.length + ·)
      (Option.map (before.length + ·)) (fun _ => True) (fun _ _ _ _ => trivial)
      (fun searchFrom _ => codeTurn_behind before source openTicks searchFrom) trivial

/-- The search for closing markers looks one character back. -/
theorem emphasisTurn_behind
    {search : Nat}
    (isAfter : 0 < search)
    (before source closer : Text) :
    emphasisTurn (before ++ source) closer (before.length + search) =
      (emphasisTurn source closer search).map (before.length + ·)
        (Option.map (before.length + ·)) := by
  unfold emphasisTurn
  rw [List.length_append, indexOf_behind]
  by_cases inText : search < source.length
  · rw [if_pos inText, if_pos (Nat.add_lt_add_left inText _)]
    cases isIndex : indexOf source closer search with
    | none => rfl
    | some idx =>
        have isLater : 1 ≤ idx := Nat.le_trans isAfter (indexOf_eq_some isIndex).1
        dsimp only [Option.map_some]
        rw [Nat.add_sub_assoc isLater, getElem?_behind]
        split
        · rw [Nat.add_assoc]
          rfl
        · rfl
  · rw [if_neg inText, if_neg fun isLess => inText (Nat.lt_of_add_lt_add_left isLess)]
    rfl

/-- The closer of an emphasis is found at the same place. `search` is positive, so the
unit before it that the search reads is one of the source. -/
theorem findEmphasisClose_behind
    {closer : Text}
    {search : Nat}
    (notEmpty : closer ≠ [])
    (isAfter : 0 < search)
    (before source : Text) :
    findEmphasisClose (before ++ source) closer (before ++ source).length
        (before.length + search) =
      (findEmphasisClose source closer source.length search).map (before.length + ·) := by
  refine (findEmphasisClose_ends notEmpty _ _).unique <|
    (findEmphasisClose_ends notEmpty source search).map (before.length + ·)
      (Option.map (before.length + ·)) (0 < ·) ?_
      (fun _ isAfter => emphasisTurn_behind isAfter before source closer) isAfter
  intro search next isAfter goesOn
  unfold emphasisTurn at goesOn
  split at goesOn
  next =>
    split at goesOn
    next => cases goesOn
    next idx isIndex =>
      have isLater := (indexOf_eq_some isIndex).1
      split at goesOn
      next =>
        cases goesOn
        exact Nat.lt_of_lt_of_le isAfter (Nat.le_add_right_of_le isLater)
      next => cases goesOn
  next => cases goesOn

/-- One turn of the search for an unescaped unit reads the same two units. -/
theorem unescapedTurn_behind (before source : Text) (target : UInt16) (index : Nat) :
    unescapedTurn (before ++ source) target (before.length + index) =
      (unescapedTurn source target index).map (before.length + ·)
        (Option.map (before.length + ·)) := by
  unfold unescapedTurn
  rw [getElem?_behind]
  cases source[index]? with
  | none => rfl
  | some unit =>
      dsimp only
      split
      · rfl
      · split
        · rfl
        · rfl

theorem findUnescaped_behind (before source : Text) (target : UInt16) (index : Nat) :
    findUnescaped (before ++ source) target (before ++ source).length (before.length + index) =
      (findUnescaped source target source.length index).map (before.length + ·) :=
  (findUnescaped_ends _ _ _).unique <|
    (findUnescaped_ends source target index).map (before.length + ·)
      (Option.map (before.length + ·)) (fun _ => True) (fun _ _ _ _ => trivial)
      (fun index _ => unescapedTurn_behind before source target index) trivial

/-! ## Tokens behind other texts -/

/-- A code span is consumed as it is without the prefix. -/
theorem tryConsumeCode_behind (before : Text) (cursor : Cursor) :
    tryConsumeCode (cursor.behind before) = returnedBehind before (tryConsumeCode cursor) := by
  unfold tryConsumeCode Cursor.behind
  dsimp only
  rw [runLength_behind, Nat.add_assoc, findCodeClose_behind]
  cases findCodeClose cursor.source (runLength cursor.source cursor.pos backtick)
      cursor.source.length (cursor.pos + runLength cursor.source cursor.pos backtick) with
  | none => rfl
  | some closeIdx =>
      dsimp only [Option.map_some]
      rw [slice_behind, Nat.add_assoc]
      rfl

/-- How many markers open an emphasis does not depend on what stands before. -/
theorem openLength_behind (before : Text) (cursor : Cursor) (marker : UInt16) :
    openLength (cursor.behind before) marker = openLength cursor marker := by
  unfold openLength Cursor.behind
  rw [runLength_behind]

/-- An emphasis is consumed as without the prefix, if its inside is parsed so. -/
theorem tryConsumeEmphasis_behind
    {parseInner : Cursor → Cursor × List Node}
    (inside : ∀ inner, parseInner (inner.behind before) =
      returnedBehind before (parseInner inner))
    (cursor : Cursor)
    (marker : UInt16) :
    tryConsumeEmphasis parseInner (cursor.behind before) marker =
      returnedBehind before (tryConsumeEmphasis parseInner cursor marker) := by
  rw [tryConsumeEmphasis_eq, tryConsumeEmphasis_eq, openLength_behind]
  have notEmpty : List.replicate (openLength cursor marker) marker ≠ [] :=
    List.ne_nil_of_length_pos (by rw [List.length_replicate]; exact openLength_pos cursor marker)
  have isAfter := Nat.add_pos_right cursor.pos (openLength_pos cursor marker)
  unfold Cursor.behind
  by_cases isDeep : maxEmphasisDepth ≤ cursor.depth
  · rw [if_pos isDeep, if_pos isDeep]
    rfl
  · rw [if_neg isDeep, if_neg isDeep]
    dsimp only
    rw [Nat.add_assoc, getElem?_behind, findEmphasisClose_behind notEmpty isAfter,
      runLength_behind]
    split
    next => rfl
    next =>
      cases findEmphasisClose cursor.source (List.replicate (openLength cursor marker) marker)
          cursor.source.length (cursor.pos + openLength cursor marker) with
      | none => rfl
      | some idx =>
          dsimp only [Option.map_some]
          have isInside := inside
            { source := cursor.source.take idx
              pos := cursor.pos + openLength cursor marker
              tokens := cursor.tokens
              depth := cursor.depth + 1
              overflow := cursor.overflow }
          unfold Cursor.behind at isInside
          dsimp only at isInside
          rw [take_behind, isInside, Nat.add_assoc]
          rfl

/-- A link is consumed as it is without the prefix. -/
theorem tryConsumeLink_behind (before : Text) (cursor : Cursor) :
    tryConsumeLink (cursor.behind before) = returnedBehind before (tryConsumeLink cursor) := by
  unfold tryConsumeLink Cursor.behind
  dsimp only
  rw [Nat.add_assoc, findUnescaped_behind]
  cases findUnescaped cursor.source 0x5D cursor.source.length (cursor.pos + 1) with
  | none => rfl
  | some textEnd =>
      dsimp only [Option.map_some]
      rw [Nat.add_assoc, Nat.add_assoc, getElem?_behind, findUnescaped_behind]
      split
      next => rfl
      next =>
        cases findUnescaped cursor.source 0x29 cursor.source.length (textEnd + 2) with
        | none => rfl
        | some urlEnd =>
            dsimp only [Option.map_some]
            rw [slice_behind, slice_behind]
            split
            · rfl
            · rfl

/-- The parser asks the unit before a cursor only whether it is alphanumeric; the last unit
of the prefix answers as the start of the text does. -/
theorem previous_behind
    (notWord : before.getLast?.any isAlphanumeric = false)
    (cursor : Cursor) :
    (cursor.behind before).previous.any isAlphanumeric =
      cursor.previous.any isAlphanumeric := by
  unfold Cursor.previous Cursor.behind
  dsimp only
  cases cursor.pos with
  | zero =>
      rw [if_pos rfl, Nat.add_zero]
      split
      next => rfl
      next notEmpty =>
        have isLast : before.length - 1 < before.length :=
          Nat.sub_lt (Nat.pos_of_ne_zero notEmpty) Nat.one_pos
        rw [List.getElem?_append_left isLast, ← List.getLast?_eq_getElem?]
        exact notWord
  | succ pos =>
      have isNext : before.length + (pos + 1) - 1 = before.length + pos := rfl
      rw [if_neg (Nat.succ_ne_zero _), isNext, getElem?_behind]
      rfl

/-- An autolink starts at a word's start, which the prefix does not change. -/
theorem tryConsumeAutolink_behind
    (notWord : before.getLast?.any isAlphanumeric = false)
    (cursor : Cursor) :
    tryConsumeAutolink (cursor.behind before) =
      returnedBehind before (tryConsumeAutolink cursor) := by
  unfold tryConsumeAutolink
  rw [previous_behind notWord]
  unfold Cursor.behind
  dsimp only
  rw [drop_behind]
  split
  next => rfl
  next =>
    split
    · rfl
    · split
      · rfl
      · rw [Nat.add_assoc]
        rfl

/-- Whatever token starts at a cursor, the prefix changes only its position. -/
theorem tryConsumeToken_behind
    {parseInner : Cursor → Cursor × List Node}
    (notWord : before.getLast?.any isAlphanumeric = false)
    (inside : ∀ inner, parseInner (inner.behind before) =
      returnedBehind before (parseInner inner))
    (cursor : Cursor)
    (unit : UInt16) :
    tryConsumeToken parseInner (cursor.behind before) unit =
      returnedBehind before (tryConsumeToken parseInner cursor unit) := by
  unfold tryConsumeToken
  split
  · exact tryConsumeCode_behind before cursor
  · split
    · exact tryConsumeEmphasis_behind inside cursor unit
    · split
      · exact tryConsumeLink_behind before cursor
      · split
        · exact tryConsumeAutolink_behind notWord cursor
        · rfl

/-! ## Scans behind other texts -/

/-- Emitting a node counts it, wherever the cursor stands. -/
theorem emit_behind (before : Text) (cursor : Cursor) (node : Node) (sink : List Node) :
    emit (cursor.behind before) node sink = returnedBehind before (emit cursor node sink) := by
  unfold emit
  split
  · rfl
  · rfl

/-- The text collected so far becomes the same node. -/
theorem flushBuffer_behind (before : Text) (cursor : Cursor) (buffer : Text) (nodes : List Node) :
    flushBuffer (cursor.behind before) buffer nodes =
      returnedBehind before (flushBuffer cursor buffer nodes) := by
  unfold flushBuffer
  split
  · rfl
  · exact emit_behind before cursor _ nodes

/-- One turn of the parser does the same behind a prefix, if the parse inside does. -/
theorem inlineTurn_behind
    {parseInner : Cursor → Cursor × List Node}
    (notWord : before.getLast?.any isAlphanumeric = false)
    (inside : ∀ inner, parseInner (inner.behind before) =
      returnedBehind before (parseInner inner))
    (head : Head) :
    inlineTurn parseInner (head.behind before) =
      (inlineTurn parseInner head).map (Head.behind before) (returnedBehind before) := by
  have here : (head.behind before).cursor.source[(head.behind before).cursor.pos]? =
      head.cursor.source[head.cursor.pos]? := getElem?_behind _ _ _
  have next : (head.behind before).cursor.source[(head.behind before).cursor.pos + 1]? =
      head.cursor.source[head.cursor.pos + 1]? := getElem?_behind _ _ (head.cursor.pos + 1)
  have sameTokens : (head.behind before).cursor.tokens = head.cursor.tokens := rfl
  have token : ∀ unit, tryConsumeToken parseInner (head.behind before).cursor unit =
      returnedBehind before (tryConsumeToken parseInner head.cursor unit) :=
    tryConsumeToken_behind notWord inside head.cursor
  have flushes : ∀ cursor : Cursor, flushBuffer (cursor.behind before) (head.behind before).buffer
      (head.behind before).nodes =
        returnedBehind before (flushBuffer cursor head.buffer head.nodes) :=
    fun cursor => flushBuffer_behind before cursor head.buffer head.nodes
  have flushed : (head.behind before).flush = returnedBehind before head.flush :=
    flushes head.cursor
  unfold inlineTurn
  rw [here]
  cases head.cursor.source[head.cursor.pos]? with
  | none =>
      dsimp only
      rw [flushed]
      rfl
  | some unit =>
      dsimp only
      rw [next, sameTokens, token, flushed]
      split
      next => exact congrArg Sum.inr (flushes { head.cursor with overflow := true })
      next =>
        split
        next => rfl
        next =>
          split
          next =>
            unfold returnedBehind
            dsimp only
            rw [emit_behind]
            rfl
          next =>
            obtain ⟨consumed, token⟩ := tryConsumeToken parseInner head.cursor unit
            unfold returnedBehind
            cases token with
            | none => rfl
            | some token =>
                dsimp only
                rw [flushes, returnedBehind]
                dsimp only
                rw [emit_behind]
                rfl

/-- Behind a prefix that ends no word, a text is parsed into the nodes it has alone. By
induction on the nesting depth that is left. -/
theorem parseInline_behind
    (notWord : before.getLast?.any isAlphanumeric = false)
    (deeper : Nat)
    (cursor : Cursor) :
    parseInline deeper (cursor.behind before) =
      returnedBehind before (parseInline deeper cursor) := by
  have ofInside : ∀ deeper, (∀ inner, innerParser deeper (inner.behind before) =
      returnedBehind before (innerParser deeper inner)) → ∀ cursor,
        parseInline deeper (cursor.behind before) =
          returnedBehind before (parseInline deeper cursor) :=
    fun deeper inside cursor => (parseInline_ends deeper _).unique <|
      (parseInline_ends deeper cursor).map (Head.behind before) (returnedBehind before)
        (fun _ => True) (fun _ _ _ _ => trivial)
        (fun head _ => inlineTurn_behind notWord inside head) trivial
  induction deeper generalizing cursor with
  | zero => exact ofInside 0 (fun _ => rfl) cursor
  | succ deeper ih => exact ofInside (deeper + 1) ih cursor

end Markdown

end Unseen
