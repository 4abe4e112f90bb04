import Mathlib.Data.List.TakeWhile
import Unseen.MarkdownBounds

namespace Unseen

namespace Markdown

/-!
# What the markdown parser makes of text

Every turn of the scanner takes a slice of the source and adds to what can be
read of the nodes.  A relation between slices and what is read, kept where
slices are joined, holds between the whole source and all nodes unless the
overflow flag is raised.
-/

/-! ## What is read of nodes -/

section Reading

variable (ofLink : Text → Text → Text)

mutual

/-- What is read of a node, given what is read of a link's address and text. -/
def Node.read : Node → Text
  | .text value => value
  | .strong children => readAll children
  | .emphasis children => readAll children
  | .code value => value
  | .codeBlock value => value
  | .link url text => ofLink url text
  | .lineBreak => []

/-- What is read of nodes, in order. -/
def readAll : List Node → Text
  | [] => []
  | node :: nodes => node.read ++ readAll nodes

end

theorem readAll_append (first second : List Node) :
    readAll ofLink (first ++ second) = readAll ofLink first ++ readAll ofLink second := by
  induction first with
  | nil => rfl
  | cons node nodes ih => rw [List.cons_append, readAll, readAll, ih, List.append_assoc]

theorem readAll_singleton (node : Node) : readAll ofLink [node] = node.read ofLink := by
  rw [readAll, readAll, List.append_nil]

theorem readAll_emit (cursor : Cursor) (node : Node) (sink : List Node) :
    readAll ofLink (emit cursor node sink).2 = readAll ofLink sink ++ node.read ofLink := by
  unfold emit
  split
  next value last isLast =>
    obtain ⟨others, rfl⟩ := List.getLast?_eq_some_iff.mp isLast
    simp only [List.dropLast_concat, readAll_append, readAll_singleton, Node.read,
      List.append_assoc]
  next => rw [readAll_append, readAll_singleton]

theorem readAll_flushBuffer (cursor : Cursor) (buffer : Text) (nodes : List Node) :
    readAll ofLink (flushBuffer cursor buffer nodes).2 = readAll ofLink nodes ++ buffer := by
  unfold flushBuffer
  split
  next isEmpty => rw [List.isEmpty_iff.mp isEmpty, List.append_nil]
  next => rw [readAll_emit, Node.read]

end Reading

/-! ## Slices -/

theorem slice_eq (text : Text) (start stop : Nat) :
    slice text start stop = (text.drop start).take (stop - start) :=
  List.drop_take

theorem slice_join
    {text : Text}
    {start middle stop : Nat}
    (startLe : start ≤ middle)
    (middleLe : middle ≤ stop) :
    slice text start stop = slice text start middle ++ slice text middle stop := by
  have whole : stop - start = (middle - start) + (stop - middle) := by omega
  have isMiddle : start + (middle - start) = middle := by omega
  rw [slice_eq, slice_eq, slice_eq, whole, List.take_add, List.drop_drop, isMiddle]

theorem slice_self (text : Text) (start : Nat) : slice text start start = [] := by
  rw [slice_eq, Nat.sub_self, List.take_zero]

theorem slice_all
    {text : Text}
    {stop : Nat}
    (isEnd : text.length ≤ stop)
    (start : Nat) :
    slice text start stop = text.drop start := by
  rw [slice, List.take_of_length_le isEnd]

theorem slice_of_stands
    {text needle : Text}
    {start : Nat}
    (isThere : needle.isPrefixOf (text.drop start) = true) :
    slice text start (start + needle.length) = needle := by
  obtain ⟨rest, isText⟩ := List.isPrefixOf_iff_prefix.mp isThere
  rw [slice_eq, Nat.add_sub_cancel_left, ← isText, List.take_left]

theorem slice_of_getElem?
    {text : Text}
    {start : Nat}
    {unit : UInt16}
    (isUnit : text[start]? = some unit) :
    slice text start (start + 1) = [unit] := by
  obtain ⟨inText, isUnit⟩ := List.getElem?_eq_some_iff.mp isUnit
  rw [slice_eq, Nat.add_sub_cancel_left, List.drop_eq_getElem_cons inText, isUnit]
  rfl

theorem slice_of_run
    {text : Text}
    {start count : Nat}
    {unit : UInt16}
    (isRun : count ≤ runLength text start unit) :
    slice text start (start + count) = List.replicate count unit := by
  rw [runLength] at isRun
  have same : ∀ other ∈ (text.drop start).takeWhile (· == unit), other = unit :=
    fun other isOther => eq_of_beq (List.mem_takeWhile_imp (p := (· == unit)) isOther)
  have run := List.eq_replicate_of_mem same
  obtain ⟨rest, isText⟩ := List.takeWhile_prefix (l := text.drop start) (· == unit)
  rw [slice_eq, Nat.add_sub_cancel_left, ← isText, List.take_append_of_le_length isRun, run,
    List.take_replicate, Nat.min_eq_left isRun]

/-! ## Turns of the scanner -/

/-- The buffer and then a token go to the nodes, and the buffer is empty. -/
def Head.emitting (head : Head) (cursor : Cursor) (token : Node) : Head :=
  let flushed := flushBuffer cursor head.buffer head.nodes
  let emitted := emit flushed.1 token flushed.2
  ⟨emitted.1, [], emitted.2⟩

/-- What a turn of the scanner takes. -/
inductive Takes (parseInner : Cursor → Cursor × List Node) (head : Head) :
    Head ⊕ (Cursor × List Node) → Prop where
  | atEnd (isEnd : head.cursor.source[head.cursor.pos]? = none) :
      Takes parseInner head (.inr head.flush)
  | outOfTokens (isOut : head.OutOfTokens) :
      Takes parseInner head
        (.inr (flushBuffer { head.cursor with overflow := true } head.buffer head.nodes))
  | escaped (unit : UInt16)
      (isSlash : head.cursor.source[head.cursor.pos]? = some backslash)
      (isUnit : head.cursor.source[head.cursor.pos + 1]? = some unit) :
      Takes parseInner head
        (.inl
          { head with
            cursor := { head.cursor with pos := head.cursor.pos + 2 }
            buffer := head.buffer ++ [unit] })
  | lineBreak
      (isNewline : head.cursor.source[head.cursor.pos]? = some newline) :
      Takes parseInner head
        (.inl
          (let emitted := head.emitting head.cursor .lineBreak
          { emitted with cursor := { emitted.cursor with pos := emitted.cursor.pos + 1 } }))
  | token (unit : UInt16) (consumed : Cursor) (token : Node)
      (isUnit : head.cursor.source[head.cursor.pos]? = some unit)
      (isToken : tryConsumeToken parseInner head.cursor unit = (consumed, some token)) :
      Takes parseInner head (.inl (head.emitting consumed token))
  | plain (unit : UInt16) (overflow : Bool)
      (isUnit : head.cursor.source[head.cursor.pos]? = some unit)
      (keepsFlag : head.cursor.overflow = true → overflow = true) :
      Takes parseInner head
        (.inl
          { head with
            cursor := { head.cursor with pos := head.cursor.pos + 1, overflow }
            buffer := head.buffer ++ [unit] })

theorem inlineTurn_takes (parseInner : Cursor → Cursor × List Node) (head : Head) :
    Takes parseInner head (inlineTurn parseInner head) := by
  unfold inlineTurn
  split
  next isEnd => exact .atEnd isEnd
  next unit isUnit =>
    split
    next isFull => exact .outOfTokens ⟨by rw [isUnit]; exact Option.some_ne_none unit, isFull⟩
    next =>
      dsimp only
      split
      next isEscape =>
        obtain ⟨rfl, isSome⟩ := isEscape
        obtain ⟨unit, isEscaped⟩ := Option.isSome_iff_exists.mp isSome
        rw [isEscaped]
        exact .escaped unit isUnit isEscaped
      next =>
        split
        next isNewline => exact .lineBreak (isNewline ▸ isUnit)
        next =>
          split
          next consumed token isToken => exact .token unit consumed token isUnit isToken
          next unchanged isToken =>
            have consumes : Consumes parseInner head.cursor unit
                (tryConsumeToken parseInner head.cursor unit) :=
              tryConsumeToken_consumes isUnit
            rw [isToken] at consumes
            cases consumes with
            | nothing overflow keepsFlag => exact .plain unit overflow isUnit keepsFlag

/-! ## What the searches found -/

theorem findCodeClose_run
    {source : Text}
    {openTicks fuel searchFrom closeIdx : Nat}
    (isClose : findCodeClose source openTicks fuel searchFrom = some closeIdx) :
    slice source closeIdx (closeIdx + openTicks) = List.replicate openTicks backtick := by
  induction fuel generalizing searchFrom with
  | zero => cases isClose
  | succ fuel ih =>
      rw [findCodeClose] at isClose
      split at isClose
      next => cases isClose
      next =>
        dsimp only at isClose
        split at isClose
        next isRun =>
          cases isClose
          exact slice_of_run (Nat.le_of_eq isRun.symm)
        next => exact ih isClose

theorem findEmphasisClose_stands
    {source closer : Text}
    {fuel search idx : Nat}
    (isClose : findEmphasisClose source closer fuel search = some idx) :
    closer.isPrefixOf (source.drop idx) = true := by
  induction fuel generalizing search with
  | zero => cases isClose
  | succ fuel ih =>
      rw [findEmphasisClose] at isClose
      split at isClose
      next => cases isClose
      next index isIndex =>
        split at isClose
        next => exact ih isClose
        next =>
          cases isClose
          exact (indexOf_eq_some isIndex).2.2

theorem findUnescaped_target
    {source : Text}
    {target : UInt16}
    {fuel index found : Nat}
    (isFound : findUnescaped source target fuel index = some found) :
    source[found]? = some target := by
  induction fuel generalizing index with
  | zero => cases isFound
  | succ fuel ih =>
      rw [findUnescaped] at isFound
      split at isFound
      next => cases isFound
      next unit isUnit =>
        split at isFound
        next => exact ih isFound
        next =>
          split at isFound
          next isTarget =>
            cases isFound
            rw [isUnit, isTarget]
          next => exact ih isFound

theorem openLength_le_run
    {cursor : Cursor}
    {marker : UInt16}
    (isMarker : cursor.source[cursor.pos]? = some marker) :
    openLength cursor marker ≤ runLength cursor.source cursor.pos marker := by
  unfold openLength
  split
  next isRun => exact isRun
  next => exact runLength_pos isMarker

/-- What is left of a text without its end. -/
theorem trimmed_begins (text : Text) (isTail : UInt16 → Bool) :
    (text.reverse.dropWhile isTail).reverse <+: text := by
  have isSuffix := List.dropWhile_suffix (l := text.reverse) isTail
  rw [← List.reverse_prefix, List.reverse_reverse] at isSuffix
  exact isSuffix

/-- The address that is linked stands in the source. -/
theorem autolink_stands
    {source : Text}
    {pos : Nat}
    {start : Text}
    (isStart : (autolinkPrefixes.find? fun start => start.isPrefixOf (source.drop pos)) =
      some start) :
    (start ++ autolinkBody ((source.drop pos).drop start.length)).isPrefixOf
      (source.drop pos) = true := by
  have isThere : start.isPrefixOf (source.drop pos) = true :=
    List.find?_some (p := fun start : Text => start.isPrefixOf (source.drop pos)) isStart
  obtain ⟨rest, isText⟩ := List.isPrefixOf_iff_prefix.mp isThere
  rw [ List.isPrefixOf_iff_prefix, ← isText, List.drop_left, List.prefix_append_right_inj]
  exact (trimmed_begins _ _).trans ( List.takeWhile_prefix _)

/-! ## Slices and what is read -/

/-- Markup: asterisks, low lines, backticks, brackets, parentheses and backslashes. -/
def isMarkup (unit : UInt16) : Bool :=
  unit == asterisk || unit == lowLine || unit == backtick || unit == 0x5B || unit == 0x5D ||
    unit == 0x28 || unit == 0x29 || unit == backslash

/-- A relation between slices of the source and what is read of the nodes that they
became. -/
structure Reading where
  ofLink : Text → Text → Text
  Yields : Text → Text → Prop
  same : ∀ text, Yields text text
  markup : ∀ text, (∀ unit ∈ text, isMarkup unit = true) → Yields text []
  lineBreak : Yields [newline] []
  append : ∀ {first second ofFirst ofSecond},
    Yields first ofFirst → Yields second ofSecond →
      Yields (first ++ second) (ofFirst ++ ofSecond)
  bracketed : ∀ text url, Yields (text ++ [0x5D, 0x28] ++ url) (ofLink (trim url) text)
  autolink : ∀ start ∈ autolinkPrefixes, ∀ body,
    Yields (start ++ body) (ofLink (start ++ body) (start ++ body))

namespace Reading

variable (reading : Reading) {parseInner : Cursor → Cursor × List Node}
  {cursor consumed : Cursor} {unit : UInt16} {token : Node}

/-- What is inside a pair of markers is all that is read of the pair. -/
theorem between
    {opening closing content ofContent : Text}
    (opens : ∀ unit ∈ opening, isMarkup unit = true)
    (closes : ∀ unit ∈ closing, isMarkup unit = true)
    (yields : reading.Yields content ofContent) :
    reading.Yields (opening ++ content ++ closing) ofContent := by
  have marked := reading.append (reading.append (reading.markup _ opens) yields)
    (reading.markup _ closes)
  rwa [List.nil_append, List.append_nil] at marked

theorem isMarkup_replicate
    {marker : UInt16}
    (isMarker : isMarkup marker = true)
    (count : Nat) :
    ∀ unit ∈ List.replicate count marker, isMarkup unit = true := by
  intro unit isUnit
  rw [(List.mem_replicate.mp isUnit).2]
  exact isMarker

theorem tryConsumeCode_yields
    (isToken : tryConsumeCode cursor = (consumed, some token)) :
    reading.Yields (slice cursor.source cursor.pos consumed.pos) (token.read reading.ofLink) := by
  unfold tryConsumeCode at isToken
  dsimp only at isToken
  split at isToken
  next => cases isToken
  next closeIdx isClose =>
    cases isToken
    have isAfter := findCodeClose_ge isClose
    have opens := slice_of_run (Nat.le_refl (runLength cursor.source cursor.pos backtick))
    have closes := findCodeClose_run isClose
    rw [slice_join (Nat.le_trans (Nat.le_add_right _ _) isAfter) (Nat.le_add_right closeIdx _),
      slice_join (Nat.le_add_right _ _) isAfter, opens, closes]
    exact reading.between (isMarkup_replicate (by decide) _) (isMarkup_replicate (by decide) _)
      (reading.same _)

theorem tryConsumeEmphasis_yields
    (isUnit : cursor.source[cursor.pos]? = some unit)
    (isMarker : isMarkup unit = true)
    (isToken : tryConsumeEmphasis parseInner cursor unit = (consumed, some token))
    (inside : ∀ inner, innerCursor cursor unit = some inner →
      (parseInner inner).1.overflow = false →
        reading.Yields (inner.source.drop inner.pos) (readAll reading.ofLink (parseInner inner).2))
    (notOver : consumed.overflow = false) :
    reading.Yields (slice cursor.source cursor.pos consumed.pos) (token.read reading.ofLink) := by
  rw [tryConsumeEmphasis_eq] at isToken
  unfold innerCursor at inside
  split at isToken
  next => cases isToken
  next notDeep =>
    rw [if_neg notDeep] at inside
    dsimp only at isToken inside
    split at isToken
    next => cases isToken
    next notBlank =>
      rw [if_neg notBlank] at inside
      split at isToken
      next => cases isToken
      next idx isClose =>
        rw [isClose] at inside
        cases isToken
        have isAfter := findEmphasisClose_ge isClose
        have opens := slice_of_run (openLength_le_run isUnit)
        have closes := slice_of_stands (findEmphasisClose_stands isClose)
        rw [List.length_replicate] at closes
        have content := inside _ rfl (Bool.or_eq_false_iff.mp notOver).1
        rw [slice_join (Nat.le_trans (Nat.le_add_right _ _) isAfter) (Nat.le_add_right idx _),
          slice_join (Nat.le_add_right _ _) isAfter, opens, closes]
        refine reading.between (isMarkup_replicate isMarker _) (isMarkup_replicate isMarker _) ?_
        split
        · exact content
        · exact content

theorem tryConsumeLink_yields
    (isBracket : cursor.source[cursor.pos]? = some 0x5B)
    (isToken : tryConsumeLink cursor = (consumed, some token)) :
    reading.Yields (slice cursor.source cursor.pos consumed.pos) (token.read reading.ofLink) := by
  unfold tryConsumeLink at isToken
  split at isToken
  next => cases isToken
  next textEnd isText =>
    split at isToken
    next => cases isToken
    next isParenthesis =>
      split at isToken
      next => cases isToken
      next urlEnd isUrl =>
        dsimp only at isToken
        split at isToken
        next => cases isToken
        next =>
          cases isToken
          have textAfter := findUnescaped_ge isText
          have urlAfter := findUnescaped_ge isUrl
          have middle : slice cursor.source textEnd (textEnd + 2) = [0x5D, 0x28] := by
            rw [slice_join (Nat.le_succ textEnd) (Nat.le_succ (textEnd + 1)),
              slice_of_getElem? (findUnescaped_target isText),
              slice_of_getElem? (Decidable.not_not.mp isParenthesis)]
            rfl
          have opens := slice_of_getElem? isBracket
          have closes := slice_of_getElem? (findUnescaped_target isUrl)
          have isAddress : cursor.pos + 1 ≤ textEnd + 2 := Nat.le_add_right_of_le textAfter
          have isInside : cursor.pos + 1 ≤ urlEnd := Nat.le_trans isAddress urlAfter
          rw [slice_join (Nat.le_trans (Nat.le_succ _) isInside) (Nat.le_succ urlEnd),
            slice_join (Nat.le_succ cursor.pos) isInside, slice_join isAddress urlAfter,
            slice_join textAfter (Nat.le_add_right textEnd 2), middle, opens, closes]
          refine reading.between ?_ ?_ (reading.bracketed _ _)
          · exact List.forall_mem_singleton.mpr (by decide)
          · exact List.forall_mem_singleton.mpr (by decide)

theorem tryConsumeAutolink_yields
    (isToken : tryConsumeAutolink cursor = (consumed, some token)) :
    reading.Yields (slice cursor.source cursor.pos consumed.pos) (token.read reading.ofLink) := by
  unfold tryConsumeAutolink at isToken
  dsimp only at isToken
  split at isToken
  next => cases isToken
  next start isStart =>
    split at isToken
    next => cases isToken
    next =>
      split at isToken
      next => cases isToken
      next =>
        cases isToken
        have isPrefix := autolink_stands isStart
        rw [slice_of_stands isPrefix]
        exact reading.autolink start (List.mem_of_find?_eq_some isStart) _

theorem tryConsumeToken_yields
    (isUnit : cursor.source[cursor.pos]? = some unit)
    (isToken : tryConsumeToken parseInner cursor unit = (consumed, some token))
    (inside : ∀ inner, innerCursor cursor unit = some inner →
      (parseInner inner).1.overflow = false →
        reading.Yields (inner.source.drop inner.pos) (readAll reading.ofLink (parseInner inner).2))
    (notOver : consumed.overflow = false) :
    reading.Yields (slice cursor.source cursor.pos consumed.pos) (token.read reading.ofLink) := by
  unfold tryConsumeToken at isToken
  split at isToken
  next => exact reading.tryConsumeCode_yields isToken
  next =>
    split at isToken
    next isMarker =>
      refine reading.tryConsumeEmphasis_yields isUnit ?_ isToken inside notOver
      rcases isMarker with rfl | rfl <;> decide
    next =>
      split at isToken
      next isBracket =>
        subst isBracket
        exact reading.tryConsumeLink_yields isUnit isToken
      next =>
        split at isToken
        next => exact reading.tryConsumeAutolink_yields isToken
        next => cases isToken

end Reading

/-! ## Whole scans -/

section Emitting

variable (head : Head) (cursor : Cursor) (token : Node)

theorem emitting_cursor :
    (head.emitting cursor token).cursor =
      { cursor with tokens := (head.emitting cursor token).cursor.tokens } :=
  (flush_emit cursor head.buffer head.nodes token).1

theorem emitting_source : (head.emitting cursor token).cursor.source = cursor.source := by
  rw [emitting_cursor]

theorem emitting_pos : (head.emitting cursor token).cursor.pos = cursor.pos := by
  rw [emitting_cursor]

theorem emitting_depth : (head.emitting cursor token).cursor.depth = cursor.depth := by
  rw [emitting_cursor]

theorem emitting_overflow : (head.emitting cursor token).cursor.overflow = cursor.overflow := by
  rw [emitting_cursor]

theorem readAll_emitting (ofLink : Text → Text → Text) :
    readAll ofLink (head.emitting cursor token).nodes =
      readAll ofLink head.nodes ++ head.buffer ++ token.read ofLink := by
  rw [Head.emitting]
  dsimp only
  rw [readAll_emit, readAll_flushBuffer]

end Emitting

/-- What was scanned since a cursor yields what is read so far. -/
structure Head.Yielded (reading : Reading) (cursor : Cursor) (head : Head) : Prop where
  source : head.cursor.source = cursor.source
  depth : head.cursor.depth = cursor.depth
  after : cursor.pos ≤ head.cursor.pos
  yields : reading.Yields (slice cursor.source cursor.pos head.cursor.pos)
    (readAll reading.ofLink head.nodes ++ head.buffer)

section Scanning

variable {reading : Reading} {parseInner : Cursor → Cursor × List Node} {cursor : Cursor}
  {head next : Head}

theorem Head.Yielded.start : (Head.start cursor).Yielded reading cursor where
  source := rfl
  depth := rfl
  after := Nat.le_refl _
  yields := by
    rw [Head.start, slice_self]
    exact reading.same []

theorem Head.Yielded.extend
    {added : Text}
    (yielded : head.Yielded reading cursor)
    (sameSource : next.cursor.source = head.cursor.source)
    (sameDepth : next.cursor.depth = head.cursor.depth)
    (advances : head.cursor.pos ≤ next.cursor.pos)
    (isRead : readAll reading.ofLink next.nodes ++ next.buffer =
      readAll reading.ofLink head.nodes ++ head.buffer ++ added)
    (yields : reading.Yields (slice head.cursor.source head.cursor.pos next.cursor.pos) added) :
    next.Yielded reading cursor := by
  refine ⟨sameSource.trans yielded.source, sameDepth.trans yielded.depth,
    Nat.le_trans yielded.after advances, ?_⟩
  rw [slice_join yielded.after advances, isRead]
  rw [yielded.source] at yields
  exact reading.append yielded.yields yields

theorem Head.Yielded.turn
    (yielded : head.Yielded reading cursor)
    (inside : ∀ unit inner, innerCursor head.cursor unit = some inner →
      (parseInner inner).1.overflow = false →
        reading.Yields (inner.source.drop inner.pos) (readAll reading.ofLink (parseInner inner).2))
    (goesOn : inlineTurn parseInner head = .inl next)
    (notOver : next.cursor.overflow = false) :
    next.Yielded reading cursor := by
  have takes := inlineTurn_takes parseInner head
  rw [goesOn] at takes
  cases takes with
  | escaped unit isSlash isUnit =>
      refine yielded.extend rfl rfl (Nat.le_add_right _ _) (List.append_assoc _ _ _).symm ?_
      dsimp only
      rw [slice_join (Nat.le_succ _) (Nat.le_succ (head.cursor.pos + 1)),
        slice_of_getElem? isSlash, slice_of_getElem? isUnit]
      exact reading.append (reading.markup _ (List.forall_mem_singleton.mpr (by decide)))
        (reading.same _)
  | lineBreak isNewline =>
      have pos := emitting_pos head head.cursor .lineBreak
      refine yielded.extend (emitting_source head _ _) (emitting_depth head _ _) ?_
        ((List.append_nil _).trans (readAll_emitting head _ _ _)) ?_
      · exact Nat.le_succ_of_le (Nat.le_of_eq pos.symm)
      · dsimp only
        rw [pos, slice_of_getElem? isNewline]
        exact reading.lineBreak
  | token unit consumed token isUnit isToken =>
      have consumes : Consumes parseInner head.cursor unit (consumed, some token) :=
        isToken ▸ tryConsumeToken_consumes isUnit
      have advances : consumed.source = head.cursor.source ∧
          consumed.depth = head.cursor.depth ∧ head.cursor.pos < consumed.pos := by
        cases consumes with
        | flat pos token advances => exact ⟨rfl, rfl, advances⟩
        | nested pos token inner advances => exact ⟨rfl, rfl, advances⟩
      obtain ⟨source, depth, advances⟩ := advances
      have pos := emitting_pos head consumed token
      refine yielded.extend ((emitting_source head _ _).trans source)
        ((emitting_depth head _ _).trans depth) ?_
        ((List.append_nil _).trans (readAll_emitting head _ _ _)) ?_
      · exact Nat.le_of_lt (Nat.lt_of_lt_of_eq advances pos.symm)
      · rw [pos]
        exact reading.tryConsumeToken_yields isUnit isToken (inside unit)
          ((emitting_overflow head _ _).symm.trans notOver)
  | plain unit overflow isUnit =>
      refine yielded.extend rfl rfl (Nat.le_succ _) (List.append_assoc _ _ _).symm ?_
      dsimp only
      rw [slice_of_getElem? isUnit]
      exact reading.same _

theorem not_over_of_goesOn
    (goesOn : inlineTurn parseInner head = .inl next)
    (notOver : next.cursor.overflow = false) :
    head.cursor.overflow = false := by
  have turns := inlineTurn_turns parseInner head
  rw [goesOn] at turns
  rw [← Bool.not_eq_true] at notOver ⊢
  cases turns with
  | buffers _ _ advances => exact fun isOver => notOver (advances.overflow isOver)
  | emits _ _ _ _ advances => exact fun isOver => notOver (advances.overflow isOver)

theorem yields_of_leaves
    {result : Cursor × List Node}
    (yielded : head.cursor.overflow = false → head.Yielded reading cursor)
    (leaves : inlineTurn parseInner head = .inr result)
    (notOver : result.1.overflow = false) :
    reading.Yields (cursor.source.drop cursor.pos) (readAll reading.ofLink result.2) := by
  have takes := inlineTurn_takes parseInner head
  rw [leaves] at takes
  cases takes with
  | atEnd isEnd =>
      rw [Head.flush, flushBuffer_overflow] at notOver
      have yielded := yielded notOver
      have yields := yielded.yields
      rw [yielded.source] at isEnd
      rw [slice_all (List.getElem?_eq_none_iff.mp isEnd)] at yields
      rw [Head.flush, readAll_flushBuffer]
      exact yields
  | outOfTokens =>
      rw [flushBuffer_overflow] at notOver
      cases notOver

/-- Where scans one level deeper yield what they read, a scan that is within its limits
does. -/
theorem parseInline_yields_of_inside
    {deeper : Nat}
    (inside : ∀ inner, inner.depth = cursor.depth + 1 → cursor.depth < maxEmphasisDepth →
      (innerParser deeper inner).1.overflow = false →
        reading.Yields (inner.source.drop inner.pos)
          (readAll reading.ofLink (innerParser deeper inner).2))
    (notOver : (parseInline deeper cursor).1.overflow = false) :
    reading.Yields (cursor.source.drop cursor.pos)
      (readAll reading.ofLink (parseInline deeper cursor).2) := by
  refine (parseInline_ends deeper cursor).induct
    (fun head => head.cursor.overflow = false → head.Yielded reading cursor)
    (fun result => result.1.overflow = false →
      reading.Yields (cursor.source.drop cursor.pos) (readAll reading.ofLink result.2))
    ?_ ?_ (fun _ => .start) notOver
  · intro head next yielded goesOn isWithin
    have yielded := yielded (not_over_of_goesOn goesOn isWithin)
    refine yielded.turn (fun unit inner enters => ?_) goesOn isWithin
    obtain ⟨isShallow, isDeeper, -⟩ := innerCursor_eq_some enters
    rw [yielded.depth] at isShallow isDeeper
    exact inside inner isDeeper isShallow
  · exact fun head result yielded leaves => yields_of_leaves yielded leaves

end Scanning

/-- A scan that is within its limits yields, from the text, what is read of its nodes. -/
theorem parseInline_yields
    (reading : Reading)
    {deeper : Nat}
    {cursor : Cursor}
    (level : cursor.depth + deeper = maxEmphasisDepth)
    (notOver : (parseInline deeper cursor).1.overflow = false) :
    reading.Yields (cursor.source.drop cursor.pos)
      (readAll reading.ofLink (parseInline deeper cursor).2) := by
  induction deeper generalizing cursor with
  | zero =>
      refine parseInline_yields_of_inside (fun inner _ isShallow => ?_) notOver
      exact absurd level (Nat.ne_of_lt isShallow)
  | succ deeper ih =>
      refine parseInline_yields_of_inside (fun inner isDeeper _ isWithin => ?_) notOver
      exact ih (by omega) isWithin

end Markdown

end Unseen
