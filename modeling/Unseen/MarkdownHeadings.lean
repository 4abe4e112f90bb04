import Unseen.MarkdownLosses
import Unseen.MarkdownOffset

namespace Unseen

namespace Markdown

/-!
# Headings

A heading is rewritten to strong text, between asterisks of its own, and then
scanned like any other text.  So it becomes one strong node only if the added
asterisks are paired with each other: not if there are closing markers before
them, and not if the content ends in a space or in an asterisk.
-/

/-! ## Heading lines -/

/-- A line of one to six hashes, blanks and a content.  The blanks are all there are, up to
the last one where nothing follows them. -/
structure HeadingLine where
  level : Nat
  blanks : Text
  content : Text
  level_pos : 1 ≤ level
  level_le : level ≤ 6
  separated : blanks ≠ []
  areBlanks : ∀ unit ∈ blanks, isBlank unit = true
  notEmpty : content ≠ []
  oneLine : newline ∉ content
  greedy : content.head?.any isBlank = true → content.length = 1

def HeadingLine.source (line : HeadingLine) : Text :=
  List.replicate line.level hash ++ (line.blanks ++ line.content)

/-- The cursor for a heading's content, one level deeper. -/
def headingCursor (content : Text) : Cursor where
  source := content
  pos := 0
  tokens := 0
  depth := 1
  overflow := false

/-- The inline parse of a heading's content. -/
def headingChildren (content : Text) : List Node :=
  (parseInline (maxEmphasisDepth - 1) (headingCursor content)).2

/-- The text of nodes, with the texts of links. -/
def displayed (nodes : List Node) : Text :=
  readAll (fun _ text => text) nodes

/-- The text of nodes, with the addresses of links. -/
def addressed (nodes : List Node) : Text :=
  readAll (fun url _ => url) nodes

/-- A heading is one strong node, and shows no asterisk that is not in the source. -/
structure HeadingLaw (ast : Ast) (content : Text) : Prop where
  strong : ast.nodes = [.strong (headingChildren content)]
  displays : (displayed ast.nodes).count asterisk ≤ ast.source.count asterisk
  links : (addressed ast.nodes).count asterisk ≤ ast.source.count asterisk

/-- From after a character, the first two asterisks that follow no space are those that
come after the text. -/
def pairsAtEnd : UInt16 → Text → Bool
  | previous, [] => previous != space
  | _, [unit] => unit != asterisk && unit != space
  | previous, unit :: next :: rest =>
      if unit = asterisk ∧ next = asterisk then
        previous == space && pairsAtEnd asterisk rest
      else
        pairsAtEnd unit (next :: rest)

/-- The line matches the pattern of headings, and the asterisks added to its content are
paired with each other. -/
def HeadingPairs (content : Text) : Prop :=
  content.any isLineTerminator = false ∧ pairsAtEnd asterisk content = true

/-! ## The pattern of headings -/

theorem HeadingLine.runLength_source (line : HeadingLine) :
    runLength line.source 0 hash = line.level := by
  obtain ⟨first, others, isBlanks⟩ := List.exists_cons_of_ne_nil line.separated
  have isFirst := line.areBlanks first (by rw [isBlanks]; exact List.mem_cons_self)
  have notHash : (first == hash) = false := by
    rw [beq_eq_false_iff_ne]
    rintro rfl
    exact absurd isFirst (by decide)
  have hashes : ∀ unit ∈ List.replicate line.level hash, (unit == hash) = true :=
    fun unit isUnit => beq_iff_eq.mpr (List.mem_replicate.mp isUnit).2
  rw [runLength, List.drop_zero, HeadingLine.source, List.takeWhile_append_of_pos hashes, isBlanks,
    List.cons_append, List.takeWhile_cons_of_neg (by rw [notHash]; decide), List.append_nil,
    List.length_replicate]

theorem HeadingLine.drop_source (line : HeadingLine) :
    line.source.drop line.level = line.blanks ++ line.content := by
  rw [HeadingLine.source, List.drop_left' List.length_replicate]

theorem not_lineTerminator_of_isBlank {unit : UInt16} (isSpace : isBlank unit = true) :
    isLineTerminator unit = false := by
  rw [isBlank, Bool.or_eq_true, beq_iff_eq, beq_iff_eq] at isSpace
  rcases isSpace with rfl | rfl
  · rfl
  · rfl

theorem HeadingLine.headingOf_source (line : HeadingLine) :
    headingOf line.source =
      if line.content.any isLineTerminator then none else some line.content := by
  have inRange : ¬ (line.level = 0 ∨ 6 < line.level ∨
      line.blanks ++ line.content.takeWhile isBlank = []) := by
    rintro (isZero | isMore | isEmpty)
    · exact Nat.ne_of_gt line.level_pos isZero
    · exact Nat.not_lt.mpr line.level_le isMore
    · exact line.separated (List.append_eq_nil_iff.mp isEmpty).1
  obtain ⟨first, others, isContent⟩ := List.exists_cons_of_ne_nil line.notEmpty
  unfold headingOf
  dsimp only
  rw [line.runLength_source, line.drop_source, List.takeWhile_append_of_pos line.areBlanks,
    List.dropWhile_append_of_pos line.areBlanks, if_neg inRange]
  cases isBlankFirst : isBlank first with
  | false =>
      have isKept : line.content.dropWhile isBlank = line.content := by
        rw [isContent, List.dropWhile_cons_of_neg (by rw [isBlankFirst]; decide)]
      have notEmpty : ¬ line.content.isEmpty = true := by
        rw [isContent]
        exact Bool.false_ne_true
      rw [isKept, if_neg notEmpty]
  | true =>
      have isOne := line.greedy (by rw [isContent]; exact isBlankFirst)
      rw [isContent] at isOne
      have isSingle : others = [] := List.length_eq_zero_iff.mp (Nat.succ.inj isOne)
      obtain ⟨blank, more, isBlanks⟩ := List.exists_cons_of_ne_nil line.separated
      have isLast : (more ++ [first]).getLast? = some first := List.getLast?_concat
      have notTerminator : [first].any isLineTerminator = false := by
        rw [List.any_cons, not_lineTerminator_of_isBlank isBlankFirst]
        rfl
      rw [isContent, isSingle, isBlanks, List.dropWhile_cons_of_pos isBlankFirst,
        List.takeWhile_cons_of_pos isBlankFirst, notTerminator]
      rw [List.dropWhile_nil, if_pos List.isEmpty_nil, List.takeWhile_nil, List.cons_append,
        List.drop_one, List.tail_cons]
      split
      next isNil => exact absurd isNil (List.append_ne_nil_of_right_ne_nil _ (List.cons_ne_nil _ _))
      next => rw [isLast]; rfl

/-! ## The scan of a heading -/

/-- The content between asterisks of its own. -/
def marked (content : Text) : Text :=
  [asterisk, asterisk] ++ content ++ [asterisk, asterisk]

/-- The cursor for a message that is one inline segment. -/
def startCursor (source : Text) : Cursor where
  source := source
  pos := 0
  tokens := 0
  depth := 0
  overflow := false

/-- What is scanned of a heading line. -/
def HeadingLine.scanned (line : HeadingLine) : Text :=
  if line.content.any isLineTerminator then line.source else marked line.content

theorem HeadingLine.source_oneLine (line : HeadingLine) : newline ∉ line.source := by
  rw [HeadingLine.source, List.mem_append, List.mem_append, List.mem_replicate]
  rintro (⟨-, isHash⟩ | inBlanks | inContent)
  · exact absurd isHash (by decide)
  · exact absurd (line.areBlanks newline inBlanks) (by decide)
  · exact line.oneLine inContent

theorem HeadingLine.splitBlocks_source (line : HeadingLine) :
    splitBlocks line.source = [.inline line.source] := by
  obtain ⟨level, isLevel⟩ := Nat.exists_eq_add_of_le line.level_pos
  have notFence : opensFence line.source = false := by
    rw [HeadingLine.source, isLevel, Nat.add_comm, List.replicate_succ, List.cons_append]
    rfl
  rw [splitBlocks, splitLines_of_not_mem line.source_oneLine]
  dsimp only [List.length_singleton]
  rw [splitBlocksFrom, if_neg (Bool.eq_false_iff.mp notFence)]
  exact congrArg (fun value => [BlockSegment.inline value]) (joinLines_singleton _)

theorem HeadingLine.rewriteHeadings_source (line : HeadingLine) :
    rewriteHeadings line.source = line.scanned := by
  rw [rewriteHeadings, splitLines_of_not_mem line.source_oneLine, List.map_singleton,
    joinLines_singleton, line.headingOf_source, HeadingLine.scanned]
  cases line.content.any isLineTerminator with
  | false => rfl
  | true => rfl

theorem parse_headingLine
    {unicode : Unicode}
    {raw : Text}
    {line : HeadingLine}
    (isLine : sanitizeUnicode unicode raw = line.source) :
    (parseMarkdownString unicode raw).nodes =
        (parseInline maxEmphasisDepth (startCursor line.scanned)).2 ∧
      (parseMarkdownString unicode raw).bombFallback =
        (parseInline maxEmphasisDepth (startCursor line.scanned)).1.overflow := by
  unfold parseMarkdownString
  dsimp only
  rw [isLine, line.splitBlocks_source, parseSegments_cons, if_neg (by decide), parseSegments,
    parseSegment, segmentCursor, line.rewriteHeadings_source]
  exact ⟨rfl, rfl⟩

/-! ## How the asterisks are paired -/

theorem indexOf_of_here
    {text needle : Text}
    {start : Nat}
    (inText : start < text.length)
    (isThere : needle.isPrefixOf (text.drop start) = true) :
    indexOf text needle start = some start := by
  obtain ⟨others, isRest⟩ := Nat.exists_eq_add_of_lt inText
  rw [indexOf, isRest, Nat.add_assoc, Nat.add_sub_cancel_left, List.range'_succ,
    List.find?_cons, isThere]

theorem indexOf_of_not_here
    {text needle : Text}
    {start : Nat}
    (notThere : needle.isPrefixOf (text.drop start) = false) :
    indexOf text needle start = indexOf text needle (start + 1) := by
  rcases Nat.lt_or_ge start text.length with inText | isEnd
  · obtain ⟨others, isRest⟩ := Nat.exists_eq_add_of_lt inText
    have later : text.length - (start + 1) = others := by omega
    rw [indexOf, indexOf, later, isRest, Nat.add_assoc, Nat.add_sub_cancel_left, List.range'_succ,
      List.find?_cons, notThere]
  · rw [indexOf_eq_none isEnd, indexOf_eq_none (Nat.le_succ_of_le isEnd)]

/-- Where the closing markers stand, they close unless they follow a space or a line
break. -/
theorem findEmphasisClose_of_here
    {source closer : Text}
    {search : Nat}
    {previous : UInt16}
    (inText : search < source.length)
    (isThere : closer.isPrefixOf (source.drop search) = true)
    (isPrevious : source[search - 1]? = some previous)
    (notNewline : previous ≠ newline)
    (fuel : Nat) :
    findEmphasisClose source closer (fuel + 1) search =
      if previous = space then findEmphasisClose source closer fuel (search + closer.length)
      else some search := by
  rw [findEmphasisClose, indexOf_of_here inText isThere]
  dsimp only
  rw [isPrevious]
  by_cases isSpace : previous = space
  · rw [if_pos isSpace, isSpace, if_pos (.inl rfl)]
  · rw [if_neg isSpace, if_neg]
    rintro (isSome | isSome)
    · exact isSpace (Option.some.inj isSome)
    · exact notNewline (Option.some.inj isSome)

theorem findEmphasisClose_of_not_here
    {source closer : Text}
    {search : Nat}
    (notThere : closer.isPrefixOf (source.drop search) = false)
    (fuel : Nat) :
    findEmphasisClose source closer fuel search =
      findEmphasisClose source closer fuel (search + 1) := by
  cases fuel with
  | zero => rfl
  | succ fuel => rw [findEmphasisClose, findEmphasisClose, indexOf_of_not_here notThere]

section Pairing

variable {front : Text} {previous : UInt16}

theorem closer_here
    (isPrevious : front.getLast? = some previous)
    (notNewline : previous ≠ newline)
    (others : Text)
    (fuel : Nat) :
    findEmphasisClose (front ++ asterisk :: asterisk :: others) [asterisk, asterisk] (fuel + 1)
        front.length =
      if previous = space then
        findEmphasisClose (front ++ asterisk :: asterisk :: others) [asterisk, asterisk] fuel
          (front.length + 2)
      else
        some front.length := by
  have notEmpty : 0 < front.length := by
    apply List.length_pos_of_ne_nil
    rintro rfl
    cases isPrevious
  apply findEmphasisClose_of_here
  · rw [List.length_append]
    exact Nat.lt_add_of_pos_right (Nat.succ_pos _)
  · rw [List.drop_left]
    rfl
  · rw [List.getElem?_append_left (Nat.sub_lt notEmpty Nat.one_pos), ← List.getLast?_eq_getElem?]
    exact isPrevious
  · exact notNewline

theorem closer_later
    {unit : UInt16}
    {others : Text}
    (notPair : ¬ (unit = asterisk ∧ others.head? = some asterisk))
    (fuel : Nat) :
    findEmphasisClose (front ++ unit :: others) [asterisk, asterisk] fuel front.length =
      findEmphasisClose (front ++ [unit] ++ others) [asterisk, asterisk] fuel
        (front ++ [unit]).length := by
  have notThere : List.isPrefixOf [asterisk, asterisk]
      ((front ++ unit :: others).drop front.length) = false := by
    rw [List.drop_left, Bool.eq_false_iff, Ne, List.isPrefixOf_iff_prefix]
    rintro ⟨rest, isText⟩
    rw [List.cons_append, List.cons_append, List.nil_append, List.cons.injEq] at isText
    exact notPair ⟨isText.1.symm, by rw [← isText.2]; rfl⟩
  rw [findEmphasisClose_of_not_here notThere, List.append_assoc, List.length_append]
  rfl

/-- Closing markers are not found before the search for them starts. -/
theorem not_close_of_lt
    {source closer : Text}
    {fuel search idx : Nat}
    (isLess : idx < search) :
    findEmphasisClose source closer fuel search ≠ some idx :=
  fun isClose => Nat.not_le.mpr isLess (findEmphasisClose_ge isClose)

theorem closes_here_iff
    {fuel : Nat}
    (isPrevious : front.getLast? = some previous)
    (notNewline : previous ≠ newline)
    (enough : 0 < fuel) :
    findEmphasisClose (front ++ [asterisk, asterisk]) [asterisk, asterisk] fuel front.length =
        some front.length ↔
      previous ≠ space := by
  obtain ⟨fuel, rfl⟩ := Nat.exists_eq_succ_of_ne_zero (Nat.ne_of_gt enough)
  rw [closer_here isPrevious notNewline]
  split
  next isSpace =>
    exact iff_of_false (not_close_of_lt (Nat.lt_add_of_pos_right Nat.two_pos))
      (not_not_intro isSpace)
  next notSpace => exact iff_of_true rfl notSpace

/-- The asterisks after a text are the first that close what was opened before it. -/
theorem closes_after_iff
    {fuel : Nat}
    {rest : Text}
    (isPrevious : front.getLast? = some previous)
    (notNewline : previous ≠ newline)
    (oneLine : newline ∉ rest)
    (enough : rest.length < fuel) :
    findEmphasisClose (front ++ (rest ++ [asterisk, asterisk])) [asterisk, asterisk] fuel
        front.length = some (front.length + rest.length) ↔
      pairsAtEnd previous rest = true := by
  fun_induction pairsAtEnd previous rest generalizing front fuel with
  | case1 previous =>
      rw [bne_iff_ne]
      exact closes_here_iff isPrevious notNewline enough
  | case2 previous unit =>
      rw [List.singleton_append, Bool.and_eq_true, bne_iff_ne, bne_iff_ne]
      by_cases isAsterisk : unit = asterisk
      · obtain ⟨fuel, rfl⟩ := Nat.exists_eq_succ_of_ne_zero (Nat.ne_of_gt (Nat.zero_lt_of_lt enough))
        rw [isAsterisk, closer_here isPrevious notNewline]
        refine iff_of_false ?_ fun pairs => pairs.1 rfl
        split
        next => exact not_close_of_lt (Nat.lt_succ_self _)
        next => exact fun isSame => Nat.ne_of_lt (Nat.lt_succ_self _) (Option.some.inj isSame)
      · have isLast : (front ++ [unit]).getLast? = some unit := List.getLast?_concat
        have notBreak : unit ≠ newline := fun isBreak => oneLine (List.mem_singleton.mpr isBreak.symm)
        have closes := closes_here_iff isLast notBreak (Nat.zero_lt_of_lt enough)
        rw [List.length_append] at closes
        rw [closer_later fun isPair => isAsterisk isPair.1, List.length_append]
        exact closes.trans ⟨fun notSpace => ⟨isAsterisk, notSpace⟩, And.right⟩
  | case3 previous unit next rest isPair ih =>
      obtain ⟨rfl, rfl⟩ := isPair
      obtain ⟨fuel, rfl⟩ := Nat.exists_eq_succ_of_ne_zero (Nat.ne_of_gt (Nat.zero_lt_of_lt enough))
      rw [List.cons_append, List.cons_append, closer_here isPrevious notNewline,
        Bool.and_eq_true, beq_iff_eq]
      split
      next isSpace =>
        have isLast : (front ++ [asterisk, asterisk]).getLast? = some asterisk := by
          rw [List.getLast?_append]
          rfl
        have noBreak : newline ∉ rest := fun isBreak =>
          oneLine (List.mem_cons_of_mem _ (List.mem_cons_of_mem _ isBreak))
        have fewer : rest.length < fuel := Nat.lt_of_succ_lt (Nat.lt_of_succ_lt_succ enough)
        have later := ih isLast (by decide) noBreak fewer
        have lengths : front.length + (rest.length + 1 + 1) = front.length + 2 + rest.length := by
          omega
        rw [List.append_assoc, List.length_append] at later
        rw [List.length_cons, List.length_cons, lengths]
        exact later.trans ⟨fun pairs => ⟨isSpace, pairs⟩, And.right⟩
      next notSpace =>
        refine iff_of_false ?_ fun pairs => notSpace pairs.1
        rw [Option.some.injEq]
        exact Nat.ne_of_lt (Nat.lt_add_of_pos_right (Nat.succ_pos _))
  | case4 previous unit next rest notPair ih =>
      have notNext : ¬ (unit = asterisk ∧
          (next :: rest ++ [asterisk, asterisk]).head? = some asterisk) :=
        fun isPair => notPair ⟨isPair.1, Option.some.inj isPair.2⟩
      have isLast : (front ++ [unit]).getLast? = some unit := List.getLast?_concat
      have notBreak : unit ≠ newline := fun isBreak =>
        oneLine (isBreak ▸ List.mem_cons_self)
      have noBreak : newline ∉ next :: rest := fun isBreak =>
        oneLine (List.mem_cons_of_mem _ isBreak)
      have later := ih isLast notBreak noBreak (Nat.lt_of_succ_lt enough)
      have lengths : front.length + (unit :: next :: rest).length =
          (front ++ [unit]).length + (next :: rest).length := by
        simp only [List.length_append, List.length_cons, List.length_nil]
        omega
      rw [List.cons_append, closer_later notNext, lengths]
      exact later

end Pairing

/-! ## Nodes that stay -/

/-- The first node is a text, or will be. -/
def Head.BeginsWithText (head : Head) : Prop :=
  (head.nodes = [] ∧ head.buffer ≠ []) ∨ ∃ value rest, head.nodes = .text value :: rest

theorem Head.BeginsWithText.buffer
    {head : Head}
    (begins : head.BeginsWithText)
    (unit : UInt16)
    (cursor : Cursor) :
    Head.BeginsWithText ⟨cursor, head.buffer ++ [unit], head.nodes⟩ := by
  rcases begins with ⟨isNil, -⟩ | begins
  · exact .inl ⟨isNil, List.append_ne_nil_of_right_ne_nil _ (List.cons_ne_nil unit [])⟩
  · exact .inr begins

theorem emit_beginsWithText
    (cursor : Cursor)
    (node : Node)
    {sink : List Node}
    (begins : ∃ value rest, sink = .text value :: rest) :
    ∃ value rest, (emit cursor node sink).2 = .text value :: rest := by
  obtain ⟨value, rest, rfl⟩ := begins
  unfold emit
  split
  next added last isLast =>
    cases rest with
    | nil => exact ⟨_, [], rfl⟩
    | cons next others => exact ⟨value, _, rfl⟩
  next => exact ⟨value, _, rfl⟩

theorem flush_beginsWithText
    {head : Head}
    (begins : head.BeginsWithText)
    (cursor : Cursor) :
    ∃ value rest, (flushBuffer cursor head.buffer head.nodes).2 = .text value :: rest := by
  unfold flushBuffer
  split
  next isEmpty =>
    rcases begins with ⟨-, notEmpty⟩ | begins
    · exact absurd (List.isEmpty_iff.mp isEmpty) notEmpty
    · exact begins
  next =>
    rcases begins with ⟨isNil, -⟩ | begins
    · rw [isNil]
      exact ⟨head.buffer, [], rfl⟩
    · exact emit_beginsWithText cursor _ begins

theorem parse_beginsWithText
    {parseInner : Cursor → Cursor × List Node}
    {head : Head}
    {result : Cursor × List Node}
    (ends : Loop.Ends (inlineTurn parseInner) head result)
    (begins : head.BeginsWithText) :
    ∃ value rest, result.2 = .text value :: rest := by
  refine ends.induct Head.BeginsWithText
    (fun result => ∃ value rest, result.2 = .text value :: rest) ?_ ?_ begins
  · intro head next begins goesOn
    have takes := inlineTurn_takes parseInner head
    rw [goesOn] at takes
    cases takes with
    | escaped unit => exact begins.buffer unit _
    | plain unit => exact begins.buffer unit _
    | lineBreak => exact .inr (emit_beginsWithText _ _ (flush_beginsWithText begins _))
    | token => exact .inr (emit_beginsWithText _ _ (flush_beginsWithText begins _))
  · intro head result begins leaves
    have takes := inlineTurn_takes parseInner head
    rw [leaves] at takes
    cases takes with
    | atEnd => exact flush_beginsWithText begins _
    | outOfTokens => exact flush_beginsWithText begins _

/-- There are two nodes, or there will be. -/
def Head.Continues (head : Head) : Prop :=
  2 ≤ head.nodes.length ∨
    (∃ children, head.nodes = [.strong children]) ∧
      (head.buffer ≠ [] ∨ head.cursor.source[head.cursor.pos]? ≠ none)

theorem Head.Continues.buffer
    {head : Head}
    (continues : head.Continues)
    (unit : UInt16)
    (cursor : Cursor) :
    Head.Continues ⟨cursor, head.buffer ++ [unit], head.nodes⟩ := by
  rcases continues with isLong | ⟨isStrong, -⟩
  · exact .inl isLong
  · exact .inr ⟨isStrong, .inl (List.append_ne_nil_of_right_ne_nil _ (List.cons_ne_nil unit []))⟩

theorem length_emit (cursor : Cursor) (node : Node) (sink : List Node) :
    sink.length ≤ (emit cursor node sink).2.length := by
  unfold emit
  split
  next value last isLast =>
    obtain ⟨others, rfl⟩ := List.getLast?_eq_some_iff.mp isLast
    simp only [List.dropLast_concat, List.length_append, List.length_singleton, Nat.le_refl]
  next => exact (List.sublist_append_left _ _).length_le

theorem length_flushBuffer (cursor : Cursor) (buffer : Text) (nodes : List Node) :
    nodes.length ≤ (flushBuffer cursor buffer nodes).2.length := by
  unfold flushBuffer
  split
  · exact Nat.le_refl _
  · exact length_emit _ _ _

theorem emit_strong (cursor : Cursor) (node : Node) (children : List Node) :
    (emit cursor node [.strong children]).2 = [.strong children, node] := by
  unfold emit
  split
  next isLast => cases isLast
  next => rfl

theorem length_emitting
    {head : Head}
    (continues : head.Continues)
    (cursor : Cursor)
    (token : Node) :
    2 ≤ (head.emitting cursor token).nodes.length := by
  rcases continues with isLong | ⟨⟨children, isStrong⟩, -⟩
  · exact Nat.le_trans isLong (Nat.le_trans (length_flushBuffer _ _ _) (length_emit _ _ _))
  · unfold Head.emitting flushBuffer
    dsimp only
    rw [isStrong]
    split
    next =>
      rw [emit_strong]
      exact Nat.le_refl 2
    next =>
      refine Nat.le_trans ?_ (length_emit _ _ _)
      rw [emit_strong]
      exact Nat.le_refl 2

theorem parse_continues
    {parseInner : Cursor → Cursor × List Node}
    {head : Head}
    {result : Cursor × List Node}
    (ends : Loop.Ends (inlineTurn parseInner) head result)
    (continues : head.Continues)
    (isWithin : result.1.overflow = false) :
    2 ≤ result.2.length := by
  refine ends.induct Head.Continues
    (fun result => result.1.overflow = false → 2 ≤ result.2.length) ?_ ?_ continues isWithin
  · intro head next continues goesOn
    have takes := inlineTurn_takes parseInner head
    rw [goesOn] at takes
    cases takes with
    | escaped unit => exact continues.buffer unit _
    | plain unit => exact continues.buffer unit _
    | lineBreak => exact .inl (length_emitting continues _ _)
    | token => exact .inl (length_emitting continues _ _)
  · intro head result continues leaves isWithin
    have takes := inlineTurn_takes parseInner head
    rw [leaves] at takes
    cases takes with
    | atEnd isEnd =>
        rcases continues with isLong | ⟨⟨children, isStrong⟩, isMore⟩
        · exact Nat.le_trans isLong (length_flushBuffer _ _ _)
        · have notEmpty := isMore.resolve_right (not_not_intro isEnd)
          rw [Head.flush, flushBuffer, if_neg fun isEmpty => notEmpty (List.isEmpty_iff.mp isEmpty),
            isStrong, emit_strong]
          exact Nat.le_refl 2
    | outOfTokens =>
        rw [flushBuffer_overflow] at isWithin
        cases isWithin

/-! ## Scans of marked text -/

/-- The cursor for what is before a position of marked text. -/
def insideCursor (content : Text) (idx : Nat) : Cursor where
  source := (marked content).take idx
  pos := 2
  tokens := 0
  depth := 1
  overflow := false

theorem marked_eq (content : Text) :
    marked content = asterisk :: asterisk :: (content ++ [asterisk, asterisk]) :=
  rfl

theorem length_marked (content : Text) : (marked content).length = content.length + 4 := by
  rw [marked_eq, List.length_cons, List.length_cons, List.length_append]
  rfl

theorem runLength_marked (content : Text) : 2 ≤ runLength (marked content) 0 asterisk := by
  rw [runLength, marked_eq, List.drop_zero, List.takeWhile_cons_of_pos rfl,
    List.takeWhile_cons_of_pos rfl]
  exact Nat.le_add_left 2 _

theorem openLength_marked (content : Text) :
    openLength (startCursor (marked content)) asterisk = 2 :=
  if_pos (runLength_marked content)

/-- Where a marked text is closed, if it is opened at all. -/
def closeOfMarked (content : Text) : Option Nat :=
  if content.head? = some space then
    none
  else
    findEmphasisClose (marked content) [asterisk, asterisk] (marked content).length 2

theorem tryConsumeEmphasis_marked
    (parseInner : Cursor → Cursor × List Node)
    {content : Text}
    (notEmpty : content ≠ []) :
    tryConsumeEmphasis parseInner (startCursor (marked content)) asterisk =
      match closeOfMarked content with
      | none => (startCursor (marked content), none)
      | some idx =>
          let inside := parseInner (insideCursor content idx)
          ({ startCursor (marked content) with
              pos := idx + 2
              tokens := inside.1.tokens
              overflow := inside.1.overflow },
            some (.strong inside.2)) := by
  obtain ⟨first, others, rfl⟩ := List.exists_cons_of_ne_nil notEmpty
  have isRun : 2 ≤ runLength (startCursor (marked (first :: others))).source
      (startCursor (marked (first :: others))).pos asterisk := runLength_marked _
  have isFirst : (startCursor (marked (first :: others))).source[
      (startCursor (marked (first :: others))).pos + 2]? = some first := rfl
  have notDeep : ¬ maxEmphasisDepth ≤ (startCursor (marked (first :: others))).depth :=
    Nat.not_le.mpr (Nat.succ_pos 2)
  have notOver : (startCursor (marked (first :: others))).overflow = false := rfl
  rw [tryConsumeEmphasis_eq, openLength_marked, if_neg notDeep]
  dsimp only
  rw [isFirst, closeOfMarked, List.head?_cons]
  by_cases isSpace : first = space
  · rw [isSpace, if_pos (.inr rfl), if_pos rfl]
  · have notSpace : some first ≠ some space := fun isSame => isSpace (Option.some.inj isSame)
    rw [if_neg (not_or.mpr ⟨Option.some_ne_none first, notSpace⟩), if_neg notSpace]
    change (match findEmphasisClose (marked (first :: others)) [asterisk, asterisk]
        (marked (first :: others)).length 2 with | none => _ | some idx => _) = _
    cases findEmphasisClose (marked (first :: others)) [asterisk, asterisk]
        (marked (first :: others)).length 2 with
    | none => rfl
    | some idx =>
        dsimp only
        rw [if_pos isRun, notOver, Bool.or_false]
        rfl

/-- After the first turn, a marked text begins with a text, or with strong text that is
closed. -/
theorem inlineTurn_marked
    (parseInner : Cursor → Cursor × List Node)
    {content : Text}
    (notEmpty : content ≠ []) :
    inlineTurn parseInner (Head.start (startCursor (marked content))) =
      .inl
        (match closeOfMarked content with
        | none => ⟨{ startCursor (marked content) with pos := 1 }, [asterisk], []⟩
        | some idx =>
            let inside := parseInner (insideCursor content idx)
            ⟨{ startCursor (marked content) with
                pos := idx + 2
                tokens := inside.1.tokens + 1
                overflow := inside.1.overflow },
              [], [.strong inside.2]⟩) := by
  have isFirst : (Head.start (startCursor (marked content))).cursor.source[
      (Head.start (startCursor (marked content))).cursor.pos]? = some asterisk := rfl
  have notFull : ¬ maxTokens ≤ (Head.start (startCursor (marked content))).cursor.tokens :=
    Nat.not_le.mpr (Nat.succ_pos 499)
  have notEscape : ¬ (asterisk = backslash ∧
      ((Head.start (startCursor (marked content))).cursor.source[
        (Head.start (startCursor (marked content))).cursor.pos + 1]?).isSome = true) :=
    fun isEscape => absurd isEscape.1 (by decide)
  have notNewline : asterisk ≠ newline := by decide
  have isEmphasis : tryConsumeToken parseInner (Head.start (startCursor (marked content))).cursor
      asterisk = tryConsumeEmphasis parseInner (startCursor (marked content)) asterisk := rfl
  unfold inlineTurn
  rw [isFirst]
  dsimp only
  rw [if_neg notFull, if_neg notEscape, if_neg notNewline, isEmphasis,
    tryConsumeEmphasis_marked parseInner notEmpty]
  cases closeOfMarked content with
  | none => rfl
  | some idx => rfl

/-- The asterisks added to a content are its closing ones if they pair with each other. -/
theorem closeOfMarked_eq_some_iff
    {content : Text}
    (notEmpty : content ≠ [])
    (oneLine : newline ∉ content)
    (notBlank : content.head? = some space → content.length = 1) :
    closeOfMarked content = some (content.length + 2) ↔
      pairsAtEnd asterisk content = true := by
  have isLast : [asterisk, asterisk].getLast? = some asterisk := rfl
  have enough : content.length < (marked content).length := by
    rw [length_marked]
    exact Nat.lt_add_of_pos_right (Nat.succ_pos 3)
  have closes := closes_after_iff isLast (by decide) oneLine enough
  unfold closeOfMarked
  split
  next isSpace =>
    obtain ⟨unit, rfl⟩ := List.length_eq_one_iff.mp (notBlank isSpace)
    refine iff_of_false (Option.some_ne_none _).symm fun pairs => ?_
    obtain rfl := Option.some.inj isSpace
    exact absurd pairs (by decide)
  next =>
    rw [Nat.add_comm]
    exact closes

theorem closeOfMarked_le
    {content : Text}
    {idx : Nat}
    (isClose : closeOfMarked content = some idx) :
    idx ≤ content.length + 2 := by
  unfold closeOfMarked at isClose
  split at isClose
  next => cases isClose
  next =>
    have isThere := findEmphasisClose_stands isClose
    have isShort := ( List.isPrefixOf_iff_prefix.mp isThere).length_le
    rw [List.length_drop, length_marked] at isShort
    simp only [List.length_cons, List.length_nil] at isShort
    omega

/-- What is inside the asterisks is the content. -/
theorem insideCursor_eq (content : Text) :
    insideCursor content (content.length + 2) =
      (headingCursor content).behind [asterisk, asterisk] := by
  have isTaken : (marked content).take (content.length + 2) = [asterisk, asterisk] ++ content := by
    rw [marked, List.take_left' (by rw [List.length_append, Nat.add_comm]; rfl)]
  unfold insideCursor
  rw [isTaken]
  rfl

/-- A marked text whose asterisks pair is one strong node. -/
theorem parse_of_pairs
    {content : Text}
    (notEmpty : content ≠ [])
    (isClose : closeOfMarked content = some (content.length + 2)) :
    (parseInline maxEmphasisDepth (startCursor (marked content))).2 =
        [.strong (headingChildren content)] ∧
      (parseInline maxEmphasisDepth (startCursor (marked content))).1.overflow =
        (parseInline (maxEmphasisDepth - 1) (headingCursor content)).1.overflow := by
  have ends := (parseInline_ends maxEmphasisDepth (startCursor (marked content))).of_goesOn
    (inlineTurn_marked _ notEmpty)
  have inside : innerParser maxEmphasisDepth (insideCursor content (content.length + 2)) =
      returnedBehind [asterisk, asterisk]
        (parseInline (maxEmphasisDepth - 1) (headingCursor content)) := by
    rw [insideCursor_eq]
    exact parseInline_behind (by decide) (maxEmphasisDepth - 1) (headingCursor content)
  have isEnd : (marked content)[content.length + 2 + 2]? = none := by
    rw [List.getElem?_eq_none_iff, length_marked]
  rw [isClose] at ends
  dsimp only at ends
  rw [inside] at ends
  have leaves := ends.of_leaves (by
    unfold inlineTurn
    dsimp only [startCursor]
    rw [isEnd])
  rw [leaves]
  exact ⟨rfl, rfl⟩

/-- A marked text whose asterisks do not pair is not one strong node. -/
theorem parse_of_not_pairs
    {content : Text}
    (notEmpty : content ≠ [])
    (notClose : closeOfMarked content ≠ some (content.length + 2))
    (isWithin : (parseInline maxEmphasisDepth (startCursor (marked content))).1.overflow = false)
    (children : List Node) :
    (parseInline maxEmphasisDepth (startCursor (marked content))).2 ≠ [.strong children] := by
  have ends := (parseInline_ends maxEmphasisDepth (startCursor (marked content))).of_goesOn
    (inlineTurn_marked _ notEmpty)
  intro isStrong
  cases isClose : closeOfMarked content with
  | none =>
      rw [isClose] at ends
      obtain ⟨value, rest, isText⟩ :=
        parse_beginsWithText ends (.inl ⟨rfl, List.cons_ne_nil _ _⟩)
      rw [isStrong] at isText
      cases isText
  | some idx =>
      rw [isClose] at ends
      have isMore : (marked content)[idx + 2]? ≠ none := by
        have isLe := closeOfMarked_le isClose
        have notSame : idx ≠ content.length + 2 := fun isSame => notClose (isSame ▸ isClose)
        rw [Ne, List.getElem?_eq_none_iff, length_marked]
        omega
      have isLong := parse_continues ends (.inr ⟨⟨_, rfl⟩, .inr isMore⟩) isWithin
      rw [isStrong] at isLong
      exact Nat.not_succ_le_self 1 isLong

/-- A line that is not rewritten begins with its hashes, as text. -/
theorem HeadingLine.parse_source (line : HeadingLine) :
    ∃ value rest, (parseInline maxEmphasisDepth (startCursor line.source)).2 =
      .text value :: rest := by
  obtain ⟨level, isLevel⟩ := Nat.exists_eq_add_of_le line.level_pos
  have isHash : ∃ rest, line.source = hash :: rest := by
    rw [HeadingLine.source, isLevel, Nat.add_comm, List.replicate_succ]
    exact ⟨_, rfl⟩
  obtain ⟨rest, isSource⟩ := isHash
  have goesOn : inlineTurn (innerParser maxEmphasisDepth) (Head.start (startCursor line.source)) =
      .inl ⟨{ startCursor line.source with pos := 1 }, [hash], []⟩ := by
    rw [isSource]
    rfl
  have ends := (parseInline_ends maxEmphasisDepth (startCursor line.source)).of_goesOn goesOn
  exact parse_beginsWithText ends (.inl ⟨rfl, List.cons_ne_nil _ _⟩)

/-! ## Asterisks -/

/-- What is read of nodes is in the text they came from, if of each link either its
address or its text is read. -/
def partReading
    (ofLink : Text → Text → Text)
    (isPart : ∀ url text, ofLink url text = url ∨ ofLink url text = text) : Reading where
  ofLink := ofLink
  Yields text shown := shown.Sublist text
  same := List.Sublist.refl
  markup text _ := List.nil_sublist text
  lineBreak := List.nil_sublist _
  append := List.Sublist.append
  bracketed text url := by
    rcases isPart (trim url) text with isUrl | isText
    · rw [isUrl]
      have isEnd : (trim url).Sublist (url.dropWhile isWhitespace) :=
        (trimmed_begins _ isWhitespace).sublist
      exact (isEnd.trans (List.dropWhile_sublist _)).trans (List.sublist_append_right _ _)
    · rw [isText, List.append_assoc]
      exact List.sublist_append_left _ _
  autolink start _ body := by
    rcases isPart (start ++ body) (start ++ body) with isUrl | isUrl
    · rw [isUrl]
    · rw [isUrl]

/-- The children of a heading show no asterisk that is not in its content. -/
theorem count_headingChildren
    {content : Text}
    (isWithin :
      (parseInline (maxEmphasisDepth - 1) (headingCursor content)).1.overflow = false)
    (ofLink : Text → Text → Text)
    (isPart : ∀ url text, ofLink url text = url ∨ ofLink url text = text) :
    (readAll ofLink [.strong (headingChildren content)]).count asterisk ≤
      content.count asterisk := by
  have yields : (readAll ofLink (headingChildren content)).Sublist content :=
    parseInline_yields (partReading ofLink isPart) rfl isWithin
  rw [readAll_singleton, Node.read]
  exact yields.count_le asterisk

theorem HeadingLine.count_content (line : HeadingLine) :
    line.content.count asterisk ≤ line.source.count asterisk :=
  ((List.sublist_append_right _ _).trans (List.sublist_append_right _ _)).count_le asterisk

/--
Within the parser's limits a heading line becomes one strong node with the parse
of its content in it, and shows no asterisk of its own, exactly if its content
has no other line terminator and the asterisks added to it pair with each other.
-/
theorem heading_law_iff
    (unicode : Unicode)
    (raw : Text)
    (line : HeadingLine)
    (isLine : sanitizeUnicode unicode raw = line.source)
    (isWithin : (parseMarkdownString unicode raw).bombFallback = false) :
    HeadingLaw (parseMarkdownString unicode raw) line.content ↔ HeadingPairs line.content := by
  obtain ⟨isNodes, isOver⟩ := parse_headingLine isLine
  rw [isWithin] at isOver
  have isSource : (parseMarkdownString unicode raw).source = line.source := isLine
  have closes := closeOfMarked_eq_some_iff line.notEmpty line.oneLine fun isSpace =>
    line.greedy (by rw [isSpace]; rfl)
  unfold HeadingPairs
  rw [HeadingLine.scanned] at isNodes isOver
  cases isBroken : line.content.any isLineTerminator with
  | true =>
      rw [isBroken, if_pos rfl] at isNodes
      refine iff_of_false (fun law => ?_) fun pairs => Bool.false_ne_true pairs.1.symm
      obtain ⟨value, rest, isText⟩ := line.parse_source
      rw [← isNodes, law.strong] at isText
      cases isText
  | false =>
      rw [isBroken, if_neg Bool.false_ne_true] at isNodes isOver
      rw [← closes]
      constructor
      · intro law
        refine ⟨rfl, ?_⟩
        by_contra notClose
        exact parse_of_not_pairs line.notEmpty notClose isOver.symm _
          (isNodes.symm.trans law.strong)
      · rintro ⟨-, isClose⟩
        obtain ⟨isStrong, isInside⟩ := parse_of_pairs line.notEmpty isClose
        have isInside := isInside.symm.trans isOver.symm
        rw [isStrong] at isNodes
        refine ⟨isNodes, ?_, ?_⟩
        · rw [isNodes, isSource]
          exact Nat.le_trans
            (count_headingChildren isInside (fun _ text => text) fun _ _ => .inr rfl)
            line.count_content
        · rw [isNodes, isSource]
          exact Nat.le_trans
            (count_headingChildren isInside (fun url _ => url) fun _ _ => .inl rfl)
            line.count_content

/-- A heading of the second level, with emphasis at the end of its content. -/
def Sample.heading : HeadingLine where
  level := 2
  blanks := [space]
  content := [0x61, space, asterisk, 0x62, asterisk, 0x63]
  level_pos := by decide
  level_le := by decide
  separated := by decide
  areBlanks := List.forall_mem_singleton.mpr (by decide)
  notEmpty := by decide
  oneLine := by decide
  greedy := by decide

/-- A heading that ends in a space. -/
def Sample.spaced : HeadingLine where
  level := 1
  blanks := [space]
  content := [0x61, space]
  level_pos := by decide
  level_le := by decide
  separated := by decide
  areBlanks := List.forall_mem_singleton.mpr (by decide)
  notEmpty := by decide
  oneLine := by decide
  greedy := by decide

theorem heading_law_of_sample :
    HeadingLaw (parseMarkdownString Sample.unicode Sample.heading.source)
      Sample.heading.content :=
  (heading_law_iff Sample.unicode Sample.heading.source Sample.heading (by decide)
    (by decide)).mpr ⟨by decide, by decide⟩

/-- The asterisks added to a heading that ends in a space are shown. -/
theorem heading_law_fails_of_space :
    ¬ ∀ line : HeadingLine,
      (parseMarkdownString Sample.unicode line.source).bombFallback = false →
        sanitizeUnicode Sample.unicode line.source = line.source →
          HeadingLaw (parseMarkdownString Sample.unicode line.source) line.content := by
  intro laws
  have law := laws Sample.spaced (by decide) (by decide)
  have shown := law.displays
  revert shown
  decide

end Markdown

end Unseen
