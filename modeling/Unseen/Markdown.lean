import Unseen.Filename

namespace Unseen

/-!
# The markdown parser

A message is sanitised, split into fenced code and inline text, and the inline
text is scanned from left to right.  The scanner's cursor counts the tokens it
emitted and the emphasis it is in; beyond either limit it raises the overflow
flag, and the message is shown as plain text.

All characters the parser looks for are in the basic plane, so it works on
UTF-16 code units throughout.
-/

/-! ## Unicode sanitisation -/

/-- The tables of the Unicode standard that the sanitiser consults. -/
structure Unicode where
  normalizeNfc : Text → Text
  /-- the general category Mn -/
  isNonspacingMark : Nat → Bool

/-- The characters of a string; a lone surrogate is one. -/
def characters : Text → List Text
  | [] => []
  | [unit] => [[unit]]
  | first :: second :: rest =>
      if isHighSurrogate first && isLowSurrogate second then
        [first, second] :: characters rest
      else
        [first] :: characters (second :: rest)

/-- The code point of a character. -/
def codePoint : Text → Nat
  | [high, low] => 0x10000 + (high.toNat - 0xD800) * 0x400 + (low.toNat - 0xDC00)
  | [unit] => unit.toNat
  | _ => 0

/-- `COMBINING_CAP` -/
def combiningCap : Nat := 4

/-- `capCombiningRuns`, after a run of combining marks. -/
def capCombiningRuns (unicode : Unicode) : Nat → List Text → Text
  | _, [] => []
  | run, character :: rest =>
      if unicode.isNonspacingMark (codePoint character) then
        (if run + 1 ≤ combiningCap then character else []) ++
          capCombiningRuns unicode (run + 1) rest
      else
        character ++ capCombiningRuns unicode 0 rest

/-- `sanitizeUnicode` -/
def sanitizeUnicode (unicode : Unicode) (raw : Text) : Text :=
  let noBidi := raw.filter fun unit => !isBidiControl unit
  capCombiningRuns unicode 0 (characters (unicode.normalizeNfc noBidi))

namespace Markdown

/-! ## Syntax trees -/

/-- `MarkdownNode` -/
inductive Node where
  | text (value : Text)
  | strong (children : List Node)
  | emphasis (children : List Node)
  | code (value : Text)
  | codeBlock (value : Text)
  | link (url text : Text)
  | lineBreak

/-- `MarkdownAst` -/
structure Ast where
  nodes : List Node
  bombFallback : Bool
  source : Text

/-! ## Characters -/

def newline : UInt16 := 0x0A
def space : UInt16 := 0x20
def hash : UInt16 := 0x23
def asterisk : UInt16 := 0x2A
def backslash : UInt16 := 0x5C
def lowLine : UInt16 := 0x5F
def backtick : UInt16 := 0x60

/-- The blanks of `[ \t]`. -/
def isBlank (unit : UInt16) : Bool :=
  unit == space || unit == 0x09

/-- What a dot does not match. -/
def isLineTerminator (unit : UInt16) : Bool :=
  unit == newline || unit == 0x0D || unit == 0x2028 || unit == 0x2029

/-- What `trim` and `trimEnd` strip. -/
def isWhitespace (unit : UInt16) : Bool :=
  isLineTerminator unit || isBlank unit || unit == 0x0B || unit == 0x0C || unit == 0xA0 ||
    unit == 0x1680 || (0x2000 ≤ unit && unit ≤ 0x200A) || unit == 0x202F || unit == 0x205F ||
    unit == 0x3000 || unit == 0xFEFF

/-- `[a-zA-Z0-9]` -/
def isAlphanumeric (unit : UInt16) : Bool :=
  (0x61 ≤ unit && unit ≤ 0x7A) || (0x41 ≤ unit && unit ≤ 0x5A) || (0x30 ≤ unit && unit ≤ 0x39)

/-- `AUTOLINK_TERMINATORS` -/
def isAutolinkTerminator (unit : UInt16) : Bool :=
  isBlank unit || unit == newline || unit == 0x3C || unit == 0x3E

/-- `AUTOLINK_TRAILING_PUNCT` -/
def isAutolinkTrailingPunct (unit : UInt16) : Bool :=
  unit == 0x2E || unit == 0x2C || unit == 0x3B || unit == 0x3A || unit == 0x21 ||
    unit == 0x3F || unit == 0x29

def trimEnd (text : Text) : Text :=
  (text.reverse.dropWhile isWhitespace).reverse

def trim (text : Text) : Text :=
  trimEnd (text.dropWhile isWhitespace)

/-- `text.slice(start, stop)` -/
def slice (text : Text) (start stop : Nat) : Text :=
  (text.take stop).drop start

/-- `text.indexOf(needle, start)` for a needle that is not empty. -/
def indexOf (text needle : Text) (start : Nat) : Option Nat :=
  (List.range' start (text.length - start)).find? fun index =>
    needle.isPrefixOf (text.drop index)

/-- How often a character stands at a position and after it. -/
def runLength (text : Text) (start : Nat) (unit : UInt16) : Nat :=
  ((text.drop start).takeWhile (· == unit)).length

/-- `text.split('\n')` -/
def splitLines : Text → List Text
  | [] => [[]]
  | unit :: rest =>
      if unit = newline then
        [] :: splitLines rest
      else
        match splitLines rest with
        | [] => [[unit]]
        | line :: lines => (unit :: line) :: lines

/-- `lines.join('\n')` -/
def joinLines (lines : List Text) : Text :=
  [newline].intercalate lines

/-! ## Blocks -/

/-- `BlockSegment` -/
inductive BlockSegment where
  | inline (value : Text)
  | codeBlock (value : Text)

/-- `FENCE_CLOSE_LITERAL` -/
def fence : Text := [backtick, backtick, backtick]

/-- `FENCE_OPEN_RE`, on a line -/
def opensFence (line : Text) : Bool :=
  fence.isPrefixOf line

/-- `findFenceClose`: the lines before the closing fence and those after it. -/
def findFenceClose : List Text → Option (List Text × List Text)
  | [] => none
  | line :: rest =>
      if trimEnd line = fence then
        some ([], rest)
      else
        (findFenceClose rest).map fun parts => (line :: parts.1, parts.2)

/-- `flushInline` -/
def flushInline (buffer : List Text) : List BlockSegment :=
  if buffer.isEmpty then [] else [.inline (joinLines buffer)]

/-- The loop of `splitBlocks`, with the buffered lines. -/
def splitBlocksFrom : Nat → List Text → List Text → List BlockSegment
  | 0, buffer, _ => flushInline buffer
  | _ + 1, buffer, [] => flushInline buffer
  | fuel + 1, buffer, line :: rest =>
      if opensFence line then
        match findFenceClose rest with
        | none => splitBlocksFrom fuel (buffer ++ [line]) rest
        | some (codeLines, later) =>
            flushInline buffer ++ .codeBlock (joinLines codeLines) ::
              splitBlocksFrom fuel [] later
      else
        splitBlocksFrom fuel (buffer ++ [line]) rest

/-- `splitBlocks`; every turn of its loop consumes a line. -/
def splitBlocks (source : Text) : List BlockSegment :=
  let lines := splitLines source
  splitBlocksFrom lines.length [] lines

/-- The group that `HEADING_RE` captures in a line. -/
def headingOf (line : Text) : Option Text :=
  let hashes := runLength line 0 hash
  let afterHashes := line.drop hashes
  let blanks := afterHashes.takeWhile isBlank
  let heading := afterHashes.dropWhile isBlank
  if hashes = 0 ∨ 6 < hashes ∨ blanks = [] then
    none
  else if heading.isEmpty then
    -- the blanks are greedy, but leave their last one when nothing follows them
    match blanks.drop 1 with
    | [] => none
    | others => others.getLast?.map fun last => [last]
  else if heading.any isLineTerminator then
    none
  else
    some heading

/-- `rewriteHeadings` -/
def rewriteHeadings (segment : Text) : Text :=
  joinLines ((splitLines segment).map fun line =>
    match headingOf line with
    | some heading => [asterisk, asterisk] ++ heading ++ [asterisk, asterisk]
    | none => line)

/-! ## Inline text -/

/-- `MAX_TOKENS` -/
def maxTokens : Nat := 500

/-- `MAX_EMPHASIS_DEPTH` -/
def maxEmphasisDepth : Nat := 3

/-- `Cursor` -/
structure Cursor where
  source : Text
  pos : Nat
  tokens : Nat
  depth : Nat
  overflow : Bool

/-- `emit`: neighbouring texts are one node. -/
def emit (cursor : Cursor) (node : Node) (sink : List Node) : Cursor × List Node :=
  match node, sink.getLast? with
  | .text value, some (.text last) => (cursor, sink.dropLast ++ [.text (last ++ value)])
  | _, _ => ({ cursor with tokens := cursor.tokens + 1 }, sink ++ [node])

/-- `flushBuffer` -/
def flushBuffer (cursor : Cursor) (buffer : Text) (nodes : List Node) : Cursor × List Node :=
  if buffer.isEmpty then (cursor, nodes) else emit cursor (.text buffer) nodes

/-- The loop of `tryConsumeCode`: the closing run of as many backticks. -/
def findCodeClose (source : Text) (openTicks : Nat) : Nat → Nat → Option Nat
  | 0, _ => none
  | fuel + 1, searchFrom =>
      match indexOf source (List.replicate openTicks backtick) searchFrom with
      | none => none
      | some closeIdx =>
          let closeTicks := runLength source closeIdx backtick
          if closeTicks = openTicks then
            some closeIdx
          else
            findCodeClose source openTicks fuel (closeIdx + closeTicks)

/-- `tryConsumeCode` -/
def tryConsumeCode (cursor : Cursor) : Cursor × Option Node :=
  let openTicks := runLength cursor.source cursor.pos backtick
  let contentStart := cursor.pos + openTicks
  match findCodeClose cursor.source openTicks cursor.source.length contentStart with
  | none => (cursor, none)
  | some closeIdx =>
      ({ cursor with pos := closeIdx + openTicks },
        some (.code (slice cursor.source contentStart closeIdx)))

/-- The loop of `tryConsumeEmphasis`: a closing marker that follows no blank. -/
def findEmphasisClose (source closer : Text) : Nat → Nat → Option Nat
  | 0, _ => none
  | fuel + 1, search =>
      match indexOf source closer search with
      | none => none
      | some idx =>
          if source[idx - 1]? = some space ∨ source[idx - 1]? = some newline then
            findEmphasisClose source closer fuel (idx + closer.length)
          else
            some idx

/-- `tryConsumeEmphasis`, given the scanner one level deeper. -/
def tryConsumeEmphasis
    (parseInner : Cursor → Cursor × List Node)
    (cursor : Cursor)
    (marker : UInt16) : Cursor × Option Node :=
  if maxEmphasisDepth ≤ cursor.depth then
    ({ cursor with overflow := true }, none)
  else
    let wantStrong := 2 ≤ runLength cursor.source cursor.pos marker
    let openLength := if wantStrong then 2 else 1
    let innerStart := cursor.pos + openLength
    if cursor.source[innerStart]? = none ∨ cursor.source[innerStart]? = some space then
      (cursor, none)
    else
      match findEmphasisClose cursor.source (List.replicate openLength marker)
          cursor.source.length innerStart with
      | none => (cursor, none)
      | some idx =>
          let (inner, children) :=
            parseInner
              { source := cursor.source.take idx
                pos := innerStart
                tokens := cursor.tokens
                depth := cursor.depth + 1
                overflow := cursor.overflow }
          ({ cursor with
              pos := idx + openLength
              tokens := inner.tokens
              overflow := inner.overflow || cursor.overflow },
            some (if wantStrong then .strong children else .emphasis children))

/-- `findUnescaped` -/
def findUnescaped (source : Text) (target : UInt16) : Nat → Nat → Option Nat
  | 0, _ => none
  | fuel + 1, index =>
      match source[index]? with
      | none => none
      | some unit =>
          if unit = backslash then
            findUnescaped source target fuel (index + 2)
          else if unit = target then
            some index
          else
            findUnescaped source target fuel (index + 1)

/-- `tryConsumeLink` -/
def tryConsumeLink (cursor : Cursor) : Cursor × Option Node :=
  match findUnescaped cursor.source 0x5D cursor.source.length (cursor.pos + 1) with
  | none => (cursor, none)
  | some textEnd =>
      if cursor.source[textEnd + 1]? ≠ some 0x28 then
        (cursor, none)
      else
        match findUnescaped cursor.source 0x29 cursor.source.length (textEnd + 2) with
        | none => (cursor, none)
        | some urlEnd =>
            let text := slice cursor.source (cursor.pos + 1) textEnd
            let url := trim (slice cursor.source (textEnd + 2) urlEnd)
            if text.isEmpty || url.isEmpty then
              (cursor, none)
            else
              ({ cursor with pos := urlEnd + 1 }, some (.link url text))

/-- The prefixes that `AUTOLINK_PREFIX_RE` matches: `http://` and `https://`. -/
def autolinkPrefixes : List Text :=
  [[0x68, 0x74, 0x74, 0x70, 0x3A, 0x2F, 0x2F], [0x68, 0x74, 0x74, 0x70, 0x73, 0x3A, 0x2F, 0x2F]]

/-- `trimAutolinkTail(source, floor, scanAutolinkEnd(source, floor))` -/
def autolinkBody (rest : Text) : Text :=
  let scanned := rest.takeWhile fun unit => !isAutolinkTerminator unit
  (scanned.reverse.dropWhile isAutolinkTrailingPunct).reverse

/-- The character before the cursor. -/
def Cursor.previous (cursor : Cursor) : Option UInt16 :=
  if cursor.pos = 0 then none else cursor.source[cursor.pos - 1]?

/-- `tryConsumeAutolink` -/
def tryConsumeAutolink (cursor : Cursor) : Cursor × Option Node :=
  let here := cursor.source.drop cursor.pos
  match autolinkPrefixes.find? fun start => start.isPrefixOf here with
  | none => (cursor, none)
  | some start =>
      if cursor.previous.any isAlphanumeric then
        (cursor, none)
      else
        let body := autolinkBody (here.drop start.length)
        if body.isEmpty then
          (cursor, none)
        else
          let url := start ++ body
          ({ cursor with pos := cursor.pos + url.length }, some (.link url url))

/-- `tryConsumeToken` -/
def tryConsumeToken
    (parseInner : Cursor → Cursor × List Node)
    (cursor : Cursor)
    (unit : UInt16) : Cursor × Option Node :=
  if unit = backtick then tryConsumeCode cursor
  else if unit = asterisk ∨ unit = lowLine then tryConsumeEmphasis parseInner cursor unit
  else if unit = 0x5B then tryConsumeLink cursor
  else if unit = 0x68 then tryConsumeAutolink cursor
  else (cursor, none)

/-- The loop of `parseInline`, with the buffered text and the nodes so far. -/
def parseInlineFrom (parseInner : Cursor → Cursor × List Node) :
    Nat → Cursor → Text → List Node → Cursor × List Node
  | 0, cursor, buffer, nodes => flushBuffer cursor buffer nodes
  | fuel + 1, cursor, buffer, nodes =>
      match cursor.source[cursor.pos]? with
      | none => flushBuffer cursor buffer nodes
      | some unit =>
          if maxTokens ≤ cursor.tokens then
            flushBuffer { cursor with overflow := true } buffer nodes
          else
            let escaped := cursor.source[cursor.pos + 1]?
            if unit = backslash ∧ escaped.isSome then
              parseInlineFrom parseInner fuel { cursor with pos := cursor.pos + 2 }
                (buffer ++ escaped.toList) nodes
            else if unit = newline then
              let (flushed, sink) := flushBuffer cursor buffer nodes
              let (broken, sink) := emit flushed .lineBreak sink
              parseInlineFrom parseInner fuel { broken with pos := broken.pos + 1 } [] sink
            else
              match tryConsumeToken parseInner cursor unit with
              | (consumed, some token) =>
                  let (flushed, sink) := flushBuffer consumed buffer nodes
                  let (emitted, sink) := emit flushed token sink
                  parseInlineFrom parseInner fuel emitted [] sink
              | (unchanged, none) =>
                  parseInlineFrom parseInner fuel { unchanged with pos := unchanged.pos + 1 }
                    (buffer ++ [unit]) nodes

/--
`parseInline`, given how much deeper emphasis may still be nested; every turn of
its loop advances the cursor.
-/
def parseInline : Nat → Cursor → Cursor × List Node
  | 0, cursor =>
      parseInlineFrom (fun inner => (inner, [])) cursor.source.length cursor [] []
  | deeper + 1, cursor =>
      parseInlineFrom (parseInline deeper) cursor.source.length cursor [] []

/-! ## Messages -/

/-- The accumulator of `parseMarkdownString`. -/
structure Accumulator where
  nodes : List Node
  tokens : Nat
  overflow : Bool

/-- The loop of `parseMarkdownString`. -/
def parseSegments : Accumulator → List BlockSegment → Accumulator
  | accumulator, [] => accumulator
  | accumulator, segment :: rest =>
      if maxTokens ≤ accumulator.tokens then
        { accumulator with overflow := true }
      else
        match segment with
        | .codeBlock value =>
            parseSegments
              { accumulator with
                nodes := accumulator.nodes ++ [.codeBlock value]
                tokens := accumulator.tokens + 1 }
              rest
        | .inline value =>
            let (cursor, inlineNodes) :=
              parseInline maxEmphasisDepth
                { source := rewriteHeadings value
                  pos := 0
                  tokens := accumulator.tokens
                  depth := 0
                  overflow := accumulator.overflow }
            parseSegments
              { nodes := accumulator.nodes ++ inlineNodes
                tokens := cursor.tokens
                overflow := cursor.overflow }
              rest

/-- `parseMarkdownString` -/
def parseMarkdownString (unicode : Unicode) (raw : Text) : Ast :=
  let source := sanitizeUnicode unicode raw
  let accumulator := parseSegments ⟨[], 0, false⟩ (splitBlocks source)
  { nodes := accumulator.nodes, bombFallback := accumulator.overflow, source }

end Markdown

end Unseen
