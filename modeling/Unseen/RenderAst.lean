import Unseen.Json
import Unseen.MarkdownBounds

namespace Unseen.Markdown

/-!
# Rendering syntax trees

The tree of a message becomes elements and texts.  Links become anchors only for
the two schemes of the web, and an anchor always shows where it leads.  Parsing of
URLs comes from the runtime.
-/

/-! ## Elements -/

inductive Tag where
  | br
  | code
  | pre
  | strong
  | em
  | a
  | span
deriving DecidableEq

inductive Html where
  | text (value : Text)
  | element (tag : Tag) (attributes : List (Text × Text)) (children : List Html)

/-- What `URL.parse` reads. -/
structure Url where
  protocol : Text
  host : Text
  pathname : Text
  search : Text
  hash : Text
  href : Text

/-- `URL.parse` -/
abbrev UrlParser := Text → Option Url

def classAttribute : Text := Json.ascii "class".toList
def ariaLabelAttribute : Text := Json.ascii "aria-label".toList
def hrefAttribute : Text := Json.ascii "href".toList
def targetAttribute : Text := Json.ascii "target".toList
def relAttribute : Text := Json.ascii "rel".toList

/-! ## Zero-width characters -/

/-- `ZERO_WIDTH_RE` -/
def isZeroWidth (unit : UInt16) : Bool :=
  unit == 0x00AD || unit == 0x115F || unit == 0x1160 || unit == 0x180E ||
    (0x200B ≤ unit && unit ≤ 0x200D) || (0x2060 ≤ unit && unit ≤ 0x2064) || unit == 0x3164 ||
    unit == 0xFEFF || unit == 0xFFA0

/-- A zero-width character made visible. -/
def zeroWidthMarker (character : UInt16) : Html :=
  .element .span
    [ (classAttribute, Json.ascii "zw-marker".toList),
      (ariaLabelAttribute, Json.ascii "zero-width".toList) ]
    [.text [character]]

/-- The buffer as a fragment, when there is something in it. -/
def pushBuffer (buffer : Text) : List Html :=
  if buffer = [] then [] else [.text buffer]

/-- The loop of `renderTextWithZeroWidthMarkers`. -/
def markZeroWidth : Text → Text → List Html
  | buffer, [] => pushBuffer buffer
  | buffer, character :: rest =>
      if isZeroWidth character then
        pushBuffer buffer ++ zeroWidthMarker character :: markZeroWidth [] rest
      else
        markZeroWidth (buffer ++ [character]) rest

def renderTextWithZeroWidthMarkers (value : Text) : List Html :=
  if value.any isZeroWidth then markZeroWidth [] value else [.text value]

/-! ## Links -/

/-- `ALLOWED_URL_SCHEMES` -/
def allowedUrlSchemes : List Text :=
  [Json.ascii "http:".toList, Json.ascii "https:".toList]

def buildDisplayUrl (parsed : Url) : Text :=
  let tail := parsed.pathname ++ parsed.search ++ parsed.hash
  let normalized := if tail = Json.ascii "/".toList then [] else tail
  parsed.host ++ normalized

/-- `parseSafeUrl` -/
def parseSafeUrl (parseUrl : UrlParser) (raw : Text) : Option Url :=
  (parseUrl raw).filter fun parsed => parsed.protocol ∈ allowedUrlSchemes

/-- ` → ` -/
def arrow : Text := [0x20, 0x2192, 0x20]

/-- The text of a link that is not allowed, as it was written. -/
def plainLink (text url : Text) : Text :=
  0x5B :: text ++ [0x5D, 0x28] ++ url ++ [0x29]

def anchor (href text : Text) : Html :=
  .element .a
    [ (hrefAttribute, href), (targetAttribute, Json.ascii "_blank".toList),
      (relAttribute, Json.ascii "noreferrer".toList) ]
    [.text text]

def renderLink (parseUrl : UrlParser) (url text : Text) : Html :=
  match parseSafeUrl parseUrl url with
  | none => .text (plainLink text url)
  | some safe =>
      if text = url then anchor safe.href (buildDisplayUrl safe)
      else anchor safe.href (text ++ arrow ++ buildDisplayUrl safe)

/-! ## Trees -/

mutual

def renderNode (parseUrl : UrlParser) : Node → List Html
  | .text value => renderTextWithZeroWidthMarkers value
  | .lineBreak => [.element .br [] []]
  | .code value =>
      [ .element .code [(classAttribute, Json.ascii "md-code".toList)]
          (renderTextWithZeroWidthMarkers value) ]
  | .codeBlock value =>
      [ .element .pre [(classAttribute, Json.ascii "md-code-block".toList)]
          [.element .code [] (renderTextWithZeroWidthMarkers value)] ]
  | .strong children => [.element .strong [] (renderAst parseUrl children)]
  | .emphasis children => [.element .em [] (renderAst parseUrl children)]
  | .link url text => [renderLink parseUrl url text]

def renderAst (parseUrl : UrlParser) : List Node → List Html
  | [] => []
  | node :: nodes => renderNode parseUrl node ++ renderAst parseUrl nodes

end

/-! ## What is shown -/

mutual

/-- `textContent` -/
def Html.shown : Html → Text
  | .text value => value
  | .element _ _ children => shownAll children

def shownAll : List Html → Text
  | [] => []
  | html :: rest => html.shown ++ shownAll rest

end

mutual

/-- The elements of a tree, with their tags, attributes and texts. -/
def Html.elements : Html → List (Tag × List (Text × Text) × Text)
  | .text _ => []
  | .element tag attributes children =>
      (tag, attributes, shownAll children) :: elementsAll children

def elementsAll : List Html → List (Tag × List (Text × Text) × Text)
  | [] => []
  | html :: rest => html.elements ++ elementsAll rest

end

mutual

/-- The text a node stands for. -/
def Node.label (parseUrl : UrlParser) : Node → Text
  | .text value => value
  | .lineBreak => []
  | .code value => value
  | .codeBlock value => value
  | .strong children => labelAll parseUrl children
  | .emphasis children => labelAll parseUrl children
  | .link url text =>
      match parseSafeUrl parseUrl url with
      | none => plainLink text url
      | some safe =>
          if text = url then buildDisplayUrl safe else text ++ arrow ++ buildDisplayUrl safe

def labelAll (parseUrl : UrlParser) : List Node → Text
  | [] => []
  | node :: nodes => node.label parseUrl ++ labelAll parseUrl nodes

end

mutual

/-- The zero-width characters of the texts and codes below a node, in order. -/
def Node.zeroWidth : Node → Text
  | .text value => value.filter isZeroWidth
  | .lineBreak => []
  | .code value => value.filter isZeroWidth
  | .codeBlock value => value.filter isZeroWidth
  | .strong children => zeroWidthAll children
  | .emphasis children => zeroWidthAll children
  | .link _ _ => []

def zeroWidthAll : List Node → Text
  | [] => []
  | node :: nodes => node.zeroWidth ++ zeroWidthAll nodes

end

/-! ## Trees by their children -/

def Node.children : Node → List Node
  | .strong children => children
  | .emphasis children => children
  | _ => []

/-- What holds of no trees, and of a tree and others once it holds of the tree's
children and of the others, holds of all trees. -/
theorem forest_induction
    {motive : List Node → Prop}
    (nil : motive [])
    (cons : ∀ node nodes, motive node.children → motive nodes → motive (node :: nodes))
    (nodes : List Node) :
    motive nodes :=
  @Node.rec_1 (fun node => motive node.children) motive (fun _ => nil)
    (fun _ isChildren => isChildren) (fun _ isChildren => isChildren) (fun _ => nil)
    (fun _ => nil) (fun _ _ => nil) nil nil
    (fun node nodes isChildren areOthers => cons node nodes isChildren areOthers) nodes

/-! ## Lists of elements -/

theorem shownAll_append (first second : List Html) :
    shownAll (first ++ second) = shownAll first ++ shownAll second := by
  induction first with
  | nil => rw [List.nil_append, shownAll, List.nil_append]
  | cons html rest ih => rw [List.cons_append, shownAll, shownAll, ih, List.append_assoc]

theorem elementsAll_append (first second : List Html) :
    elementsAll (first ++ second) = elementsAll first ++ elementsAll second := by
  induction first with
  | nil => rw [List.nil_append, elementsAll, List.nil_append]
  | cons html rest ih => rw [List.cons_append, elementsAll, elementsAll, ih, List.append_assoc]

/-- An element's tag, attributes and text. -/
abbrev Element := Tag × List (Text × Text) × Text

/-- The characters that are marked, in order. -/
def markedUnits (elements : List Element) : Text :=
  elements.flatMap fun element => if element.1 = .span then element.2.2 else []

theorem markedUnits_append (first second : List Element) :
    markedUnits (first ++ second) = markedUnits first ++ markedUnits second :=
  List.flatMap_append

/-- The element of a marked character. -/
def markerElement (character : UInt16) : Element :=
  ( .span,
    [ (classAttribute, Json.ascii "zw-marker".toList),
      (ariaLabelAttribute, Json.ascii "zero-width".toList) ],
    [character] )

theorem shownAll_pushBuffer (buffer : Text) : shownAll (pushBuffer buffer) = buffer := by
  unfold pushBuffer
  split
  · rename_i isEmpty
    rw [isEmpty, shownAll]
  · rw [shownAll, shownAll, Html.shown, List.append_nil]

theorem elementsAll_pushBuffer (buffer : Text) : elementsAll (pushBuffer buffer) = [] := by
  unfold pushBuffer
  split
  · rw [elementsAll]
  · rw [elementsAll, elementsAll, Html.elements, List.append_nil]

/-- The loop shows the buffer and what follows, and marks what it should. -/
theorem markZeroWidth_spec (buffer value : Text) :
    shownAll (markZeroWidth buffer value) = buffer ++ value ∧
      elementsAll (markZeroWidth buffer value) = (value.filter isZeroWidth).map markerElement := by
  induction value generalizing buffer with
  | nil =>
      rw [markZeroWidth, shownAll_pushBuffer, elementsAll_pushBuffer, List.append_nil]
      exact ⟨rfl, rfl⟩
  | cons character rest ih =>
      rw [markZeroWidth]
      split
      · rename_i isMark
        obtain ⟨isShown, areElements⟩ := ih []
        rw [shownAll_append, elementsAll_append, shownAll_pushBuffer, elementsAll_pushBuffer,
          shownAll, elementsAll, isShown, areElements, List.filter_cons_of_pos isMark]
        simp only [zeroWidthMarker, Html.shown, Html.elements, shownAll, elementsAll,
          List.append_nil, List.nil_append, List.map_cons, List.singleton_append, markerElement,
          true_and]
      · rename_i isPlain
        obtain ⟨isShown, areElements⟩ := ih (buffer ++ [character])
        rw [isShown, areElements, List.filter_cons_of_neg isPlain, List.append_assoc]
        exact ⟨rfl, rfl⟩

theorem renderText_spec (value : Text) :
    shownAll (renderTextWithZeroWidthMarkers value) = value ∧
      elementsAll (renderTextWithZeroWidthMarkers value) =
        (value.filter isZeroWidth).map markerElement := by
  unfold renderTextWithZeroWidthMarkers
  split
  · exact markZeroWidth_spec [] value
  · rename_i isPlain
    have noMarks : value.filter isZeroWidth = [] := by
      rw [List.filter_eq_nil_iff]
      intro character isCharacter isMark
      exact isPlain (List.any_eq_true.mpr ⟨character, isCharacter, isMark⟩)
    rw [noMarks, shownAll, shownAll, elementsAll, elementsAll, Html.shown, Html.elements]
    exact ⟨List.append_nil _, rfl⟩

theorem markedUnits_map_markerElement (characters : Text) :
    markedUnits (characters.map markerElement) = characters := by
  induction characters with
  | nil => rfl
  | cons character rest ih =>
      rw [List.map_cons, ← List.singleton_append, markedUnits_append, ih]
      rfl

/-! ## What elements there are -/

/-- The elements a message may have. -/
inductive Harmless (parseUrl : UrlParser) : Element → Prop where
  | lineBreak : Harmless parseUrl (.br, [], [])
  | code (text : Text) :
      Harmless parseUrl (.code, [(classAttribute, Json.ascii "md-code".toList)], text)
  | block (text : Text) :
      Harmless parseUrl (.pre, [(classAttribute, Json.ascii "md-code-block".toList)], text)
  | inner (text : Text) : Harmless parseUrl (.code, [], text)
  | strong (text : Text) : Harmless parseUrl (.strong, [], text)
  | emphasis (text : Text) : Harmless parseUrl (.em, [], text)
  | marker {character : UInt16}
      (isMark : isZeroWidth character = true) : Harmless parseUrl (markerElement character)
  /-- An anchor leads to an allowed URL, and its text ends in the host and the path. -/
  | link {raw : Text} {parsed : Url}
      (isParsed : parseUrl raw = some parsed)
      (isAllowed : parsed.protocol ∈ allowedUrlSchemes)
      {label : Text}
      (isLabel : label = [] ∨ ∃ text, label = text ++ arrow) :
      Harmless parseUrl
        ( .a,
          [ (hrefAttribute, parsed.href), (targetAttribute, Json.ascii "_blank".toList),
            (relAttribute, Json.ascii "noreferrer".toList) ],
          label ++ buildDisplayUrl parsed )

theorem harmless_renderText
    {parseUrl : UrlParser}
    {value : Text} :
    ∀ element ∈ elementsAll (renderTextWithZeroWidthMarkers value), Harmless parseUrl element := by
  rw [(renderText_spec value).2]
  intro element isElement
  obtain ⟨character, isCharacter, rfl⟩ := List.mem_map.mp isElement
  exact .marker (List.mem_filter.mp isCharacter).2

theorem harmless_renderLink (parseUrl : UrlParser) (url text : Text) :
    ∀ element ∈ (renderLink parseUrl url text).elements, Harmless parseUrl element := by
  intro element isElement
  cases isSafe : parseSafeUrl parseUrl url with
  | none =>
      simp only [renderLink, isSafe, Html.elements, List.not_mem_nil] at isElement
  | some parsed =>
      obtain ⟨isParsed, isAllowed⟩ := Option.filter_eq_some_iff.mp isSafe
      have isAllowed := of_decide_eq_true isAllowed
      simp only [renderLink, isSafe] at isElement
      split at isElement
      · simp only [anchor, Html.elements, shownAll, elementsAll, Html.shown, List.append_nil,
          List.mem_singleton] at isElement
        subst isElement
        have noLabel : ([] : Text) = [] ∨ ∃ text, ([] : Text) = text ++ arrow := .inl rfl
        exact .link isParsed isAllowed noLabel
      · simp only [anchor, Html.elements, shownAll, elementsAll, Html.shown, List.append_nil,
          List.mem_singleton] at isElement
        subst isElement
        exact .link isParsed isAllowed (.inr ⟨text, rfl⟩)

/-- Whatever the tree, the page gets nothing but harmless elements. -/
theorem harmless_renderAst (parseUrl : UrlParser) (nodes : List Node) :
    ∀ element ∈ elementsAll (renderAst parseUrl nodes), Harmless parseUrl element := by
  induction nodes using forest_induction with
  | nil => simp [renderAst, elementsAll]
  | cons node nodes inner later =>
      rw [renderAst, elementsAll_append]
      intro element isElement
      rcases List.mem_append.mp isElement with isFirst | isLater
      · clear isElement later
        revert element
        cases node with
        | text value =>
            rw [renderNode]
            exact harmless_renderText
        | lineBreak =>
            simp only [renderNode, elementsAll, Html.elements, shownAll, List.append_nil,
              List.mem_singleton, forall_eq]
            exact .lineBreak
        | code value =>
            simp only [renderNode, elementsAll, Html.elements, List.append_nil, List.mem_cons,
              forall_eq_or_imp]
            exact ⟨.code _, harmless_renderText⟩
        | codeBlock value =>
            simp only [renderNode, elementsAll, Html.elements, List.append_nil, List.mem_cons,
              forall_eq_or_imp]
            exact ⟨.block _, .inner _, harmless_renderText⟩
        | strong children =>
            simp only [renderNode, elementsAll, Html.elements, List.append_nil, List.mem_cons,
              forall_eq_or_imp]
            exact ⟨.strong _, inner⟩
        | emphasis children =>
            simp only [renderNode, elementsAll, Html.elements, List.append_nil, List.mem_cons,
              forall_eq_or_imp]
            exact ⟨.emphasis _, inner⟩
        | link url text =>
            simp only [renderNode, elementsAll, List.append_nil]
            exact harmless_renderLink parseUrl url text
      · exact later element isLater

/-! ## What is shown and how much -/

theorem shownAll_renderLink (parseUrl : UrlParser) (url text : Text) :
    (renderLink parseUrl url text).shown = (Node.link url text).label parseUrl := by
  cases isSafe : parseSafeUrl parseUrl url with
  | none => simp only [renderLink, Node.label, isSafe, Html.shown]
  | some parsed =>
      simp only [renderLink, Node.label, isSafe]
      split <;> simp only [anchor, Html.shown, shownAll, List.append_nil]

theorem elements_renderLink (parseUrl : UrlParser) (url text : Text) :
    markedUnits (renderLink parseUrl url text).elements = [] ∧
      (renderLink parseUrl url text).elements.length ≤ 1 := by
  cases isSafe : parseSafeUrl parseUrl url with
  | none =>
      simp only [renderLink, isSafe, Html.elements]
      exact ⟨rfl, Nat.zero_le _⟩
  | some parsed =>
      simp only [renderLink, isSafe]
      split
      · simp only [anchor, Html.elements, elementsAll]
        exact ⟨rfl, Nat.le_refl _⟩
      · simp only [anchor, Html.elements, elementsAll]
        exact ⟨rfl, Nat.le_refl _⟩

/-- What a page shows of a tree: all of its text, with each zero-width character of
texts and codes marked, in at most two elements for a node and one for a mark. -/
structure Shows (parseUrl : UrlParser) (nodes : List Node) : Prop where
  shown : shownAll (renderAst parseUrl nodes) = labelAll parseUrl nodes
  marks : markedUnits (elementsAll (renderAst parseUrl nodes)) = zeroWidthAll nodes
  size : (elementsAll (renderAst parseUrl nodes)).length ≤
    2 * countAll nodes + (zeroWidthAll nodes).length

theorem markedUnits_cons_of_ne
    {tag : Tag}
    (isOther : tag ≠ .span)
    (attributes : List (Text × Text))
    (text : Text)
    (elements : List Element) :
    markedUnits ((tag, attributes, text) :: elements) = markedUnits elements := by
  rw [markedUnits, List.flatMap_cons, if_neg isOther, List.nil_append]
  rfl

theorem shows_renderAst (parseUrl : UrlParser) (nodes : List Node) : Shows parseUrl nodes := by
  induction nodes using forest_induction with
  | nil => exact ⟨rfl, rfl, Nat.le_refl _⟩
  | cons node nodes inner later =>
      obtain ⟨laterShown, laterMarks, laterSize⟩ := later
      -- one node, whose children are shown already
      have isNode : shownAll (renderNode parseUrl node) = node.label parseUrl ∧
          markedUnits (elementsAll (renderNode parseUrl node)) = node.zeroWidth ∧
          (elementsAll (renderNode parseUrl node)).length ≤
            2 * node.count + node.zeroWidth.length := by
        obtain ⟨innerShown, innerMarks, innerSize⟩ := inner
        cases node with
        | text value =>
            obtain ⟨isShown, areElements⟩ := renderText_spec value
            simp only [renderNode, Node.label, Node.zeroWidth, Node.count, isShown, areElements,
              markedUnits_map_markerElement, List.length_map, true_and]
            omega
        | lineBreak =>
            simp only [renderNode, shownAll, elementsAll, Html.shown, Html.elements, Node.label,
              Node.zeroWidth, Node.count]
            exact ⟨rfl, rfl, by decide⟩
        | code value =>
            obtain ⟨isShown, areElements⟩ := renderText_spec value
            simp only [renderNode, shownAll, elementsAll, Html.shown, Html.elements, Node.label,
              Node.zeroWidth, Node.count, isShown, areElements, List.append_nil,
              markedUnits_cons_of_ne (show Tag.code ≠ .span by decide),
              markedUnits_map_markerElement, List.length_cons, List.length_map, true_and]
            omega
        | codeBlock value =>
            obtain ⟨isShown, areElements⟩ := renderText_spec value
            simp only [renderNode, shownAll, elementsAll, Html.shown, Html.elements, Node.label,
              Node.zeroWidth, Node.count, isShown, areElements, List.append_nil,
              markedUnits_cons_of_ne (show Tag.code ≠ .span by decide),
              markedUnits_cons_of_ne (show Tag.pre ≠ .span by decide),
              markedUnits_map_markerElement, List.length_cons, List.length_map, true_and]
            omega
        | strong children =>
            simp only [Node.children] at innerShown innerMarks innerSize
            simp only [renderNode, shownAll, elementsAll, Html.shown, Html.elements, Node.label,
              Node.zeroWidth, Node.count, innerShown, innerMarks, List.append_nil,
              markedUnits_cons_of_ne (show Tag.strong ≠ .span by decide), List.length_cons, true_and]
            omega
        | emphasis children =>
            simp only [Node.children] at innerShown innerMarks innerSize
            simp only [renderNode, shownAll, elementsAll, Html.shown, Html.elements, Node.label,
              Node.zeroWidth, Node.count, innerShown, innerMarks, List.append_nil,
              markedUnits_cons_of_ne (show Tag.em ≠ .span by decide), List.length_cons, true_and]
            omega
        | link url text =>
            obtain ⟨noMarks, isOne⟩ := elements_renderLink parseUrl url text
            simp only [renderNode, shownAll, elementsAll, List.append_nil, Node.zeroWidth,
              Node.count, shownAll_renderLink, noMarks, true_and]
            exact Nat.le_trans isOne (by decide)
      obtain ⟨isShown, isMarked, isSize⟩ := isNode
      refine ⟨?_, ?_, ?_⟩
      · rw [renderAst, shownAll_append, isShown, laterShown, labelAll]
      · rw [renderAst, elementsAll_append, markedUnits_append, isMarked, laterMarks, zeroWidthAll]
      · rw [renderAst, elementsAll_append, zeroWidthAll, countAll, List.length_append,
          List.length_append]
        omega

/-- The page `renderAst` writes for any message: harmless elements only, all text of its
tree, a mark for each zero-width character of its texts and codes, and at most 1014 elements
besides. `MessageContent` shows a message over the caps as plain text instead. -/
theorem message_rendered
    (unicode : Unicode)
    (parseUrl : UrlParser)
    (raw : Text) :
    (∀ element ∈ elementsAll (renderAst parseUrl (parseMarkdownString unicode raw).nodes),
        Harmless parseUrl element) ∧
      shownAll (renderAst parseUrl (parseMarkdownString unicode raw).nodes) =
        labelAll parseUrl (parseMarkdownString unicode raw).nodes ∧
      markedUnits (elementsAll (renderAst parseUrl (parseMarkdownString unicode raw).nodes)) =
        zeroWidthAll (parseMarkdownString unicode raw).nodes ∧
      (elementsAll (renderAst parseUrl (parseMarkdownString unicode raw).nodes)).length ≤
        1014 + (zeroWidthAll (parseMarkdownString unicode raw).nodes).length := by
  have shows := shows_renderAst parseUrl (parseMarkdownString unicode raw).nodes
  refine ⟨harmless_renderAst parseUrl _, shows.shown, shows.marks, ?_⟩
  have start : Accumulator.WithinBounds ⟨[], 0, false⟩ :=
    ⟨rfl, Nat.zero_le _, Nat.zero_le _⟩
  have bounds := start.parseSegments (splitBlocks (sanitizeUnicode unicode raw))
  have counted := bounds.counted
  have most := bounds.most
  have isBounded : countAll (parseMarkdownString unicode raw).nodes ≤ 507 := by
    rw [parseMarkdownString]
    dsimp only
    simp only [maxTokens, maxEmphasisDepth] at counted most
    omega
  have isSize := shows.size
  omega

end Unseen.Markdown
