import Unseen.IpKey
import Unseen.Markdown

namespace Unseen

/-!
# The address a request is counted for

Behind a proxy the address is the last one of the header the proxy appends to;
otherwise it is the one of the socket.  An IPv4 address inside an IPv6 one counts
as itself.
-/

/-! ## Reading the address -/

/-- `::ffff:` -/
def mappedMark : Text :=
  [Json.colon, Json.colon, 0x66, 0x66, 0x66, 0x66, Json.colon]

/-- `\d+\.\d+\.\d+\.\d+` -/
def isDottedQuad (text : Text) : Bool :=
  let parts := text.splitOn Json.fullStop
  parts.length = 4 && parts.all fun part => part ≠ [] && part.all Json.isDigit

/-- `normalizeIp` -/
def normalizeIp (raw : Text) : Text :=
  if lower (raw.take 7) = mappedMark ∧ isDottedQuad (raw.drop 7) then raw.drop 7 else raw

/-- `unknown` -/
def unknownIp : Text := Json.ascii "unknown".toList

/-- The address that the trusted header ends in. -/
def proxiedIp (runtime : Runtime) (raw : Text) : Option Text := do
  let tokens := ((raw.splitOn Json.comma).map Markdown.trim).filter (· ≠ [])
  let last ← tokens.getLast?
  let candidate := normalizeIp last
  guard (runtime.isIP candidate ≠ 0)
  some candidate

/-- `extractIp`, for the headers of a request and the address of its socket. -/
def extractIp
    (runtime : Runtime) (header : Text → Option Text) (requestIP : Option Text)
    (trustedProxyHeader : Option Text) : Text :=
  let proxied := (trustedProxyHeader.bind header).bind fun raw =>
    if raw = [] then none else proxiedIp runtime raw
  match proxied with
  | some candidate => candidate
  | none =>
      match requestIP with
      | none => unknownIp
      | some address => if address = [] then unknownIp else normalizeIp address

/-! ## Who a request comes from -/

/-- The address of a peer, as it is written. -/
inductive PeerAddress where
  | ipv4 (address : Ipv4Text)
  | ipv6 (address : Ipv6Text)

namespace PeerAddress

def text : PeerAddress → Text
  | ipv4 address => address.text
  | ipv6 address => address.text

end PeerAddress

/-- The IPv4 address that an address of the form `::ffff:a.b.c.d` holds. -/
def Ipv6Text.mapped (address : Ipv6Text) : Option Ipv4Text :=
  if address.head = [] ∧ address.tail.map (List.map lower) = some [[0x66, 0x66, 0x66, 0x66]] then
    address.dotted
  else
    none

/-- Whom a request is counted for: an IPv4 address, or the first 64 bits of an IPv6
address. -/
inductive Owner where
  | ipv4 (address : Ipv4Text)
  | network (bits : Nat)

def PeerAddress.owner : PeerAddress → Owner
  | .ipv4 address => .ipv4 address
  | .ipv6 address =>
      match address.mapped with
      | some inner => .ipv4 inner
      | none => .network (address.address / 2 ^ 64)

/-- What the proxy makes of the header that the client wrote. -/
def appendAddress (written : Option Text) (before after address : Text) : Text :=
  match written with
  | none => before ++ address ++ after
  | some written => written ++ Json.comma :: (before ++ address ++ after)

/-- A request from an address reaches the server: over a socket of that address, or
through the proxy, which appends the address to the client's header. -/
inductive ComesFrom (address : PeerAddress) :
    (Text → Option Text) → Option Text → Option Text → Prop where
  | direct (header : Text → Option Text) :
      ComesFrom address header (some address.text) none
  | proxied {header : Text → Option Text} {name before after : Text} {written : Option Text}
      (requestIP : Option Text)
      (areBlank : ∀ unit ∈ before ++ after, Markdown.isWhitespace unit = true)
      (appended : header name = some (appendAddress written before after address.text)) :
      ComesFrom address header requestIP (some name)

/-! ## Texts of addresses -/

theorem splitOn_ipv4Text (address : Ipv4Text) :
    address.text.splitOn Json.fullStop =
      [ Json.decimal address.first.toNat, Json.decimal address.second.toNat,
        Json.decimal address.third.toNat, Json.decimal address.fourth.toNat ] := by
  refine List.splitOn_intercalate Json.fullStop ?_ (by simp)
  have noStop : ∀ value, Json.fullStop ∉ Json.decimal value := by
    intro value isStop
    exact absurd (Json.isDigit_of_mem_decimal isStop) (by decide)
  simp [noStop]

theorem isDottedQuad_ipv4Text (address : Ipv4Text) : isDottedQuad address.text = true := by
  have areDigits : ∀ value, (Json.decimal value).all Json.isDigit = true := fun value =>
    List.all_eq_true.mpr fun _ => Json.isDigit_of_mem_decimal
  simp [isDottedQuad, splitOn_ipv4Text, areDigits, Json.decimal_ne_nil]

theorem ipv4Text_injective
    {first second : Ipv4Text}
    (same : first.text = second.text) :
    first = second := by
  have sameParts := congrArg (List.splitOn Json.fullStop) same
  rw [splitOn_ipv4Text, splitOn_ipv4Text] at sameParts
  have decimal_inj : ∀ left right : UInt8,
      Json.decimal left.toNat = Json.decimal right.toNat → left = right := by
    intro left right sameText
    have sameValue := congrArg Json.digitsValue sameText
    rw [Json.digitsValue_decimal, Json.digitsValue_decimal] at sameValue
    exact UInt8.toNat_inj.mp sameValue
  simp only [List.cons.injEq, and_true] at sameParts
  obtain ⟨isFirst, isSecond, isThird, isFourth⟩ := sameParts
  obtain ⟨_, _, _, _⟩ := first
  obtain ⟨_, _, _, _⟩ := second
  rw [Ipv4Text.mk.injEq]
  exact ⟨decimal_inj _ _ isFirst, decimal_inj _ _ isSecond, decimal_inj _ _ isThird,
    decimal_inj _ _ isFourth⟩

theorem mem_of_isDottedQuad
    {text : Text}
    (isQuad : isDottedQuad text = true) :
    Json.fullStop ∈ text ∧ Json.colon ∉ text := by
  simp only [isDottedQuad, Bool.and_eq_true, decide_eq_true_eq, List.all_eq_true] at isQuad
  obtain ⟨isLength, areParts⟩ := isQuad
  constructor
  · by_contra noStop
    rw [List.splitOn_eq_singleton noStop] at isLength
    cases isLength
  · intro isColon
    have isJoined : [Json.fullStop].intercalate (text.splitOn Json.fullStop) = text :=
      List.intercalate_splitOn Json.fullStop
    rw [← isJoined] at isColon
    rcases mem_intercalate isColon with isStop | ⟨part, isPart, inPart⟩
    · exact absurd isStop (by decide)
    · exact absurd ((areParts part isPart).2 _ inPart) (by decide)

/-! ## Addresses inside addresses -/

namespace Ipv6Text

variable {address : Ipv6Text}

theorem group_noStop {group : Text} (isGroup : IsGroup group) : Json.fullStop ∉ group := by
  intro isStop
  exact absurd (isGroup.areDigits _ isStop) (by decide)

theorem group_noColon {group : Text} (isGroup : IsGroup group) : Json.colon ∉ group := by
  intro isColon
  exact absurd (isGroup.areDigits _ isColon) (by decide)

/-- The first unit of a text that begins with a part is that of the part. -/
theorem head?_intercalate
    {part : Text}
    (notEmpty : part ≠ [])
    (parts : List Text) :
    ([Json.colon].intercalate (part :: parts)).head? = part.head? := by
  cases parts with
  | nil => rw [List.intercalate_singleton]
  | cons next parts =>
      rw [List.intercalate_cons_cons, List.append_assoc, List.head?_append_of_ne_nil _ notEmpty]

/-- A text that begins with a colon begins with two of them. -/
theorem head_eq_nil_of_colon (isColon : address.text.head? = some Json.colon) :
    address.head = [] ∧ ∃ tail, address.tail = some tail := by
  have areParts : ∀ group ∈ address.head ++ address.dottedGroups,
      group ≠ [] ∧ Json.colon ∉ group := by
    intro group isMember
    rcases List.mem_append.mp isMember with isHead | isDotted
    · have isGroup := address.areGroups group (List.mem_append_left _ isHead)
      exact ⟨isGroup.notEmpty, group_noColon isGroup⟩
    · have isPart := address.isPart_dotted isDotted
      exact ⟨isPart.1, isPart.2.1⟩
  have notPart : ∀ group rest, group ∈ address.head ++ address.dottedGroups →
      ([Json.colon].intercalate (group :: rest)).head? ≠ some Json.colon := by
    intro group rest isMember
    rw [head?_intercalate (areParts group isMember).1]
    exact fun isFirst => (areParts group isMember).2 (List.mem_of_head? isFirst)
  cases isTail : address.tail with
  | none =>
      rw [text, isTail] at isColon
      cases isParts : address.head ++ address.dottedGroups with
      | nil =>
          rw [isParts] at isColon
          cases isColon
      | cons group rest =>
          rw [isParts] at isColon
          exact absurd isColon (notPart group rest (isParts ▸ List.mem_cons_self))
  | some tail =>
      refine ⟨?_, tail, rfl⟩
      cases isHead : address.head with
      | nil => rfl
      | cons group rest =>
          have isMember : group ∈ address.head ++ address.dottedGroups :=
            List.mem_append_left _ (isHead ▸ List.mem_cons_self)
          have notEmpty : [Json.colon].intercalate (group :: rest) ≠ [] := by
            intro isEmpty
            have isFirst := head?_intercalate (areParts group isMember).1 rest
            rw [isEmpty, List.head?_nil] at isFirst
            exact (areParts group isMember).1 (List.head?_eq_none_iff.mp isFirst.symm)
          rw [text, isTail, isHead] at isColon
          rw [List.head?_append_of_ne_nil _ notEmpty] at isColon
          exact absurd isColon (notPart group rest isMember)

theorem lowerUnit_eq_colon {unit : UInt16} (isColon : lowerUnit unit = Json.colon) :
    unit = Json.colon := by
  unfold lowerUnit at isColon
  split at isColon
  · rename_i isLetter
    simp only [UInt16.le_iff_toNat_le, UInt16.reduceToNat] at isLetter
    have sum := congrArg UInt16.toNat isColon
    simp only [UInt16.toNat_add, UInt16.reduceToNat, Json.colon] at sum
    omega
  · exact isColon

/-- What the mark in front of a text says about its units. -/
theorem text_of_mark
    {text : Text}
    (isMark : lower (text.take 7) = mappedMark) :
    ∃ letters : Text, lower letters = [0x66, 0x66, 0x66, 0x66] ∧
      text = Json.colon :: Json.colon :: (letters ++ Json.colon :: text.drop 7) := by
  have isWhole := (List.take_append_drop 7 text).symm
  simp only [lower, mappedMark, List.map_eq_cons_iff, List.map_eq_nil_iff] at isMark
  obtain ⟨first, _, isTake, isFirst, second, _, rfl, isSecond, third, _, rfl, isThird, fourth, _,
    rfl, isFourth, fifth, _, rfl, isFifth, sixth, _, rfl, isSixth, seventh, _, rfl, isSeventh,
    rfl⟩ := isMark
  refine ⟨[third, fourth, fifth, sixth], ?_, ?_⟩
  · simp only [lower, List.map_cons, List.map_nil, isThird, isFourth, isFifth, isSixth]
  · rw [isTake, lowerUnit_eq_colon isFirst, lowerUnit_eq_colon isSecond,
      lowerUnit_eq_colon isSeventh] at isWhole
    exact isWhole

/-- The mark and four numbers are found only where an IPv4 address is held. -/
theorem mapped_of_mark
    (isMark : lower (address.text.take 7) = mappedMark)
    (isQuad : isDottedQuad (address.text.drop 7) = true) :
    ∃ inner, address.mapped = some inner ∧ address.text.drop 7 = inner.text := by
  obtain ⟨hasStop, noColon⟩ := mem_of_isDottedQuad isQuad
  obtain ⟨letters, isLetters, isText⟩ := text_of_mark isMark
  generalize address.text.drop 7 = quad at *
  obtain ⟨isHead, tail, isTail⟩ := head_eq_nil_of_colon (by rw [isText]; rfl)
  have noLetterColon : Json.colon ∉ letters := by
    intro isColon
    have isLower : lowerUnit Json.colon ∈ lower letters := List.mem_map_of_mem isColon
    rw [isLetters] at isLower
    exact absurd isLower (by decide)
  have isJoined : [Json.colon].intercalate (tail ++ address.dottedGroups) =
      letters ++ Json.colon :: quad := by
    rw [text, isTail, isHead] at isText
    simpa using isText
  have areParts : ∀ group ∈ tail ++ address.dottedGroups, Json.colon ∉ group := by
    intro group isMember
    rcases List.mem_append.mp isMember with inTail | isDotted
    · exact group_noColon (address.areGroups group (List.mem_append_right _ (by simpa [isTail])))
    · exact (address.isPart_dotted isDotted).2.1
  have notEmpty : tail ++ address.dottedGroups ≠ [] := by
    intro isEmpty
    rw [isEmpty] at isJoined
    simp at isJoined
  have isSplit := congrArg (List.splitOn Json.colon) isJoined
  rw [List.splitOn_intercalate Json.colon areParts notEmpty, List.splitOn_append_cons_self,
    List.splitOn_eq_singleton noLetterColon, List.splitOn_eq_singleton noColon] at isSplit
  cases isDotted : address.dotted with
  | none =>
      have isQuadGroup : quad ∈ tail := by
        rw [dottedGroups, isDotted] at isSplit
        rw [Option.toList_none, List.map_nil, List.append_nil] at isSplit
        rw [isSplit]
        simp
      have isGroup := address.areGroups quad (List.mem_append_right _ (by simpa [isTail]))
      exact absurd hasStop (group_noStop isGroup)
  | some inner =>
      rw [dottedGroups, isDotted] at isSplit
      obtain ⟨rfl, isInner⟩ := List.append_inj' isSplit rfl
      refine ⟨inner, ?_, (List.cons.inj isInner).1.symm⟩
      rw [mapped, if_pos ⟨isHead, by rw [isTail, Option.map_some, List.map_singleton, isLetters]⟩,
        isDotted]

theorem mark_of_mapped
    {inner : Ipv4Text}
    (isMapped : address.mapped = some inner) :
    lower (address.text.take 7) = mappedMark ∧ address.text.drop 7 = inner.text := by
  unfold mapped at isMapped
  split at isMapped
  · rename_i isForm
    obtain ⟨isHead, isTail⟩ := isForm
    obtain ⟨tail, isTail, isLower⟩ := Option.map_eq_some_iff.mp isTail
    obtain ⟨letters, rfl, isLetters⟩ := List.map_eq_singleton_iff.mp isLower
    have isLength : letters.length = 4 := by
      have isLowerLength := congrArg List.length isLetters
      rwa [lower, List.length_map] at isLowerLength
    obtain ⟨first, second, third, fourth, rfl⟩ := List.length_eq_four.mp isLength
    have isText : address.text =
        Json.colon :: Json.colon :: first :: second :: third :: fourth :: Json.colon ::
          inner.text := by
      rw [text, isTail, isHead, dottedGroups, isMapped]
      simp [List.intercalate_cons_cons]
    rw [isText]
    refine ⟨?_, rfl⟩
    simp only [lower, List.map_cons, List.map_nil] at isLetters
    simp only [List.take_succ_cons, List.take_zero, lower, List.map_cons, List.map_nil,
      mappedMark]
    rw [List.cons.injEq, List.cons.injEq]
    refine ⟨by decide, by decide, ?_⟩
    have isColon : lowerUnit Json.colon = Json.colon := by decide
    rw [isColon]
    exact congrArg (· ++ [Json.colon]) isLetters
  · cases isMapped

/-- An address is normalized to the IPv4 address it holds, and to itself where it holds
none. -/
theorem normalizeIp_text (address : Ipv6Text) :
    normalizeIp address.text =
      match address.mapped with
      | some inner => inner.text
      | none => address.text := by
  cases isMapped : address.mapped with
  | some inner =>
      obtain ⟨isMark, isInner⟩ := mark_of_mapped isMapped
      rw [normalizeIp, isInner, if_pos ⟨isMark, isDottedQuad_ipv4Text inner⟩]
  | none =>
      rw [normalizeIp, if_neg]
      rintro ⟨isMark, isQuad⟩
      obtain ⟨inner, isSome, -⟩ := mapped_of_mark isMark isQuad
      rw [isMapped] at isSome
      cases isSome

end Ipv6Text

/-! ## Who is found -/

/-- The address a request is counted under, as text. -/
def PeerAddress.normalized : PeerAddress → Text
  | .ipv4 address => address.text
  | .ipv6 address =>
      match address.mapped with
      | some inner => inner.text
      | none => address.text

theorem normalizeIp_ipv4Text (address : Ipv4Text) : normalizeIp address.text = address.text := by
  rw [normalizeIp, if_neg]
  rintro ⟨isMark, -⟩
  obtain ⟨letters, -, isText⟩ := Ipv6Text.text_of_mark isMark
  have isColon : Json.colon ∈ address.text := by
    rw [isText]
    exact List.mem_cons_self
  exact (mem_ipv4Text isColon).1 rfl

theorem normalizeIp_peer (address : PeerAddress) :
    normalizeIp address.text = address.normalized := by
  cases address with
  | ipv4 address => exact normalizeIp_ipv4Text address
  | ipv6 address => exact address.normalizeIp_text

theorem isIP_normalized
    {runtime : Runtime}
    (documented : runtime.Documented)
    (address : PeerAddress) :
    runtime.isIP address.normalized ≠ 0 := by
  cases address with
  | ipv4 address =>
      rw [PeerAddress.normalized, documented.ipv4]
      decide
  | ipv6 address =>
      rw [PeerAddress.normalized]
      cases address.mapped with
      | some inner =>
          dsimp only
          rw [documented.ipv4]
          decide
      | none =>
          dsimp only
          rw [documented.ipv6]
          decide

/-- Between the full stop and the letter z there are no blanks and no commas. -/
theorem plain_of_range
    {unit : UInt16}
    (low : 0x2E ≤ unit)
    (high : unit ≤ 0x7A) :
    Markdown.isWhitespace unit = false ∧ unit ≠ Json.comma := by
  rw [UInt16.le_iff_toNat_le] at low high
  simp only [UInt16.reduceToNat] at low high
  constructor
  · simp only [Markdown.isWhitespace, Markdown.isLineTerminator, Markdown.isBlank,
      Markdown.newline, Markdown.space, Bool.or_eq_false_iff, beq_eq_false_iff_ne, ne_eq,
      ← UInt16.toNat_inj, UInt16.reduceToNat, Bool.and_eq_false_iff, decide_eq_false_iff_not,
      UInt16.le_iff_toNat_le]
    omega
  · rintro rfl
    exact absurd low (by decide)

theorem range_of_mem_hexUnits :
    ∀ unit ∈ hexUnits, 0x2E ≤ unit ∧ unit ≤ 0x7A :=
  List.forall_iff_forall_mem.mp (by decide)

theorem range_of_mem_ipv4Text
    {address : Ipv4Text}
    {unit : UInt16}
    (isUnit : unit ∈ address.text) :
    0x2E ≤ unit ∧ unit ≤ 0x7A := by
  rcases isDigit_of_mem_text isUnit with rfl | isDigit
  · decide
  · simp only [Json.isDigit, Bool.and_eq_true, decide_eq_true_eq] at isDigit
    exact ⟨UInt16.le_trans (by decide) isDigit.1, UInt16.le_trans isDigit.2 (by decide)⟩

theorem range_of_mem_ipv6Text
    {address : Ipv6Text}
    {unit : UInt16}
    (isUnit : unit ∈ address.text) :
    0x2E ≤ unit ∧ unit ≤ 0x7A := by
  have ofGroups : ∀ groups : List Text,
      (∀ group ∈ groups, group ∈ address.head ++ address.tail.getD [] ∨
        group ∈ address.dottedGroups) →
        ∀ unit ∈ [Json.colon].intercalate groups, 0x2E ≤ unit ∧ unit ≤ 0x7A := by
    intro groups areGroups unit isUnit
    rcases mem_intercalate isUnit with rfl | ⟨group, isGroup, isUnit⟩
    · decide
    · rcases areGroups group isGroup with isWritten | isDotted
      · exact range_of_mem_hexUnits unit
          ((address.areGroups group isWritten).areDigits unit isUnit)
      · obtain ⟨dotted, -, rfl⟩ := List.mem_map.mp isDotted
        exact range_of_mem_ipv4Text isUnit
  unfold Ipv6Text.text at isUnit
  cases isTail : address.tail with
  | none =>
      rw [isTail] at isUnit ofGroups
      refine ofGroups _ (fun group isGroup => ?_) unit isUnit
      exact (List.mem_append.mp isGroup).imp (List.mem_append_left _) id
  | some tail =>
      rw [isTail] at isUnit ofGroups
      simp only [List.mem_append, List.mem_cons] at isUnit
      rcases isUnit with inHead | rfl | rfl | inTail
      · exact ofGroups _ (fun group isGroup => .inl (List.mem_append_left _ isGroup)) unit inHead
      · decide
      · decide
      · refine ofGroups _ (fun group isGroup => ?_) unit inTail
        exact (List.mem_append.mp isGroup).imp (List.mem_append_right _) id

/-- The units of an address are no white space and no commas. -/
theorem mem_peerText
    {address : PeerAddress}
    {unit : UInt16}
    (isUnit : unit ∈ address.text) :
    Markdown.isWhitespace unit = false ∧ unit ≠ Json.comma := by
  cases address with
  | ipv4 address =>
      have isRange := range_of_mem_ipv4Text isUnit
      exact plain_of_range isRange.1 isRange.2
  | ipv6 address =>
      have isRange := range_of_mem_ipv6Text isUnit
      exact plain_of_range isRange.1 isRange.2

theorem peerText_ne_nil (address : PeerAddress) : address.text ≠ [] := by
  cases address with
  | ipv4 address => exact List.ne_nil_of_mem (fullStop_mem_ipv4Text address)
  | ipv6 address =>
      intro isEmpty
      have isKnown := plainRuntime_documented.ipv6 address
      rw [show address.text = [] from isEmpty] at isKnown
      exact absurd isKnown (by decide)

/-- Blanks around a text without blanks are trimmed. -/
theorem trim_blanks
    {before core after : Text}
    (areBlank : ∀ unit ∈ before ++ after, Markdown.isWhitespace unit = true)
    (notBlank : ∀ unit ∈ core, Markdown.isWhitespace unit = false)
    (notEmpty : core ≠ []) :
    Markdown.trim (before ++ core ++ after) = core := by
  have dropped : ∀ {blanks rest : Text},
      (∀ unit ∈ blanks, Markdown.isWhitespace unit = true) →
        (∀ unit ∈ rest.head?, Markdown.isWhitespace unit = false) →
          (blanks ++ rest).dropWhile Markdown.isWhitespace = rest := by
    intro blanks rest areBlank isFirst
    rw [List.dropWhile_append_of_pos areBlank]
    cases rest with
    | nil => rfl
    | cons unit rest =>
        rw [List.dropWhile_cons_of_neg (Bool.eq_false_iff.mp (isFirst unit rfl))]
  rw [Markdown.trim, List.append_assoc, dropped, Markdown.trimEnd, List.reverse_append, dropped,
    List.reverse_reverse]
  · intro unit isUnit
    exact areBlank unit (List.mem_append_right _ (List.mem_reverse.mp isUnit))
  · intro unit isFirst
    exact notBlank unit (List.mem_reverse.mp (List.mem_of_mem_head? isFirst))
  · intro unit isUnit
    exact areBlank unit (List.mem_append_left _ isUnit)
  · intro unit isFirst
    rw [List.head?_append_of_ne_nil _ notEmpty] at isFirst
    exact notBlank unit (List.mem_of_mem_head? isFirst)

/-- Whatever the client wrote, the last token is the address that was appended. -/
theorem proxiedIp_appendAddress
    {runtime : Runtime}
    (documented : runtime.Documented)
    (address : PeerAddress)
    {before after : Text}
    (areBlank : ∀ unit ∈ before ++ after, Markdown.isWhitespace unit = true)
    (written : Option Text) :
    proxiedIp runtime (appendAddress written before after address.text) =
      some address.normalized := by
  have trimmed : Markdown.trim (before ++ address.text ++ after) = address.text :=
    trim_blanks areBlank (fun unit isUnit => (mem_peerText isUnit).1) (peerText_ne_nil address)
  have noComma : Json.comma ∉ before ++ address.text ++ after := by
    intro isComma
    simp only [List.mem_append] at isComma areBlank
    rcases isComma with (inBefore | inAddress) | inAfter
    · exact absurd (areBlank _ (.inl inBefore)) (by decide)
    · exact (mem_peerText inAddress).2 rfl
    · exact absurd (areBlank _ (.inr inAfter)) (by decide)
  have isLast : ((((appendAddress written before after address.text).splitOn Json.comma).map
      Markdown.trim).filter (· ≠ [])).getLast? = some address.text := by
    cases written with
    | none =>
        rw [appendAddress, List.splitOn_eq_singleton noComma]
        simp [-List.append_assoc, trimmed, peerText_ne_nil address]
    | some written =>
        rw [appendAddress, List.splitOn_append_cons_self, List.splitOn_eq_singleton noComma,
          List.map_append, List.filter_append]
        simp [-List.append_assoc, trimmed, peerText_ne_nil address]
  have isAddress := isIP_normalized documented address
  simp only [proxiedIp, isLast, Option.bind_eq_bind, Option.bind_some, normalizeIp_peer]
  simp [isAddress, guard]

theorem extractIp_eq
    {runtime : Runtime}
    (documented : runtime.Documented)
    {address : PeerAddress}
    {header : Text → Option Text}
    {requestIP trustedProxyHeader : Option Text}
    (comes : ComesFrom address header requestIP trustedProxyHeader) :
    extractIp runtime header requestIP trustedProxyHeader = address.normalized := by
  cases comes with
  | direct =>
      simp only [extractIp, Option.bind_none, if_neg (peerText_ne_nil address), normalizeIp_peer]
  | @proxied name before after written _ areBlank appended =>
      have notEmpty : appendAddress written before after address.text ≠ [] := by
        cases written <;> simp [appendAddress, peerText_ne_nil]
      simp only [extractIp, Option.bind_some, appended, if_neg notEmpty,
        proxiedIp_appendAddress documented address areBlank]

/-! ## Buckets -/

theorem shortest_ne_nil (value : Nat) : shortest value ≠ [] := by
  unfold shortest
  split
  · simp
  · rename_i notZero
    simpa [Nat.digits_ne_nil_iff_ne_zero] using notZero

/-- Two IPv6 texts have one key exactly if the addresses share their first 64 bits. -/
theorem bucketKey_groups_iff
    {runtime : Runtime}
    (documented : runtime.Documented)
    (first second : Ipv6Text) :
    bucketKey runtime first.text = bucketKey runtime second.text ↔
      first.address / 2 ^ 64 = second.address / 2 ^ 64 := by
  have areGroups : ∀ address : Ipv6Text, ∀ group ∈ (address.written.take 4).map lower,
      group ≠ [] ∧ ∀ unit ∈ group, unit ∈ lowerUnits := by
    intro address group isLower
    obtain ⟨original, isOriginal, rfl⟩ := List.mem_map.mp isLower
    have isPart := isPart_lower (address.isGroup_of_mem_written (List.mem_of_mem_take isOriginal))
    exact ⟨isPart.1, isPart.2.2.2⟩
  have valued : ∀ address : Ipv6Text, ((address.written.take 4).map lower).map groupValue =
      (address.written.take 4).map groupValue := by
    intro address
    rw [List.map_map]
    refine List.map_congr_left fun group isGroup => groupValue_lower ?_
    exact (address.isGroup_of_mem_written (List.mem_of_mem_take isGroup)).areDigits
  have parts : ∀ address : Ipv6Text,
      groupsOf ([Json.colon].intercalate (((address.written.take 4).map lower).map stripZeros)) =
        ((address.written.take 4).map lower).map stripZeros := by
    intro address
    apply groupsOf_intercalate
    intro part isPart
    obtain ⟨group, isGroup, rfl⟩ := List.mem_map.mp isPart
    obtain ⟨notEmpty, areLower⟩ := areGroups address group isGroup
    refine ⟨?_, fun isColon =>
      (not_mark_of_mem Json.colon (areLower Json.colon (stripZeros_subset group isColon))).1 rfl⟩
    rw [stripZeros_eq_shortest notEmpty areLower]
    exact shortest_ne_nil _
  rw [address_div_eq_iff, first.bucketKey_eq documented, second.bucketKey_eq documented,
    List.append_left_inj, ← valued first, ← valued second,
    ← map_stripZeros_inj fun group isGroup =>
      (List.mem_append.mp isGroup).elim (areGroups first group) (areGroups second group)]
  exact ⟨fun same => by rw [← parts first, same, parts second], fun same => by rw [same]⟩

/-- A request is counted under its IPv4 address, or under the first 64 bits of its IPv6
address. -/
theorem bucketKey_normalized_iff
    {runtime : Runtime}
    (documented : runtime.Documented)
    (first second : PeerAddress) :
    bucketKey runtime first.normalized = bucketKey runtime second.normalized ↔
      first.owner = second.owner := by
  have keyed : ∀ address : Ipv4Text, bucketKey runtime address.text = address.text := by
    intro address
    rw [bucketKey, if_neg (by rw [documented.ipv4]; decide)]
  have apart : ∀ (inner : Ipv4Text) (outer : Ipv6Text),
      inner.text ≠ bucketKey runtime outer.text := by
    intro inner outer same
    have isColon := outer.colon_mem_bucketKey documented
    rw [← same] at isColon
    exact (mem_ipv4Text isColon).1 rfl
  -- a peer counts as an IPv4 address or as an IPv6 address that holds none
  have counted : ∀ peer : PeerAddress,
      (∃ inner : Ipv4Text, peer.normalized = inner.text ∧ peer.owner = .ipv4 inner) ∨
        ∃ outer : Ipv6Text, peer.normalized = outer.text ∧
          peer.owner = .network (outer.address / 2 ^ 64) := by
    intro peer
    cases peer with
    | ipv4 address => exact .inl ⟨address, rfl, rfl⟩
    | ipv6 address =>
        cases isMapped : address.mapped with
        | some inner =>
            exact .inl ⟨inner, by simp only [PeerAddress.normalized, isMapped],
              by simp only [PeerAddress.owner, isMapped]⟩
        | none =>
            exact .inr ⟨address, by simp only [PeerAddress.normalized, isMapped],
              by simp only [PeerAddress.owner, isMapped]⟩
  obtain ⟨left, isLeft, leftOwner⟩ | ⟨left, isLeft, leftOwner⟩ := counted first <;>
    obtain ⟨right, isRight, rightOwner⟩ | ⟨right, isRight, rightOwner⟩ := counted second <;>
      rw [isLeft, isRight, leftOwner, rightOwner]
  · rw [keyed, keyed, Owner.ipv4.injEq]
    exact ⟨ipv4Text_injective, congrArg Ipv4Text.text⟩
  · rw [keyed]
    exact ⟨fun same => absurd same (apart left right), fun same => by cases same⟩
  · rw [keyed]
    exact ⟨fun same => absurd same.symm (apart right left), fun same => by cases same⟩
  · rw [bucketKey_groups_iff documented, Owner.network.injEq]

/-- Whatever headers the clients write, two requests are counted in one bucket exactly
if they come from one IPv4 address, written as such or inside an IPv6 address, or from
one IPv6 network of 64 bits. -/
theorem sameBucket_iff
    {runtime : Runtime}
    (documented : runtime.Documented)
    {first second : PeerAddress}
    {header otherHeader : Text → Option Text}
    {requestIP otherIP trusted otherTrusted : Option Text}
    (comes : ComesFrom first header requestIP trusted)
    (others : ComesFrom second otherHeader otherIP otherTrusted) :
    bucketKey runtime (extractIp runtime header requestIP trusted) =
        bucketKey runtime (extractIp runtime otherHeader otherIP otherTrusted) ↔
      first.owner = second.owner := by
  rw [extractIp_eq documented comes, extractIp_eq documented others]
  exact bucketKey_normalized_iff documented first second

/-- `::ffff:1.2.3.4` -/
def mappedAddress : Ipv6Text where
  head := []
  tail := some [[0x66, 0x66, 0x66, 0x66]]
  dotted := some ⟨1, 2, 3, 4⟩
  areGroups := by
    simp only [Option.getD_some, List.nil_append, List.forall_mem_cons, List.not_mem_nil,
      false_imp_iff, implies_true, and_true]
    exact ⟨by decide, by decide, List.forall_iff_forall_mem.mp (by decide)⟩
  isWhole := by decide
  leavesOut := by simp

/-- The header of a client that claims two other addresses. -/
def spoofedHeader : Text → Option Text := fun _ =>
  some (appendAddress (some (Json.ascii "5.6.7.8, 2001:db8::1".toList)) [0x20] []
    (PeerAddress.ipv4 ⟨1, 2, 3, 4⟩).text)

theorem spoofedHeader_comesFrom :
    ComesFrom (.ipv4 ⟨1, 2, 3, 4⟩) spoofedHeader none (some [0x78]) :=
  .proxied none (List.all_eq_true.mp rfl) rfl

theorem sameBucket_spoofed :
    bucketKey plainRuntime (extractIp plainRuntime spoofedHeader none (some [0x78])) =
        bucketKey plainRuntime
          (extractIp plainRuntime (fun _ => none) (some mappedAddress.text) none) ↔
      (PeerAddress.ipv4 ⟨1, 2, 3, 4⟩).owner = (PeerAddress.ipv6 mappedAddress).owner :=
  sameBucket_iff plainRuntime_documented spoofedHeader_comesFrom (ComesFrom.direct _)

end Unseen
