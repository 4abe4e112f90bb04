import Unseen.PosixPath
import Unseen.Unicode

namespace Unseen.Static

/-!
# The files a request can name

The pathname of a request is looked up among the routes of the page, or matched
against an allowlist, decoded, resolved below the directory of the client and
checked to lie in it.
-/

/-! ## Percent encoding -/

def percentSign : UInt16 := 0x25

/-- A code unit of a text, or a byte written as `%` and two digits. -/
inductive Token where
  | unit (unit : UInt16)
  | byte (byte : UInt8)

def tokens : Text → Option (List Token)
  | [] => some []
  | unit :: rest =>
      if unit = percentSign then
        match rest with
        | high :: low :: rest => do
            let high ← Json.hexValue high
            let low ← Json.hexValue low
            let rest ← tokens rest
            some (.byte (UInt8.ofNat (0x10 * high + low)) :: rest)
        | _ => none
      else
        (tokens rest).map (.unit unit :: ·)

/-- The length of the UTF-8 sequence that a byte begins. -/
def sequenceLength (byte : UInt8) : Option Nat :=
  if byte < 0x80 then some 1
  else if byte < 0xC0 then none
  else if byte < 0xE0 then some 2
  else if byte < 0xF0 then some 3
  else if byte < 0xF8 then some 4
  else none

/-- The text of tokens, after the first bytes of a sequence. -/
def decodeTokens : Bytes → List Token → Option Text
  | [], [] => some []
  | _ :: _, [] => none
  | sequence, .unit unit :: rest => do
      guard (sequence = [])
      let rest ← decodeTokens [] rest
      some (unit :: rest)
  | sequence, .byte byte :: rest => do
      let sequence := sequence ++ [byte]
      let length ← sequence.head?.bind sequenceLength
      if sequence.length < length then
        decodeTokens sequence rest
      else
        let decoded ← sequence.toByteArray.utf8Decode?
        let rest ← decodeTokens [] rest
        some (decoded.toList.flatMap Unicode.codeUnits ++ rest)

/-- `decodeURIComponent` -/
def decodeURIComponent (text : Text) : Option Text :=
  (tokens text).bind (decodeTokens [])

theorem tokens_cons
    {unit : UInt16}
    (isOther : unit ≠ percentSign)
    (rest : Text) :
    tokens (unit :: rest) = (tokens rest).map (.unit unit :: ·) := by
  cases rest with
  | nil => simp [tokens, isOther]
  | cons low rest =>
      cases rest with
      | nil => simp [tokens, isOther]
      | cons second rest => rw [tokens, if_neg isOther]

theorem tokens_of_noPercent
    {text : Text}
    (noPercent : percentSign ∉ text) :
    tokens text = some (text.map .unit) := by
  induction text with
  | nil => rfl
  | cons unit rest ih =>
      have isOther : unit ≠ percentSign := fun same => noPercent (same ▸ List.mem_cons_self)
      rw [tokens_cons isOther, ih fun isMember => noPercent (List.mem_cons_of_mem _ isMember)]
      rfl

theorem decodeTokens_units (text : Text) :
    decodeTokens [] (text.map .unit) = some text := by
  induction text with
  | nil => rfl
  | cons unit rest ih =>
      rw [List.map_cons, decodeTokens, ih]
      rfl

/-- A text without `%` is decoded to itself. -/
theorem decodeURIComponent_of_noPercent
    {text : Text}
    (noPercent : percentSign ∉ text) :
    decodeURIComponent text = some text := by
  rw [decodeURIComponent, tokens_of_noPercent noPercent]
  exact decodeTokens_units text

/-! ## Routes and assets -/

def indexName : Text := Json.ascii "index.html".toList
def teapotName : Text := Json.ascii "r402.html".toList

/-- `SPA_ROUTES` -/
def spaRoutes : List (Text × Text) :=
  [(Json.ascii "/".toList, indexName), (Json.ascii "/r402".toList, teapotName)]

def assetsName : Text := Json.ascii "assets".toList
def faviconName : Text := Json.ascii "favicon.svg".toList
def robotsName : Text := Json.ascii "robots.txt".toList
def sitemapName : Text := Json.ascii "sitemap.xml".toList
def ogImageName : Text := Json.ascii "og-image.png".toList

/-- The names that are allowed next to the assets. -/
def rootNames : List Text :=
  [faviconName, robotsName, sitemapName, ogImageName]

def assetExtensions : List Text :=
  [ Json.ascii "js".toList, Json.ascii "css".toList, Json.ascii "woff2".toList,
    Json.ascii "svg".toList, Json.ascii "png".toList, Json.ascii "webp".toList,
    Json.ascii "avif".toList, Json.ascii "ico".toList ]

/-- `[A-Za-z0-9._-]` -/
def isNameUnit (unit : UInt16) : Bool :=
  (0x41 ≤ unit && unit ≤ 0x5A) || (0x61 ≤ unit && unit ≤ 0x7A) || (0x30 ≤ unit && unit ≤ 0x39) ||
    unit == Json.fullStop || unit == 0x5F || unit == Json.hyphen

/-- A stem of allowed units, a dot and the extension. -/
def hasExtension (name extension : Text) : Bool :=
  let stem := name.take (name.length - (extension.length + 1))
  (Json.fullStop :: extension).isSuffixOf name && stem ≠ [] && stem.all isNameUnit

/-- The first expression of `STATIC_ALLOWLIST`. -/
def isAsset (pathname : Text) : Bool :=
  let directory := slash :: assetsName ++ [slash]
  directory.isPrefixOf pathname &&
    assetExtensions.any (hasExtension (pathname.drop directory.length))

/-- `STATIC_ALLOWLIST.some((re) => re.test(pathname))` -/
def isAllowed (pathname : Text) : Bool :=
  isAsset pathname || rootNames.any fun name => pathname = slash :: name

/-! ## The file of a request -/

end Unseen.Static

namespace Unseen.AbsolutePath

/-- `path.join(root, text)` -/
def join (root : AbsolutePath) (text : Text) : AbsolutePath where
  segments := follow root.segments text
  normal := foldl_advance_normal _ (fun _ isPart => slash_notMem_of_mem_splitOn isPart) root.normal

theorem join_segment
    (root : AbsolutePath)
    {segment : Text}
    (isSegment : IsSegment segment) :
    (root.join segment).segments = root.segments ++ [segment] := by
  have alone : segment.splitOn slash = [segment] :=
    List.splitOn_eq_singleton isSegment.noSlash
  simp only [join, follow, alone]
  exact foldl_advance (by simpa using isSegment) root.segments

end Unseen.AbsolutePath

namespace Unseen.Static

/-- The file that `serveStaticAsset` looks for. -/
def assetPath (root : AbsolutePath) (pathname : Text) : Option AbsolutePath :=
  if isAllowed pathname then
    match decodeURIComponent pathname with
    | none => none
    | some decodedPath =>
        let filePath := root.resolve (Json.fullStop :: decodedPath)
        if root.asDirectory.isPrefixOf filePath.text then some filePath else none
  else
    none

/-- The file that `handleHttpRequest` looks for, and whether it may be kept for
good. -/
def requestedFile (root : AbsolutePath) (pathname : Text) : Option (AbsolutePath × Bool) :=
  match spaRoutes.lookup pathname with
  | some name => some (root.join name, false)
  | none => (assetPath root pathname).map (·, true)

/-! ## What can be asked for -/

/-- A pathname, the segments of its file below the root, and whether the file may
be kept for good. -/
inductive SiteFile : Text → List Text → Bool → Prop where
  | index : SiteFile [slash] [indexName] false
  | teapot : SiteFile (Json.ascii "/r402".toList) [teapotName] false
  | named {name : Text}
      (isNamed : name ∈ rootNames) : SiteFile (slash :: name) [name] true
  | asset {stem extension : Text}
      (notEmpty : stem ≠ [])
      (isStem : ∀ unit ∈ stem, isNameUnit unit = true)
      (isExtension : extension ∈ assetExtensions) :
      SiteFile
        (slash :: assetsName ++ slash :: (stem ++ Json.fullStop :: extension))
        [assetsName, stem ++ Json.fullStop :: extension] true

theorem hasExtension_iff {name extension : Text} :
    hasExtension name extension = true ↔
      ∃ stem, stem ≠ [] ∧ (∀ unit ∈ stem, isNameUnit unit = true) ∧
        name = stem ++ Json.fullStop :: extension := by
  simp only [hasExtension, ne_eq, Bool.and_eq_true, List.isSuffixOf_iff_suffix, decide_eq_true_eq,
    List.all_eq_true]
  constructor
  · rintro ⟨⟨⟨stem, rfl⟩, notEmpty⟩, isStem⟩
    have isTaken : (stem ++ Json.fullStop :: extension).take
        ((stem ++ Json.fullStop :: extension).length - (extension.length + 1)) = stem := by
      simp
    rw [isTaken] at notEmpty isStem
    exact ⟨stem, notEmpty, isStem, rfl⟩
  · rintro ⟨stem, notEmpty, isStem, rfl⟩
    have isTaken : (stem ++ Json.fullStop :: extension).take
        ((stem ++ Json.fullStop :: extension).length - (extension.length + 1)) = stem := by
      simp
    rw [isTaken]
    exact ⟨⟨⟨stem, rfl⟩, notEmpty⟩, isStem⟩

theorem isAsset_iff {pathname : Text} :
    isAsset pathname = true ↔
      ∃ stem extension, stem ≠ [] ∧ (∀ unit ∈ stem, isNameUnit unit = true) ∧
        extension ∈ assetExtensions ∧
        pathname = slash :: assetsName ++ slash :: (stem ++ Json.fullStop :: extension) := by
  simp only [isAsset, Bool.and_eq_true, List.isPrefixOf_iff_prefix, List.any_eq_true]
  constructor
  · rintro ⟨⟨name, rfl⟩, extension, isExtension, hasIt⟩
    rw [List.drop_left, hasExtension_iff] at hasIt
    obtain ⟨stem, notEmpty, isStem, rfl⟩ := hasIt
    exact ⟨stem, extension, notEmpty, isStem, isExtension, by simp⟩
  · rintro ⟨stem, extension, notEmpty, isStem, isExtension, rfl⟩
    refine ⟨⟨stem ++ Json.fullStop :: extension, by simp⟩, extension, isExtension, ?_⟩
    rw [hasExtension_iff]
    exact ⟨stem, notEmpty, isStem, by simp⟩

/-- The allowlist in terms of pathnames. -/
theorem isAllowed_iff {pathname : Text} :
    isAllowed pathname = true ↔ ∃ below, SiteFile pathname below true := by
  simp only [isAllowed, Bool.or_eq_true, isAsset_iff, List.any_eq_true, decide_eq_true_eq]
  constructor
  · rintro (⟨stem, extension, notEmpty, isStem, isExtension, rfl⟩ | ⟨name, isNamed, rfl⟩)
    · exact ⟨_, .asset notEmpty isStem isExtension⟩
    · exact ⟨_, .named isNamed⟩
  · rintro ⟨below, isFile⟩
    cases isFile with
    | named isNamed => exact .inr ⟨_, isNamed, rfl⟩
    | asset notEmpty isStem isExtension => exact .inl ⟨_, _, notEmpty, isStem, isExtension, rfl⟩

theorem notMem_of_isNameUnit
    {name : Text}
    (areUnits : ∀ unit ∈ name, isNameUnit unit = true) :
    slash ∉ name ∧ percentSign ∉ name := by
  constructor
  · intro isSlash
    exact absurd (areUnits _ isSlash) (by decide)
  · intro isPercent
    exact absurd (areUnits _ isPercent) (by decide)

theorem isNameUnit_of_mem_assetExtensions :
    ∀ extension ∈ assetExtensions, ∀ unit ∈ extension, isNameUnit unit = true := by
  intro extension isExtension
  have areUnits : (assetExtensions.all fun listed => listed.all isNameUnit) = true := by decide
  exact List.all_eq_true.mp (List.all_eq_true.mp areUnits extension isExtension)

theorem length_of_mem_assetExtensions :
    ∀ extension ∈ assetExtensions, 2 ≤ extension.length := by
  decide

/-- The name of an asset is made of units of names and has at least four of them. -/
theorem asset_isSegment
    {stem extension : Text}
    (notEmpty : stem ≠ [])
    (isStem : ∀ unit ∈ stem, isNameUnit unit = true)
    (isExtension : extension ∈ assetExtensions) :
    IsSegment (stem ++ Json.fullStop :: extension) ∧
      ∀ unit ∈ stem ++ Json.fullStop :: extension, isNameUnit unit = true := by
  have areUnits : ∀ unit ∈ stem ++ Json.fullStop :: extension, isNameUnit unit = true := by
    intro unit isUnit
    rcases List.mem_append.mp isUnit with inStem | inExtension
    · exact isStem unit inStem
    · rcases List.mem_cons.mp inExtension with rfl | inExtension
      · decide
      · exact isNameUnit_of_mem_assetExtensions extension isExtension unit inExtension
  have isLong : 4 ≤ (stem ++ Json.fullStop :: extension).length := by
    have isStemLong := List.length_pos_iff.mpr notEmpty
    have isExtensionLong := length_of_mem_assetExtensions extension isExtension
    simp only [List.length_append, List.length_cons]
    omega
  refine ⟨⟨?_, ?_, ?_, (notMem_of_isNameUnit areUnits).1⟩, areUnits⟩
  all_goals
    intro same
    rw [same] at isLong
    exact absurd isLong (by decide)

/-- The segments of an allowed pathname are segments as they stand. -/
theorem SiteFile.joined
    {pathname : Text}
    {below : List Text}
    (isFile : SiteFile pathname below true) :
    pathname = AbsolutePath.joined below ∧ below ≠ [] ∧ percentSign ∉ pathname ∧
      ∀ segment ∈ below, IsSegment segment := by
  cases isFile with
  | @named name isNamed =>
      have areNames : ∀ name ∈ rootNames, percentSign ∉ slash :: name ∧ IsSegment name := by
        decide
      exact ⟨by simp, by simp, (areNames name isNamed).1,
        by simpa using (areNames name isNamed).2⟩
  | @asset stem extension notEmpty isStem isExtension =>
      obtain ⟨isSegment, areUnits⟩ := asset_isSegment notEmpty isStem isExtension
      have noPercent := (notMem_of_isNameUnit areUnits).2
      have isDirectory : percentSign ∉ slash :: assetsName ++ [slash] ∧ IsSegment assetsName := by
        decide
      refine ⟨by simp, by simp, ?_, ?_⟩
      · intro isPercent
        rcases List.mem_append.mp isPercent with inDirectory | inName
        · exact isDirectory.1 (List.mem_append_left _ inDirectory)
        · rcases List.mem_cons.mp inName with isSlash | inName
          · exact absurd isSlash (by decide)
          · exact noPercent inName
      · intro segment isMember
        rcases List.mem_cons.mp isMember with rfl | isMember
        · exact isDirectory.2
        · rw [List.mem_singleton.mp isMember]
          exact isSegment

/-- For an allowed pathname decoding changes nothing, and resolving appends its
segments to those of the root. -/
theorem assetPath_of_siteFile
    (root : AbsolutePath)
    {pathname : Text}
    {below : List Text}
    (isFile : SiteFile pathname below true) :
    ∃ file, assetPath root pathname = some file ∧ file.segments = root.segments ++ below := by
  obtain ⟨isJoined, notEmpty, noPercent, areSegments⟩ := isFile.joined
  have isBelow : (root.resolve (Json.fullStop :: pathname)).segments = root.segments ++ below := by
    rw [isJoined]
    exact root.resolve_joined areSegments
  have isText : (root.resolve (Json.fullStop :: pathname)).text =
      AbsolutePath.joined (root.segments ++ below) := by
    rw [AbsolutePath.text, isBelow, if_neg]
    simp [notEmpty]
  have isInside : root.asDirectory <+: (root.resolve (Json.fullStop :: pathname)).text := by
    rw [root.asDirectory_eq, isText, AbsolutePath.joined_isPrefix_iff root.normal]
    · exact ⟨below, notEmpty, rfl⟩
    · rw [← isBelow]
      exact (root.resolve _).normal
  refine ⟨_, ?_, isBelow⟩
  simp only [assetPath, isAllowed_iff.mpr ⟨below, isFile⟩, if_true,
    decodeURIComponent_of_noPercent noPercent, List.isPrefixOf_iff_prefix.mpr isInside]

theorem assetPath_eq_some_iff
    {root file : AbsolutePath}
    {pathname : Text} :
    assetPath root pathname = some file ↔
      ∃ below, SiteFile pathname below true ∧ file.segments = root.segments ++ below := by
  constructor
  · intro isFile
    have allowed : isAllowed pathname = true := by
      by_contra notAllowed
      simp [assetPath, notAllowed] at isFile
    obtain ⟨below, isSite⟩ := isAllowed_iff.mp allowed
    obtain ⟨found, isFound, segments⟩ := assetPath_of_siteFile root isSite
    rw [isFound, Option.some.injEq] at isFile
    exact ⟨below, isSite, isFile ▸ segments⟩
  · rintro ⟨below, isSite, segments⟩
    obtain ⟨found, isFound, foundSegments⟩ := assetPath_of_siteFile root isSite
    rw [isFound, Option.some.injEq]
    exact AbsolutePath.ext_segments (foundSegments.trans segments.symm)

/-- The routes of the page are not among the allowed pathnames. -/
theorem routes_notAllowed : ∀ route ∈ spaRoutes, isAllowed route.1 = false := by
  decide

theorem SiteFile.route
    {pathname : Text}
    {below : List Text}
    (isFile : SiteFile pathname below false) :
    ∃ name, spaRoutes.lookup pathname = some name ∧ below = [name] ∧ IsSegment name := by
  cases isFile with
  | index => exact ⟨indexName, by decide, rfl, by decide⟩
  | teapot => exact ⟨teapotName, by decide, rfl, by decide⟩

/-- A request reads a file exactly when its pathname is that of a file of the site,
and it reads that file: `index.html` or `r402.html` next to the root, one of the
four allowed names next to it, or a file directly in `assets`. -/
theorem requestedFile_iff
    (root file : AbsolutePath)
    (pathname : Text)
    (immutable : Bool) :
    requestedFile root pathname = some (file, immutable) ↔
      ∃ below, SiteFile pathname below immutable ∧ file.segments = root.segments ++ below := by
  cases isRoute : spaRoutes.lookup pathname with
  | none =>
      simp only [requestedFile, isRoute, Option.map_eq_some_iff, Prod.mk.injEq]
      constructor
      · rintro ⟨found, isFound, rfl, rfl⟩
        exact assetPath_eq_some_iff.mp isFound
      · rintro ⟨below, isSite, segments⟩
        cases immutable with
        | false =>
            obtain ⟨name, isName, -⟩ := isSite.route
            rw [isRoute] at isName
            cases isName
        | true => exact ⟨file, assetPath_eq_some_iff.mpr ⟨below, isSite, segments⟩, rfl, rfl⟩
  | some name =>
      have isMember : (pathname, name) ∈ spaRoutes := by
        obtain ⟨before, after, isSplit, -⟩ := List.lookup_eq_some_iff.mp isRoute
        rw [isSplit]
        exact List.mem_append_right _ List.mem_cons_self
      have isSegment : ∀ route ∈ spaRoutes, IsSegment route.2 := by decide
      have joins := root.join_segment (isSegment _ isMember)
      simp only [requestedFile, isRoute, Option.some.injEq, Prod.mk.injEq]
      constructor
      · rintro ⟨rfl, rfl⟩
        refine ⟨[name], ?_, joins⟩
        simp only [spaRoutes, List.mem_cons, Prod.mk.injEq, List.not_mem_nil, or_false] at isMember
        rcases isMember with ⟨rfl, rfl⟩ | ⟨rfl, rfl⟩
        · exact .index
        · exact .teapot
      · rintro ⟨below, isSite, segments⟩
        cases immutable with
        | false =>
            obtain ⟨other, isOther, rfl, -⟩ := isSite.route
            rw [isRoute, Option.some.injEq] at isOther
            subst isOther
            exact ⟨AbsolutePath.ext_segments (joins.trans segments.symm), rfl⟩
        | true =>
            have allowed := isAllowed_iff.mpr ⟨below, isSite⟩
            rw [routes_notAllowed _ isMember] at allowed
            cases allowed

end Unseen.Static
