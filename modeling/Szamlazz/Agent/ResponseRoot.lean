import Szamlazz.Agent.Item
import Szamlazz.Agent.ProtocolText
import Szamlazz.Lib.Paths

/-!
# The root of a response

Before anything of a response is used, one pass over its events checks the envelope: a
single root element, with one of the names the operation expects, and around it nothing
but white space, comments, processing instructions and an XML declaration in front. A
document type declaration is refused wherever it stands. A second pass, by another
tokenizer, checks the characters and the references.

What the libraries make of the texts inside a response is a parameter (`TextLibrary`),
and so is what their tokenizers make of the response itself (`ResponseBody`).
-/

namespace Szamlazz

open Markup

/-- What is told about an XML declaration. -/
structure Decl where
  version : Except String String
  attributesRaw : String
  attributes : List (Except String Attribute)

/-- What stands between the tags of a response. -/
inductive Leaf where
  | text (content : String)
  | cdata (content : String)
  | generalRef (name : String)
  | decl (decl : Decl)
  | docType (content : String)
  | pi (target : String)
  | comment

/-- A token of the second tokenizer, as far as the check looks at it. -/
inductive LexicalToken where
  | text (value : String)
  | attribute (value : String)
  | other

/-- What the libraries make of a text. -/
structure TextLibrary where
  normalizedValue : String → Except String String
  unescape : String → Except String String
  xml10Content : String → String
  resolveCharRef : String → Except String (Option Char)

/-- A response body as the two tokenizers see it, and what an error quotes of it. -/
structure ResponseBody where
  events : List (Event Tag QName Leaf)
  tokens : List (Except String LexicalToken)
  excerpt : String

/-! ## The checks on leaves -/

/-- White space has to follow a value before anything else does. -/
def valuesSeparated (quote : Option Char) (needsSpace : Bool) : List Char → Bool
  | [] => true
  | ch :: rest =>
    match quote with
    | some opening =>
      if ch = opening then valuesSeparated none true rest else valuesSeparated quote needsSpace rest
    | none =>
      if needsSpace && !isXmlSpace ch then false
      else valuesSeparated (if ch = '\'' ∨ ch = '"' then some ch else none) false rest

/-- The name of an encoding. -/
def validEncodingName (value : String) : Bool :=
  match value.toList with
  | [] => false
  | first :: rest =>
    first.isAlpha && rest.all (fun c => c.isAlphanum || c == '.' || c == '_' || c == '-')

/-- The place of a pseudo-attribute with its value. -/
def declarationRank (attr : Attribute) : Option Nat :=
  if attr.key = ⟨none, "version"⟩ ∧ attr.value = "1.0" then some 1
  else if attr.key = ⟨none, "encoding"⟩ ∧ validEncodingName attr.value then some 2
  else if attr.key = ⟨none, "standalone"⟩ ∧ (attr.value = "yes" ∨ attr.value = "no") then some 3
  else none

/-- The error of a declaration that is not well formed. -/
def invalidDeclaration : ParseError := .unexpectedBody "invalid XML declaration"

/-- The pseudo-attributes stand in their order, each at most once. -/
def declarationOrder (last : Nat) : List (Except String Attribute) → Except ParseError Unit
  | [] => .ok ()
  | .error error :: _ => .error (.xml error)
  | .ok attr :: rest =>
    match declarationRank attr with
    | none => .error invalidDeclaration
    | some rank => if rank ≤ last then .error invalidDeclaration else declarationOrder rank rest

/-- The XML declaration in front. -/
def validateDeclaration (decl : Decl) : Except ParseError Unit := do
  let version ← decl.version.mapError ParseError.xml
  if version ≠ "1.0" then throw invalidDeclaration
  if !valuesSeparated none false decl.attributesRaw.toList then throw invalidDeclaration
  declarationOrder 0 decl.attributes

/-- Whether a code point is in one of the ranges. -/
def inRanges (ranges : List (Nat × Nat)) (ch : Char) : Bool :=
  ranges.any (fun range => range.1 ≤ ch.toNat && ch.toNat ≤ range.2)

/-- `xml_ncname_start`. -/
def xmlNcnameStart : Char → Bool :=
  inRanges [(0x5F, 0x5F), (0x41, 0x5A), (0x61, 0x7A), (0xC0, 0xD6), (0xD8, 0xF6), (0xF8, 0x2FF),
    (0x370, 0x37D), (0x37F, 0x1FFF), (0x200C, 0x200D), (0x2070, 0x218F), (0x2C00, 0x2FEF),
    (0x3001, 0xD7FF), (0xF900, 0xFDCF), (0xFDF0, 0xFFFD), (0x10000, 0xEFFFF)]

/-- The characters that may follow in a name without a colon. -/
def xmlNcnameRest (ch : Char) : Bool :=
  xmlNcnameStart ch || inRanges [(0x2D, 0x2E), (0x30, 0x39), (0xB7, 0xB7), (0x300, 0x36F),
    (0x203F, 0x2040)] ch

/-- The target of a processing instruction, which is a name other than `xml`. -/
def validPiTarget (value : String) : Bool :=
  match value.toList with
  | [] => false
  | first :: rest =>
    !(value.toList.map Char.toLower == ['x', 'm', 'l']) && xmlNcnameStart first
      && rest.all xmlNcnameRest

/-! ## The pass over the events -/

/-- Where the pass is: how many elements are open, which of the expected roots was
found, and whether nothing was read yet. -/
structure RootState where
  depth : Nat
  matched : Option Nat
  first : Bool

/-- The error of a root that is not expected. -/
def unexpectedRoot (expected : List (String × String)) (excerpt : String) : ParseError :=
  let wanted := expected.map (fun e => e.1 ++ " in namespace " ++ e.2)
  .unexpectedBody ("expected " ++ " or ".intercalate wanted ++ ", got another root: " ++ excerpt)

/-- The index of a root element among those expected. -/
def rootIndex (expected : List (String × String)) (excerpt : String) (matched : Option Nat)
    (uri : Option String) (start : Tag) : Except ParseError Nat :=
  if matched.isSome then .error (.unexpectedBody excerpt)
  else
    match expected.findIdx? (fun e => start.name.localName == e.1 && uri == some e.2) with
    | some index => .ok index
    | none => .error (unexpectedRoot expected excerpt)

/-- Whether a leaf may stand where the pass is. -/
def checkLeaf (excerpt : String) (state : RootState) : Leaf → Except ParseError Unit
  | .decl decl => if state.first then validateDeclaration decl else .error (.unexpectedBody excerpt)
  | .text content =>
    if state.depth = 0 ∧ ¬ content.toList.all isXmlSpace then .error (.unexpectedBody excerpt)
    else .ok ()
  | .cdata _ | .generalRef _ =>
    if state.depth = 0 then .error (.unexpectedBody excerpt) else .ok ()
  | .docType _ => .error (.unexpectedBody excerpt)
  | .pi target => if validPiTarget target then .ok () else .error (.unexpectedBody excerpt)
  | .comment => .ok ()

/-- One event of the pass. -/
def rootEvent (expected : List (String × String)) (excerpt : String) (state : RootState) :
    Event (ResolveResult × Tag) (ResolveResult × QName) Leaf → Except ParseError RootState
  | .start (resolved, start) => do
    let uri ← namespaceUri resolved
    if state.depth = 0 then
      let index ← rootIndex expected excerpt state.matched uri start
      return ⟨1, some index, false⟩
    else return ⟨state.depth + 1, state.matched, false⟩
  | .empty (resolved, start) => do
    let uri ← namespaceUri resolved
    if state.depth = 0 then
      let index ← rootIndex expected excerpt state.matched uri start
      return ⟨0, some index, false⟩
    else return ⟨state.depth, state.matched, false⟩
  | .close (resolved, _) => do
    let _ ← namespaceUri resolved
    if state.depth = 0 then throw (.unexpectedBody excerpt)
    return ⟨state.depth - 1, state.matched, false⟩
  | .leaf l => do
    checkLeaf excerpt state l
    return ⟨state.depth, state.matched, false⟩

/-- The second pass: every reference has to resolve to characters of XML. -/
def validateLexical (unescape : String → Except String String) :
    List (Except String LexicalToken) → Except ParseError Unit
  | [] => .ok ()
  | .error position :: _ => .error (.unexpectedBody ("invalid XML syntax at " ++ position))
  | .ok .other :: rest => validateLexical unescape rest
  | .ok (.text value) :: rest | .ok (.attribute value) :: rest => do
    let decoded ← (unescape value).mapError ParseError.xml
    if decoded.toList.all isXml10Character then validateLexical unescape rest
    else throw (.unexpectedBody "forbidden XML character")

/-- Which of the expected roots a response has. -/
def responseRoot (N : NamespaceResolver) (lib : TextLibrary) (body : ResponseBody)
    (expected : List (String × String)) : Except ParseError Nat := do
  let state ← NamespaceReader.foldEvents N lib.normalizedValue (rootEvent expected body.excerpt)
    (.new N) ⟨0, none, true⟩ body.events
  validateLexical lib.unescape body.tokens
  if state.depth ≠ 0 then throw (.unexpectedBody body.excerpt)
  match state.matched with
  | some index => return index
  | none => throw (.unexpectedBody body.excerpt)

/-! ## What the pass accepts -/

/-- The events of content whose names are resolved. -/
abbrev resolvedEvents {L : Type} (c : Content (ResolveResult × Tag) L) : ResolvedEvents L :=
  c.events (fun p => (p.1, p.2.name))

variable {expected : List (String × String)} {excerpt : String} {state state' : RootState}

/-- A leaf opens and closes nothing. -/
theorem rootEvent_leaf {l : Leaf} (h : rootEvent expected excerpt state (.leaf l) = .ok state') :
    state'.depth = state.depth ∧ state'.matched = state.matched := by
  obtain ⟨-, h⟩ := Except.check_eq_ok.mp h
  cases h
  exact ⟨rfl, rfl⟩

/-- A start tag inside of the root opens an element. -/
theorem rootEvent_start {resolved : ResolveResult} {tag : Tag} (hdepth : state.depth ≠ 0)
    (h : rootEvent expected excerpt state (.start (resolved, tag)) = .ok state') :
    state'.depth = state.depth + 1 ∧ state'.matched = state.matched := by
  obtain ⟨uri, -, h⟩ := Except.bind_eq_ok.mp h
  rw [if_neg hdepth] at h
  cases h
  exact ⟨rfl, rfl⟩

/-- An empty tag inside of the root leaves the depth. -/
theorem rootEvent_empty {resolved : ResolveResult} {tag : Tag} (hdepth : state.depth ≠ 0)
    (h : rootEvent expected excerpt state (.empty (resolved, tag)) = .ok state') :
    state'.depth = state.depth ∧ state'.matched = state.matched := by
  obtain ⟨uri, -, h⟩ := Except.bind_eq_ok.mp h
  rw [if_neg hdepth] at h
  cases h
  exact ⟨rfl, rfl⟩

/-- An end tag closes an element. -/
theorem rootEvent_close {resolved : ResolveResult} {name : QName}
    (h : rootEvent expected excerpt state (.close (resolved, name)) = .ok state') :
    state'.depth = state.depth - 1 ∧ state'.matched = state.matched := by
  obtain ⟨uri, -, h⟩ := Except.bind_eq_ok.mp h
  by_cases hdepth : state.depth = 0
  · rw [if_pos hdepth] at h
    cases h
  · rw [if_neg hdepth] at h
    cases h
    exact ⟨rfl, rfl⟩

/-- Inside of the root the pass counts open elements: content leaves it where it was. -/
theorem rootEvents_inside {c : Content (ResolveResult × Tag) Leaf} (hdepth : state.depth ≠ 0)
    (h : (resolvedEvents c).foldlM (rootEvent expected excerpt) state = .ok state') :
    state'.depth = state.depth ∧ state'.matched = state.matched := by
  induction c generalizing state state' with
  | nil =>
    cases h
    exact ⟨rfl, rfl⟩
  | leaf l rest ih =>
    obtain ⟨s, hs, h⟩ := Except.bind_eq_ok.mp h
    obtain ⟨hd, hm⟩ := rootEvent_leaf hs
    rw [← hd, ← hm]
    exact ih (hd.trans_ne hdepth) h
  | empty tag rest ih =>
    obtain ⟨s, hs, h⟩ := Except.bind_eq_ok.mp h
    obtain ⟨hd, hm⟩ := rootEvent_empty hdepth hs
    rw [← hd, ← hm]
    exact ih (hd.trans_ne hdepth) h
  | element tag children rest ihchildren ih =>
    rw [resolvedEvents, Content.events, List.foldlM_cons] at h
    obtain ⟨s, hs, h⟩ := Except.bind_eq_ok.mp h
    rw [List.foldlM_append] at h
    obtain ⟨t, ht, h⟩ := Except.bind_eq_ok.mp h
    obtain ⟨u, hu, h⟩ := Except.bind_eq_ok.mp h
    -- The start tag counts one up, the children leave the count, and the end tag counts it down.
    obtain ⟨hds, hms⟩ := rootEvent_start hdepth hs
    obtain ⟨hdt, hmt⟩ := ihchildren (by omega) ht
    obtain ⟨hdu, hmu⟩ := rootEvent_close hu
    have hd : u.depth = state.depth := by omega
    rw [← hd, ← hms, ← hmt, ← hmu]
    exact ih (hd.trans_ne hdepth) h

/-- The root a response is to have: the expected one of that index. -/
def IsRoot (expected : List (String × String)) (index : Nat) (p : ResolveResult × Tag) : Prop :=
  ∃ uri, p.1 = .bound uri ∧ expected[index]? = some (p.2.name.localName, uri)

/-- A root that is accepted is the first, and one of those expected. -/
theorem rootIndex_eq_ok {matched : Option Nat} {resolved : ResolveResult} {tag : Tag} {index : Nat}
    (h : (do rootIndex expected excerpt matched (← namespaceUri resolved) tag) = .ok index) :
    matched = none ∧ IsRoot expected index (resolved, tag) := by
  obtain ⟨uri, huri, h⟩ := Except.bind_eq_ok.mp h
  unfold rootIndex at h
  cases matched with
  | some i => cases h
  | none =>
    refine ⟨rfl, ?_⟩
    rw [if_neg (by simp)] at h
    cases hindex : expected.findIdx? (fun e => tag.name.localName == e.1 && uri == some e.2) with
    | none =>
      rw [hindex] at h
      cases h
    | some i =>
      rw [hindex] at h
      cases h
      obtain ⟨hlt, hfound, -⟩ := List.findIdx?_eq_some_iff_getElem.mp hindex
      obtain ⟨hname, hns⟩ := (Bool.and_eq_true _ _).mp hfound
      have hns := eq_of_beq hns
      cases resolved with
      | unknown pfx => cases huri
      | unbound =>
        cases huri
        cases hns
      | bound u =>
        cases huri
        refine ⟨u, rfl, ?_⟩
        rw [List.getElem?_eq_getElem hlt, eq_of_beq hname, Option.some.inj hns]

/-- **Around the root there are no elements**, and there is only one root. -/
theorem rootEvents_outside {c : Content (ResolveResult × Tag) Leaf} (hdepth : state.depth = 0)
    (h : (resolvedEvents c).foldlM (rootEvent expected excerpt) state = .ok state') :
    state'.depth = 0 ∧ ((c.elements = [] ∧ state'.matched = state.matched)
      ∨ ∃ p root index, state.matched = none ∧ state'.matched = some index ∧ c.elements = [(p, root)]
        ∧ IsRoot expected index p) := by
  induction c generalizing state with
  | nil =>
    cases h
    exact ⟨hdepth, Or.inl ⟨rfl, rfl⟩⟩
  | leaf l rest ih =>
    obtain ⟨s, hs, h⟩ := Except.bind_eq_ok.mp h
    obtain ⟨hd, hm⟩ := rootEvent_leaf hs
    rw [← hm]
    exact ih (hd.trans hdepth) h
  | empty tag rest ih =>
    obtain ⟨s, hs, h⟩ := Except.bind_eq_ok.mp h
    obtain ⟨uri, huri, hs⟩ := Except.bind_eq_ok.mp hs
    rw [if_pos hdepth] at hs
    obtain ⟨index, hindex, hs⟩ := Except.bind_eq_ok.mp hs
    cases hs
    obtain ⟨hnone, hroot⟩ := rootIndex_eq_ok (Except.bind_eq_ok.mpr ⟨uri, huri, hindex⟩)
    obtain ⟨hdepth', ⟨helements, hmatched⟩ | ⟨_, _, _, hnone', -⟩⟩ := ih rfl h
    · refine ⟨hdepth', Or.inr ⟨tag, .nil, index, hnone, hmatched, ?_, hroot⟩⟩
      rw [Content.elements, helements]
    · cases hnone'
  | element tag children rest _ ih =>
    rw [resolvedEvents, Content.events, List.foldlM_cons] at h
    obtain ⟨s, hs, hcontent⟩ := Except.bind_eq_ok.mp h
    obtain ⟨uri, huri, hs⟩ := Except.bind_eq_ok.mp hs
    rw [if_pos hdepth] at hs
    obtain ⟨index, hindex, hs⟩ := Except.bind_eq_ok.mp hs
    obtain rfl := Except.ok.inj hs
    obtain ⟨hnone, hroot⟩ := rootIndex_eq_ok (Except.bind_eq_ok.mpr ⟨uri, huri, hindex⟩)
    rw [List.foldlM_append] at hcontent
    obtain ⟨t, ht, hrest⟩ := Except.bind_eq_ok.mp hcontent
    -- The root is closed at depth zero again, and a second one is refused.
    obtain ⟨u, hu, hrest⟩ := Except.bind_eq_ok.mp hrest
    obtain ⟨hdt, hmt⟩ := rootEvents_inside Nat.one_ne_zero ht
    obtain ⟨hdu, hmu⟩ := rootEvent_close hu
    have hd : u.depth = 0 := hdu.trans (congrArg (· - 1) hdt)
    have hmatched : u.matched = some index := hmu.trans hmt
    obtain ⟨hdepth', ⟨helements, hmatched'⟩ | ⟨_, _, _, hnone', -⟩⟩ := ih hd hrest
    · refine ⟨hdepth', Or.inr ⟨tag, children, index, hnone, hmatched'.trans hmatched, ?_, hroot⟩⟩
      rw [Content.elements, helements]
    · rw [hmatched] at hnone'
      cases hnone'

/-- **A response that is accepted** passes both checks and has one root, which is the
expected one of that index. -/
theorem responseRoot_eq_ok {N : NamespaceResolver} {lib : TextLibrary} {body : ResponseBody}
    {c : Content Tag Leaf} (hevents : body.events = c.events Tag.name) {index : Nat}
    (h : responseRoot N lib body expected = .ok index) :
    c.EveryTag (declared lib.normalizedValue) (Admissible N lib.normalizedValue) []
      ∧ validateLexical lib.unescape body.tokens = .ok ()
      ∧ ∃ p root, (c.annotate Tag.name (declared lib.normalizedValue) []).elements = [(p, root)]
        ∧ IsRoot expected index p := by
  obtain ⟨state, hfold, h⟩ := Except.bind_eq_ok.mp h
  obtain ⟨hlexical, h⟩ := Except.check_eq_ok.mp h
  obtain ⟨resolved, hread, hfold⟩ := foldEvents_eq_ok.mp hfold
  rw [hevents] at hread
  obtain ⟨hevery, rfl⟩ := (readAll_events c).mp hread
  obtain ⟨hdepth, houtside⟩ := rootEvents_outside rfl hfold
  rw [if_neg (not_not.mpr hdepth)] at h
  refine ⟨hevery, hlexical, ?_⟩
  rcases houtside with ⟨-, hmatched⟩ | ⟨p, root, i, -, hmatched, helements, hroot⟩
  · rw [hmatched] at h
    cases h
  · rw [hmatched] at h
    cases h
    exact ⟨p, root, helements, hroot⟩

end Szamlazz
