import Szamlazz.Agent.TaxpayerPruned

/-!
# Reading a taxpayer reply

The reply is read twice: `response_root` checks the envelope, and the pass over the events
keeps what it knows. On the events of well-nested content, and with two tokenizers that
agree about the references in it (`TextLibrary.ReadsReferences`), the pass fails for three
reasons only, all of them properties of the tree (`Layout.Accepts`), and otherwise the
record is read off the tree by paths alone (`fromBody_eq_extract`). What is in an element
that is not known is in neither.
-/

namespace Szamlazz

open Markup

/-! ## References -/

/-- A reference as it is written. -/
def reference (name : String) : List Char := '&' :: name.toList ++ [';']

/-- The entities of XML itself. -/
def predefinedEntities : List String := ["amp", "lt", "gt", "apos", "quot"]

/-- What of the two tokenizers and of the two ways to resolve a reference is relied on. -/
structure TextLibrary.ReadsReferences (lib : TextLibrary) (body : ResponseBody) : Prop where
  /-- A reference that the first tokenizer tells is in a text that the second one tells. -/
  inText : ∀ name, .leaf (.generalRef name) ∈ body.events → ';' ∉ name.toList
    ∧ ∃ value, .ok (.text value) ∈ body.tokens ∧ reference name <:+: value.toList
  /-- The references in a text that can be unescaped are of characters and of the entities
  of XML itself. -/
  resolves : ∀ value decoded name, lib.unescape value = .ok decoded → ';' ∉ name.toList →
    reference name <:+: value.toList → (∃ ch, lib.resolveCharRef name = .ok (some ch))
      ∨ (lib.resolveCharRef name = .ok none ∧ name ∈ predefinedEntities)

/-- The second pass unescapes every text. -/
theorem validateLexical_text {unescape : String → Except String String}
    {tokens : List (Except String LexicalToken)} (h : validateLexical unescape tokens = .ok ())
    {value : String} (hvalue : .ok (.text value) ∈ tokens) :
    ∃ decoded, unescape value = .ok decoded := by
  induction tokens with
  | nil => cases hvalue
  | cons token rest ih =>
    cases token with
    | error position => cases h
    | ok token =>
      have hunescape : ∀ text, (∃ decoded, (unescape text).mapError ParseError.xml = .ok decoded
          ∧ (if decoded.toList.all isXml10Character then validateLexical unescape rest
            else throw (.unexpectedBody "forbidden XML character")) = .ok ())
          → (∃ decoded, unescape text = .ok decoded) ∧ validateLexical unescape rest = .ok () := by
        rintro text ⟨decoded, hdecoded, h⟩
        split_ifs at h
        refine ⟨?_, h⟩
        cases hunescape : unescape text with
        | error error =>
          rw [hunescape] at hdecoded
          cases hdecoded
        | ok decoded => exact ⟨decoded, rfl⟩
      rcases token with text | text | _
      · obtain ⟨htext, h⟩ := hunescape text (Except.bind_eq_ok.mp h)
        rcases List.mem_cons.mp hvalue with heq | hvalue
        · cases heq
          exact htext
        · exact ih h hvalue
      · obtain ⟨-, h⟩ := hunescape text (Except.bind_eq_ok.mp h)
        rcases List.mem_cons.mp hvalue with heq | hvalue
        · cases heq
        · exact ih h hvalue
      · rcases List.mem_cons.mp hvalue with heq | hvalue
        · cases heq
        · exact ih h hvalue

/-- **Every leaf of a response that is accepted** can be decoded. -/
theorem leafText_decoded {lib : TextLibrary} {body : ResponseBody} (hrefs : lib.ReadsReferences body)
    (hlexical : validateLexical lib.unescape body.tokens = .ok ()) {l : Leaf}
    (hl : .leaf l ∈ body.events) : leafText lib l = .ok (l.decoded lib) := by
  have hok : ∃ text, leafText lib l = .ok text := by
    cases l with
    | generalRef name =>
      obtain ⟨hname, value, hvalue, hinfix⟩ := hrefs.inText name hl
      obtain ⟨decoded, hdecoded⟩ := validateLexical_text hlexical hvalue
      rcases hrefs.resolves value decoded name hdecoded hname hinfix with ⟨ch, hch⟩ | ⟨hnone, hmem⟩
      · refine ⟨String.singleton ch, ?_⟩
        rw [leafText.eq_def]
        dsimp only
        rw [hch]
        rfl
      · simp only [predefinedEntities, List.mem_cons, List.not_mem_nil, or_false] at hmem
        rcases hmem with rfl | rfl | rfl | rfl | rfl
        all_goals
          rw [leafText.eq_def]
          dsimp only
          rw [hnone]
          exact ⟨_, rfl⟩
    | text content | cdata content | decl decl | docType content | pi target | comment =>
      exact ⟨_, rfl⟩
  obtain ⟨text, htext⟩ := hok
  rw [Leaf.decoded, htext]

/-! ## The reply -/

/-- **The reply is what its paths lead to.** The response has one root, of the layout that
was selected; the pass ends with a record exactly when the tree is accepted, and then with
the one that the paths lead to; and what is in elements that are not known has no part in
either. -/
theorem fromBody_eq_extract {N : NamespaceResolver} {lib : TextLibrary} {body : ResponseBody}
    (hrefs : lib.ReadsReferences body) {c : Content Tag Leaf}
    (hevents : body.events = c.events Tag.name) {index : Nat}
    (hroot : responseRoot N lib body taxpayerRoots = .ok index) :
    ∃ p root, (c.annotate Tag.name (declared lib.normalizedValue) []).elements = [(p, root)]
      ∧ IsRoot taxpayerRoots index p
      ∧ (∀ parsed, TaxpayerResponse.fromBody N lib body = .ok parsed
        ↔ (Layout.forRootIndex index).Accepts lib root
          ∧ parsed = (Layout.forRootIndex index).extract lib root)
      ∧ ((Layout.forRootIndex index).Accepts lib ((Layout.forRootIndex index).pruned rootPlace root)
        ↔ (Layout.forRootIndex index).Accepts lib root)
      ∧ (Layout.forRootIndex index).extract lib ((Layout.forRootIndex index).pruned rootPlace root)
        = (Layout.forRootIndex index).extract lib root := by
  obtain ⟨hevery, hlexical, p, root, helements, hp⟩ := responseRoot_eq_ok hevents hroot
  refine ⟨p, root, helements, hp, fun parsed => ?_, Layout.accepts_pruned, Layout.extract_pruned⟩
  have hread : Tree.Readable lib (c.annotate Tag.name (declared lib.normalizedValue) []) :=
    readable_annotate hevery fun l hl => leafText_decoded hrefs hlexical (hevents ▸ hl)
  -- the steps of the pass are those by which the record is gathered
  have hgathered : (Layout.forRootIndex index).Accepts lib root →
      (root.walk expandedElement).foldl ((Layout.forRootIndex index).step lib rootPlace) {}
        = (Layout.forRootIndex index).extract lib root := by
    intro h
    rw [← Gathered.response_over h]
    exact (Gathered.response_foldl ⟨fun _ => none, fun _ => []⟩
      fun q hq => (Layout.sound_iff_accepts.mpr h q hq).2).symm
  have hpass : (∃ stack, (resolvedEvents _).foldlM (bodyEvent lib (Layout.forRootIndex index))
      ([], {}) = .ok (stack, parsed)) ↔ _ := bodyEvents_document hread helements
  rw [Layout.sound_iff_accepts] at hpass
  have hparsed : TaxpayerResponse.fromBody N lib body = .ok parsed
      ↔ ∃ stack, (resolvedEvents (c.annotate Tag.name (declared lib.normalizedValue) [])).foldlM
          (bodyEvent lib (Layout.forRootIndex index)) ([], {}) = .ok (stack, parsed) := by
    have hbody : TaxpayerResponse.fromBody N lib body
        = (NamespaceReader.foldEvents N lib.normalizedValue
          (bodyEvent lib (Layout.forRootIndex index)) (.new N) ([], {}) body.events >>= fun q =>
            .ok q.2) := by
      unfold TaxpayerResponse.fromBody
      rw [hroot]
      rfl
    rw [hbody, Except.bind_eq_ok]
    constructor
    · rintro ⟨⟨stack, _⟩, hfold, h⟩
      obtain rfl := Except.ok.inj h
      obtain ⟨resolved, hreads, hfold⟩ := foldEvents_eq_ok.mp hfold
      rw [hevents] at hreads
      obtain ⟨-, rfl⟩ := (readAll_events c).mp hreads
      exact ⟨stack, hfold⟩
    · rintro ⟨stack, hfold⟩
      have hreads := (readAll_events c).mpr ⟨hevery, rfl⟩
      rw [← hevents] at hreads
      exact ⟨(stack, parsed), foldEvents_eq_ok.mpr ⟨_, hreads, hfold⟩, rfl⟩
  refine hparsed.trans (hpass.trans ⟨?_, ?_⟩)
  · rintro ⟨haccepts, rfl⟩
    exact ⟨haccepts, hgathered haccepts⟩
  · rintro ⟨haccepts, rfl⟩
    exact ⟨haccepts, (hgathered haccepts).symm⟩

/-! ### A reply with an extension -/

/-- An element of the reply, in front of its siblings. -/
def replyElement (name : String) (children rest : Content Tag Leaf) : Content Tag Leaf :=
  .element ⟨⟨none, name⟩, []⟩ children rest

/-- An element with a text. -/
def replyText (pfx : Option String) (name text : String) (rest : Content Tag Leaf) :
    Content Tag Leaf :=
  .element ⟨⟨pfx, name⟩, []⟩ (.leaf (.text text) .nil) rest

/-- A reply with two addresses, the second of which has an extension in place of the
address proper. -/
def sampleReply : Content Tag Leaf :=
  .element ⟨⟨none, "QueryTaxpayerResponse"⟩,
      [.ok ⟨⟨none, "xmlns"⟩, "http://schemas.nav.gov.hu/OSA/2.0/api"⟩,
        .ok ⟨⟨some "xmlns", "d"⟩, "http://schemas.nav.gov.hu/OSA/2.0/data"⟩]⟩
    (replyElement "result" (replyText none "funcCode" " OK " .nil)
      (replyText none "taxpayerValidity" "true"
        (replyElement "taxpayerData"
          (replyElement "taxpayerName"
            (.leaf (.text "A ") (.leaf (.generalRef "amp") (.leaf (.text " B") .nil)))
            (replyElement "taxpayerAddressList"
              (replyElement "taxpayerAddressItem"
                (replyElement "taxpayerAddress" (replyText (some "d") "city" "Pest" .nil) .nil)
                (replyElement "taxpayerAddressItem"
                  (replyText none "taxpayerAddressType" "SITE"
                    (replyElement "extension" (replyText (some "d") "city" "Elsewhere" .nil) .nil))
                  .nil))
              .nil))
          .nil)))
    .nil

/-- The libraries, as far as the sample goes: of the texts with a reference only its own
can be unescaped. -/
def sampleReplyLibrary : TextLibrary where
  normalizedValue := .ok
  unescape value :=
    if '&' ∉ value.toList then .ok value
    else if value = "A &amp; B" then .ok "A & B"
    else .error "unrecognized entity"
  xml10Content := id
  resolveCharRef _ := .ok none

/-- The sample as the two tokenizers see it. -/
def sampleReplyBody : ResponseBody where
  events := sampleReply.events Tag.name
  tokens := [.ok .other, .ok (.attribute "http://schemas.nav.gov.hu/OSA/2.0/api"),
    .ok (.attribute "http://schemas.nav.gov.hu/OSA/2.0/data"), .ok (.text " OK "),
    .ok (.text "true"), .ok (.text "A &amp; B"), .ok (.text "Pest"), .ok (.text "SITE"),
    .ok (.text "Elsewhere")]
  excerpt := "<QueryTaxpayerResponse"

/-- What is kept of the sample: the city in the extension is not. -/
def sampleTaxpayer : TaxpayerResponse where
  diagnostics := { funcCode := some "OK" }
  validity := some true
  name := some "A & B"
  addresses := [{ city := some "Pest" }, { kind := some "SITE" }]

/-- The only reference in the text is to an ampersand. -/
theorem reference_amp {name : String} (hname : ';' ∉ name.toList)
    (h : reference name <:+: "A &amp; B".toList) : name = "amp" := by
  have hrest : name.toList ++ [';'] <+: "amp; B".toList := by
    simpa [reference, List.infix_cons_iff, List.cons_prefix_cons] using h
  rw [← String.toList_inj]
  generalize name.toList = l at hname hrest
  rcases l with _ | ⟨a, _ | ⟨b, _ | ⟨c, _ | ⟨d, l⟩⟩⟩⟩ <;>
    simp_all [List.cons_prefix_cons]

/-- The sample has one reference, and both readings of it agree. -/
theorem sampleReply_readsReferences : sampleReplyLibrary.ReadsReferences sampleReplyBody where
  inText name h := by
    have hamp : name = "amp" := by
      simpa [sampleReplyBody, sampleReply, replyElement, replyText, Content.events] using h
    subst hamp
    exact ⟨by decide, "A &amp; B", by simp [sampleReplyBody], ['A', ' '], [' ', 'B'], rfl⟩
  resolves value decoded name hvalue hname hinfix := by
    have hamp : '&' ∈ value.toList := hinfix.subset List.mem_cons_self
    simp only [sampleReplyLibrary, hamp, not_true_eq_false, if_false] at hvalue
    split_ifs at hvalue with hsample
    subst hsample
    rw [reference_amp hname hinfix]
    exact Or.inr ⟨rfl, List.mem_cons_self⟩

/-- The sample is read, and its second city is in neither tree. -/
theorem fromBody_eq_extract_sample : ∃ root,
    (Layout.forRootIndex 0).Accepts sampleReplyLibrary root
      ∧ sampleTaxpayer = (Layout.forRootIndex 0).extract sampleReplyLibrary root
      ∧ sampleTaxpayer = (Layout.forRootIndex 0).extract sampleReplyLibrary
        ((Layout.forRootIndex 0).pruned rootPlace root) := by
  have hroot : responseRoot (Scopes.resolver fun _ _ => none) sampleReplyLibrary sampleReplyBody
      taxpayerRoots = .ok 0 := rfl
  have hevents : sampleReplyBody.events = sampleReply.events Tag.name := rfl
  obtain ⟨_, root, -, -, hreply, -, hpruned⟩ :=
    fromBody_eq_extract sampleReply_readsReferences hevents hroot
  obtain ⟨haccepts, hparsed⟩ := (hreply sampleTaxpayer).mp rfl
  exact ⟨root, haccepts, hparsed, hparsed.trans hpruned.symm⟩

end Szamlazz
