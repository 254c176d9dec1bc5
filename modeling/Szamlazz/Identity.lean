import Szamlazz.Agent.Error

/-!
# Identity of orders and documents

The deployment's namespace, the key of an `Order`, the document kinds, the
caller-supplied correction ids and invoice numbers, and the external ids
(`szamlaKulsoAzon`) composed of them.

An external id is plain text with `:` between its segments, and nothing else
tells one order's document from another's. Each of the four segment types
therefore carries, as a field, the check its constructor made of the text; that
no segment holds the separator and how long each can be is read off those
checks. `Composition` lists the five ways the service composes an id, so that
"different arguments give different ids" is one statement over all of them.
-/

namespace Szamlazz

/-- What the source takes from the Unicode tables: normalisation form C, whether
a text is in it, and how `{:?}` escapes a character and a text. -/
class Unicode where
  nfc : String → String
  isNfc : String → Bool
  debugChar : Char → String
  debugText : String → String

/-- The tables on printable ASCII without quotes and backslashes: every such text is
in form C, and nothing of it is escaped. -/
@[reducible] def Unicode.ascii : Unicode where
  nfc text := text
  isNfc _ := true
  debugChar c := "'" ++ String.singleton c ++ "'"
  debugText text := "\"" ++ text ++ "\""

/-- The character between the segments of an external id. -/
def ExternalId.separator : Char := ':'

/-! ## The kinds of documents -/

/-- A document kind of which an order carries at most one live document. -/
inductive DocumentKind where
  | proforma
  | invoice
  | prepayment
  | final
deriving DecidableEq, Repr

/-- The kind of a document the service issued: the four kinds and correctives. -/
inductive IssuedKind where
  | proforma
  | invoice
  | prepayment
  | final
  | corrective
deriving DecidableEq, Repr

namespace DocumentKind

/-- Every kind, in the order `get` reports them. -/
def all : List DocumentKind := [proforma, invoice, prepayment, final]

/-- The token used on the wire and inside external ids. -/
def asStr : DocumentKind → String
  | proforma => "proforma"
  | invoice => "invoice"
  | prepayment => "prepayment"
  | final => "final"

/-- The kind as one of the issued kinds. -/
def issued : DocumentKind → IssuedKind
  | proforma => .proforma
  | invoice => .invoice
  | prepayment => .prepayment
  | final => .final

theorem asStr_injective {k k' : DocumentKind} (h : k.asStr = k'.asStr) : k = k' := by
  cases k <;> cases k' <;> first | rfl | exact absurd h (by decide)

end DocumentKind

namespace IssuedKind

/-- The token used on the wire and inside external ids. -/
def asStr : IssuedKind → String
  | proforma => "proforma"
  | invoice => "invoice"
  | prepayment => "prepayment"
  | final => "final"
  | corrective => "corrective"

/-- The `tipus` the documents of this kind carry. -/
def documentType : IssuedKind → DocumentType
  | proforma => .proforma
  | invoice => .invoice
  | prepayment => .prepayment
  | final => .final
  | corrective => .corrective

/-- The kind whose documents carry `documentType`, if the service issues any. -/
def forDocumentType : DocumentType → Option IssuedKind
  | .proforma => some proforma
  | .invoice => some invoice
  | .prepayment => some prepayment
  | .final => some final
  | .corrective => some corrective
  | _ => none

/-- The document kind; none for a corrective. -/
def documentKind : IssuedKind → Option DocumentKind
  | proforma => some .proforma
  | invoice => some .invoice
  | prepayment => some .prepayment
  | final => some .final
  | corrective => none

@[simp] theorem documentKind_issued (k : DocumentKind) : k.issued.documentKind = some k := by
  cases k <;> rfl

@[simp] theorem asStr_issued (k : DocumentKind) : k.issued.asStr = k.asStr := by
  cases k <;> rfl

end IssuedKind

/-! ## The tokens of external ids -/

namespace ExternalId

/-- The segment of a storno's id. -/
def storno : String := "storno"

/-- The segment in place of an order for a document no order manages. -/
def byNumber : String := "by-number"

/-- The segment of the probe sentinel. -/
def checkAccount : String := "check-account"

/-- Every fixed token an id is composed of. -/
def tokens : List String :=
  [IssuedKind.asStr .proforma, IssuedKind.asStr .invoice, IssuedKind.asStr .prepayment,
    IssuedKind.asStr .final, IssuedKind.asStr .corrective, storno, byNumber, checkAccount]

/-- Whether `value` is one of the tokens, in any ASCII letter case. -/
def isToken (value : String) : Bool :=
  tokens.any (fun token => token.toList.map Char.toLower == value.toList.map Char.toLower)

/-- The longest id the service composes, in bytes. -/
def maxLen : Nat := 110

end ExternalId

/-! ## The namespace of a deployment -/

/-- A string that is not a namespace. -/
inductive InvalidNamespace where
  | empty
  | tooLong (bytes : Nat)
  | invalidChar (c : Char)
deriving DecidableEq, Repr

/-- 1–16 bytes of `[a-z0-9-]`. -/
def Namespace.validate (value : String) : Except InvalidNamespace Unit :=
  if value.isEmpty then .error .empty
  else if value.utf8ByteSize > 16 then .error (.tooLong value.utf8ByteSize)
  else match value.toList.find? (fun c => !(c.isLower || c.isDigit || c == '-')) with
    | some invalid => .error (.invalidChar invalid)
    | none => .ok ()

/-- The external-id prefix of a deployment. -/
structure Namespace where
  text : String
  valid : Namespace.validate text = .ok ()
deriving DecidableEq

/-- Validates a namespace. -/
def Namespace.parse (value : String) : Except InvalidNamespace Namespace :=
  match h : Namespace.validate value with
  | .ok () => .ok ⟨value, h⟩
  | .error error => .error error

/-! ## The key of an order -/

/-- An order number that cannot be an order key. -/
inductive InvalidOrderKey where
  | empty
  | tooLong (bytes : Nat)
  | controlChar (c : Char)
  | internalWhitespace (c : Char)
  | separator
  | notNfc
  | invalidXmlText (error : RequestError)
deriving DecidableEq, Repr

section OrderKey

variable [Unicode]

/-- What `parse` checks of the trimmed order number. -/
def OrderKey.validate (trimmed : String) : Except InvalidOrderKey Unit :=
  if trimmed.isEmpty then .error .empty
  else if trimmed.utf8ByteSize > 40 then .error (.tooLong trimmed.utf8ByteSize)
  else match trimmed.toList.find? Text.isControl with
    | some control => .error (.controlChar control)
    | none =>
      match trimmed.toList.find? Text.isWhitespace with
      | some whitespace => .error (.internalWhitespace whitespace)
      | none =>
        if trimmed.toList.contains ExternalId.separator then .error .separator
        else if !Unicode.isNfc trimmed then .error .notNfc
        else (validateXmlText trimmed).mapError .invalidXmlText

/-- The trimmed order number szamlazz.hu matches on. -/
structure OrderKey where
  text : String
  valid : OrderKey.validate text = .ok ()

instance : DecidableEq OrderKey := fun a b =>
  decidable_of_iff (a.text = b.text) ⟨fun h => by cases a; cases b; cases h; rfl, congrArg _⟩

/-- Trims and validates an order number. -/
def OrderKey.parse (value : String) : Except InvalidOrderKey OrderKey :=
  match h : OrderKey.validate (Text.trim value) with
  | .ok () => .ok ⟨Text.trim value, h⟩
  | .error error => .error error

/-- The text an invalid order number displays. -/
def InvalidOrderKey.display : InvalidOrderKey → String
  | empty => "order number must not be empty"
  | tooLong bytes =>
    "order number is " ++ toString bytes ++ " bytes long, at most 40 are allowed"
  | controlChar c =>
    "order number must not contain control characters, found " ++ Unicode.debugChar c
  | internalWhitespace c =>
    "order number must not contain whitespace, found " ++ Unicode.debugChar c
  | separator => "order number must not contain ':' (the external-id separator)"
  | notNfc => "order number must be in Unicode NFC (normalise it before calling)"
  | invalidXmlText error => "order number must be XML 1.0 text: " ++ error.display

end OrderKey

/-! ## Correction ids -/

/-- A string that is not a correction id. -/
inductive InvalidCorrectionId where
  | empty
  | tooLong (bytes : Nat)
  | invalidStart (c : Char)
  | invalidChar (c : Char)
  | reserved (value : String)
deriving DecidableEq, Repr

/-- `[A-Za-z0-9][A-Za-z0-9._-]{0,39}`, and not one of the tokens. -/
def CorrectionId.validate (value : String) : Except InvalidCorrectionId Unit :=
  match value.toList with
  | [] => .error .empty
  | first :: chars =>
    if value.utf8ByteSize > 40 then .error (.tooLong value.utf8ByteSize)
    else if !first.isAlphanum then .error (.invalidStart first)
    else match chars.find? (fun c => !(c.isAlphanum || c == '.' || c == '_' || c == '-')) with
      | some invalid => .error (.invalidChar invalid)
      | none => if ExternalId.isToken value then .error (.reserved value) else .ok ()

/-- The caller-supplied identity of one corrective invoice. -/
structure CorrectionId where
  text : String
  valid : CorrectionId.validate text = .ok ()
deriving DecidableEq

/-- Validates a correction id. -/
def CorrectionId.parse (value : String) : Except InvalidCorrectionId CorrectionId :=
  match h : CorrectionId.validate value with
  | .ok () => .ok ⟨value, h⟩
  | .error error => .error error

/-! ## Invoice numbers -/

/-- A string that is not an invoice number. -/
inductive InvalidInvoiceNumber where
  | empty
  | tooLong (bytes : Nat)
  | controlChar (c : Char)
  | whitespace (c : Char)
  | separator
  | invalidXmlText (error : RequestError)
deriving DecidableEq, Repr

/-- 1–40 bytes of XML 1.0 text without a control character, white space or the
separator. Nothing is trimmed. -/
def InvoiceNumber.validate (value : String) : Except InvalidInvoiceNumber Unit :=
  if value.isEmpty then .error .empty
  else if value.utf8ByteSize > 40 then .error (.tooLong value.utf8ByteSize)
  else match value.toList.find? Text.isControl with
    | some control => .error (.controlChar control)
    | none =>
      match value.toList.find? Text.isWhitespace with
      | some whitespace => .error (.whitespace whitespace)
      | none =>
        if value.toList.contains ExternalId.separator then .error .separator
        else (validateXmlText value).mapError .invalidXmlText

/-- A caller-supplied invoice number (`számlaszám`). -/
structure InvoiceNumber where
  text : String
  valid : InvoiceNumber.validate text = .ok ()
deriving DecidableEq

/-- Validates an invoice number. -/
def InvoiceNumber.parse (value : String) : Except InvalidInvoiceNumber InvoiceNumber :=
  match h : InvoiceNumber.validate value with
  | .ok () => .ok ⟨value, h⟩
  | .error error => .error error

/-! ## What the checks guarantee -/

theorem Namespace.ext {a b : Namespace} (h : a.text = b.text) : a = b := by
  cases a; cases b; cases h; rfl

theorem OrderKey.ext [Unicode] {a b : OrderKey} (h : a.text = b.text) : a = b := by
  cases a; cases b; cases h; rfl

theorem CorrectionId.ext {a b : CorrectionId} (h : a.text = b.text) : a = b := by
  cases a; cases b; cases h; rfl

theorem InvoiceNumber.ext {a b : InvoiceNumber} (h : a.text = b.text) : a = b := by
  cases a; cases b; cases h; rfl

namespace Namespace

theorem text_chars (ns : Namespace) :
    ∀ c ∈ ns.text.toList, (c.isLower || c.isDigit || c == '-') = true := by
  have h := ns.valid
  unfold validate at h
  split at h; · simp at h
  split at h; · simp at h
  split at h
  · simp at h
  · rename_i hfind
    intro c hc
    simpa only [Bool.not_eq_true, Bool.not_eq_false'] using List.find?_eq_none.mp hfind c hc

theorem length_le (ns : Namespace) : ns.text.utf8ByteSize ≤ 16 := by
  have h := ns.valid
  unfold validate at h
  split at h; · simp at h
  split at h
  · simp at h
  · omega

theorem separator_notMem (ns : Namespace) : ExternalId.separator ∉ ns.text.toList :=
  fun hmem => absurd (ns.text_chars _ hmem) (by decide)

/-- Parsing gives back the text it read. -/
theorem parse_text (ns : Namespace) : Namespace.parse ns.text = .ok ns := by
  unfold parse
  split
  · rfl
  · rename_i error h
    rw [ns.valid] at h
    cases h

end Namespace

namespace OrderKey

variable [Unicode]

/-- The checks of a valid key, one by one. -/
theorem validate_eq_ok {text : String} : OrderKey.validate text = .ok () ↔
    text.isEmpty = false ∧ text.utf8ByteSize ≤ 40
      ∧ (∀ c ∈ text.toList, Text.isControl c = false)
      ∧ (∀ c ∈ text.toList, Text.isWhitespace c = false)
      ∧ ExternalId.separator ∉ text.toList ∧ Unicode.isNfc text = true
      ∧ validateXmlText text = .ok () := by
  unfold validate
  split; · simp_all
  split; · simp; omega
  split
  · rename_i c hfind
    refine iff_of_false (by simp) (fun h => ?_)
    have hc := h.2.2.1 c (List.mem_of_find?_eq_some hfind)
    simp [List.find?_some hfind] at hc
  split
  · rename_i c hfind
    refine iff_of_false (by simp) (fun h => ?_)
    have hc := h.2.2.2.1 c (List.mem_of_find?_eq_some hfind)
    simp [List.find?_some hfind] at hc
  rename_i hcontrol _ hspace
  have hcontrol' : ∀ c ∈ text.toList, Text.isControl c = false := by
    simpa using List.find?_eq_none.mp hcontrol
  have hspace' : ∀ c ∈ text.toList, Text.isWhitespace c = false := by
    simpa using List.find?_eq_none.mp hspace
  split; · simp_all
  split; · simp_all
  rw [Except.mapError_eq_ok]
  simp_all

theorem length_le (o : OrderKey) : o.text.utf8ByteSize ≤ 40 := (validate_eq_ok.mp o.valid).2.1

theorem separator_notMem (o : OrderKey) : ExternalId.separator ∉ o.text.toList :=
  (validate_eq_ok.mp o.valid).2.2.2.2.1

/-- **A key is its own trimming**, having no white space at all. -/
theorem trim_text (o : OrderKey) : Text.trim o.text = o.text :=
  Text.trim_eq_self (validate_eq_ok.mp o.valid).2.2.2.1

/-- The text of a parsed key is the trimming of what was parsed. -/
theorem text_of_parse {value : String} {o : OrderKey} (h : OrderKey.parse value = .ok o) :
    o.text = Text.trim value := by
  unfold parse at h
  split at h
  · cases h; rfl
  · cases h

/-- Parsing gives back the key it read. -/
theorem parse_text (o : OrderKey) : OrderKey.parse o.text = .ok o := by
  unfold parse
  split
  · exact congrArg Except.ok (OrderKey.ext o.trim_text)
  · rename_i error h
    rw [o.trim_text, o.valid] at h
    cases h

end OrderKey

namespace CorrectionId

theorem length_le (id : CorrectionId) : id.text.utf8ByteSize ≤ 40 := by
  have h := id.valid
  unfold validate at h
  split at h; · simp at h
  split at h
  · simp at h
  · omega

theorem separator_notMem (id : CorrectionId) : ExternalId.separator ∉ id.text.toList := by
  have h := id.valid
  unfold validate at h
  split at h; · simp at h
  split at h; · simp at h
  split at h; · simp at h
  split at h; · simp at h
  rename_i first chars heq _ hfirst _ hfind
  rw [heq]
  intro hmem
  rcases List.mem_cons.mp hmem with rfl | hmem
  · exact hfirst (by decide)
  · exact absurd (List.find?_eq_none.mp hfind _ hmem) (by decide)

/-- Parsing gives back the id it read. -/
theorem parse_text (id : CorrectionId) : CorrectionId.parse id.text = .ok id := by
  unfold parse
  split
  · rfl
  · rename_i error h
    rw [id.valid] at h
    cases h

theorem isToken_eq_false (id : CorrectionId) : ExternalId.isToken id.text = false := by
  have h := id.valid
  unfold validate at h
  split at h; · simp at h
  split at h; · simp at h
  split at h; · simp at h
  split at h; · simp at h
  split at h
  · simp at h
  · simp_all

end CorrectionId

namespace InvoiceNumber

/-- The checks of a valid number, one by one. -/
theorem validate_eq_ok {text : String} : InvoiceNumber.validate text = .ok () ↔
    text.isEmpty = false ∧ text.utf8ByteSize ≤ 40
      ∧ (∀ c ∈ text.toList, Text.isControl c = false)
      ∧ (∀ c ∈ text.toList, Text.isWhitespace c = false)
      ∧ ExternalId.separator ∉ text.toList ∧ validateXmlText text = .ok () := by
  unfold validate
  split; · simp_all
  split; · simp; omega
  split
  · rename_i c hfind
    refine iff_of_false (by simp) (fun h => ?_)
    have hc := h.2.2.1 c (List.mem_of_find?_eq_some hfind)
    simp [List.find?_some hfind] at hc
  split
  · rename_i c hfind
    refine iff_of_false (by simp) (fun h => ?_)
    have hc := h.2.2.2.1 c (List.mem_of_find?_eq_some hfind)
    simp [List.find?_some hfind] at hc
  rename_i hcontrol _ hspace
  have hcontrol' : ∀ c ∈ text.toList, Text.isControl c = false := by
    simpa using List.find?_eq_none.mp hcontrol
  have hspace' : ∀ c ∈ text.toList, Text.isWhitespace c = false := by
    simpa using List.find?_eq_none.mp hspace
  split; · simp_all
  rw [Except.mapError_eq_ok]
  simp_all

theorem length_le (n : InvoiceNumber) : n.text.utf8ByteSize ≤ 40 :=
  (validate_eq_ok.mp n.valid).2.1

theorem separator_notMem (n : InvoiceNumber) : ExternalId.separator ∉ n.text.toList :=
  (validate_eq_ok.mp n.valid).2.2.2.2.1

theorem trim_text (n : InvoiceNumber) : Text.trim n.text = n.text :=
  Text.trim_eq_self (validate_eq_ok.mp n.valid).2.2.2.1

/-- Parsing gives back the number it read. -/
theorem parse_text (n : InvoiceNumber) : InvoiceNumber.parse n.text = .ok n := by
  unfold parse
  split
  · rfl
  · rename_i error h
    rw [n.valid] at h
    cases h

theorem text_of_parse {value : String} {n : InvoiceNumber}
    (h : InvoiceNumber.parse value = .ok n) : n.text = value := by
  unfold parse at h
  split at h
  · cases h; rfl
  · cases h

end InvoiceNumber

/-- A buyer's name as every execution sends it: trimmed and in form C. -/
def normalizeBuyerName [Unicode] (name : String) : String := Unicode.nfc (Text.trim name)

/-! ## External ids -/

/-- The external id (`szamlaKulsoAzon`) the service sends or queries. -/
structure ExternalId where
  text : String
deriving DecidableEq, Repr

namespace ExternalId

/-- The namespace segment of an id. -/
def namespaceText (id : ExternalId) : String :=
  String.ofList (id.text.toList.takeWhile (fun c => c != separator))

variable [Unicode]

/-- `{namespace}:{order}:{kind}`. -/
def forKind (ns : Namespace) (order : OrderKey) (kind : DocumentKind) : ExternalId :=
  ⟨ns.text ++ ":" ++ order.text ++ ":" ++ kind.asStr⟩

/-- `{namespace}:{order}:corrective:{id}`. -/
def forCorrective (ns : Namespace) (order : OrderKey) (id : CorrectionId) : ExternalId :=
  ⟨ns.text ++ ":" ++ order.text ++ ":" ++ IssuedKind.asStr .corrective ++ ":" ++ id.text⟩

/-- What stands behind the order and the kind of a corrective's id is the correction. -/
theorem stripPrefix_forCorrective (ns : Namespace) (order : OrderKey) (id : CorrectionId) :
    Text.stripPrefix (ns.text ++ ":" ++ order.text ++ ":corrective:") (forCorrective ns order id).text
      = some id.text := by
  have htoken : (":corrective:" : String) = ":" ++ IssuedKind.asStr .corrective ++ ":" := by decide
  have htext : (forCorrective ns order id).text
      = ns.text ++ ":" ++ order.text ++ ":corrective:" ++ id.text := by
    rw [htoken, forCorrective]
    simp only [String.append_assoc]
  rw [htext, Text.stripPrefix_append]

/-- `{namespace}:{order}:storno:{original number}`. -/
def forStorno (ns : Namespace) (order : OrderKey) (originalNumber : InvoiceNumber) :
    ExternalId :=
  ⟨ns.text ++ ":" ++ order.text ++ ":" ++ storno ++ ":" ++ originalNumber.text⟩

/-- `{namespace}:by-number:{number}:storno`. -/
def forUnmanagedStorno (ns : Namespace) (number : InvoiceNumber) : ExternalId :=
  ⟨ns.text ++ ":" ++ byNumber ++ ":" ++ number.text ++ ":" ++ storno⟩

/-- `{namespace}:check-account`. -/
def forProbe (ns : Namespace) : ExternalId := ⟨ns.text ++ ":" ++ checkAccount⟩

end ExternalId

/-- The five ways the service composes an external id. -/
inductive Composition [Unicode] where
  | kind (ns : Namespace) (order : OrderKey) (kind : DocumentKind)
  | corrective (ns : Namespace) (order : OrderKey) (id : CorrectionId)
  | storno (ns : Namespace) (order : OrderKey) (originalNumber : InvoiceNumber)
  | unmanagedStorno (ns : Namespace) (number : InvoiceNumber)
  | probe (ns : Namespace)

namespace Composition

variable [Unicode]

/-- The id a composition gives. -/
def externalId : Composition → ExternalId
  | kind ns order k => .forKind ns order k
  | corrective ns order id => .forCorrective ns order id
  | storno ns order number => .forStorno ns order number
  | unmanagedStorno ns number => .forUnmanagedStorno ns number
  | probe ns => .forProbe ns

/-- The namespace a composition is made under. -/
def «namespace» : Composition → Namespace
  | kind ns _ _ | corrective ns _ _ | storno ns _ _ | unmanagedStorno ns _ | probe ns => ns

/-- The order a composition is about, if any. -/
def order : Composition → Option OrderKey
  | kind _ order _ | corrective _ order _ | storno _ order _ => some order
  | unmanagedStorno _ _ | probe _ => none

/-- The segments of the composed id. -/
def segments : Composition → List String
  | kind ns order k => [ns.text, order.text, k.asStr]
  | corrective ns order id => [ns.text, order.text, IssuedKind.asStr .corrective, id.text]
  | storno ns order number => [ns.text, order.text, ExternalId.storno, number.text]
  | unmanagedStorno ns number =>
    [ns.text, ExternalId.byNumber, number.text, ExternalId.storno]
  | probe ns => [ns.text, ExternalId.checkAccount]

/-- **The accepted alias**: the storno of invoice `storno` of order `by-number`
and the unmanaged storno of invoice `storno`, under one namespace. -/
def IsAliasOf (c d : Composition) : Prop :=
  ∃ ns order number, c = storno ns order number ∧ d = unmanagedStorno ns number
    ∧ order.text = ExternalId.byNumber ∧ number.text = ExternalId.storno

theorem segments_ne_nil (c : Composition) : c.segments ≠ [] := by cases c <;> simp [segments]

/-- The id is its segments with the separator between them. -/
theorem externalId_eq_join (c : Composition) :
    c.externalId = ⟨Text.join ExternalId.separator c.segments⟩ := by
  have hsep : (":" : String).toList = [ExternalId.separator] := by decide
  cases c <;>
    · simp only [externalId, segments, ExternalId.forKind, ExternalId.forCorrective,
        ExternalId.forStorno, ExternalId.forUnmanagedStorno, ExternalId.forProbe,
        ExternalId.mk.injEq]
      rw [← String.toList_inj, Text.join, String.toList_ofList]
      simp [Text.joinChars, hsep]

/-- **No segment holds the separator.** -/
theorem separator_notMem_segments (c : Composition) :
    ∀ s ∈ c.segments, ExternalId.separator ∉ s.toList := by
  have hkind : ∀ k : DocumentKind, ExternalId.separator ∉ k.asStr.toList := by
    intro k; cases k <;> decide
  have hcorrective : ExternalId.separator ∉ (IssuedKind.asStr .corrective).toList := by decide
  have hstorno : ExternalId.separator ∉ ExternalId.storno.toList := by decide
  have hbyNumber : ExternalId.separator ∉ ExternalId.byNumber.toList := by decide
  have hcheck : ExternalId.separator ∉ ExternalId.checkAccount.toList := by decide
  cases c with
  | kind ns order k =>
    simp [segments, ns.separator_notMem, order.separator_notMem, hkind]
  | corrective ns order id =>
    simp [segments, ns.separator_notMem, order.separator_notMem, hcorrective,
      id.separator_notMem]
  | storno ns order number =>
    simp [segments, ns.separator_notMem, order.separator_notMem, hstorno,
      number.separator_notMem]
  | unmanagedStorno ns number =>
    simp [segments, ns.separator_notMem, hbyNumber, number.separator_notMem, hstorno]
  | probe ns => simp [segments, ns.separator_notMem, hcheck]

/-- Equal ids have equal segments. -/
theorem externalId_eq_iff_segments (c d : Composition) :
    c.externalId = d.externalId ↔ c.segments = d.segments := by
  rw [externalId_eq_join, externalId_eq_join, ExternalId.mk.injEq]
  constructor
  · exact Text.join_inj c.separator_notMem_segments d.separator_notMem_segments
      c.segments_ne_nil d.segments_ne_nil
  · exact congrArg _

/-- **Segments determine the composition, up to the accepted alias.** A kind
has three segments and a probe two, the three that have four are told apart by
the third one – a fixed token except in an unmanaged storno, where it is the
number, which is why one pair meets. -/
theorem segments_eq_iff (c d : Composition) :
    c.segments = d.segments ↔ c = d ∨ c.IsAliasOf d ∨ d.IsAliasOf c := by
  constructor
  · intro h
    cases c <;> cases d <;> simp only [segments, List.cons.injEq, reduceCtorEq, and_false,
      and_true] at h
    case kind.kind =>
      obtain ⟨hns, ho, hk⟩ := h
      rw [Namespace.ext hns, OrderKey.ext ho, DocumentKind.asStr_injective hk]
      exact Or.inl rfl
    case corrective.corrective =>
      obtain ⟨hns, ho, -, hid⟩ := h
      rw [Namespace.ext hns, OrderKey.ext ho, CorrectionId.ext hid]
      exact Or.inl rfl
    case corrective.storno => exact absurd h.2.2.1 (by decide)
    case corrective.unmanagedStorno id _ _ =>
      -- a correction id that reads `storno` was refused
      have htoken := id.isToken_eq_false
      rw [h.2.2.2] at htoken
      exact absurd htoken (by decide)
    case storno.corrective => exact absurd h.2.2.1 (by decide)
    case storno.storno =>
      obtain ⟨hns, ho, -, hn⟩ := h
      rw [Namespace.ext hns, OrderKey.ext ho, InvoiceNumber.ext hn]
      exact Or.inl rfl
    case storno.unmanagedStorno ns order number ns' number' =>
      obtain ⟨hns, ho, hn', hn⟩ := h
      have hnumber : number = number' := InvoiceNumber.ext (hn.trans hn')
      subst hnumber
      exact Or.inr (Or.inl ⟨ns, order, number, rfl, by rw [Namespace.ext hns], ho, hn⟩)
    case unmanagedStorno.corrective id =>
      have htoken := id.isToken_eq_false
      rw [← h.2.2.2] at htoken
      exact absurd htoken (by decide)
    case unmanagedStorno.storno ns number ns' order' number' =>
      obtain ⟨hns, ho, hn, hn'⟩ := h
      have hnumber : number' = number := InvoiceNumber.ext (hn'.symm.trans hn.symm)
      subst hnumber
      exact Or.inr (Or.inr ⟨ns', order', number', rfl, by rw [Namespace.ext hns], ho.symm, hn⟩)
    case unmanagedStorno.unmanagedStorno =>
      obtain ⟨hns, -, hn⟩ := h
      rw [Namespace.ext hns, InvoiceNumber.ext hn]
      exact Or.inl rfl
    case probe.probe =>
      rw [Namespace.ext h]
      exact Or.inl rfl
  · rintro (rfl | ⟨ns, order, number, rfl, rfl, ho, hn⟩ | ⟨ns, order, number, rfl, rfl, ho, hn⟩)
    · rfl
    all_goals simp [segments, ho, hn]

/-- Two compositions for orders have one id only if they are the same. -/
theorem eq_of_externalId_eq {c d : Composition} {o o' : OrderKey} (hc : c.order = some o)
    (hd : d.order = some o') (h : c.externalId = d.externalId) : c = d := by
  rcases (segments_eq_iff c d).mp ((externalId_eq_iff_segments c d).mp h) with
    heq | ⟨_, _, _, -, hd', -⟩ | ⟨_, _, _, -, hc', -⟩
  · exact heq
  · simp [hd', order] at hd
  · simp [hc', order] at hc

/-- **Every id fits the length verified on szamlazz.hu**: 16 bytes of namespace,
40 of each other caller-supplied segment, the tokens and the separators. -/
theorem externalId_length_le (c : Composition) :
    c.externalId.text.utf8ByteSize ≤ ExternalId.maxLen := by
  have hsep : (":" : String).utf8ByteSize = 1 := by decide
  have hkind : ∀ k : DocumentKind, k.asStr.utf8ByteSize ≤ 10 := by
    intro k; cases k <;> decide
  have hcorrective : (IssuedKind.asStr .corrective).utf8ByteSize = 10 := by decide
  have hstorno : ExternalId.storno.utf8ByteSize = 6 := by decide
  have hbyNumber : ExternalId.byNumber.utf8ByteSize = 9 := by decide
  have hcheck : ExternalId.checkAccount.utf8ByteSize = 13 := by decide
  cases c with
  | kind ns order k =>
    have := ns.length_le
    have := order.length_le
    have := hkind k
    simp only [externalId, ExternalId.forKind, String.utf8ByteSize_append, hsep,
      ExternalId.maxLen]
    omega
  | corrective ns order id =>
    have := ns.length_le
    have := order.length_le
    have := id.length_le
    simp only [externalId, ExternalId.forCorrective, String.utf8ByteSize_append, hsep,
      hcorrective, ExternalId.maxLen]
    omega
  | storno ns order number =>
    have := ns.length_le
    have := order.length_le
    have := number.length_le
    simp only [externalId, ExternalId.forStorno, String.utf8ByteSize_append, hsep, hstorno,
      ExternalId.maxLen]
    omega
  | unmanagedStorno ns number =>
    have := ns.length_le
    have := number.length_le
    simp only [externalId, ExternalId.forUnmanagedStorno, String.utf8ByteSize_append, hsep,
      hstorno, hbyNumber, ExternalId.maxLen]
    omega
  | probe ns =>
    have := ns.length_le
    simp only [externalId, ExternalId.forProbe, String.utf8ByteSize_append, hsep, hcheck,
      ExternalId.maxLen]
    omega

/-- **The alias is one pair per namespace**, once its order key is accepted. -/
theorem existsUnique_isAliasOf (ns : Namespace)
    (hnfc : Unicode.isNfc ExternalId.byNumber = true) :
    ∃! p : Composition × Composition, p.1.namespace = ns ∧ p.1.IsAliasOf p.2 := by
  have ho : OrderKey.validate ExternalId.byNumber = .ok () := by
    have hplain : ExternalId.byNumber.toList.all
        (fun c => !Text.isControl c && !Text.isWhitespace c) = true := by decide
    simp only [List.all_eq_true, Bool.and_eq_true, Bool.not_eq_true'] at hplain
    exact OrderKey.validate_eq_ok.mpr ⟨by decide, by decide, fun c hc => (hplain c hc).1,
      fun c hc => (hplain c hc).2, by decide, hnfc, by decide⟩
  have hn : InvoiceNumber.validate ExternalId.storno = .ok () := by decide
  refine ⟨(storno ns ⟨_, ho⟩ ⟨_, hn⟩, unmanagedStorno ns ⟨_, hn⟩),
    ⟨rfl, ns, ⟨_, ho⟩, ⟨_, hn⟩, rfl, rfl, rfl, rfl⟩, ?_⟩
  rintro ⟨c, d⟩ ⟨hns, ns', order, number, rfl, rfl, horder, hnumber⟩
  obtain rfl : ns' = ns := hns
  rw [OrderKey.ext (a := order) (b := ⟨_, ho⟩) horder,
    InvoiceNumber.ext (a := number) (b := ⟨_, hn⟩) hnumber]

/-- The namespace segment of a composed id is the namespace. -/
theorem namespaceText_externalId (c : Composition) :
    c.externalId.namespaceText = c.namespace.text := by
  have hhead : ∃ rest, c.segments = c.namespace.text :: rest ∧ rest ≠ [] := by
    cases c <;> exact ⟨_, rfl, by simp⟩
  obtain ⟨rest, hseg, hrest⟩ := hhead
  have hns : ∀ a ∈ c.namespace.text.toList, (a != ExternalId.separator) = true := by
    intro a ha
    have hne : a ≠ ExternalId.separator := by
      rintro rfl
      exact c.namespace.separator_notMem ha
    simpa using hne
  cases rest with
  | nil => exact absurd rfl hrest
  | cons s rest =>
    rw [externalId_eq_join, hseg, ExternalId.namespaceText]
    simp only [Text.join, String.toList_ofList, List.map_cons, Text.joinChars]
    rw [List.takeWhile_append_of_pos hns, List.takeWhile_cons_of_neg (by simp),
      List.append_nil, String.ofList_toList]

end Composition

end Szamlazz
