import Szamlazz.Agent.Error
import Szamlazz.Lib.Lexical
import Szamlazz.Lib.Xml

/-!
# The vocabulary of Számla Agent requests

Decimals and dates as the client prints them, and the token types a request
carries. A decimal is the 96-bit integer and the scale the wire text is made
from; a date is a civil date of the calendar, so that neither a month without
that day nor a decimal outside the representable range can be written down.
-/

namespace Szamlazz

/-! ## Decimals -/

/-- A decimal: a sign, a 96-bit integer, and how many of its digits stand after
the decimal point. -/
structure Decimal where
  negative : Bool
  mantissa : Nat
  scale : Nat
  mantissa_lt : mantissa < 2 ^ 96
  scale_le : scale ≤ 28
deriving DecidableEq

namespace Decimal

/-- The digits with as many zeros in front as the scale needs. -/
def paddedDigits (d : Decimal) : List Char :=
  let digits := Nat.toDigits 10 d.mantissa
  List.replicate (d.scale + 1 - digits.length) '0' ++ digits

def wholeDigits (d : Decimal) : List Char :=
  d.paddedDigits.take (d.paddedDigits.length - d.scale)

def fractionDigits (d : Decimal) : List Char :=
  d.paddedDigits.drop (d.paddedDigits.length - d.scale)

/-- Plain notation, never scientific. -/
def display (d : Decimal) : String :=
  String.ofList ((if d.negative then ['-'] else []) ++ d.wholeDigits
    ++ (if d.scale = 0 then [] else '.' :: d.fractionDigits))

/-- The library's own `Decimal::normalize`: the same value with the fewest digits after
the point; zero loses its sign. -/
def normalize (d : Decimal) : Decimal :=
  if d.mantissa = 0 then ⟨false, 0, 0, by decide, by decide⟩
  else go d.negative d.mantissa d.scale d.mantissa_lt d.scale_le
where
  go (negative : Bool) (mantissa : Nat) : (scale : Nat) → mantissa < 2 ^ 96 → scale ≤ 28 → Decimal
    | 0, hm, hs => ⟨negative, mantissa, 0, hm, hs⟩
    | scale + 1, hm, hs =>
      if mantissa % 10 = 0 then
        go negative (mantissa / 10) scale (Nat.lt_of_le_of_lt (Nat.div_le_self _ _) hm)
          (Nat.le_of_succ_le hs)
      else ⟨negative, mantissa, scale + 1, hm, hs⟩

/-- Whether the value is below or equal to zero. -/
def isNonPositive (d : Decimal) : Bool := d.negative || d.mantissa == 0

theorem paddedDigits_isDigit (d : Decimal) : ∀ c ∈ d.paddedDigits, c.isDigit = true := by
  intro c hc
  rcases List.mem_append.mp hc with hc | hc
  · rw [List.eq_of_mem_replicate hc]
    decide
  · exact Nat.isDigit_of_mem_toDigits (by decide) (by decide) hc

theorem scale_lt_length_paddedDigits (d : Decimal) : d.scale < d.paddedDigits.length := by
  have hpos : 0 < (Nat.toDigits 10 d.mantissa).length := Nat.length_toDigits_pos
  simp only [paddedDigits, List.length_append, List.length_replicate]
  omega

theorem wholeDigits_ne_nil (d : Decimal) : d.wholeDigits ≠ [] := by
  have h := d.scale_lt_length_paddedDigits
  intro hnil
  have := congrArg List.length hnil
  simp only [wholeDigits, List.length_take, List.length_nil] at this
  omega

theorem wholeDigits_isDigit (d : Decimal) : ∀ c ∈ d.wholeDigits, c.isDigit = true :=
  fun c hc => d.paddedDigits_isDigit c (List.mem_of_mem_take hc)

theorem fractionDigits_isDigit (d : Decimal) : ∀ c ∈ d.fractionDigits, c.isDigit = true :=
  fun c hc => d.paddedDigits_isDigit c (List.mem_of_mem_drop hc)

/-- Every decimal is printed as a double of the schema. -/
theorem isDouble_display (d : Decimal) : Lexical.isDouble d.display = true := by
  refine Lexical.isDouble_ofList d.wholeDigits_ne_nil d.wholeDigits_isDigit ?_
  split
  · exact Or.inl rfl
  · exact Or.inr ⟨_, rfl, d.fractionDigits_isDigit⟩

end Decimal

/-! ## Dates -/

/-- A civil date. -/
structure Date where
  year : Int
  month : Nat
  day : Nat
  year_ge : -9999 ≤ year
  year_le : year ≤ 9999
  month_valid : 1 ≤ month ∧ month ≤ 12
  day_valid : 1 ≤ day ∧ day ≤ Lexical.daysInMonth year month
deriving DecidableEq

namespace Date

/-- `YYYY-MM-DD`; a negative year is written with a sign and six digits. -/
def display (d : Date) : String :=
  String.ofList ((if d.year < 0 then '-' :: '0' :: '0' :: Lexical.pad4 d.year.natAbs
      else Lexical.pad4 d.year.natAbs)
    ++ '-' :: Lexical.pad2 d.month ++ '-' :: Lexical.pad2 d.day)

/-- A date of a positive year is printed as a date of the schema. -/
theorem isDate_display {d : Date} (h : 0 < d.year) : Lexical.isDate d.display = true := by
  have hnat : ((d.year.natAbs : Nat) : Int) = d.year := by omega
  have hle := d.year_le
  unfold display
  rw [if_neg (by omega)]
  refine Lexical.isDate_ofList (by omega) d.month_valid ?_
  rw [hnat]
  exact d.day_valid

end Date

/-! ## Tokens -/

/-- A VAT rate or one of the codes in place of one. -/
inductive VatRate where
  | percent (rate : Decimal)
  | aam | tam | tahk | eut | eukt | fAfa | kAfa | ho | eue | eufade | eufad37 | atk | nam | eam
  | kbauk | kbaet | akk | eu | euk | maa
  | other (code : String)
deriving DecidableEq

def VatRate.asWire : VatRate → String
  | percent rate => rate.normalize.display
  | aam => "AAM"
  | tam => "TAM"
  | tahk => "TAHK"
  | eut => "EUT"
  | eukt => "EUKT"
  | fAfa => "F.AFA"
  | kAfa => "K.AFA"
  | ho => "HO"
  | eue => "EUE"
  | eufade => "EUFADE"
  | eufad37 => "EUFAD37"
  | atk => "ATK"
  | nam => "NAM"
  | eam => "EAM"
  | kbauk => "KBAUK"
  | kbaet => "KBAET"
  | akk => "ÁKK"
  | eu => "EU"
  | euk => "EUK"
  | maa => "MAA"
  | other code => code

/-- A currency, by its code. -/
structure Currency where
  code : String
deriving DecidableEq

/-- Whether the currency is the forint, under either of its spellings. -/
def Currency.isHuf (c : Currency) : Bool :=
  let lower := c.code.toList.map Char.toLower
  lower == "HUF".toList.map Char.toLower || lower == "Ft".toList.map Char.toLower

/-- The language of a document. -/
inductive Language where
  | hungarian | english | german | italian | romanian | slovak | croatian | french | spanish
  | czech | polish | bulgarian | dutch | russian | slovenian
deriving DecidableEq

def Language.asWire : Language → String
  | hungarian => "hu"
  | english => "en"
  | german => "de"
  | italian => "it"
  | romanian => "ro"
  | slovak => "sk"
  | croatian => "hr"
  | french => "fr"
  | spanish => "es"
  | czech => "cz"
  | polish => "pl"
  | bulgarian => "bg"
  | dutch => "nl"
  | russian => "ru"
  | slovenian => "si"

/-- A payment method, by its wire token. -/
inductive PaymentMethod where
  | transfer | cash | card | check | cashOnDelivery | payPal | szepCard
  | other (method : String)
deriving DecidableEq

def PaymentMethod.asWire : PaymentMethod → String
  | transfer => "átutalás"
  | cash => "készpénz"
  | card => "bankkártya"
  | check => "csekk"
  | cashOnDelivery => "utánvét"
  | payPal => "PayPal"
  | szepCard => "SZÉP kártya"
  | other method => method

/-- What is known of a buyer's tax number. -/
inductive TaxpayerStatus where
  | nonEuBusiness | euBusiness | hasTaxNumber | unknown | noTaxNumber
deriving DecidableEq

def TaxpayerStatus.asWire : TaxpayerStatus → String
  | nonEuBusiness => "7"
  | euBusiness => "6"
  | hasTaxNumber => "1"
  | unknown => "0"
  | noTaxNumber => "-1"

/-- The exchange rate of a foreign-currency document. -/
structure ExchangeRate where
  bank : String
  rate : Option Decimal
deriving DecidableEq

/-- The image of an invoice. -/
inductive InvoiceTemplate where
  | most | default | noEnvelope | eightCentimeter | continuous | deliveryNote
  | other (value : String)
deriving DecidableEq

def InvoiceTemplate.asWire : InvoiceTemplate → String
  | most => "SzlaMost"
  | default => "SzlaAlap"
  | noEnvelope => "SzlaNoEnv"
  | eightCentimeter => "Szla8cm"
  | continuous => "SzlaTomb"
  | deliveryNote => "SzlaFuvarlevelesAlap"
  | other value => value

/-- The email a document is sent with. -/
structure SellerEmail where
  replyTo : Option String
  subject : Option String
  body : Option String
deriving DecidableEq

/-- The credentials of an account. -/
inductive Credentials where
  | agentKey (key : String)
  | userPassword (username password : String)
deriving DecidableEq

/-- The ledger data of a line item. -/
structure LineItemLedger where
  economicEvent : Option String
  vatEconomicEvent : Option String
  revenueAccount : Option String
  vatAccount : Option String
  settlementFrom : Option Date
  settlementTo : Option Date
deriving DecidableEq

/-- A line item (`tétel`). -/
structure LineItem where
  name : String
  id : Option String
  quantity : Decimal
  unit : String
  unitPrice : Decimal
  vatRate : VatRate
  marginVatBase : Option Decimal
  netValue : Decimal
  vatValue : Decimal
  grossValue : Decimal
  comment : Option String
  ledger : Option LineItemLedger
  erasureCodeCount : Option UInt32
deriving DecidableEq

/-- The largest number of data erasure codes of a line item. -/
def maxErasureCodeCount : UInt32 := 400

/-! ## Validation and writing shared by the operations -/

/-- A check followed by more succeeds if both do. -/
theorem Except.check_eq_ok {ε β : Type} {x : Except ε PUnit} {f : PUnit → Except ε β} {b : β} :
    (x >>= f) = .ok b ↔ x = .ok () ∧ f () = .ok b := by
  cases x <;> simp [bind, Except.bind]

theorem Except.bind_eq_ok {ε α β : Type} {x : Except ε α} {f : α → Except ε β} {b : β} :
    (x >>= f) = .ok b ↔ ∃ a, x = .ok a ∧ f a = .ok b := by
  cases x <;> simp [bind, Except.bind]

/-- Refuses with `error` if the condition holds. -/
def refuseIf (condition : Bool) (error : RequestError) : Except RequestError Unit :=
  if condition then .error error else .ok ()

@[simp] theorem refuseIf_eq_ok {condition : Bool} {error : RequestError} :
    refuseIf condition error = .ok () ↔ condition = false := by
  cases condition <;> simp [refuseIf]

/-- Refuses the first value above the largest one allowed. -/
def refuseAbove (largest : UInt32) (error : Nat → RequestError) (counts : List UInt32) :
    Except RequestError Unit :=
  match counts.find? (fun count => count > largest) with
  | some count => .error (error count.toNat)
  | none => .ok ()

theorem refuseAbove_eq_ok {largest : UInt32} {error : Nat → RequestError} {counts : List UInt32} :
    refuseAbove largest error counts = .ok () ↔ ∀ count ∈ counts, count ≤ largest := by
  unfold refuseAbove
  split
  · rename_i count hfind
    refine iff_of_false (by simp) (fun h => ?_)
    have hle := h count (List.mem_of_find?_eq_some hfind)
    have hgt : count > largest := by simpa using List.find?_some hfind
    exact absurd hle (UInt32.not_le.mpr hgt)
  · rename_i hfind
    simpa using List.find?_eq_none.mp hfind

/-- Dates of a year the schema's dates have. -/
def validateDates : List (String × Option Date) → Except RequestError Unit
  | [] => .ok ()
  | (field, some date) :: dates =>
    if date.year ≤ 0 then .error (.invalidDateYear field date.year) else validateDates dates
  | (_, none) :: dates => validateDates dates

theorem validateDates_eq_ok {dates : List (String × Option Date)} :
    validateDates dates = .ok () ↔ ∀ f ∈ dates, ∀ d ∈ f.2, 0 < d.year := by
  induction dates with
  | nil => simp [validateDates]
  | cons f dates ih =>
    obtain ⟨field, date⟩ := f
    cases date with
    | none => simp [validateDates, ih]
    | some d =>
      rw [validateDates]
      split
      · rename_i hle
        refine iff_of_false (by simp) (fun h => ?_)
        have := h (field, some d) List.mem_cons_self d rfl
        omega
      · rename_i hlt
        rw [ih]
        simp only [List.forall_mem_cons, Option.mem_some_iff, forall_eq']
        exact ⟨fun h => ⟨by omega, h⟩, fun h => h.2⟩

/-- The exchange rate a foreign-currency document needs: a bank without blanks
around its name, and a rate unless the bank is the one szamlazz.hu looks up. -/
def validateExchangeRate (currency : Currency) (exchangeRate : Option ExchangeRate) :
    Except RequestError Unit :=
  if !currency.isHuf then
    match exchangeRate with
    | none => .error .missingExchangeRate
    | some rate =>
      let bank := Text.trim rate.bank
      if bank.isEmpty || bank != rate.bank || (rate.rate.isNone && bank != "MNB") then
        .error .invalidExchangeRate
      else .ok ()
  else .ok ()

/-! The methods of the order-preserving writer: what each appends to the
element it is called on. -/

namespace Element

open Xml (Node)

def node (name : String) (children : List Node) : List Node := [.node name children]

/-- A nested element written only if the request has it. -/
def nodeOpt {α : Type} (name : String) (f : α → List Node) (value : Option α) : List Node :=
  (value.map (fun a => node name (f a))).getD []

def text (name value : String) : List Node := [.leaf name value]

def textOpt (name : String) : Option String → List Node
  | some value => text name value
  | none => []

/-- The text of a boolean element. -/
def boolText (value : Bool) : String := if value then "true" else "false"

def bool (name : String) (value : Bool) : List Node := text name (boolText value)

def decimal (name : String) (value : Decimal) : List Node := text name value.display

def date (name : String) (value : Date) : List Node := text name value.display

def dateOpt (name : String) : Option Date → List Node
  | some value => date name value
  | none => []

/-- The credential fields in wire order. -/
def credentials : Credentials → List Node
  | .agentKey key => text "szamlaagentkulcs" key
  | .userPassword username password => text "felhasznalo" username ++ text "jelszo" password

@[simp] theorem textOpt_none (name : String) : textOpt name none = [] := rfl

@[simp] theorem textOpt_some (name value : String) :
    textOpt name (some value) = text name value := rfl

theorem dateOpt_eq (name : String) (value : Option Date) :
    dateOpt name value = textOpt name (value.map Date.display) := by
  cases value <;> rfl

end Element

/-- A complete document: the declaration, the root with its default namespace,
and the root's children. -/
structure XmlDocument where
  root : String
  «namespace» : String
  children : List Xml.Node

/-- The declaration and the start tag of the root. -/
def XmlDocument.head (d : XmlDocument) : List Char :=
  "<?xml version=\"1.0\" encoding=\"UTF-8\"?>".toList
    ++ ('<' :: d.root.toList ++ " xmlns=\"".toList ++ d.namespace.toList ++ ['"', '>'])

/-- The document as it is sent. -/
def XmlDocument.text (d : XmlDocument) : String :=
  String.ofList (d.head ++ Xml.renderAll d.children ++ Xml.endTag d.root)

/-- A request is validated, written, and refused if XML 1.0 cannot hold what was
written. The document then goes into the multipart envelope (`Wire.multipart`). -/
def wireRequest (validate : Except RequestError Unit) (document : XmlDocument) :
    Except RequestError XmlDocument := do
  validate
  validateXmlText document.text
  pure document

theorem wireRequest_eq_ok {validate : Except RequestError Unit} {document d : XmlDocument} :
    wireRequest validate document = .ok d
      ↔ validate = .ok () ∧ validateXmlText document.text = .ok () ∧ document = d := by
  unfold wireRequest
  cases validate with
  | error e => simp [bind, Except.bind]
  | ok u =>
    cases h : validateXmlText document.text with
    | error e => simp [bind, Except.bind]
    | ok v => simp [bind, Except.bind, pure, Except.pure]

/-- Whether every part of a document consists of XML 1.0 characters. -/
def XmlDocument.isXml10 (document : XmlDocument) : Bool :=
  document.head.all isXml10Character && (Xml.renderAll document.children).all isXml10Character
    && (Xml.endTag document.root).all isXml10Character

/-- A valid request is sent if its document is made of XML 1.0 characters. -/
theorem wireRequest_of_isXml10 {validate : Except RequestError Unit} {document : XmlDocument}
    (hvalidate : validate = .ok ()) (h : document.isXml10 = true) :
    wireRequest validate document = .ok document := by
  simp only [XmlDocument.isXml10, Bool.and_eq_true, List.all_eq_true] at h
  obtain ⟨⟨hhead, hchildren⟩, hend⟩ := h
  refine wireRequest_eq_ok.mpr ⟨hvalidate, validateXmlText_eq_ok.mpr (fun c hc => ?_), rfl⟩
  rw [XmlDocument.text, String.toList_ofList, List.mem_append, List.mem_append] at hc
  rcases hc with (hc | hc) | hc
  · exact hhead c hc
  · exact hchildren c hc
  · exact hend c hc

end Szamlazz
