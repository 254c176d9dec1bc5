import Szamlazz.Contract.Money
import Szamlazz.Gateway.Storno

/-!
# Building a create

A request's document, projected with the account's defaults and the resolved
references into the create that is sent. The projection is a function of its
inputs, so every execution of an invocation sends the same bytes; what it
accepts is then put to the very validation the client makes before sending.
-/

namespace Szamlazz

/-- The documents a create refers to, by number. -/
structure DocumentRefs where
  proforma : Option String := none
  prepayment : Option String := none
  corrected : Option String := none
deriving DecidableEq

/-- Why a document cannot be projected. -/
inductive InputError where
  | unknownLanguage (token : String)
  | missingExchangeRate (currency : String)
  | invalidExchangeRate (bank : String)
  | missingReference (kind : IssuedKind) (reference : String)
  | monetary (error : MonetaryError)
deriving DecidableEq

def InputError.display [Unicode] : InputError → String
  | unknownLanguage token => "unknown document language " ++ Unicode.debugText token
  | missingExchangeRate currency =>
    "currency " ++ currency ++ " requires an exchange rate: set overrides.exchange_rate or configure defaults.exchange_rate_bank = \"MNB\""
  | invalidExchangeRate bank =>
    "an exchange rate without a rate is only automatic for MNB, not " ++ Unicode.debugText bank
  | missingReference kind reference =>
    "a " ++ kind.asStr ++ " requires a " ++ reference ++ " reference"
  | monetary error => error.display

/-- The language of a wire token. -/
def Language.ofToken (token : String) : Option Language :=
  [Language.hungarian, .english, .german, .italian, .romanian, .slovak, .croatian, .french,
    .spanish, .czech, .polish, .bulgarian, .dutch, .russian, .slovenian].find?
      (fun language => language.asWire = token)

/-- A template by its wire value or its name; anything else as it is. -/
def InvoiceTemplate.ofToken (token : String) : InvoiceTemplate :=
  if token = "SzlaMost" ∨ token = "most" then .most
  else if token = "SzlaAlap" ∨ token = "default" then .default
  else if token = "SzlaNoEnv" ∨ token = "no_envelope" then .noEnvelope
  else if token = "Szla8cm" ∨ token = "eight_centimeter" then .eightCentimeter
  else if token = "SzlaTomb" ∨ token = "continuous" then .continuous
  else if token = "SzlaFuvarlevelesAlap" ∨ token = "delivery_note" then .deliveryNote
  else .other token

/-- The exchange rate of a document in a currency. -/
def exchangeRateOf (currency : Currency) (override : Option ExchangeRateInput) (bank : String) :
    Except InputError (Option ExchangeRate) :=
  if currency.isHuf then .ok none
  else
    match override with
    | some input =>
      if input.rate = none ∧ input.bank ≠ "MNB" then .error (.invalidExchangeRate input.bank)
      else .ok (some ⟨input.bank, input.rate⟩)
    | none =>
      if bank = "MNB" then .ok (some ⟨"MNB", none⟩)
      else .error (.missingExchangeRate currency.code)

/-- The kind to ask for, with the references it takes. -/
def invoiceKindOf (kind : IssuedKind) (refs : DocumentRefs) : Except InputError InvoiceKind :=
  match kind with
  | .proforma => .ok .proforma
  | .invoice => .ok (.invoice refs.proforma)
  | .prepayment => .ok (.prepayment refs.proforma)
  | .final =>
    match refs.prepayment with
    | some number => .ok (.final (some number) refs.proforma)
    | none => .error (.missingReference kind "prepayment")
  | .corrective =>
    match refs.corrected with
    | some number => .ok (.corrective number)
    | none => .error (.missingReference kind "corrected invoice")

section Build

variable [Unicode] [Transport] [RustDecimal]

/-- The buyer as it is sent. -/
def BuyerInput.toBuyer (input : BuyerInput) (sendEmail : Option Bool) : Buyer where
  name := normalizeBuyerName input.name
  country := input.country
  zip := input.zip
  city := input.city
  address := input.address
  email := input.email
  sendEmail := sendEmail
  taxpayerStatus := input.taxpayerStatus
  taxNumber := input.taxNumber
  groupId := input.groupId
  euTaxNumber := input.euTaxNumber
  postalAddress := input.postalAddress
  ledger := none
  id := input.id
  signerName := none
  phone := input.phone
  comment := input.comment

/-- The header as it is sent. -/
def Account.buildHeader (account : Account) (document : DocumentInput) (order : OrderKey)
    (currency : Currency) (language : Language) (exchangeRate : Option ExchangeRate) :
    InvoiceHeader where
  issueDate := document.issueDate
  fulfillmentDate := document.fulfillmentDate
  dueDate := document.dueDate
  paymentMethod := document.paymentMethod
  currency := currency
  language := language
  comment := document.comment
  exchangeRate := exchangeRate
  orderNumber := some order.text
  extraLogo := account.defaults.extraLogo
  numberPrefix := document.overrides.numberPrefix.or account.defaults.numberPrefix
  payableAdjustment := none
  paid := document.paid
  marginVat := none
  euVat := none
  template := (document.overrides.template.or account.defaults.template).map InvoiceTemplate.ofToken
  previewPdf := none
  simpleItems := none

/-- **The create of a document**: the account's defaults, the overrides, the
computed rows, the order number and the external id. -/
def Account.buildCreate (account : Account) (kind : IssuedKind) (document : DocumentInput)
    (order : OrderKey) (externalId : ExternalId) (refs : DocumentRefs) :
    Except InputError CreateInvoice := do
  if document.items.isEmpty then .error (.monetary .noItems)
  let token := document.overrides.language.getD account.defaults.language
  let language ← match Language.ofToken token with
    | some language => .ok language
    | none => .error (.unknownLanguage token)
  let currency : Currency := ⟨document.overrides.currency.getD account.defaults.currency⟩
  let exchangeRate ← exchangeRateOf currency document.overrides.exchangeRate
    account.defaults.exchangeRateBank
  let invoiceKind ← invoiceKindOf kind refs
  let preflight ← (document.monetaryPreflight currency).mapError .monetary
  return {
    kind := invoiceKind
    eInvoice := document.overrides.eInvoice.getD account.defaults.eInvoice
    downloadPdf := false
    downloadCopies := none
    aggregator := account.defaults.aggregator
    guardian := account.defaults.guardian
    itemIdentifiersOnInvoice := none
    externalId := some externalId.text
    header := account.buildHeader document order currency language exchangeRate
    seller := account.seller.toSeller
    buyer := document.buyer.toBuyer (document.overrides.sendEmail.or account.defaults.sendEmail)
    waybill := none
    items := preflight.items }

theorem Account.kind_of_buildCreate {account : Account} {kind : IssuedKind}
    {document : DocumentInput} {order : OrderKey} {externalId : ExternalId} {refs : DocumentRefs}
    {create : CreateInvoice}
    (h : account.buildCreate kind document order externalId refs = .ok create) :
    invoiceKindOf kind refs = .ok create.kind := by
  unfold buildCreate at h
  split_ifs at h
  · cases h
  · dsimp only at h
    split at h
    · obtain ⟨language, -, h⟩ := Except.bind_eq_ok.mp h
      obtain ⟨exchangeRate, -, h⟩ := Except.bind_eq_ok.mp h
      obtain ⟨invoiceKind, hkind, h⟩ := Except.bind_eq_ok.mp h
      obtain ⟨preflight, -, h⟩ := Except.bind_eq_ok.mp h
      obtain rfl := Except.ok.inj h
      exact hkind
    · cases h

/-- The validation a create is put to before it is sent, with credentials that
stand in for the account's. -/
def CreateInvoice.validateRequest (request : CreateInvoice) : Except RequestError Unit :=
  (request.toWire (.agentKey "validation")).map (fun _ => ())

def StornoInvoice.validateRequest (request : StornoInvoice) : Except RequestError Unit :=
  (request.toWire (.agentKey "validation")).map (fun _ => ())

omit [Unicode] [Transport] [RustDecimal] in
/-- A create that passes its validation links a proforma of XML 1.0 text. -/
theorem CreateInvoice.validateXmlText_proformaNumber {request : CreateInvoice}
    (h : request.validateRequest = .ok ()) {number : String}
    (hnumber : request.kind.proformaNumber = some number) : validateXmlText number = .ok () := by
  unfold validateRequest at h
  cases hsent : request.toWire (.agentKey "validation") with
  | error error =>
    rw [hsent] at h
    cases h
  | ok document =>
    obtain ⟨-, htext, -⟩ := wireRequest_eq_ok.mp hsent
    rw [validateXmlText_eq_ok] at htext ⊢
    intro c hc
    by_contra hbad
    -- what is forbidden is written as itself, in the header of the document
    have hplain : Xml.escapeChar c = [c] := by
      unfold Xml.escapeChar
      split <;> first | rfl | exact absurd rfl hbad
    have hleaf : Xml.Node.leaf "dijbekeroSzamlaszam" number ∈ request.fejlec := by
      simp [fejlec, hnumber, Element.text]
    have hheader : Xml.Node.node "fejlec" request.fejlec
        ∈ (request.writeXml (.agentKey "validation")).children := by
      simp [writeXml, Element.node]
    refine hbad (htext c ?_)
    rw [XmlDocument.text, String.toList_ofList, List.mem_append, List.mem_append]
    exact Or.inl (Or.inr (Xml.mem_renderAll hheader (Xml.mem_render_node (Xml.mem_renderAll hleaf
      (Xml.mem_render_leaf (Xml.mem_escape hc hplain))))))

end Build

end Szamlazz
