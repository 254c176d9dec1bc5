import Szamlazz.Agent.Types

/-!
# Creating an invoice

The request, its validation and its writer. The element order of a Számla Agent
document is fixed, so the writer *is* the wire specification; it is kept here
element by element in the order the source writes them, the children of each
container being one list of what its statements append.
-/

namespace Szamlazz

/-! ## The request -/

/-- The kind of document asked for, with the documents it refers to. -/
inductive InvoiceKind where
  | invoice (proformaNumber : Option String)
  | proforma
  | deliveryNote
  | prepayment (proformaNumber : Option String)
  | final (prepaymentNumber proformaNumber : Option String)
  | corrective (correctedNumber : String)
deriving DecidableEq

/-- The proforma a kind refers to. -/
def InvoiceKind.proformaNumber : InvoiceKind → Option String
  | invoice proformaNumber | prepayment proformaNumber | final _ proformaNumber => proformaNumber
  | proforma | deliveryNote | corrective _ => none

/-- The bookkeeping data of a buyer. -/
structure BuyerLedger where
  accountingDate : Option Date
  buyerId : Option String
  buyerAccount : Option String
  continuousFulfillment : Option Bool
  settlementFrom : Option Date
  settlementTo : Option Date
deriving DecidableEq

/-- The header (`fejléc`). -/
structure InvoiceHeader where
  issueDate : Option Date
  fulfillmentDate : Date
  dueDate : Date
  paymentMethod : PaymentMethod
  currency : Currency
  language : Language
  comment : Option String
  exchangeRate : Option ExchangeRate
  orderNumber : Option String
  extraLogo : Option String
  numberPrefix : Option String
  payableAdjustment : Option Decimal
  paid : Option Bool
  marginVat : Option Bool
  euVat : Option Bool
  template : Option InvoiceTemplate
  previewPdf : Option Bool
  simpleItems : Option Bool
deriving DecidableEq

/-- The seller (`eladó`). -/
structure Seller where
  bank : Option String
  bankAccount : Option String
  email : Option SellerEmail
  signerName : Option String
deriving DecidableEq

/-- Where an invoice is sent. -/
structure PostalAddress where
  name : Option String
  country : Option String
  zip : Option String
  city : Option String
  address : Option String
deriving DecidableEq

/-- The buyer (`vevő`). -/
structure Buyer where
  name : String
  country : Option String
  zip : String
  city : String
  address : String
  email : Option String
  sendEmail : Option Bool
  taxpayerStatus : Option TaxpayerStatus
  taxNumber : Option String
  groupId : Option String
  euTaxNumber : Option String
  postalAddress : Option PostalAddress
  ledger : Option BuyerLedger
  id : Option String
  signerName : Option String
  phone : Option String
  comment : Option String
deriving DecidableEq

/-- A Trans-O-Flex waybill. -/
structure TransOFlex where
  id : Option String
  shipmentId : Option String
  parcelCount : Option UInt32
  countryCode : Option String
  zip : Option String
  service : Option String
deriving DecidableEq

/-- A Pick Pack Point waybill. -/
structure PickPackPoint where
  barcodePrefix : Option String
  barcodeSuffix : Option String
deriving DecidableEq

/-- A Sprinter waybill. -/
structure Sprinter where
  id : Option String
  senderCode : Option String
  routingCode : Option String
  parcelCount : Option UInt32
  barcodeSuffix : Option String
  deliveryTime : Option String
deriving DecidableEq

/-- A waybill of the post. -/
structure Mpl where
  customerCode : String
  barcode : String
  weight : String
  extraServices : Option String
  declaredValue : Option Decimal
deriving DecidableEq

/-- The waybill (`fuvarlevél`) with its four carriers. -/
structure Waybill where
  destination : Option String
  carrier : Option String
  barcode : Option String
  comment : Option String
  transOFlex : Option TransOFlex
  pickPackPoint : Option PickPackPoint
  sprinter : Option Sprinter
  mpl : Option Mpl
deriving DecidableEq

/-- The parcel counts of the carriers that have one. -/
def Waybill.parcelCounts (w : Waybill) : List UInt32 :=
  [w.transOFlex.bind (·.parcelCount), w.sprinter.bind (·.parcelCount)].filterMap id

/-- A request to create a document. The email attachments, which travel beside
the document and not in it, are left out. -/
structure CreateInvoice where
  kind : InvoiceKind
  eInvoice : Bool
  downloadPdf : Bool
  downloadCopies : Option UInt8
  aggregator : Option String
  guardian : Option Bool
  itemIdentifiersOnInvoice : Option Bool
  externalId : Option String
  header : InvoiceHeader
  seller : Seller
  buyer : Buyer
  waybill : Option Waybill
  items : List LineItem
deriving DecidableEq

/-! ## Validation -/

/-- A final invoice names the prepayment it settles, or the order it is found by. -/
def CreateInvoice.hasPrepaymentReference (r : CreateInvoice) : Bool :=
  match r.kind with
  | .final prepaymentNumber _ =>
    prepaymentNumber.any (fun number => !Text.isBlank number)
      || r.header.orderNumber.any (fun number => !Text.isBlank number)
  | _ => true

/-- `i32::MAX`. -/
def maxParcelCount : UInt32 := 2147483647

/-- What a request is checked for before it is written. -/
def CreateInvoice.validate (r : CreateInvoice) : Except RequestError Unit := do
  validateDates [("header.issue_date", r.header.issueDate),
    ("header.fulfillment_date", some r.header.fulfillmentDate),
    ("header.due_date", some r.header.dueDate)]
  r.buyer.ledger.toList.forM (fun ledger =>
    validateDates [("buyer.ledger.accounting_date", ledger.accountingDate),
      ("buyer.ledger.settlement_from", ledger.settlementFrom),
      ("buyer.ledger.settlement_to", ledger.settlementTo)])
  (r.items.filterMap (·.ledger)).forM (fun ledger =>
    validateDates [("items.ledger.settlement_from", ledger.settlementFrom),
      ("items.ledger.settlement_to", ledger.settlementTo)])
  refuseIf r.items.isEmpty .missingLineItems
  refuseIf (!r.hasPrepaymentReference) .missingPrepaymentReference
  refuseAbove maxErasureCodeCount .erasureCodeCountOutOfRange
    (r.items.filterMap (·.erasureCodeCount))
  refuseAbove maxParcelCount .parcelCountOutOfRange
    (r.waybill.toList.flatMap Waybill.parcelCounts)
  validateExchangeRate r.header.currency r.header.exchangeRate

/-- What the schema needs of an accepted request: dates of positive years, at
least one line item, and counts the schema's integers have. -/
structure CreateInvoice.Accepted (r : CreateInvoice) : Prop where
  issueDate : ∀ d ∈ r.header.issueDate, 0 < d.year
  fulfillmentDate : 0 < r.header.fulfillmentDate.year
  dueDate : 0 < r.header.dueDate.year
  accountingDate : ∀ l ∈ r.buyer.ledger, ∀ d ∈ l.accountingDate, 0 < d.year
  settlementFrom : ∀ l ∈ r.buyer.ledger, ∀ d ∈ l.settlementFrom, 0 < d.year
  settlementTo : ∀ l ∈ r.buyer.ledger, ∀ d ∈ l.settlementTo, 0 < d.year
  itemSettlementFrom : ∀ i ∈ r.items, ∀ l ∈ i.ledger, ∀ d ∈ l.settlementFrom, 0 < d.year
  itemSettlementTo : ∀ i ∈ r.items, ∀ l ∈ i.ledger, ∀ d ∈ l.settlementTo, 0 < d.year
  items : r.items ≠ []
  erasureCodeCount : ∀ i ∈ r.items, ∀ count ∈ i.erasureCodeCount, count ≤ maxErasureCodeCount
  parcelCount : ∀ w ∈ r.waybill, ∀ count ∈ w.parcelCounts, count ≤ maxParcelCount

/-- A check of all passes when each does. -/
theorem forM_eq_ok {α : Type} {f : α → Except RequestError Unit} {as : List α} :
    as.forM f = .ok () ↔ ∀ a ∈ as, f a = .ok () := by
  induction as with
  | nil => simp [pure, Except.pure]
  | cons a as ih =>
    show (f a >>= fun _ => as.forM f) = .ok () ↔ _
    rw [Except.check_eq_ok, ih, List.forall_mem_cons]

/-- A request that passes its checks is accepted. -/
theorem CreateInvoice.accepted_of_validate {r : CreateInvoice} (h : r.validate = .ok ()) :
    r.Accepted := by
  simp only [validate, Except.check_eq_ok, validateDates_eq_ok, forM_eq_ok, refuseIf_eq_ok,
    refuseAbove_eq_ok, List.forall_mem_cons, List.mem_filterMap, List.mem_flatMap,
    Option.mem_toList, Option.mem_some_iff, forall_eq', forall_exists_index, and_imp] at h
  obtain ⟨⟨hissue, hfulfillment, hdue, -⟩, hbuyer, hledger, hitems, -, herasure, hparcel, -⟩ := h
  exact
    { issueDate := hissue
      fulfillmentDate := hfulfillment
      dueDate := hdue
      accountingDate := fun l hl => (hbuyer l hl).1
      settlementFrom := fun l hl => (hbuyer l hl).2.1
      settlementTo := fun l hl => (hbuyer l hl).2.2.1
      itemSettlementFrom := fun i hi l hl => (hledger l i hi hl).1
      itemSettlementTo := fun i hi l hl => (hledger l i hi hl).2.1
      items := by simpa using hitems
      erasureCodeCount := fun i hi count hcount => herasure count i hi hcount
      parcelCount := fun w hw count hcount => hparcel count w hw hcount }

/-! ## The writer -/

namespace Waybill

open Element

/-- The element of a Trans-O-Flex waybill. -/
def tof (c : TransOFlex) : List Xml.Node :=
  List.flatten
    [textOpt "azonosito" c.id,
      textOpt "shipmentID" c.shipmentId,
      textOpt "csomagszam" (c.parcelCount.map (fun count => toString count.toNat)),
      textOpt "countryCode" c.countryCode,
      textOpt "zip" c.zip,
      textOpt "service" c.service]

/-- Of a Pick Pack Point waybill. -/
def ppp (c : PickPackPoint) : List Xml.Node :=
  List.flatten
    [textOpt "vonalkodPrefix" c.barcodePrefix,
      textOpt "vonalkodPostfix" c.barcodeSuffix]

/-- Of a Sprinter waybill. -/
def sprinterNode (c : Sprinter) : List Xml.Node :=
  List.flatten
    [textOpt "azonosito" c.id,
      textOpt "feladokod" c.senderCode,
      textOpt "iranykod" c.routingCode,
      textOpt "csomagszam" (c.parcelCount.map (fun count => toString count.toNat)),
      textOpt "vonalkodPostfix" c.barcodeSuffix,
      textOpt "szallitasiIdo" c.deliveryTime]

/-- Of a waybill of the post. -/
def mplNode (c : Mpl) : List Xml.Node :=
  List.flatten
    [text "vevokod" c.customerCode,
      text "vonalkod" c.barcode,
      text "tomeg" c.weight,
      textOpt "kulonszolgaltatasok" c.extraServices,
      textOpt "erteknyilvanitas" (c.declaredValue.map Decimal.display)]

/-- The children of `fuvarlevel`. -/
def write (w : Waybill) : List Xml.Node :=
  List.flatten
    [textOpt "uticel" w.destination,
      textOpt "futarSzolgalat" w.carrier,
      textOpt "vonalkod" w.barcode,
      textOpt "megjegyzes" w.comment,
      nodeOpt "tof" tof w.transOFlex,
      nodeOpt "ppp" ppp w.pickPackPoint,
      nodeOpt "sprinter" sprinterNode w.sprinter,
      nodeOpt "mpl" mplNode w.mpl]

end Waybill

namespace CreateInvoice

open Element

/-- The *Response version* every operation requests. -/
def responseVersion : String := "2"

/-- The settings, the credentials among them. -/
def beallitasok (r : CreateInvoice) (credentials : Credentials) : List Xml.Node :=
  List.flatten
    [Element.credentials credentials,
      bool "eszamla" r.eInvoice,
      bool "szamlaLetoltes" r.downloadPdf,
      textOpt "szamlaLetoltesPld" (r.downloadCopies.map (fun copies => toString copies.toNat)),
      text "valaszVerzio" responseVersion,
      textOpt "aggregator" r.aggregator,
      textOpt "guardian" (r.guardian.map boolText),
      textOpt "cikkazoninvoice" (r.itemIdentifiersOnInvoice.map boolText),
      textOpt "szamlaKulsoAzon" r.externalId]

/-- The flag of the kind, with the document it refers to. -/
def kindFlags : InvoiceKind → List Xml.Node
  | .invoice _ => []
  | .prepayment _ => bool "elolegszamla" true
  | .final prepaymentNumber _ =>
    bool "vegszamla" true ++ textOpt "elolegSzamlaszam" prepaymentNumber
  | .corrective correctedNumber =>
    bool "helyesbitoszamla" true ++ text "helyesbitettSzamlaszam" correctedNumber
  | .proforma => bool "dijbekero" true
  | .deliveryNote => bool "szallitolevel" true

/-- A delivery note has one template, whatever the header asks for. -/
def template (r : CreateInvoice) : Option InvoiceTemplate :=
  match r.kind with
  | .deliveryNote => some .deliveryNote
  | _ => r.header.template

/-- The exchange rate of a header. -/
def arfolyam : Option ExchangeRate → List Xml.Node
  | some rate =>
    text "arfolyamBank" rate.bank ++ textOpt "arfolyam" (rate.rate.map Decimal.display)
  | none => []

/-- The head of the invoice. -/
def fejlec (r : CreateInvoice) : List Xml.Node :=
  let h := r.header
  List.flatten
    [dateOpt "keltDatum" h.issueDate,
      date "teljesitesDatum" h.fulfillmentDate,
      date "fizetesiHataridoDatum" h.dueDate,
      text "fizmod" h.paymentMethod.asWire,
      text "penznem" h.currency.code,
      text "szamlaNyelve" h.language.asWire,
      textOpt "megjegyzes" h.comment,
      arfolyam h.exchangeRate,
      textOpt "rendelesSzam" h.orderNumber,
      textOpt "dijbekeroSzamlaszam" r.kind.proformaNumber,
      kindFlags r.kind,
      textOpt "logoExtra" h.extraLogo,
      textOpt "szamlaszamElotag" h.numberPrefix,
      textOpt "fizetendoKorrekcio" (h.payableAdjustment.map Decimal.display),
      textOpt "fizetve" (h.paid.map boolText),
      textOpt "arresAfa" (h.marginVat.map boolText),
      textOpt "eusAfa" (h.euVat.map boolText),
      textOpt "szamlaSablon" (r.template.map InvoiceTemplate.asWire),
      textOpt "elonezetpdf" (h.previewPdf.map boolText),
      textOpt "simpleItems" (h.simpleItems.map boolText)]

/-- The email of a seller. -/
def email : Option SellerEmail → List Xml.Node
  | some email =>
    textOpt "emailReplyto" email.replyTo ++ textOpt "emailTargy" email.subject
      ++ textOpt "emailSzoveg" email.body
  | none => []

/-- The seller. -/
def elado (s : Seller) : List Xml.Node :=
  List.flatten
    [textOpt "bank" s.bank,
      textOpt "bankszamlaszam" s.bankAccount,
      email s.email,
      textOpt "alairoNeve" s.signerName]

/-- The bookkeeping data of the buyer. -/
def vevoFokonyv (l : BuyerLedger) : List Xml.Node :=
  List.flatten
    [dateOpt "konyvelesDatum" l.accountingDate,
      textOpt "vevoAzonosito" l.buyerId,
      textOpt "vevoFokonyviSzam" l.buyerAccount,
      textOpt "folyamatosTelj" (l.continuousFulfillment.map boolText),
      dateOpt "elszDatumTol" l.settlementFrom,
      dateOpt "elszDatumIg" l.settlementTo]

/-- The postal address of a buyer. -/
def postazasi : Option PostalAddress → List Xml.Node
  | some postal =>
    textOpt "postazasiNev" postal.name ++ textOpt "postazasiOrszag" postal.country
      ++ textOpt "postazasiIrsz" postal.zip ++ textOpt "postazasiTelepules" postal.city
      ++ textOpt "postazasiCim" postal.address
  | none => []

/-- The buyer. -/
def vevo (b : Buyer) : List Xml.Node :=
  List.flatten
    [text "nev" b.name,
      textOpt "orszag" b.country,
      text "irsz" b.zip,
      text "telepules" b.city,
      text "cim" b.address,
      textOpt "email" b.email,
      textOpt "sendEmail" (b.sendEmail.map boolText),
      textOpt "adoalany" (b.taxpayerStatus.map TaxpayerStatus.asWire),
      textOpt "adoszam" b.taxNumber,
      textOpt "csoportazonosito" b.groupId,
      textOpt "adoszamEU" b.euTaxNumber,
      postazasi b.postalAddress,
      nodeOpt "vevoFokonyv" vevoFokonyv b.ledger,
      textOpt "azonosito" b.id,
      textOpt "alairoNeve" b.signerName,
      textOpt "telefonszam" b.phone,
      textOpt "megjegyzes" b.comment]

/-- The bookkeeping data of an item. -/
def tetelFokonyv (l : LineItemLedger) : List Xml.Node :=
  List.flatten
    [textOpt "gazdasagiEsem" l.economicEvent,
      textOpt "gazdasagiEsemAfa" l.vatEconomicEvent,
      textOpt "arbevetelFokonyviSzam" l.revenueAccount,
      textOpt "afaFokonyviSzam" l.vatAccount,
      dateOpt "elszDatumTol" l.settlementFrom,
      dateOpt "elszDatumIg" l.settlementTo]

/-- An item. -/
def tetel (item : LineItem) : List Xml.Node :=
  List.flatten
    [text "megnevezes" item.name,
      textOpt "azonosito" item.id,
      decimal "mennyiseg" item.quantity,
      text "mennyisegiEgyseg" item.unit,
      decimal "nettoEgysegar" item.unitPrice,
      text "afakulcs" item.vatRate.asWire,
      textOpt "arresAfaAlap" (item.marginVatBase.map Decimal.display),
      decimal "nettoErtek" item.netValue,
      decimal "afaErtek" item.vatValue,
      decimal "bruttoErtek" item.grossValue,
      textOpt "megjegyzes" item.comment,
      nodeOpt "tetelFokonyv" tetelFokonyv item.ledger,
      textOpt "torloKod" (item.erasureCodeCount.map (fun count => toString count.toNat))]

/-- The document of a request. -/
def writeXml (r : CreateInvoice) (credentials : Credentials) : XmlDocument where
  root := "xmlszamla"
  «namespace» := "http://www.szamlazz.hu/xmlszamla"
  children :=
    List.flatten
      [node "beallitasok" (r.beallitasok credentials),
        node "fejlec" r.fejlec,
        node "elado" (elado r.seller),
        node "vevo" (vevo r.buyer),
        nodeOpt "fuvarlevel" Waybill.write r.waybill,
        node "tetelek" (r.items.flatMap (fun item => node "tetel" (tetel item)))]

/-- The document, if the request passes its checks. -/
def toWire (r : CreateInvoice) (credentials : Credentials) : Except RequestError XmlDocument :=
  wireRequest r.validate (r.writeXml credentials)

end CreateInvoice

end Szamlazz
