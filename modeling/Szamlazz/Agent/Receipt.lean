import Szamlazz.Agent.Invoice

/-!
# Creating a receipt

The receipt's request shares the invoice's line items but not its schema: a
receipt row has no element for several of their fields, and `validate` refuses
an item that carries one of them (`unsupportedOnReceipt`) rather than writing
the row without it.
-/

namespace Szamlazz

/-- The image of a receipt. -/
inductive ReceiptTemplate where
  | a4Default | ticket | ticketWithLogo | roll80mm
  | other (token : String)
deriving DecidableEq

def ReceiptTemplate.asWire : ReceiptTemplate → String
  | a4Default => "A"
  | ticket => "J"
  | ticketWithLogo => "L"
  | roll80mm => "N"
  | other token => token

/-- A payment (`kifizetés`) of a receipt. -/
structure ReceiptPayment where
  method : String
  amount : Decimal
  description : Option String
deriving DecidableEq

/-- A request to create a receipt. -/
structure CreateReceipt where
  callId : Option String
  receiptPrefix : String
  paymentMethod : PaymentMethod
  currency : Currency
  exchangeRate : Option ExchangeRate
  comment : Option String
  template : Option ReceiptTemplate
  ledgerCustomer : Option String
  orderNumber : Option String
  downloadPdf : Bool
  items : List LineItem
  payments : List ReceiptPayment
deriving DecidableEq

/-- The invoice-only field a receipt row cannot carry, if the item has one. -/
def unsupportedOnReceipt (item : LineItem) : Option String :=
  if item.marginVatBase.isSome then some "margin_vat_base"
  else match item.ledger with
    | none => none
    | some ledger =>
      if ledger.economicEvent.isSome then some "ledger.economic_event"
      else if ledger.vatEconomicEvent.isSome then some "ledger.vat_economic_event"
      else if ledger.settlementFrom.isSome then some "ledger.settlement_from"
      else if ledger.settlementTo.isSome then some "ledger.settlement_to"
      else none

namespace CreateReceipt

open Element

/-- Refuses the first invoice-only field of the items. -/
def refuseUnsupported (items : List LineItem) : Except RequestError Unit :=
  match items.findSome? unsupportedOnReceipt with
  | some field => .error (.unsupportedOnReceipt field)
  | none => .ok ()

def validate (r : CreateReceipt) : Except RequestError Unit := do
  refuseIf r.items.isEmpty .missingLineItems
  refuseUnsupported r.items
  refuseAbove maxErasureCodeCount .erasureCodeCountOutOfRange
    (r.items.filterMap (·.erasureCodeCount))
  validateExchangeRate r.currency r.exchangeRate

def beallitasok (r : CreateReceipt) (credentials : Credentials) : List Xml.Node :=
  List.flatten
    [Element.credentials credentials,
      bool "pdfLetoltes" r.downloadPdf]

/-- The exchange rate of a header. -/
def devizaarf : Option ExchangeRate → List Xml.Node
  | some rate =>
    text "devizabank" rate.bank ++ textOpt "devizaarf" (rate.rate.map Decimal.display)
  | none => []

def fejlec (r : CreateReceipt) : List Xml.Node :=
  List.flatten
    [textOpt "hivasAzonosito" r.callId,
      text "elotag" r.receiptPrefix,
      text "fizmod" r.paymentMethod.asWire,
      text "penznem" r.currency.code,
      devizaarf r.exchangeRate,
      textOpt "megjegyzes" r.comment,
      textOpt "pdfSablon" (r.template.map ReceiptTemplate.asWire),
      textOpt "fokonyvVevo" r.ledgerCustomer,
      textOpt "rendelesSzam" r.orderNumber]

def fokonyv (l : LineItemLedger) : List Xml.Node :=
  List.flatten
    [textOpt "arbevetel" l.revenueAccount,
      textOpt "afa" l.vatAccount]

def tetel (item : LineItem) : List Xml.Node :=
  List.flatten
    [text "megnevezes" item.name,
      textOpt "azonosito" item.id,
      decimal "mennyiseg" item.quantity,
      text "mennyisegiEgyseg" item.unit,
      decimal "nettoEgysegar" item.unitPrice,
      text "afakulcs" item.vatRate.asWire,
      decimal "netto" item.netValue,
      decimal "afa" item.vatValue,
      decimal "brutto" item.grossValue,
      nodeOpt "fokonyv" fokonyv item.ledger,
      textOpt "megjegyzes" item.comment,
      textOpt "torloKod" (item.erasureCodeCount.map (fun count => toString count.toNat))]

def kifizetes (p : ReceiptPayment) : List Xml.Node :=
  List.flatten
    [text "fizetoeszkoz" p.method,
      decimal "osszeg" p.amount,
      textOpt "leiras" p.description]

def writeXml (r : CreateReceipt) (credentials : Credentials) : XmlDocument where
  root := "xmlnyugtacreate"
  «namespace» := "http://www.szamlazz.hu/xmlnyugtacreate"
  children :=
    List.flatten
      [node "beallitasok" (r.beallitasok credentials),
        node "fejlec" r.fejlec,
        node "tetelek" (r.items.flatMap (fun item => node "tetel" (tetel item))),
        if r.payments.isEmpty then []
        else node "kifizetesek"
          (r.payments.flatMap (fun payment => node "kifizetes" (kifizetes payment)))]

def toWire (r : CreateReceipt) (credentials : Credentials) : Except RequestError XmlDocument :=
  wireRequest r.validate (r.writeXml credentials)

end CreateReceipt

end Szamlazz
