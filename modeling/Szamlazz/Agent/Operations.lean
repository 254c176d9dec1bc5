import Szamlazz.Agent.Invoice
import Szamlazz.Lib.Exchange

/-!
# The exchanges of the Számla Agent client

The four requests the worker makes of szamlazz.hu – a query, a create, a
storno and the deletion of a proforma – and what each is answered with. One
call of the client is one exchange: the request is validated and written, sent
once, and the answer read, so `AgentRequest.Answer` is either the payload of
the operation or the `ClientError` that says how the exchange ended.
-/

namespace Szamlazz

/-! ## Queries -/

/-- Which document a query fetches. -/
inductive InvoiceSelector where
  | invoiceNumber (number : String)
  /-- The newest document issued under the order number. -/
  | orderNumber (number : String)
  | externalId (id : String)
deriving DecidableEq

/-- The appearance of a document (`eszamla`). -/
inductive InvoiceAppearance where
  | notInvoice
  | paper
  | electronic (code : Int64)
  | unknown (code : Int64)
deriving DecidableEq

/-- The integer szamlazz.hu reported. -/
def InvoiceAppearance.code : InvoiceAppearance → Int64
  | notInvoice => 0
  | paper => 1
  | electronic code | unknown code => code

def InvoiceAppearance.ofCode (code : Int64) : InvoiceAppearance :=
  if code = 0 then notInvoice
  else if code = 1 then paper
  else if code = 2 ∨ code = 3 then electronic code
  else unknown code

/-- The header of a queried document, with the fields the worker reads. -/
structure InvoiceInfo where
  id : Int64
  invoiceNumber : String
  documentType : DocumentType
  appearance : InvoiceAppearance
  referencedInvoiceNumber : Option String
  referencedProformaNumber : Option String
  issueDate : Option Date
  fulfillmentDate : Option Date
  dueDate : Option Date
  orderNumber : Option String
  currency : Option Currency
  test : Option Bool
  reversed : Option Bool
deriving DecidableEq

/-- The grand total of a queried document. -/
structure TotalAmounts where
  net : Decimal
  vat : Decimal
  gross : Decimal
deriving DecidableEq

/-- A credit entry of a queried document. -/
structure QueryXml.RecordedCreditEntry where
  date : Date
  title : PaymentMethod
  amount : Decimal
  comment : Option String
  bankAccount : Option String
deriving DecidableEq

/-- The document a query is answered with. -/
structure InvoiceDocument where
  info : InvoiceInfo
  total : TotalAmounts
  creditEntries : List QueryXml.RecordedCreditEntry
deriving DecidableEq

/-! ## Creates and stornos -/

/-- A numbered reply to a create or a storno; a blank number is no number. -/
structure CreatedInvoice where
  invoiceNumber : String
  nonblank : Text.isBlank invoiceNumber = false
  documentId : Option Int64
  netTotal : Option Decimal
  grossTotal : Option Decimal
  outstanding : Option Decimal
  customerAccountUrl : Option String
  notificationDeliveryFailed : Bool
deriving DecidableEq

/-- The reply names another document whose gross is known and not positive. -/
def CreatedInvoice.reverses (created : CreatedInvoice) (original : String) : Bool :=
  created.invoiceNumber ≠ original && created.grossTotal.any Decimal.isNonPositive

/-- The reply to a create: a document, or a preview, which has no number. -/
inductive CreationOutcome where
  | issued (created : CreatedInvoice)
  | preview
deriving DecidableEq

/-- The reply to a storno: numbered or not. -/
inductive StornoResponse where
  | numbered (created : CreatedInvoice)
  | unnumbered
deriving DecidableEq

/-- The reversal of an invoice (`xmlszamlast`). -/
structure StornoInvoice where
  invoiceNumber : String
  eInvoice : Bool := false
  downloadPdf : Bool := false
  downloadCopies : Option UInt8 := none
  aggregator : Option String := none
  guardian : Option Bool := none
  externalId : Option String := none
  issueDate : Option Date := none
  fulfillmentDate : Option Date := none
  comment : Option String := none
  template : Option InvoiceTemplate := none
  sellerEmail : Option SellerEmail := none
  buyerEmail : Option String := none
  buyerTaxNumber : Option String := none
  buyerEuTaxNumber : Option String := none
deriving DecidableEq

namespace StornoInvoice

open Element

def validate (s : StornoInvoice) : Except RequestError Unit :=
  validateDates [("issue_date", s.issueDate), ("fulfillment_date", s.fulfillmentDate)]

def writeXml (s : StornoInvoice) (agent : Credentials) : XmlDocument where
  root := "xmlszamlast"
  «namespace» := "http://www.szamlazz.hu/xmlszamlast"
  children :=
    node "beallitasok"
        (credentials agent
          ++ bool "eszamla" s.eInvoice
          ++ bool "szamlaLetoltes" s.downloadPdf
          ++ textOpt "szamlaLetoltesPld" (s.downloadCopies.map (fun n => toString n.toNat))
          ++ textOpt "aggregator" s.aggregator
          ++ textOpt "guardian" (s.guardian.map boolText)
          ++ text "valaszVerzio" CreateInvoice.responseVersion
          ++ textOpt "szamlaKulsoAzon" s.externalId)
      ++ node "fejlec"
        (text "szamlaszam" s.invoiceNumber
          ++ dateOpt "keltDatum" s.issueDate
          ++ dateOpt "teljesitesDatum" s.fulfillmentDate
          ++ textOpt "megjegyzes" s.comment
          ++ text "tipus" "SS"
          ++ textOpt "szamlaSablon" (s.template.map InvoiceTemplate.asWire))
      ++ node "elado" (CreateInvoice.email s.sellerEmail)
      ++ node "vevo"
        (textOpt "email" s.buyerEmail
          ++ textOpt "adoszam" s.buyerTaxNumber
          ++ textOpt "adoszamEU" s.buyerEuTaxNumber)

def toWire (s : StornoInvoice) (agent : Credentials) : Except RequestError XmlDocument :=
  wireRequest s.validate (s.writeXml agent)

end StornoInvoice

/-! ## The exchanges -/

/-- A request of the client. -/
inductive AgentRequest where
  | query (selector : InvoiceSelector)
  | create (request : CreateInvoice)
  | storno (request : StornoInvoice)
  /-- The deletion of the proforma with this number. -/
  | deleteProforma (number : String)

namespace AgentRequest

/-- What a request is answered with. -/
def Answer : AgentRequest → Type
  | query _ => Except ClientError InvoiceDocument
  | create _ => Except ClientError CreationOutcome
  | storno _ => Except ClientError StornoResponse
  | deleteProforma _ => Except ClientError Unit

instance (r : AgentRequest) : Nonempty r.Answer := by
  cases r <;> exact ⟨Except.error (.incompleteResponse 200)⟩

/-- Whether a request asks szamlazz.hu to change anything. -/
def isMutation : AgentRequest → Bool
  | query _ => false
  | create _ | storno _ | deleteProforma _ => true

end AgentRequest

/-- A call of the worker: what it asks szamlazz.hu for, one exchange at a time. -/
abbrev Call (α : Type) : Type := Prog AgentRequest.Answer α

/-- The exchanges of a call that ask for a change. -/
def mutations (tr : List (Exchange AgentRequest.Answer)) : List (Exchange AgentRequest.Answer) :=
  tr.filter (fun e => e.1.isMutation)

end Szamlazz
