import Szamlazz.Agent.Operations
import Szamlazz.Agent.Receipt

/-!
# The requests of the client

The operations of the client that nothing else of the development looks into – the
queries, the deletion of a proforma, the credit entries and the receipts that exist
already – with their writers, and `ClientRequest`, which is any request there is. An
operation without requirements of its own validates anything, as the trait does by
default.
-/

namespace Szamlazz

open Element

/-! ## Queries -/

/-- The children of a query that come before its settings: the credentials, and the
selector unless it is the external id, which comes last. -/
def InvoiceSelector.leading : InvoiceSelector → List Xml.Node
  | invoiceNumber number => text "szamlaszam" number
  | orderNumber number => text "rendelesSzam" number
  | externalId _ => []

def InvoiceSelector.trailing : InvoiceSelector → List Xml.Node
  | invoiceNumber _ | orderNumber _ => []
  | externalId id => text "szamlaKulsoAzon" id

/-- The query of a document (`xmlszamlaxml`). -/
structure QueryInvoiceXml where
  selector : InvoiceSelector
  includePdf : Bool
deriving DecidableEq

def QueryInvoiceXml.writeXml (q : QueryInvoiceXml) (agent : Credentials) : XmlDocument where
  root := "xmlszamlaxml"
  «namespace» := "http://www.szamlazz.hu/xmlszamlaxml"
  children :=
    List.flatten
      [credentials agent,
        q.selector.leading,
        bool "pdf" q.includePdf,
        q.selector.trailing]

/-- The query of the PDF of a document (`xmlszamlapdf`). -/
structure QueryInvoicePdf where
  selector : InvoiceSelector
deriving DecidableEq

def QueryInvoicePdf.writeXml (q : QueryInvoicePdf) (agent : Credentials) : XmlDocument where
  root := "xmlszamlapdf"
  «namespace» := "http://www.szamlazz.hu/xmlszamlapdf"
  children :=
    List.flatten
      [credentials agent,
        q.selector.leading,
        text "valaszVerzio" CreateInvoice.responseVersion,
        q.selector.trailing]

/-- Eight digits, by the bytes of the text. -/
def isTaxpayerPrefix (value : String) : Bool :=
  value.utf8ByteSize == 8 && value.toList.all Char.isDigit

/-- The first eight digits of a tax number (`törzsszám`). -/
structure TaxpayerPrefix where
  value : String
  valid : isTaxpayerPrefix value = true
deriving DecidableEq

/-- The query of a taxpayer (`xmltaxpayer`). -/
structure QueryTaxpayer where
  taxNumberPrefix : TaxpayerPrefix
deriving DecidableEq

def QueryTaxpayer.writeXml (q : QueryTaxpayer) (agent : Credentials) : XmlDocument where
  root := "xmltaxpayer"
  «namespace» := "http://www.szamlazz.hu/xmltaxpayer"
  children :=
    List.flatten
      [node "beallitasok" (credentials agent),
        text "torzsszam" q.taxNumberPrefix.value]

/-! ## Proformas -/

/-- Which proformas are deleted: one, or all of an order. -/
inductive ProformaSelector where
  | invoiceNumber (number : String)
  | orderNumber (number : String)
deriving DecidableEq

/-- The deletion of proformas (`xmlszamladbkdel`). -/
structure DeleteProforma where
  selector : ProformaSelector
deriving DecidableEq

/-- The selector as the one child of the header. -/
def ProformaSelector.fejlec : ProformaSelector → List Xml.Node
  | invoiceNumber number => text "szamlaszam" number
  | orderNumber number => text "rendelesszam" number

def DeleteProforma.writeXml (r : DeleteProforma) (agent : Credentials) : XmlDocument where
  root := "xmlszamladbkdel"
  «namespace» := "http://www.szamlazz.hu/xmlszamladbkdel"
  children :=
    List.flatten
      [node "beallitasok" (credentials agent),
        node "fejlec" r.selector.fejlec]

/-! ## Credit entries -/

/-- A credit entry to register (`kifizetés`). -/
structure CreditEntry where
  date : Date
  title : PaymentMethod
  amount : Decimal
  description : Option String
deriving DecidableEq

/-- At most five credit entries. -/
structure CreditEntries where
  entries : List CreditEntry
  length_le : entries.length ≤ 5
deriving DecidableEq

/-- The registration of credit entries (`xmlszamlakifiz`). -/
structure RegisterCreditEntry where
  invoiceNumber : String
  issuerTaxNumber : Option String
  additive : Bool
  aggregator : Option String
  entries : CreditEntries
deriving DecidableEq

namespace RegisterCreditEntry

def validate (r : RegisterCreditEntry) : Except RequestError Unit := do
  validateDates (r.entries.entries.map (fun entry => ("entries.date", some entry.date)))
  refuseIf (!r.additive && r.entries.entries.isEmpty) .emptyCreditEntryReplace

def beallitasok (r : RegisterCreditEntry) (agent : Credentials) : List Xml.Node :=
  List.flatten
    [credentials agent,
      text "szamlaszam" r.invoiceNumber,
      textOpt "adoszam" r.issuerTaxNumber,
      bool "additiv" r.additive,
      textOpt "aggregator" r.aggregator,
      text "valaszVerzio" CreateInvoice.responseVersion]

def kifizetes (entry : CreditEntry) : List Xml.Node :=
  List.flatten
    [date "datum" entry.date,
      text "jogcim" entry.title.asWire,
      decimal "osszeg" entry.amount,
      textOpt "leiras" entry.description]

def writeXml (r : RegisterCreditEntry) (agent : Credentials) : XmlDocument where
  root := "xmlszamlakifiz"
  «namespace» := "http://www.szamlazz.hu/xmlszamlakifiz"
  children :=
    node "beallitasok" (r.beallitasok agent)
      ++ r.entries.entries.flatMap (fun entry => node "kifizetes" (kifizetes entry))

end RegisterCreditEntry

/-- The deliberate replacement of the credit entries of an invoice by none. -/
structure ClearCreditEntries where
  invoiceNumber : String
  issuerTaxNumber : Option String
  aggregator : Option String
deriving DecidableEq

/-- The registration that is written; its own check is not asked. -/
def ClearCreditEntries.registration (r : ClearCreditEntries) : RegisterCreditEntry where
  invoiceNumber := r.invoiceNumber
  issuerTaxNumber := r.issuerTaxNumber
  additive := false
  aggregator := r.aggregator
  entries := ⟨[], by decide⟩

def ClearCreditEntries.writeXml (r : ClearCreditEntries) (agent : Credentials) : XmlDocument :=
  r.registration.writeXml agent

/-! ## Receipts that exist -/

/-- The reversal of a receipt (`xmlnyugtast`). -/
structure StornoReceipt where
  receiptNumber : String
  downloadPdf : Bool
  template : Option ReceiptTemplate
  callId : Option String
deriving DecidableEq

def StornoReceipt.writeXml (r : StornoReceipt) (agent : Credentials) : XmlDocument where
  root := "xmlnyugtast"
  «namespace» := "http://www.szamlazz.hu/xmlnyugtast"
  children :=
    List.flatten
      [node "beallitasok" (credentials agent ++ bool "pdfLetoltes" r.downloadPdf),
        node "fejlec"
          (text "nyugtaszam" r.receiptNumber
            ++ textOpt "pdfSablon" (r.template.map ReceiptTemplate.asWire)
            ++ textOpt "hivasAzonosito" r.callId)]

/-- Which receipt a query fetches. -/
inductive ReceiptSelector where
  | receiptNumber (number : String)
  | orderNumber (number : String)
deriving DecidableEq

def ReceiptSelector.fejlec : ReceiptSelector → List Xml.Node
  | receiptNumber number => text "nyugtaszam" number
  | orderNumber number => text "rendelesSzam" number

/-- The query of a receipt (`xmlnyugtaget`). -/
structure QueryReceipt where
  selector : ReceiptSelector
  downloadPdf : Bool
  template : Option ReceiptTemplate
  callId : Option String
deriving DecidableEq

def QueryReceipt.writeXml (r : QueryReceipt) (agent : Credentials) : XmlDocument where
  root := "xmlnyugtaget"
  «namespace» := "http://www.szamlazz.hu/xmlnyugtaget"
  children :=
    List.flatten
      [node "beallitasok" (credentials agent ++ bool "pdfLetoltes" r.downloadPdf),
        node "fejlec"
          (r.selector.fejlec
            ++ textOpt "hivasAzonosito" r.callId
            ++ textOpt "pdfSablon" (r.template.map ReceiptTemplate.asWire))]

/-- The email settings of a receipt. -/
structure ReceiptEmail where
  «to» : Option String
  replyTo : Option String
  subject : Option String
  body : Option String
deriving DecidableEq

/-- The sending of a receipt by email (`xmlnyugtasend`). -/
structure SendReceipt where
  receiptNumber : String
  email : Option ReceiptEmail
deriving DecidableEq

/-- The block is written even if it is empty, which asks for what was sent before. -/
def SendReceipt.emailKuldes : Option ReceiptEmail → List Xml.Node
  | some email =>
    List.flatten
      [textOpt "email" email.«to»,
        textOpt "emailReplyto" email.replyTo,
        textOpt "emailTargy" email.subject,
        textOpt "emailSzoveg" email.body]
  | none => []

def SendReceipt.writeXml (r : SendReceipt) (agent : Credentials) : XmlDocument where
  root := "xmlnyugtasend"
  «namespace» := "http://www.szamlazz.hu/xmlnyugtasend"
  children :=
    List.flatten
      [node "beallitasok" (credentials agent),
        node "fejlec" (text "nyugtaszam" r.receiptNumber),
        node "emailKuldes" (SendReceipt.emailKuldes r.email)]

/-! ## Any request -/

/-- A request of the client. -/
inductive ClientRequest where
  | createInvoice (r : CreateInvoice)
  | stornoInvoice (r : StornoInvoice)
  | queryInvoiceXml (r : QueryInvoiceXml)
  | queryInvoicePdf (r : QueryInvoicePdf)
  | deleteProforma (r : DeleteProforma)
  | registerCreditEntry (r : RegisterCreditEntry)
  | clearCreditEntries (r : ClearCreditEntries)
  | createReceipt (r : CreateReceipt)
  | stornoReceipt (r : StornoReceipt)
  | queryReceipt (r : QueryReceipt)
  | sendReceipt (r : SendReceipt)
  | queryTaxpayer (r : QueryTaxpayer)
deriving DecidableEq

namespace ClientRequest

def validate : ClientRequest → Except RequestError Unit
  | createInvoice r => r.validate
  | stornoInvoice r => r.validate
  | registerCreditEntry r => r.validate
  | createReceipt r => r.validate
  | queryInvoiceXml _ | queryInvoicePdf _ | deleteProforma _ | clearCreditEntries _
  | stornoReceipt _ | queryReceipt _ | sendReceipt _ | queryTaxpayer _ => .ok ()

def writeXml (agent : Credentials) : ClientRequest → XmlDocument
  | createInvoice r => r.writeXml agent
  | stornoInvoice r => r.writeXml agent
  | queryInvoiceXml r => r.writeXml agent
  | queryInvoicePdf r => r.writeXml agent
  | deleteProforma r => r.writeXml agent
  | registerCreditEntry r => r.writeXml agent
  | clearCreditEntries r => r.writeXml agent
  | createReceipt r => r.writeXml agent
  | stornoReceipt r => r.writeXml agent
  | queryReceipt r => r.writeXml agent
  | sendReceipt r => r.writeXml agent
  | queryTaxpayer r => r.writeXml agent

/-- A request is validated, written and checked before it is sent. -/
def toWire (r : ClientRequest) (agent : Credentials) : Except RequestError XmlDocument :=
  wireRequest r.validate (r.writeXml agent)

end ClientRequest

end Szamlazz
