import Szamlazz.Agent.Operations
import Szamlazz.Service.Fault

/-!
# What a document is to the worker

`FoundDocument` is what the worker reads off a queried document, `IssuedDocument`
what it reads off the reply to a create or a storno. What a document *is* –
live, of this order, of this kind, the storno of a number – is decided here and
nowhere else, so that every later rule about evidence is a conjunction of these
predicates.
-/

namespace Szamlazz

/-- A credit entry as the worker keeps it. -/
structure RecordedCreditEntry where
  date : Option Date
  title : Option String
  amount : Decimal
  comment : Option String
  bankAccount : Option String
deriving DecidableEq

/-- A queried document as the worker reads it. -/
structure FoundDocument where
  documentId : Int64
  number : String
  documentType : DocumentType
  /-- Trimmed; absent when the element is missing or blank. -/
  orderNumber : Option String
  reversed : Option Bool
  referencedInvoiceNumber : Option String
  referencedProformaNumber : Option String
  appearance : Int64
  issueDate : Option Date
  fulfillmentDate : Option Date
  dueDate : Option Date
  currency : Option String
  test : Option Bool
  netTotal : Decimal
  vatTotal : Decimal
  grossTotal : Decimal
  creditEntries : List RecordedCreditEntry
deriving DecidableEq

namespace FoundDocument

/-- Projects a credit entry. -/
def creditEntry (entry : QueryXml.RecordedCreditEntry) : RecordedCreditEntry where
  date := some entry.date
  title := some entry.title.asWire
  amount := entry.amount
  comment := entry.comment
  bankAccount := entry.bankAccount

/-- Projects a queried document. -/
def ofInvoiceDocument (document : InvoiceDocument) : FoundDocument where
  documentId := document.info.id
  number := document.info.invoiceNumber
  documentType := document.info.documentType
  orderNumber := (document.info.orderNumber.map Text.trim).filter (fun order => !order.isEmpty)
  reversed := document.info.reversed
  referencedInvoiceNumber := document.info.referencedInvoiceNumber
  referencedProformaNumber := document.info.referencedProformaNumber
  appearance := document.info.appearance.code
  issueDate := document.info.issueDate
  fulfillmentDate := document.info.fulfillmentDate
  dueDate := document.info.dueDate
  currency := document.info.currency.map Currency.code
  test := document.info.test
  netTotal := document.total.net
  vatTotal := document.total.vat
  grossTotal := document.total.gross
  creditEntries := document.creditEntries.map creditEntry

/-- A queried document must name itself, and by the number that was asked for
if one was. -/
def validateIdentity (number : String) (expected : Option String) : Except String Unit :=
  if Text.isBlank number then .error "query: missing document number"
  else if expected.any (fun e => e ≠ number) then
    .error "query: document number differs from the requested number"
  else .ok ()

/-- Not reported reversed. -/
def isLive (d : FoundDocument) : Bool := d.reversed ≠ some true

/-- The storno invoice reversing `number`. -/
def isStornoOf (d : FoundDocument) (number : String) : Bool :=
  !Text.isBlank d.number && d.number ≠ number && d.documentType = .storno
    && d.referencedInvoiceNumber = some number

/-- The corrective of `number`. -/
def isCorrectiveOf (d : FoundDocument) (number : String) : Bool :=
  d.documentType = .corrective && d.referencedInvoiceNumber = some number

/-- A legal invoice of a kind an order carries. -/
def isInvoiceFamily (d : FoundDocument) : Bool :=
  d.documentType ∈ [DocumentType.invoice, .prepayment, .final]

/-- A document szamlazz.hu can reverse. -/
def isStornoable (d : FoundDocument) : Bool :=
  d.documentType ∈ [DocumentType.invoice, .prepayment, .final, .corrective]

/-- Whether it is an e-invoice, if it is an invoice at all. -/
def eInvoice (d : FoundDocument) : Option Bool :=
  match InvoiceAppearance.ofCode d.appearance with
  | .paper => some false
  | .electronic _ => some true
  | _ => none

/-- The amounts of the registered credit entries. -/
def creditEntryAmounts (d : FoundDocument) : List Decimal :=
  d.creditEntries.map RecordedCreditEntry.amount

section Order

variable [Unicode]

/-- The document carries the order's number. -/
def carriesOrder (d : FoundDocument) (order : OrderKey) : Bool := d.orderNumber = some order.text

/-- The document is ours: this order's, and of the kind. -/
def isOurs (d : FoundDocument) (order : OrderKey) (kind : IssuedKind) : Bool :=
  d.carriesOrder order && d.documentType = kind.documentType

theorem carriesOrder_of_isOurs {d : FoundDocument} {order : OrderKey} {kind : IssuedKind}
    (h : d.isOurs order kind = true) : d.carriesOrder order = true := by
  simp only [isOurs, Bool.and_eq_true] at h
  exact h.1

theorem documentType_of_isOurs {d : FoundDocument} {order : OrderKey} {kind : IssuedKind}
    (h : d.isOurs order kind = true) : d.documentType = kind.documentType := by
  simp only [isOurs, Bool.and_eq_true, decide_eq_true_eq] at h
  exact h.2

end Order

theorem validateIdentity_eq_ok {number : String} {expected : Option String} :
    validateIdentity number expected = .ok ()
      ↔ Text.isBlank number = false ∧ ∀ e, expected = some e → number = e := by
  unfold validateIdentity
  by_cases hb : Text.isBlank number = true
  · simp [hb]
  · rw [if_neg hb]
    cases expected with
    | none => simp [hb]
    | some e =>
      by_cases he : e = number
      · simp [hb, he]
      · have hne : ¬ number = e := fun h => he h.symm
        simp [he, hne]

end FoundDocument

/-- A document issued in answer to a create or a storno. -/
structure IssuedDocument where
  number : String
  documentId : Option Int64
  netTotal : Option Decimal
  grossTotal : Option Decimal
  outstanding : Option Decimal
  customerAccountUrl : Option String
  notificationDeliveryFailed : Bool
deriving DecidableEq

/-- Projects a numbered reply. -/
def IssuedDocument.ofCreated (created : CreatedInvoice) : IssuedDocument where
  number := created.invoiceNumber
  documentId := created.documentId
  netTotal := created.netTotal
  grossTotal := created.grossTotal
  outstanding := created.outstanding
  customerAccountUrl := created.customerAccountUrl
  notificationDeliveryFailed := created.notificationDeliveryFailed

/-- A number with the id of its record, when known. -/
structure ReportedDocument where
  number : String
  documentId : Option Int64
deriving DecidableEq

def ReportedDocument.ofFound (found : FoundDocument) : ReportedDocument :=
  ⟨found.number, some found.documentId⟩

end Szamlazz
