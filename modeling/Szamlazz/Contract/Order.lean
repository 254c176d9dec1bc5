import Szamlazz.Contract.Document
import Szamlazz.Contract.Marker
import Szamlazz.Gateway.Document

/-!
# The requests and the answers of an order

What the handlers of an order take and what they answer with. Every answer of
szamlazz.hu the worker can conclude from is data here: a refusal, a conflict or
an absence is an outcome with its reason, never a fault. The tokens of the wire
are open; the worker itself only ever answers with the ones it knows.
-/

namespace Szamlazz

/-- What a handler was given, or why it could not be read. -/
abbrev Body (α : Type) : Type := Except String α

/-! ## Requests -/

/-- Permission to replace exactly one reversed document. -/
structure Reissue where
  expectedNumber : InvoiceNumber
deriving DecidableEq

/-- How a create refers to a proforma. -/
inductive ProformaLink where
  /-- The live proforma of the order, if there is one. -/
  | auto
  /-- None; refused while there is a live one. -/
  | none
  | number (number : InvoiceNumber)
deriving DecidableEq

structure CreateOptions where
  reissue : Option Reissue := .none
  proforma : ProformaLink := .auto
deriving DecidableEq

structure CreateRequest where
  document : DocumentInput
  options : CreateOptions := {}
deriving DecidableEq

structure CorrectRequest where
  /-- The base of the correction. -/
  invoiceNumber : InvoiceNumber
  correctionId : CorrectionId
  document : DocumentInput
deriving DecidableEq

namespace StornoRecipient

def isAtom (c : Char) : Bool :=
  c.isAlphanum || "!#$%&'*+-/=?^_`\x7b|\x7d~".toList.contains c

def isLabel (label : List Char) : Bool :=
  !label.isEmpty && label.length ≤ 63 && label.head? ≠ some '-' && label.getLast? ≠ some '-'
    && label.all (fun c => c.isAlphanum || c == '-')

/-- Whether the text is one mailbox: a dot-atom, an at sign and a domain. -/
def isMailbox (value : String) : Bool :=
  let sides := value.toList.span (fun c => c != '@')
  match sides.2 with
  | [] => false
  | _ :: domain =>
    value.utf8ByteSize ≤ 254 && sides.1.length ≤ 64
      && (sides.1.splitOn '.').all (fun part => !part.isEmpty && part.all isAtom)
      && (domain.splitOn '.').all isLabel

end StornoRecipient

/-- The recipient of a storno's notification. -/
structure StornoRecipient where
  text : String
  valid : StornoRecipient.isMailbox text = true
deriving DecidableEq

/-- Takes a text that is a mailbox, as it is. -/
def StornoRecipient.parse (value : String) : Option StornoRecipient :=
  if h : StornoRecipient.isMailbox value = true then some ⟨value, h⟩ else none

theorem StornoRecipient.isSome_parse {value : String} :
    (StornoRecipient.parse value).isSome = true ↔ StornoRecipient.isMailbox value = true := by
  unfold StornoRecipient.parse
  split_ifs with h <;> simp [h]

structure StornoRequest where
  invoiceNumber : InvoiceNumber
  comment : Option String := none
  buyerEmail : Option StornoRecipient := none
deriving DecidableEq

/-! ## Recovery -/

/-- What an operator established about a write. -/
inductive AttestedCompletion where
  | issued (number : ProviderDocumentNumber)
  | reversed (number : ProviderDocumentNumber)
  | deleted (number : InvoiceNumber)
deriving DecidableEq

/-- The evidence an operator submits. -/
inductive RecoveryEvidence where
  /-- A document to be read and checked. -/
  | document (number : ProviderDocumentNumber)
  /-- The write did not happen and cannot happen later. -/
  | notExecuted (auditReference : String)
  /-- The write happened and cannot happen again. -/
  | completed (auditReference : String) (completion : AttestedCompletion)
deriving DecidableEq

def AttestedCompletion.toJson : AttestedCompletion → Json
  | issued number => .obj [("type", .str "issued"), ("number", .str number.text)]
  | reversed number => .obj [("type", .str "reversed"), ("number", .str number.text)]
  | deleted number => .obj [("type", .str "deleted"), ("number", .str number.text)]

def RecoveryEvidence.toJson : RecoveryEvidence → Json
  | document number => .obj [("type", .str "document"), ("number", .str number.text)]
  | notExecuted auditReference =>
    .obj [("type", .str "not_executed"), ("audit_reference", .str auditReference),
      ("did_not_execute_and_cannot_execute_later", .bool true)]
  | completed auditReference completion =>
    .obj [("type", .str "completed"), ("audit_reference", .str auditReference),
      ("completion", completion.toJson), ("completed_and_cannot_execute_later", .bool true)]

section Recovery

variable [Unicode]

/-- A request to settle exactly the marker it carries. -/
structure RecoveryRequest where
  operator : String
  operator_nonblank : Text.isBlank operator = false
  marker : UnresolvedWrite
  evidence : RecoveryEvidence

/-- The record of a settlement. -/
structure RecoveryResponse where
  token : String
  operator : String
  evidence : Json
deriving DecidableEq

end Recovery

/-! ## Answers -/

namespace Contract

/-- Why a create, a correction or a storno was answered with a conflict. -/
inductive ConflictReason where
  | prepaidChain
  | orderInvoiced
  | live
  | targetChanged
  | foreign
  | duplicateOrderNumber
  | externalIdCollision
  | proformaLive
  | proformaMissing
  | prepaymentMissing
  | prepaymentReversed
  | baseReversed
  | notManaged
  | other (token : String)
deriving DecidableEq

inductive Warning where
  | notificationDeliveryFailed
  | other (token : String)
deriving DecidableEq

inductive CreateOutcome where
  | issued
  | alreadyIssued
  | reconciled
  | reversed
  | rejected
  | conflict
  | other (token : String)
deriving DecidableEq

/-- The answer of every create and of a correction. -/
structure CreateResponse where
  outcome : CreateOutcome
  conflictReason : Option ConflictReason := none
  kind : IssuedKind
  externalId : String
  invoiceNumber : Option String := none
  documentId : Option Int64 := none
  stornoNumber : Option String := none
  netTotal : Option Decimal := none
  grossTotal : Option Decimal := none
  outstanding : Option Decimal := none
  customerAccountUrl : Option String := none
  existingNumber : Option String := none
  code : Option String := none
  message : Option String := none
  warnings : List Warning := []
deriving DecidableEq

inductive StornoOutcome where
  | reversed
  | rejected
  | conflict
  | managedByOrder
  | unsupportedOrderNumber
  | other (token : String)
deriving DecidableEq

/-- The answer of a storno. -/
structure StornoResponse where
  outcome : StornoOutcome
  conflictReason : Option ConflictReason := none
  invoiceNumber : String
  invoiceDocumentId : Option Int64 := none
  stornoNumber : Option String := none
  stornoDocumentId : Option Int64 := none
  orderKey : Option String := none
  code : Option String := none
  message : Option String := none
  warnings : List Warning := []
deriving DecidableEq

/-- A document szamlazz.hu cannot reverse. -/
def StornoResponse.notStornoable (invoiceNumber message : String) : StornoResponse :=
  { outcome := .rejected, invoiceNumber := invoiceNumber, code := some "not_stornoable"
    message := some message }

inductive DeleteReason where
  | proformaPaid
  | externalIdCollision
  | targetChanged
  | other (token : String)
deriving DecidableEq

inductive DeleteProformaOutcome where
  | deleted
  | absent
  | conflict
  | rejected
  | other (token : String)
deriving DecidableEq

/-- The answer of a deletion. -/
structure DeleteProformaResponse where
  outcome : DeleteProformaOutcome
  reason : Option DeleteReason := none
  code : Option String := none
  message : Option String := none
deriving DecidableEq

namespace DeleteProformaResponse

def deleted : DeleteProformaResponse := { outcome := .deleted }

def absent : DeleteProformaResponse := { outcome := .absent }

def conflict (reason : DeleteReason) : DeleteProformaResponse :=
  { outcome := .conflict, reason := some reason }

def rejected (code message : String) : DeleteProformaResponse :=
  { outcome := .rejected, code := some code, message := some message }

end DeleteProformaResponse

end Contract

end Szamlazz
