import Szamlazz.Gateway.Document

/-!
# The unresolved-write state

What an order keeps while a write of its own may or may not have landed: the
intent of the write, reduced to what recovery needs (`WriteOperation`), the
execution contract it was sent under when re-executions may send again, and the
identity the evidence must be read under. The marker is the only durable state
of an order.
-/

namespace Szamlazz

/-- The intent of a write, without content. -/
inductive WriteOperation where
  /-- Issuance: its kind, the old reversed holder of an explicit reissue, and
  the base of a corrective. -/
  | create (kind : IssuedKind) (expectedNumber correctedNumber : Option String)
  /-- Reversal of the exact original. -/
  | storno (number : String)
  /-- Deletion of the pinned proforma. -/
  | delete (number : String)
deriving DecidableEq

/-- How the target of a deletion was selected. -/
inductive DeleteMode where
  | namespaceOwned
  | namedTarget
deriving DecidableEq

/-- The contract a replay-enabled write is executed under. -/
inductive ReplayExecutionContract where
  | requestResponseOrdinaryV1
  | requestResponseProformaV1
  | requestResponsePrepaymentV1
  | requestResponseFinalV1
  | requestResponseDeleteV1 (mode : DeleteMode) (force : Bool) (documentId : Int64)
  | requestResponseStornoV1 (documentId : Int64) (fulfillmentDate : Date) (eInvoice : Bool)
      (appearance : Int64)
deriving DecidableEq

/-- A write that may have landed, awaiting evidence. -/
structure UnresolvedWrite [Unicode] where
  executionContract : Option ReplayExecutionContract
  proformaNumber : Option String
  prepaymentNumber : Option String
  token : String
  ownerInvocation : String
  createdAt : String
  scope : Option String
  order : OrderKey
  «namespace» : Namespace
  externalId : String
  accountId : String
  endpoint : String
  credentialRef : String
  operation : WriteOperation
deriving DecidableEq

/-- A request to delete a proforma of the order. -/
structure DeleteProformaRequest where
  expectedNumber : InvoiceNumber
  mode : DeleteMode
  force : Bool
deriving DecidableEq

/-- The facts a deletion pins. -/
def ReplayExecutionContract.forDelete (request : DeleteProformaRequest) (documentId : Int64) :
    ReplayExecutionContract :=
  .requestResponseDeleteV1 request.mode request.force documentId

end Szamlazz
