import Szamlazz.Service.Write

/-!
# The storno of an order

The original is verified by its number before anything else: another order's
document is refused, a reversed one is already the answer, and what szamlazz.hu
cannot reverse is refused before a send. What is then sent repeats a fiscal fact
of the verified document, its fulfillment date, for which no default can be
right.
-/

namespace Szamlazz

open Durable

/-- What the storno sends, built from what the verification found. -/
structure StornoIntent where
  number : String
  stornoId : ExternalId
  comment : Option String
  buyerEmail : Option StornoRecipient
  eInvoice : Bool
  fulfillmentDate : Date

def StornoIntent.asStepRequest (intent : StornoIntent) : StornoStepRequest where
  invoiceNumber := intent.number
  externalId := intent.stornoId
  comment := intent.comment
  buyerEmail := intent.buyerEmail.map StornoRecipient.text
  eInvoice := intent.eInvoice
  fulfillmentDate := intent.fulfillmentDate

section Decide

variable [Transport]

/-- The fault of a storno that cannot be written. -/
def stornoRequestFault (number : String) : RequestError → Fault
  | .invalidDateYear field year =>
    if field = "fulfillment_date" then
      .unavailable ("szamlazz.hu returned invoice " ++ number
        ++ " with an unusable fulfillment date (telj), which the storno must repeat; nothing was sent; query the invoice and reconcile any earlier write before deliberately renewing the operation")
    else .invalidInput (RequestError.invalidDateYear field year).display
  | error => .invalidInput error.display

/-- The intent of reversing a verified document. -/
def StornoIntent.fromVerified (found : FoundDocument) (account : Account) (number : String)
    (stornoId : ExternalId) (comment : Option String) (buyerEmail : Option StornoRecipient) :
    Except Fault StornoIntent :=
  match found.fulfillmentDate with
  | none => .error (.missingFulfillmentDate number)
  | some fulfillmentDate =>
    let intent : StornoIntent :=
      { number := number, stornoId := stornoId, comment := comment, buyerEmail := buyerEmail
        eInvoice := found.eInvoice.getD account.defaults.eInvoice
        fulfillmentDate := fulfillmentDate }
    match (account.buildStorno intent.asStepRequest).validateRequest with
    | .ok () => .ok intent
    | .error error => .error (stornoRequestFault number error)

end Decide

/-- What a verified document lets the handler do. -/
inductive StornoVerdict where
  | proceed
  | alreadyReversed
  | answered (response : Contract.StornoResponse)

/-- The answer that a document is reversed, with its storno when known. -/
def reversedResponse (number : String) (storno : Option ReportedDocument) :
    Contract.StornoResponse :=
  { outcome := .reversed, invoiceNumber := number
    stornoNumber := storno.map ReportedDocument.number
    stornoDocumentId := storno.bind ReportedDocument.documentId }

/-- What the storno lookup settles. -/
def afterStornoLookup (outcome : StornoLookupOutcome) (number : String) :
    Except Fault (Option Contract.StornoResponse) :=
  match outcome with
  | .absent => .ok none
  | .alreadyReversed stornoNumber stornoDocumentId =>
    .ok (some (reversedResponse number (some ⟨stornoNumber, stornoDocumentId⟩)))
  | .credentialsRejected answer => .error (AnsweredCode.credentialsRejected answer).toFault
  | .api answer => .error (AnsweredCode.inconclusive answer).toFault

def stornoRecovery : String :=
  "query the original invoice and reconcile the earlier reversal; establish that it completed and cannot execute later, or did not execute and cannot execute later; absence and elapsed time are not settlement evidence; only after settlement, deliberately renew with a new Idempotency-Key if still intended"

/-- The settled storno as an answer. -/
def stornoResponse (outcome : StornoOutcome) (number : String) :
    Except Fault Contract.StornoResponse :=
  match outcome with
  | .unnumbered message => .error (.outcomeUnknown (message ++ "; " ++ stornoRecovery))
  | .reversed storno =>
    .ok { outcome := .reversed, invoiceNumber := number, stornoNumber := some storno.number
          stornoDocumentId := storno.documentId
          warnings := if storno.notificationDeliveryFailed then [.notificationDeliveryFailed]
            else [] }
  | .alreadyReversed stornoNumber stornoDocumentId =>
    .ok (reversedResponse number (some ⟨stornoNumber, stornoDocumentId⟩))
  | .notStornoable =>
    .ok (.notStornoable number
      "szamlazz.hu echoed the document unchanged: it cannot be reversed (only invoices can be stornoed)")
  | .rejected rejection =>
    if rejection.code = .request then .error (.invalidInput rejection.message)
    else .ok { outcome := .rejected, invoiceNumber := number, code := some rejection.code.display
               message := some rejection.message }
  | .credentialsRejected answer => .error (AnsweredCode.credentialsRejected answer).toFault
  | .api answer => .error (AnsweredCode.inconclusive answer).toFault
  | .unavailable message => .error (.szlahuDownAnswer message)

/-- The storno the newest document of the order is, when it is the number's. -/
def stornoFromHint (outcome : QueryOutcome) (number : String) :
    Except Fault (Option ReportedDocument) :=
  match outcome with
  | .found found => .ok (if found.isStornoOf number then some (.ofFound found) else none)
  | .notFound | .api _ => .ok none
  | .credentialsRejected answer => .error (AnsweredCode.credentialsRejected answer).toFault

section Storno

variable [Unicode] [Transport] [Clock] [FaultText]

/-- The decision on the verified document. -/
def stornoVerdict (found : FoundDocument) (order : OrderKey) (number : String) : StornoVerdict :=
  if !found.carriesOrder order then
    .answered { outcome := .conflict, conflictReason := some .notManaged, invoiceNumber := number }
  else if !found.isLive then .alreadyReversed
  else if !found.isStornoable then
    .answered (.notStornoable number
      "the document cannot be reversed: only invoices can be stornoed")
  else .proceed

/-- The storno of a document seen reversed, best effort. -/
def Handler.stornoOf (order : OrderKey) (number : String) (stornoId : ExternalId) :
    Handler (Option ReportedDocument) := do
  let outcome ← runBestEffort ("hint-storno-" ++ number) (hint order)
  match outcome with
  | none => return none
  | some outcome =>
    Handler.lift ((stornoFromHint outcome number).mapError
      (fun fault => fault.about order none stornoId))

def Handler.stornoNumberOf (order : OrderKey) (number : String) (stornoId : ExternalId) :
    Handler (Option String) := do
  let storno ← Handler.stornoOf order number stornoId
  return storno.map ReportedDocument.number

/-- The verification of the original: the document to reverse, or the answer. -/
def Handler.verifyForStorno (order : OrderKey) (number : String) (stornoId : ExternalId) :
    Handler (Contract.StornoResponse ⊕ FoundDocument) := do
  let about := fun fault : Fault => fault.about order none stornoId
  let found ← Handler.mapFault about (Handler.verify ("verify-original-" ++ number) number)
  let found ← Handler.lift ((verifiedDocument found number).mapError about)
  match stornoVerdict found order number with
  | .proceed => return .inr found
  | .answered response => return .inl { response with invoiceDocumentId := some found.documentId }
  | .alreadyReversed => do
    let storno ← Handler.stornoOf order number stornoId
    return .inl { reversedResponse number storno with invoiceDocumentId := some found.documentId }

/-- The answer to a settled write. -/
def respondStorno (about : Fault → Fault) (number : String) (found : FoundDocument) :
    WriteResult → Except Fault Contract.StornoResponse
  | .storno outcome =>
    ((stornoResponse outcome number).map
      (fun response => { response with invoiceDocumentId := some found.documentId })).mapError about
  | _ => .error (.outcomeUnknown "unexpected recovery operation")

/-- **The storno handler.** -/
def Execution.storno (exec : Execution) (ctx : Context) (order : OrderKey)
    (request : StornoRequest) : Handler Contract.StornoResponse := do
  let stornoId := ExternalId.forStorno exec.config.namespace order request.invoiceNumber
  let number := request.invoiceNumber.text
  let verified ← Handler.verifyForStorno order number stornoId
  match verified with
  | .inl response => return response
  | .inr found => do
    let kind := IssuedKind.forDocumentType found.documentType
    let about := fun fault : Fault => fault.about order kind stornoId
    let intent ← Handler.lift ((StornoIntent.fromVerified found exec.account number stornoId
      request.comment request.buyerEmail).mapError about)
    let looked ← Handler.mapFault about (runReading ("lookup-storno-" ++ number)
      (lookupOrderStorno intent.stornoId order number))
    let settled ← Handler.lift ((afterStornoLookup looked number).mapError about)
    match settled with
    | some response => return { response with invoiceDocumentId := some found.documentId }
    | none => do
      let result ←
        if exec.config.orderExecution.permitsReplay then
          exec.stornoReplayEnabled ctx order intent.asStepRequest found
        else
          exec.protectedWrite ctx order stornoId (.storno number) ("storno-" ++ number)
            (fun marker => protectedStorno exec.account intent.asStepRequest marker)
      Handler.lift (respondStorno about number found result)

end Storno

end Szamlazz
