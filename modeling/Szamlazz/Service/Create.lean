import Szamlazz.Contract.Money
import Szamlazz.Service.Storno

/-!
# The creates of an order, and its corrections

The four creates and the correction take one path. The holder of the target's
own external id is looked up before anything else, so that a prerequisite that was
consumed or changed cannot hide a document already issued; then come the other
kinds of the order, which may exclude the new one, and the documents it refers to;
then the full lookup, with the newest document under the order number; and only
then the write. Every one of these reads is followed by a decision that is a
function of what was read, and either answers or lets the create go on.
-/

namespace Szamlazz

open Durable

/-- The request of a body. -/
def Body.intoRequest {α : Type} (body : Body α) : Except Fault α :=
  body.mapError (fun error => .invalidInput ("malformed request body: " ++ error))

/-! ## The identity of an answer -/

/-- The identity every answer of a create carries. -/
structure Identity where
  kind : IssuedKind
  externalId : ExternalId

namespace Identity

section Answers

def respond (identity : Identity) (outcome : Contract.CreateOutcome) : Contract.CreateResponse :=
  { outcome := outcome, kind := identity.kind, externalId := identity.externalId.text }

def conflict (identity : Identity) (reason : Contract.ConflictReason) : Contract.CreateResponse :=
  { identity.respond .conflict with conflictReason := some reason }

def conflictAbout (identity : Identity) (reason : Contract.ConflictReason) (number : String) :
    Contract.CreateResponse :=
  { identity.conflict reason with existingNumber := some number }

def rejected (identity : Identity) (code message : String) : Contract.CreateResponse :=
  { identity.respond .rejected with code := some code, message := some message }

/-- The number and the totals of a found document. -/
def found [RustDecimal] (identity : Identity) (outcome : Contract.CreateOutcome)
    (document : FoundDocument) : Contract.CreateResponse :=
  { identity.respond outcome with
    invoiceNumber := some document.number
    documentId := some document.documentId
    netTotal := some document.netTotal
    grossTotal := some document.grossTotal
    outstanding := Szamlazz.outstanding (some document.grossTotal) document.creditEntryAmounts }

/-- A document that is reversed, with its storno when known. -/
def reversed (identity : Identity) (document : FoundDocument) (stornoNumber : Option String) :
    Contract.CreateResponse :=
  { identity.respond .reversed with
    invoiceNumber := some document.number
    documentId := some document.documentId
    stornoNumber := stornoNumber }

/-- A document szamlazz.hu has just numbered. -/
def issued (identity : Identity) (document : IssuedDocument) : Contract.CreateResponse :=
  { identity.respond .issued with
    invoiceNumber := some document.number
    documentId := document.documentId
    netTotal := document.netTotal
    grossTotal := document.grossTotal
    outstanding := document.outstanding
    customerAccountUrl := document.customerAccountUrl
    warnings := if document.notificationDeliveryFailed then [.notificationDeliveryFailed] else [] }

def duplicateOrderNumber (identity : Identity) (answer : SzamlazzAnswer)
    (existingNumber : Option String) : Contract.CreateResponse :=
  { identity.conflict .duplicateOrderNumber with
    code := some answer.code
    message := some answer.message
    existingNumber := existingNumber }

end Answers

variable [Unicode]

def ofKind (ns : Namespace) (order : OrderKey) (kind : DocumentKind) : Identity where
  kind := kind.issued
  externalId := .forKind ns order kind

/-- A fault about the document. -/
def about (identity : Identity) (order : OrderKey) (fault : Fault) : Fault :=
  fault.about order (some identity.kind) identity.externalId

omit [Unicode] in
/-- **The settled create as an answer.** -/
def respondTo [RustDecimal] (identity : Identity) :
    CreateOutcome → Except Fault Contract.CreateResponse
  | .targetChanged => .ok (identity.conflict .targetChanged)
  | .issued document => .ok (identity.issued document)
  -- An earlier execution of the step created it.
  | .found document => .ok (identity.found .issued document)
  -- Issued and reversed since the lookup; its storno is not looked up here.
  | .reversed document => .ok (identity.reversed document none)
  | .liveAgain document => .ok (identity.conflictAbout .live document.number)
  | .reconciled document => .ok (identity.found .reconciled document)
  | .collision document => .ok (identity.conflictAbout .externalIdCollision document.number)
  | .duplicateOrderNumber answer existingNumber =>
    .ok (identity.duplicateOrderNumber answer existingNumber)
  | .rejected rejection =>
    if rejection.code = .request then .error (.invalidInput rejection.message)
    else .ok (identity.rejected rejection.code.display rejection.message)
  | .credentialsRejected answer => .error (AnsweredCode.credentialsRejected answer).toFault
  | .api answer => .error (AnsweredCode.inconclusive answer).toFault
  | .unavailable message => .error (.szlahuDownAnswer message)

end Identity

/-! ## The decisions -/

/-- The other kinds whose live document refuses a create, each with the reason. -/
def exclusiveWith : DocumentKind → List (DocumentKind × Contract.ConflictReason)
  | .invoice => [(.prepayment, .prepaidChain), (.final, .prepaidChain)]
  | .prepayment => [(.invoice, .prepaidChain), (.final, .prepaidChain)]
  | .proforma => [(.invoice, .orderInvoiced), (.prepayment, .orderInvoiced), (.final, .orderInvoiced)]
  | .final => []

/-- The kinds that convert a proforma. -/
def linksProforma : DocumentKind → Bool
  | .invoice | .prepayment => true
  | .proforma | .final => false

/-- Whether the link names a proforma. -/
def ProformaLink.isNumber : ProformaLink → Bool
  | .number _ => true
  | .auto | .none => false

/-- The references resolved before a create. -/
structure Refs where
  proforma : Option String := none
  prepayment : Option String := none
  /-- Numbers known to be ours. -/
  ourNumbers : List String := []
deriving DecidableEq

section Decide

/-- What another kind's slot says; a document that is not what the slot is for
refuses, since it may hide one that is. -/
def decideExclusivity (outcome : OwnershipOutcome) (reason : Contract.ConflictReason)
    (identity : Identity) : Except Fault (Option Contract.CreateResponse) :=
  match outcome with
  | .collision document =>
    .ok (some (identity.conflictAbout .externalIdCollision document.number))
  | .live document => .ok (some (identity.conflictAbout reason document.number))
  | .absent | .reversed _ => .ok none
  | .api answer => .error (AnsweredCode.inconclusive answer).toFault
  | .credentialsRejected answer => .error (AnsweredCode.credentialsRejected answer).toFault

/-- What the prepayment's slot says to a final invoice. -/
def decidePrepaymentForFinal (outcome : OwnershipOutcome) (identity : Identity) (refs : Refs) :
    Except Fault (Contract.CreateResponse ⊕ Refs) :=
  match outcome with
  | .absent => .ok (.inl (identity.conflict .prepaymentMissing))
  | .collision document =>
    .ok (.inl (identity.conflictAbout .externalIdCollision document.number))
  | .reversed document => .ok (.inl (identity.conflictAbout .prepaymentReversed document.number))
  | .live document =>
    .ok (.inr { refs with prepayment := some document.number
                          ourNumbers := refs.ourNumbers ++ [document.number] })
  | .api answer => .error (AnsweredCode.inconclusive answer).toFault
  | .credentialsRejected answer => .error (AnsweredCode.credentialsRejected answer).toFault

/-- What the proforma's slot says under `auto` and `none`. -/
def decideProformaLink (outcome : OwnershipOutcome) (link : ProformaLink) (identity : Identity)
    (refs : Refs) : Except Fault (Contract.CreateResponse ⊕ Refs) :=
  match outcome with
  | .collision document =>
    .ok (.inl (identity.conflictAbout .externalIdCollision document.number))
  | .live document =>
    match link with
    -- szamlazz.hu links by the order number regardless.
    | .none => .ok (.inl (identity.conflictAbout .proformaLive document.number))
    | .auto | .number _ =>
      .ok (.inr { refs with proforma := some document.number
                            ourNumbers := refs.ourNumbers ++ [document.number] })
  | .absent | .reversed _ => .ok (.inr refs)
  | .api answer => .error (AnsweredCode.inconclusive answer).toFault
  | .credentialsRejected answer => .error (AnsweredCode.credentialsRejected answer).toFault

variable [Unicode]

/-- What a proforma read by its number says. -/
def decideProformaByNumber (outcome : QueryOutcome) (number : String) (order : OrderKey)
    (identity : Identity) (refs : Refs) : Except Fault (Contract.CreateResponse ⊕ Refs) :=
  match outcome with
  | .api answer => .error (identity.about order (AnsweredCode.inconclusive answer).toFault)
  | .credentialsRejected answer =>
    .error (identity.about order (AnsweredCode.credentialsRejected answer).toFault)
  | .notFound => .ok (.inl (identity.conflictAbout .proformaMissing number))
  | .found document =>
    if !document.carriesOrder order then
      .ok (.inl (identity.conflictAbout .notManaged number))
    else if document.documentType ≠ .proforma then
      .error (.invalidInput (number ++ " is not a proforma (tipus "
        ++ document.documentType.asWire ++ ")"))
    else
      .ok (.inr { refs with proforma := some number
                            ourNumbers := refs.ourNumbers ++ [document.number] })

/-- Replay-enabled execution also refuses a proforma of ours that is not live. -/
def decideProformaForExecution (outcome : QueryOutcome) (number : String) (order : OrderKey)
    (identity : Identity) (execution : OrderExecution) (refs : Refs) :
    Except Fault (Contract.CreateResponse ⊕ Refs) :=
  let reversedProforma := match outcome with
    | .found document => document.carriesOrder order && document.documentType = .proforma
        && !document.isLive
    | _ => false
  if execution.permitsReplay && reversedProforma then
    .ok (.inl (identity.conflictAbout .proformaMissing number))
  else decideProformaByNumber outcome number order identity refs

/-- What the verified base says to a correction. -/
def decideBase (found : FoundDocument) (order : OrderKey) (number : String)
    (identity : Identity) : Except Fault (Option Contract.CreateResponse) :=
  if !found.carriesOrder order then .ok (some (identity.conflictAbout .notManaged number))
  else if found.reversed = some true then
    .ok (some (identity.conflictAbout .baseReversed number))
  else if !found.isInvoiceFamily then
    .error (.invalidInput (number ++ " is not a supported corrective base (tipus "
      ++ found.documentType.asWire
      ++ "); name the original invoice, prepayment or final invoice"))
  else .ok none

/-- A reissue must name the holder it means to replace. -/
def expectedTarget (reissue : Option Reissue) (holder : Option String) (identity : Identity) :
    Option Contract.CreateResponse :=
  match reissue with
  | none => none
  | some intent =>
    if holder = some intent.expectedNumber.text then none
    else some { identity.conflict .targetChanged with existingNumber := holder }

variable [RustDecimal]

omit [Unicode] in
/-- What the target's own slot says, before any prerequisite. -/
def decideExistingTarget (outcome : OwnershipOutcome) (reissue : Option Reissue)
    (identity : Identity) : Except Fault (Option Contract.CreateResponse) :=
  let changed := match outcome with
    | .absent => expectedTarget reissue none identity
    | .live document | .reversed document =>
      expectedTarget reissue (some document.number) identity
    | .collision _ | .credentialsRejected _ | .api _ => none
  match changed with
  | some response => .ok (some response)
  | none =>
    match outcome with
    | .live document =>
      if reissue.isSome then .ok (some (identity.conflictAbout .live document.number))
      else .ok (some (identity.found .alreadyIssued document))
    | .reversed document =>
      if reissue = none then .ok (some (identity.reversed document none)) else .ok none
    | .collision document =>
      .ok (some (identity.conflictAbout .externalIdCollision document.number))
    | .absent => .ok none
    | .api answer => .error (AnsweredCode.inconclusive answer).toFault
    | .credentialsRejected answer => .error (AnsweredCode.credentialsRejected answer).toFault

omit [Unicode] in
/-- What the full lookup says: an answer, or the reversed document a send may go
past. -/
def decideLookup (outcome : LookupOutcome) (reissue : Option Reissue) (identity : Identity) :
    Except Fault (Contract.CreateResponse ⊕ Option String) :=
  let changed := match outcome with
    | .absent => expectedTarget reissue none identity
    | .live document | .reversed document _ =>
      expectedTarget reissue (some document.number) identity
    | .collision _ | .foreign _ | .credentialsRejected _ | .api _ => none
  match changed with
  | some response => .ok (.inl response)
  | none =>
    match outcome with
    | .api answer => .error (AnsweredCode.inconclusive answer).toFault
    | .credentialsRejected answer => .error (AnsweredCode.credentialsRejected answer).toFault
    | .live document =>
      if reissue.isSome then .ok (.inl (identity.conflictAbout .live document.number))
      else .ok (.inl (identity.found .alreadyIssued document))
    | .reversed document stornoNumber =>
      if reissue = none then .ok (.inl (identity.reversed document stornoNumber))
      else .ok (.inr (some document.number))
    | .collision document =>
      .ok (.inl (identity.conflictAbout .externalIdCollision document.number))
    | .foreign document => .ok (.inl (identity.conflictAbout .foreign document.number))
    | .absent => .ok (.inr none)

omit [Unicode] in
/-- Replay-enabled execution names the proforma that stopped the lookup. -/
def decideLookupForExecution (outcome : LookupOutcome) (reissue : Option Reissue)
    (identity : Identity) (execution : OrderExecution) :
    Except Fault (Contract.CreateResponse ⊕ Option String) :=
  let unselected := match outcome with
    | .foreign document =>
      if document.documentType = .proforma then some document.number else none
    | _ => none
  match unselected with
  | some number =>
    if execution.permitsReplay then .ok (.inl (identity.conflictAbout .proformaLive number))
    else decideLookup outcome reissue identity
  | none => decideLookup outcome reissue identity

end Decide

/-! ## The intent -/

/-- The validated input of a create. -/
structure Prepared [Unicode] where
  order : OrderKey
  document : DocumentInput
  reissue : Option Reissue
  proforma : ProformaLink

/-- One document to issue. -/
structure Intent where
  identity : Identity
  create : CreateInvoice
  /-- The verified base of a corrective. -/
  correctedNumber : Option String
  reissue : Option Reissue
  ourNumbers : List String

section Validate

variable [Unicode] [Transport] [RustDecimal]

/-- The create of a document, validated as it will be sent. -/
def Execution.build (exec : Execution) (kind : IssuedKind) (document : DocumentInput)
    (order : OrderKey) (externalId : ExternalId) (refs : DocumentRefs) :
    Except Fault CreateInvoice := do
  let request ← (exec.account.buildCreate kind document order externalId refs).mapError
    (fun error => .invalidInput error.display)
  request.validateRequest.mapError (fun error => .invalidInput error.display)
  return request

/-- Validates a document by building it with references that stand in. -/
def Execution.validateDocument (exec : Execution) (kind : IssuedKind) (document : DocumentInput)
    (order : OrderKey) : Except Fault Unit := do
  if (normalizeBuyerName document.buyer.name).isEmpty then
    .error (.invalidInput "buyer.name must not be empty")
  let _ ← exec.build kind document order ⟨"-"⟩
    { prepayment := some "-", corrected := some "-" }
  return ()

/-- Validates a request before anything is read. -/
def Execution.prepare (exec : Execution) (order : OrderKey) (kind : DocumentKind)
    (request : CreateRequest) : Except Fault Prepared := do
  if request.options.proforma ≠ .auto ∧ linksProforma kind = false then
    .error (.invalidInput ("options.proforma applies to create_invoice and create_prepayment only, not create_"
      ++ kind.asStr))
  exec.validateDocument kind.issued request.document order
  return { order := order, document := request.document, reissue := request.options.reissue
           proforma := request.options.proforma }

end Validate

/-! ## The steps -/

section Steps

variable [Unicode] [Transport] [Clock] [FaultText] [RustDecimal]

/-- The best-effort storno of an early `reversed`; a corrective's is not looked up. -/
def withStornoNumber (order : OrderKey) (identity : Identity) :
    Option Contract.CreateResponse → Handler (Option Contract.CreateResponse)
  | none => return none
  | some response =>
    match response.invoiceNumber with
    | some number =>
      if response.outcome = .reversed ∧ identity.kind ≠ .corrective then do
        let stornoNumber ← Handler.stornoNumberOf order number identity.externalId
        return some { response with stornoNumber := stornoNumber }
      else return some response
    | none => return some response

/-- The target, before a prerequisite can hide it. -/
def existingTarget (order : OrderKey) (identity : Identity) (reissue : Option Reissue) :
    Handler (Option Contract.CreateResponse) := do
  let found ← Handler.lookup ("lookup-" ++ identity.kind.asStr) identity.externalId order
    identity.kind
  let response ← Handler.lift ((decideExistingTarget found reissue identity).mapError
    (identity.about order))
  withStornoNumber order identity response

/-- A live document of ours of another kind refuses the create. -/
def Execution.exclusivity (exec : Execution) (order : OrderKey) (identity : Identity)
    (other : DocumentKind) (reason : Contract.ConflictReason) :
    Handler (Option Contract.CreateResponse) := do
  let found ← Handler.lookup ("lookup-" ++ other.asStr)
    (.forKind exec.config.namespace order other) order other.issued
  Handler.lift ((decideExclusivity found reason identity).mapError (identity.about order))

/-- The kinds that exclude the create, one after the other. -/
def Execution.exclusivities (exec : Execution) (order : OrderKey) (identity : Identity) :
    List (DocumentKind × Contract.ConflictReason) → Handler (Option Contract.CreateResponse)
  | [] => return none
  | (other, reason) :: rest => do
    let response ← exec.exclusivity order identity other reason
    match response with
    | some response => return some response
    | none => exec.exclusivities order identity rest

/-- The live prepayment a final invoice settles. -/
def Execution.prepaymentForFinal (exec : Execution) (order : OrderKey) (identity : Identity)
    (refs : Refs) : Handler (Contract.CreateResponse ⊕ Refs) := do
  let found ← Handler.lookup "lookup-prepayment"
    (.forKind exec.config.namespace order .prepayment) order .prepayment
  Handler.lift ((decidePrepaymentForFinal found identity refs).mapError (identity.about order))

/-- The proforma a create converts. -/
def Execution.proformaLink (exec : Execution) (prepared : Prepared) (identity : Identity)
    (refs : Refs) : Handler (Contract.CreateResponse ⊕ Refs) :=
  match prepared.proforma with
  | .auto | .none => do
    let found ← Handler.lookup "lookup-proforma"
      (.forKind exec.config.namespace prepared.order .proforma) prepared.order .proforma
    Handler.lift ((decideProformaLink found prepared.proforma identity refs).mapError
      (identity.about prepared.order))
  | .number number => do
    let found ← Handler.mapFault (identity.about prepared.order)
      (Handler.verify ("verify-proforma-" ++ number.text) number.text)
    Handler.lift (decideProformaForExecution found number.text prepared.order identity
      exec.config.orderExecution refs)

/-- The proforma's slot, where a replay-enabled write will read it: a live one is
let pass only as the linked one. -/
def Execution.proformaSlot (exec : Execution) (order : OrderKey) (identity : Identity)
    (refs : Refs) : Handler (Option Contract.CreateResponse) := do
  let found ← Handler.lookup "lookup-proforma"
    (.forKind exec.config.namespace order .proforma) order .proforma
  let linked : Bool := match found with
    | .live document => refs.proforma = some document.number
    | _ => false
  if linked then return none
  else Handler.lift ((decideExclusivity found .proformaLive identity).mapError
    (identity.about order))

/-- What a create refers to, or the answer that refuses it. -/
def Execution.references (exec : Execution) (prepared : Prepared) (identity : Identity)
    (kind : DocumentKind) : Handler (Contract.CreateResponse ⊕ Refs) := do
  let replay := exec.config.orderExecution.permitsReplay
  let excluded ← exec.exclusivities prepared.order identity (exclusiveWith kind)
  match excluded with
  | some response => return .inl response
  | none => do
  let prepaid ←
    if kind = .final then exec.prepaymentForFinal prepared.order identity {}
    else pure (.inr {})
  match prepaid with
  | .inl response => return .inl response
  | .inr refs => do
  let invoiced ←
    if replay ∧ kind = .final then
      exec.exclusivity prepared.order identity .invoice .prepaidChain
    else pure none
  match invoiced with
  | some response => return .inl response
  | none => do
  let linked ←
    if linksProforma kind then exec.proformaLink prepared identity refs else pure (.inr refs)
  match linked with
  | .inl response => return .inl response
  | .inr refs => do
  let slot ←
    if replay ∧ (kind = .final ∨ prepared.proforma.isNumber) then
      exec.proformaSlot prepared.order identity refs
    else pure none
  match slot with
  | some response => return .inl response
  | none => return .inr refs

/-- A holder with another base than the intended one is a collision. -/
def withCreateBase (kind : IssuedKind) (correctedNumber : Option String) :
    LookupOutcome → LookupOutcome
  | .live document =>
    if matchesCreateBase document kind correctedNumber then .live document
    else .collision document
  | .reversed document stornoNumber =>
    if matchesCreateBase document kind correctedNumber then .reversed document stornoNumber
    else .collision document
  | outcome => outcome

/-- The full lookup of an intent. -/
def Intent.lookupCall (intent : Intent) (order : OrderKey) (execution : OrderExecution) :
    Call (Except Unanswered LookupOutcome) :=
  let request : LookupRequest :=
    { externalId := intent.identity.externalId, kind := intent.identity.kind, order := order
      ourNumbers := intent.ourNumbers }
  if execution.permitsReplay then lookupForReplay request
  else do
    let outcome ← Szamlazz.lookup request
    return outcome.map (withCreateBase intent.identity.kind intent.correctedNumber)

def Execution.lookupStep (exec : Execution) (order : OrderKey) (intent : Intent) :
    Handler LookupOutcome :=
  runReading ("lookup-" ++ intent.identity.kind.asStr)
    (intent.lookupCall order exec.config.orderExecution)

/-- The write of an intent, past the reversed document it may replace. -/
def Execution.createStep (exec : Execution) (ctx : Context) (order : OrderKey) (intent : Intent)
    (reversed : Option String) : Handler CreateOutcome := do
  let request ← Handler.lift ((CreateStepRequest.new intent.identity.externalId
    intent.identity.kind order intent.create reversed intent.correctedNumber).mapError
      (fun error => .invalidInput error.display))
  if exec.config.orderExecution.permitsReplay then do
    let result ← exec.createReplayEnabled ctx request
    match result with
    | .create outcome => return outcome
    | _ => Handler.raise (.outcomeUnknown "issuance remains unresolved")
  else do
    let result ← exec.protectedWrite ctx request.order request.externalId request.operation
      ("create-" ++ intent.identity.kind.asStr) (fun _ => protectedCreate request)
    match result with
    | .create outcome => return outcome
    | _ => Handler.raise (.outcomeUnknown
        "unexpected recovery operation; operator inspection required")

/-- Issues an intent: the full lookup, the write, the answer. -/
def Execution.issue (exec : Execution) (ctx : Context) (order : OrderKey) (intent : Intent) :
    Handler Contract.CreateResponse := do
  let found ← Handler.mapFault (intent.identity.about order) (exec.lookupStep order intent)
  let decided ← Handler.lift ((decideLookupForExecution found intent.reissue intent.identity
    exec.config.orderExecution).mapError (intent.identity.about order))
  match decided with
  | .inl response => return response
  | .inr reversed => do
    let outcome ← exec.createStep ctx order intent reversed
    Handler.lift ((intent.identity.respondTo outcome).mapError (intent.identity.about order))

/-! ## The handlers -/

/-- The four creates. -/
def Execution.issueKind (exec : Execution) (ctx : Context) (order : OrderKey)
    (kind : DocumentKind) (request : CreateRequest) : Handler Contract.CreateResponse := do
  let prepared ← Handler.lift (exec.prepare order kind request)
  let identity := Identity.ofKind exec.config.namespace order kind
  let existing ← existingTarget order identity prepared.reissue
  match existing with
  | some response => return response
  | none => do
  let referred ← exec.references prepared identity kind
  match referred with
  | .inl response => return response
  | .inr refs => do
    let create ← Handler.lift (exec.build identity.kind prepared.document order
      identity.externalId { proforma := refs.proforma, prepayment := refs.prepayment })
    exec.issue ctx order
      { identity := identity, create := create, correctedNumber := none
        reissue := prepared.reissue, ourNumbers := refs.ourNumbers }

/-- The correction of an invoice of the order. -/
def Execution.correct (exec : Execution) (ctx : Context) (order : OrderKey)
    (request : CorrectRequest) : Handler Contract.CreateResponse := do
  let number := request.invoiceNumber.text
  Handler.lift (exec.validateDocument .corrective request.document order)
  let identity : Identity :=
    { kind := .corrective
      externalId := .forCorrective exec.config.namespace order request.correctionId }
  let existing ← existingTarget order identity none
  match existing with
  | some response => return response
  | none => do
  let found ← Handler.mapFault (identity.about order)
    (Handler.verify ("verify-base-" ++ number) number)
  let found ← Handler.lift ((verifiedDocument found number).mapError (identity.about order))
  let refused ← Handler.lift ((decideBase found order number identity).mapError
    (identity.about order))
  match refused with
  | some response => return response
  | none => do
    let create ← Handler.lift (exec.build .corrective request.document order
      identity.externalId { corrected := some number })
    exec.issue ctx order
      { identity := identity, create := create, correctedNumber := some number
        reissue := none, ourNumbers := [] }

/-- A create handler. -/
def createKind (kind : DocumentKind) (config : WorkerConfig) (ctx : Context)
    (body : Body CreateRequest) : Handler Contract.CreateResponse := do
  let request ← Handler.lift body.intoRequest
  let order ← Handler.lift (orderKey ctx.key)
  guard
  let exec ← runPrologue ctx config
  exec.issueKind ctx order kind request

def createProforma : WorkerConfig → Context → Body CreateRequest →
    Handler Contract.CreateResponse := createKind .proforma

def createInvoice : WorkerConfig → Context → Body CreateRequest →
    Handler Contract.CreateResponse := createKind .invoice

def createPrepayment : WorkerConfig → Context → Body CreateRequest →
    Handler Contract.CreateResponse := createKind .prepayment

def createFinal : WorkerConfig → Context → Body CreateRequest →
    Handler Contract.CreateResponse := createKind .final

/-- The correction handler; replay-enabled execution has none. -/
def correctInvoice (config : WorkerConfig) (ctx : Context) (body : Body CorrectRequest) :
    Handler Contract.CreateResponse := do
  if config.orderExecution.permitsReplay then
    Handler.raise (.invalidInput
      "corrective issuance is unsupported with replay_enabled Order execution")
  else do
    let request ← Handler.lift body.intoRequest
    let order ← Handler.lift (orderKey ctx.key)
    guard
    let exec ← runPrologue ctx config
    exec.correct ctx order request

end Steps

end Szamlazz
