import Szamlazz.Service.Prologue

/-!
# The two writes

How an order changes anything at szamlazz.hu. Both writes record the marker of
the intent before anything is sent, and clear it only after a result that settles
the intent has been recorded; they differ in what an execution that starts over
may do. `protectedWrite` sends behind a permission that lives in the memory of
one execution and that no recorded result restores. `replayEnabledWrite` has no
such permission: its unfinished run may send again, under the contract its marker
carries.
-/

namespace Szamlazz

open Durable

/-! ## The stored marker -/

section State

variable [Unicode] [Transport] [Clock]

/-- The fault of a step that reads or records recovery state. -/
def readFault (error : TerminalError) : Fault :=
  if error.isCancelled then
    .cancelled "recovery observation cancelled; unresolved state is retained"
  else
    .unavailable "could not read or record recovery evidence; inspect the unresolved marker"

/-- Reads the stored marker. -/
def Handler.stored : Handler (Option UnresolvedWrite) :=
  ExceptT.mk (.get fun
    | .ok stored => .ret (.ok stored)
    | .error error => .ret (.error (.fault (readFault error))))

/-- Stores a marker. -/
def Handler.store (marker : UnresolvedWrite) : Handler Unit :=
  ExceptT.mk (.set marker (.ret (.ok ())))

/-- Clears the stored marker. -/
def Handler.clear : Handler Unit := ExceptT.mk (.clear (.ret (.ok ())))

/-- **Nothing is begun while an earlier write is unresolved.** -/
def guard : Handler Unit := do
  let stored ← Handler.stored
  match stored with
  | none => return ()
  | some _ => Handler.raise (.outcomeUnknown
      "an earlier Order write remains unresolved; retain its invocation identity and obtain operator reconciliation; no new mutation is authorized")

/-- The marker of an intent, its time still open. -/
def Execution.writeMarker (exec : Execution) (ctx : Context) (order : OrderKey)
    (externalId : ExternalId) (operation : WriteOperation) : UnresolvedWrite where
  executionContract := none
  proformaNumber := none
  prepaymentNumber := none
  token := ctx.invocationId.text
  ownerInvocation := ctx.invocationId.text
  createdAt := ""
  scope := ctx.scope
  order := order
  «namespace» := exec.config.namespace
  externalId := externalId.text
  accountId := exec.account.id
  endpoint := exec.account.endpoint.text
  credentialRef := exec.account.credentialRef
  operation := operation

/-! ## The closures -/

/-- The marker, with the time its preparation is recorded. -/
def prepareClosure (marker : UnresolvedWrite) : Inside (Closed UnresolvedWrite TerminalError) := do
  let time ← Inside.now
  return .done { marker with createdAt := Clock.display time }

/-- The intent, with the time its preparation is recorded. -/
def prepareIntentClosure (intent : ReplayIntent) : Inside (Closed ReplayIntent TerminalError) := do
  let time ← Inside.now
  return .done (intent.preparedAt (Clock.display time))

/-- Arms the permission of this execution. -/
def armClosure : Inside (Closed Unit TerminalError) := do
  let _ ← Inside.swap true
  return .done ()

/-- The write, if the credentials can be had. -/
def attemptWrite (unavailable : String) (write : Call WriteResult) :
    Inside (Closed WriteResult TerminalError) := do
  let acquired ← Inside.gateway
  match acquired with
  | .error _ => return .done (.because unavailable)
  | .ok () => do
    let result ← Inside.call write
    return .done result

/-- The write of an execution that holds the permission, which it consumes. -/
def protectedClosure (write : Call WriteResult) : Inside (Closed WriteResult TerminalError) := do
  let permitted ← Inside.swap false
  match permitted with
  | true =>
    attemptWrite "pinned recovery account unavailable before write execution" write
  | false =>
    return .done
      (.because "send permission unavailable on replay; reconcile the earlier execution")

/-- The write of the retained contract. -/
def replayClosure (retained expected : Option ReplayExecutionContract) (write : Call WriteResult) :
    Inside (Closed WriteResult TerminalError) :=
  if retained = expected then
    attemptWrite "pinned account unavailable inside replay-enabled write" write
  else return .done (.because "outbound request differs from retained execution contract")

/-- Reconciliation is repeated until it settles. -/
def reconcileClosure (marker : UnresolvedWrite) (original : WriteDiagnostic) :
    Inside (Closed WriteResult TerminalError) := do
  let acquired ← Inside.gateway
  match acquired with
  | .error _ => return .retry
  | .ok () => do
    let result ← Inside.call (reconcileWriteDiagnostic marker original)
    match result with
    | .unresolved _ => return .retry
    | result => return .done result

/-! ## The protected write -/

/-- The fault of a protected write cut short. -/
def protectedUncertain (order : OrderKey) (externalId : ExternalId) (operation : WriteOperation)
    (error : TerminalError) : HandlerError :=
  let kind := match operation with
    | .create kind _ _ => some kind
    | _ => none
  let verdict := if error.isCancelled then "cancelled" else "unconfirmed"
  .fault (((Fault.outcomeUnknown ("the Order write ended at a durable await ("
    ++ toString error.code ++ ": " ++ verdict
    ++ "); a send may have landed; the unresolved marker is retained; reconcile before deliberately authorizing another operation")).withRunCause
      error).about order kind externalId)

/-- Reconciles an unresolved result in a run of its own. -/
def settle (name : String) (uncertain : TerminalError → HandlerError) (marker : UnresolvedWrite) :
    WriteResult → Handler WriteResult
  | .unresolved original => Handler.run name uncertain (reconcileClosure marker original)
  | result => pure result

/-- **The protected write**: store the marker, arm the permission, consume it in
the write, reconcile what it leaves unresolved, clear the marker. -/
def Execution.protectedWrite (exec : Execution) (ctx : Context) (order : OrderKey)
    (externalId : ExternalId) (operation : WriteOperation) (name : String)
    (write : UnresolvedWrite → Call WriteResult) : Handler WriteResult := do
  let uncertain := protectedUncertain order externalId operation
  let marker ← Handler.run "prepare-write" (fun error => .fault (readFault error))
    (prepareClosure (exec.writeMarker ctx order externalId operation))
  Handler.store marker
  let _ ← Handler.run (T := Unit) "arm-write" uncertain armClosure
  let result ← Handler.run name uncertain (protectedClosure (write marker))
  let result ← settle "reconcile-write" uncertain marker result
  Handler.clear
  return result

/-! ## The replay-enabled write -/

/-- The operations that have a replay-enabled write. -/
inductive ReplayWrite where
  | create
  | delete
  | storno
deriving DecidableEq

/-- The infix of its run names. -/
def ReplayWrite.step : ReplayWrite → String
  | create => "ordinary"
  | delete => "proforma-delete"
  | storno => "order-storno"

/-- The name of the run that sends. -/
def ReplayWrite.writeName : ReplayWrite → String
  | create => "create-ordinary-request-response"
  | delete => "delete-proforma-request-response"
  | storno => "storno-request-response"

/-- The fault of a replay-enabled write cut short. -/
def replayUncertain (order : OrderKey) (externalId : ExternalId) (operation : WriteOperation)
    (error : TerminalError) : HandlerError :=
  let kind := match operation with
    | .create kind _ _ => some kind
    | .delete _ => some .proforma
    | .storno _ => none
  .fault (((Fault.outcomeUnknown
    "replay-enabled Order write interrupted at durable await; marker retained").withRunCause
      error).about order kind externalId)

/-- **The replay-enabled write**: store the marker with its contract, await the
barrier, write under the contract, reconcile, clear. -/
def replayEnabledWrite (order : OrderKey) (externalId : ExternalId) (marker : UnresolvedWrite)
    (operation : ReplayWrite) (write : UnresolvedWrite → Call WriteResult) :
    Handler WriteResult := do
  let intent ← Handler.lift ((ReplayIntent.new marker).mapError .invalidInput)
  let expected := intent.marker.executionContract
  let intent ← Handler.run ("prepare-" ++ operation.step ++ "-write")
    (fun error => .fault (readFault error)) (prepareIntentClosure intent)
  let marker := intent.marker
  let uncertain := replayUncertain order externalId marker.operation
  Handler.store marker
  let _ ← Handler.run (T := Unit) (operation.step ++ "-marker-committed") uncertain
    (pure (.done ()))
  let result ← Handler.run operation.writeName uncertain
    (replayClosure marker.executionContract expected (write marker))
  let result ← settle ("reconcile-" ++ operation.step ++ "-write") uncertain marker result
  Handler.clear
  return result

/-- A reversal under the contract of its verified original. -/
def Execution.stornoReplayEnabled (exec : Execution) (ctx : Context) (order : OrderKey)
    (request : StornoStepRequest) (original : FoundDocument) : Handler WriteResult :=
  let contract := ReplayExecutionContract.requestResponseStornoV1 original.documentId
    request.fulfillmentDate request.eInvoice original.appearance
  let marker := { exec.writeMarker ctx order request.externalId (.storno request.invoiceNumber)
    with executionContract := some contract }
  replayEnabledWrite order request.externalId marker .storno
    (fun marker => Szamlazz.stornoReplayEnabled exec.account request marker original)

/-- A create under the contract of its kind. -/
def Execution.createReplayEnabled (exec : Execution) (ctx : Context)
    (request : CreateStepRequest) : Handler WriteResult :=
  match request.replayContract with
  | none => Handler.raise (.invalidInput "unsupported replay-enabled issuance intent")
  | some contract =>
    let marker :=
      { exec.writeMarker ctx request.order request.externalId request.operation with
        executionContract := some contract
        proformaNumber := request.proformaNumber
        prepaymentNumber := request.prepaymentNumber }
    replayEnabledWrite request.order request.externalId marker .create
      (fun marker =>
        if marker.operation ≠ request.operation ∨ marker.proformaNumber ≠ request.proformaNumber
            ∨ marker.prepaymentNumber ≠ request.prepaymentNumber then
          pure (.because "outbound request differs from retained issuance intent")
        else Szamlazz.createReplayEnabled request)

/-- A deletion under the contract of its selection. -/
def Execution.deleteReplayEnabled (exec : Execution) (ctx : Context) (order : OrderKey)
    (externalId : ExternalId) (found : FoundDocument) (request : DeleteProformaRequest) :
    Handler WriteResult :=
  let contract := ReplayExecutionContract.forDelete request found.documentId
  let marker := { exec.writeMarker ctx order externalId (.delete found.number)
    with executionContract := some contract }
  replayEnabledWrite order externalId marker .delete
    (fun marker => Szamlazz.deleteReplayEnabled externalId marker found request)

end State

end Szamlazz
