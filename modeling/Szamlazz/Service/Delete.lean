import Szamlazz.Service.Storno

/-!
# The deletion of an order's proforma

The target is selected by the order's own external id or by its number, and either
way it is pinned: what is sent later is refused unless a fresh read still shows the
document that was selected. A paid proforma is deleted only if the caller insists,
since szamlazz.hu itself would delete it.
-/

namespace Szamlazz

open Durable

/-! ## The decisions -/

section Decide

/-- A proforma with a credit entry is not deleted without `force`. -/
def paidGuard (found : FoundDocument) (force : Bool) :
    Contract.DeleteProformaResponse ⊕ FoundDocument :=
  if !found.creditEntries.isEmpty && !force then .inl (.conflict .proformaPaid) else .inr found

/-- What the holder of the proforma's external id says; a reversed one is deleted too. -/
def deleteGuard (outcome : OwnershipOutcome) (force : Bool) :
    Except Fault (Contract.DeleteProformaResponse ⊕ FoundDocument) :=
  match outcome with
  | .absent => .ok (.inl .absent)
  | .collision _ => .ok (.inl (.conflict .externalIdCollision))
  | .live found | .reversed found => .ok (paidGuard found force)
  | .api answer => .error (AnsweredCode.inconclusive answer).toFault
  | .credentialsRejected answer => .error (AnsweredCode.credentialsRejected answer).toFault

/-- A holder of another number than the expected one is not the target. -/
def decideOwnedDeletion (outcome : OwnershipOutcome) (request : DeleteProformaRequest) :
    Except Fault (Contract.DeleteProformaResponse ⊕ FoundDocument) :=
  let replaced : Bool := match outcome with
    | .live found | .reversed found => found.number ≠ request.expectedNumber.text
    | _ => false
  if replaced then .ok (.inl (.conflict .targetChanged))
  else deleteGuard outcome request.force

variable [Unicode]

/-- What the document of the expected number says. -/
def namedDeleteGuard (outcome : QueryOutcome) (order : OrderKey) (force : Bool) :
    Except Fault (Contract.DeleteProformaResponse ⊕ FoundDocument) :=
  match outcome with
  | .found found =>
    if !found.isOurs order .proforma then .ok (.inl (.conflict .targetChanged))
    else .ok (paidGuard found force)
  | .notFound => .ok (.inl .absent)
  | .api answer => .error (AnsweredCode.inconclusive answer).toFault
  | .credentialsRejected answer => .error (AnsweredCode.credentialsRejected answer).toFault

end Decide

def deleteRecovery : String :=
  "read get and query the expected number; get covers only namespace-owned documents and absence cannot settle deletion; reconcile the earlier send, then, if deletion is still intended, retry with a new Idempotency-Key and the same expected_number and mode; never substitute a replacement automatically"

/-- The fault of a deletion that may have landed. -/
def deleteUnknown (lost : String) : Fault :=
  .outcomeUnknown ("proforma deletion outcome unknown: " ++ lost
    ++ "; deletion may have landed: " ++ deleteRecovery)

/-- The settled deletion as an answer. -/
def deleteResponse : DeleteOutcome → Except Fault Contract.DeleteProformaResponse
  | .deleted => .ok .deleted
  | .alreadyGone => .ok .absent
  | .rejected rejection =>
    if rejection.code = .request then .error (.invalidInput rejection.message)
    else .ok (.rejected rejection.code.display rejection.message)
  | .targetChanged => .ok (.conflict .targetChanged)
  | .paid => .ok (.conflict .proformaPaid)
  | .api answer => .error (AnsweredCode.inconclusive answer).toFault
  | .guardFailed cause =>
    .error (.unavailable ("could not refresh the pinned proforma before deletion: "
      ++ cause.display ++ "; the outcome is not known; " ++ deleteRecovery))
  | .credentialsRejected answer => .error (AnsweredCode.credentialsRejected answer).toFault
  | .lost lost => .error (deleteUnknown lost.display)
  | .inconclusive answer =>
    .error { deleteUnknown answer.display with szamlazzCode := some answer.code }

/-! ## The handler -/

section Delete

variable [Unicode] [Transport] [Clock] [FaultText]

/-- The proforma to delete, or the answer that spares it. -/
def Execution.selectDeletion (order : OrderKey) (proformaId : ExternalId)
    (request : DeleteProformaRequest) :
    Handler (Contract.DeleteProformaResponse ⊕ FoundDocument) :=
  let about := fun fault : Fault => fault.about order (some .proforma) proformaId
  match request.mode with
  | .namespaceOwned => do
    let found ← Handler.lookup "lookup-proforma" proformaId order .proforma
    Handler.lift ((decideOwnedDeletion found request).mapError about)
  | .namedTarget => do
    let number := request.expectedNumber.text
    let found ← Handler.mapFault about (Handler.verify ("verify-proforma-" ++ number) number)
    Handler.lift ((namedDeleteGuard found order request.force).mapError about)

/-- The deletion behind an order's marker. -/
def protectedDelete (found : FoundDocument) (order : OrderKey) (force : Bool) :
    Call WriteResult := do
  let outcome ← deleteProforma found order force
  return .ofDelete outcome

/-- The answer to a settled write. -/
def respondDelete (order : OrderKey) (proformaId : ExternalId) (number : String) :
    WriteResult → Except Fault Contract.DeleteProformaResponse
  | .delete outcome => (deleteResponse outcome).mapError (fun fault =>
      ({ fault with message := "proforma " ++ number ++ ": " ++ fault.message } : Fault).about order
        (some .proforma) proformaId)
  | _ => .error (.outcomeUnknown "unexpected recovery operation")

/-- **The deletion of the expected proforma.** -/
def Execution.delete (exec : Execution) (ctx : Context) (order : OrderKey)
    (request : DeleteProformaRequest) : Handler Contract.DeleteProformaResponse := do
  let proformaId := ExternalId.forKind exec.config.namespace order .proforma
  let selected ← Execution.selectDeletion order proformaId request
  match selected with
  | .inl response => return response
  | .inr found => do
    let result ←
      if exec.config.orderExecution.permitsReplay then
        exec.deleteReplayEnabled ctx order proformaId found request
      else
        exec.protectedWrite ctx order proformaId (.delete found.number)
          ("delete-proforma-" ++ found.number)
          (fun _ => protectedDelete found order request.force)
    Handler.lift (respondDelete order proformaId found.number result)

end Delete

end Szamlazz
