import Szamlazz.Service.Write

/-!
# Recovery

The one way a marker is cleared by anybody but its owner: an operator submits the
exact marker with evidence about its write. A document is read and checked
against the marker; an attestation is taken as given, if it is one of the
operation. The evidence is recorded before the marker is cleared.
-/

namespace Szamlazz

open Durable

section Evidence

variable [Unicode] [Transport]

/-- An account of which only the connection is known. -/
def Account.pinned (id credentialRef : String) (endpoint : Endpoint) : Account where
  id := id
  endpoint := endpoint
  defaults := {}
  seller := {}
  credentialRef := credentialRef

/-- The account a marker was written under. -/
def pinnedAccount (marker : UnresolvedWrite) : Except Fault Account :=
  match Endpoint.parse marker.endpoint with
  | some endpoint => .ok (.pinned marker.accountId marker.credentialRef endpoint)
  | none => .error (.invalidInput "invalid pinned endpoint")

/-- Whether an attested completion is one of the operation. -/
def completionMatches : WriteOperation → AttestedCompletion → Bool
  | .create _ expectedNumber _, .issued number => expectedNumber ≠ some number.text
  | .storno original, .reversed number => original ≠ number.text
  | .delete target, .deleted number => target = number.text
  | _, _ => false

def validateCompletion (operation : WriteOperation) (completion : AttestedCompletion) :
    Except Fault Unit :=
  if completionMatches operation completion then .ok ()
  else .error (.invalidInput
    "attested completion does not match the unresolved operation and expected document")

/-- What evidence must be on its face. -/
def checkEvidence (operation : WriteOperation) : RecoveryEvidence → Except Fault Unit
  | .document _ => .ok ()
  | .notExecuted auditReference =>
    if Text.isBlank auditReference then
      .error (.invalidInput "an operator attestation requires an audit reference")
    else .ok ()
  | .completed auditReference completion =>
    if Text.isBlank auditReference then
      .error (.invalidInput "an operator attestation requires an audit reference")
    else validateCompletion operation completion

/-- What the reads behind a document say about the marker. -/
def checkVerified : WriteResult → Except Fault Unit
  | .answered credentials answer =>
    .error (if credentials then AnsweredCode.credentialsRejected answer
      else AnsweredCode.inconclusive answer).toFault
  | .unresolved diagnostic =>
    .error (.outcomeUnknown ("document evidence does not settle the exact unresolved write; marker retained: "
      ++ diagnostic.reason))
  | _ => .ok ()

end Evidence

section Recover

variable [Unicode] [Transport] [Clock] [FaultText]

/-- The closure that reads the document an operator named. -/
def verifyClosure (marker : UnresolvedWrite) (number : ProviderDocumentNumber) :
    Inside (Closed WriteResult TerminalError) :=
  operatingClosure (reconcileWriteChecked marker (some number.text))

/-- Verifies the document an operator named; attestations are taken as given. -/
def verifyEvidence (marker : UnresolvedWrite) : RecoveryEvidence → Handler Unit
  | .document number => do
    let result ← Handler.run "verify-recovery" (fun error => .fault (readFault error))
      (verifyClosure marker number)
    Handler.lift (checkVerified result)
  | .notExecuted _ | .completed _ _ => pure ()

/-- The stored marker, if it is the one the request carries. -/
def exactMarker (ctx : Context) (request : RecoveryRequest) (exactMarker : Json) :
    Option UnresolvedWrite → Except Fault UnresolvedWrite
  | none => .error (.invalidInput "no unresolved marker matches this recovery")
  | some stored =>
    match decodeMarker stored.toJson ctx.scope ctx.key with
    | none =>
      .error (.outcomeUnknown "unreadable unresolved marker; use a compatible deployment")
    | some marker =>
      if marker ≠ request.marker ∨ Json.sameValue stored.toJson exactMarker = false then
        .error (.invalidInput "recovery does not match the exact unresolved marker")
      else .ok marker

/-- **The settlement of the exact marker by evidence.** -/
def recoverMarker (ctx : Context) (request : RecoveryRequest) (exact : Json) :
    Handler RecoveryResponse := do
  let stored ← Handler.stored
  let marker ← Handler.lift (exactMarker ctx request exact stored)
  let _ ← Handler.lift (pinnedAccount marker)
  Handler.lift (checkEvidence marker.operation request.evidence)
  verifyEvidence marker request.evidence
  let receipt ← Handler.run (T := RecoveryResponse) "record-recovery"
    (fun error => .fault (readFault error))
    (pure (.done { token := marker.token, operator := request.operator
                   evidence := request.evidence.toJson }))
  Handler.clear
  return receipt

end Recover

end Szamlazz
