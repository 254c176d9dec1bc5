import Szamlazz.Contract.Recovery

/-!
# What the calls of the gateway return

Every expected answer of szamlazz.hu is data: a refusal, a duplicate, a miss.
What is *not* an answer is kept apart by type – `Unanswered` for a read, which
may be repeated, and `Unconfirmed` for a write, which may have landed.
-/

namespace Szamlazz

/-! ## Refusals -/

/-- Who refused a write. -/
inductive RejectionCode where
  | szamlazz (code : String)
  /-- The wire contract, before anything was sent. -/
  | request
deriving DecidableEq

def RejectionCode.display : RejectionCode → String
  | szamlazz code => code
  | request => "request"

/-- A refusal of a write. -/
structure Rejection where
  code : RejectionCode
  message : String
deriving DecidableEq

namespace Rejection

/-- The wire contract's refusal. -/
def ofRequest (message : String) : Rejection := ⟨.request, message⟩

/-- szamlazz.hu's refusal. -/
def ofAnswer (answer : SzamlazzAnswer) : Rejection := ⟨.szamlazz answer.code, answer.message⟩

def ofApi (api : ApiError) : Rejection := ofAnswer (.ofApi api)

end Rejection

/-! ## Exchanges without an answer -/

/-- A read got no usable answer. -/
inductive Unanswered where
  | transport (message : String)
  | unavailable (message : String)
deriving DecidableEq

def Unanswered.display : Unanswered → String
  | transport message => "transport failure: " ++ message
  | unavailable message => "szamlazz.hu is unavailable: " ++ message

namespace Diagnostic

def parse : ParseError → String
  | .xml _ => "parse: invalid XML"
  | .missing _ => "parse: missing response field"
  | .invalid _ _ => "parse: invalid response value"
  | .base64 _ => "parse: invalid base64"
  | .unexpectedBody _ => "parse: unexpected response body"

def transport (error : TransportError) : String :=
  if error.isTimeout then "timeout"
  else if error.isConnect then "connection"
  else if error.isRedirect then "redirect"
  else if error.isBody then "body transfer"
  else if error.isDecode then "decoding"
  else if error.isBuilder then "request construction"
  else if error.isRequest then "request exchange"
  else "unclassified"

def httpStatus (status : Option Nat) : String :=
  (status.map (fun s => "; HTTP " ++ toString s)).getD ""

/-- The allowlisted diagnostic of an exchange that was not answered. -/
def exchange (operation : String) : ClientError → Unanswered
  | .serviceUnavailable _ => .unavailable (operation ++ ": szlahu_down")
  | .httpStatus status _ => .transport (operation ++ ": HTTP " ++ toString status)
  | .request _ => .transport (operation ++ ": local request validation failed")
  | .parse error => .transport (operation ++ ": " ++ parse error)
  | .transport error =>
    .transport (operation ++ ": transport: " ++ transport error ++ httpStatus error.status)
  | .api _ | .incompleteResponse _ =>
    .transport (operation ++ ": unclassified exchange failure")

end Diagnostic

/-! ## Queries -/

/-- Why a query returned no document. -/
inductive QueryError where
  /-- Code 7. -/
  | notFound
  | credentialsRejected (answer : SzamlazzAnswer)
  | api (answer : SzamlazzAnswer)
  /-- `szlahu_down`. -/
  | unavailable (message : String)
  /-- A known transient code: retried by a read, an answer to a leading query. -/
  | transient (answer : SzamlazzAnswer)
  | transport (message : String)
deriving DecidableEq

/-- The answers among the errors of a query. -/
inductive Answer where
  | notFound
  | credentialsRejected (answer : SzamlazzAnswer)
  | api (answer : SzamlazzAnswer)
deriving DecidableEq

namespace QueryError

def display : QueryError → String
  | notFound => "szamlazz.hu does not know the document (code 7)"
  | credentialsRejected answer =>
    "szamlazz.hu rejected the agent credentials (" ++ answer.display ++ ")"
  | api answer => "szamlazz.hu error " ++ answer.display
  | unavailable message => "szamlazz.hu is unavailable: " ++ message
  | transient answer => "query: retryable vendor code " ++ answer.code
  | transport message => "transport failure: " ++ message

/-- What was answered, and what was not. -/
def answered : QueryError → Except Unanswered Answer
  | notFound => .ok .notFound
  | credentialsRejected answer => .ok (.credentialsRejected answer)
  | api answer => .ok (.api answer)
  | transient answer => .error (.unavailable ("query: retryable vendor code " ++ answer.code))
  | unavailable message => .error (.unavailable message)
  | transport message => .error (.transport message)

end QueryError

/-- The answered result of a query. -/
inductive QueryOutcome where
  | found (document : FoundDocument)
  | notFound
  | credentialsRejected (answer : SzamlazzAnswer)
  | api (answer : SzamlazzAnswer)
deriving DecidableEq

/-- What an external id of ours holds. -/
inductive OwnershipOutcome where
  | absent
  | live (document : FoundDocument)
  | reversed (document : FoundDocument)
  | collision (document : FoundDocument)
  | credentialsRejected (answer : SzamlazzAnswer)
  | api (answer : SzamlazzAnswer)
deriving DecidableEq

/-- What the external-id query of the create and ownership reads saw. -/
inductive Seen where
  | absent
  | live (document : FoundDocument)
  | reversed (document : FoundDocument)
  /-- Another order's or kind's document. Never trusted. -/
  | collision (document : FoundDocument)
deriving DecidableEq

/-- What the lookup step found. -/
inductive LookupOutcome where
  | absent
  | live (document : FoundDocument)
  | reversed (document : FoundDocument) (stornoNumber : Option String)
  | collision (document : FoundDocument)
  | foreign (document : FoundDocument)
  | credentialsRejected (answer : SzamlazzAnswer)
  | api (answer : SzamlazzAnswer)
deriving DecidableEq

/-- What the storno lookup step found. -/
inductive StornoLookupOutcome where
  | absent
  | alreadyReversed (stornoNumber : String) (stornoDocumentId : Option Int64)
  | credentialsRejected (answer : SzamlazzAnswer)
  | api (answer : SzamlazzAnswer)
deriving DecidableEq

/-! ## Writes -/

/-- The settled result of the create step. -/
inductive CreateOutcome where
  | targetChanged
  | issued (document : IssuedDocument)
  | found (document : FoundDocument)
  | reversed (document : FoundDocument)
  | liveAgain (document : FoundDocument)
  | reconciled (document : FoundDocument)
  | collision (document : FoundDocument)
  | duplicateOrderNumber (answer : SzamlazzAnswer) (existingNumber : Option String)
  | rejected (rejection : Rejection)
  | credentialsRejected (answer : SzamlazzAnswer)
  | api (answer : SzamlazzAnswer)
  | unavailable (message : String)
deriving DecidableEq

/-- The settled result of the storno step. -/
inductive StornoOutcome where
  | unnumbered (message : String)
  | reversed (document : IssuedDocument)
  | alreadyReversed (stornoNumber : String) (stornoDocumentId : Option Int64)
  | notStornoable
  | rejected (rejection : Rejection)
  | credentialsRejected (answer : SzamlazzAnswer)
  | api (answer : SzamlazzAnswer)
  | unavailable (message : String)
deriving DecidableEq

/-- The result of a deletion. -/
inductive DeleteOutcome where
  | deleted
  | alreadyGone
  | targetChanged
  | paid
  | api (answer : SzamlazzAnswer)
  | guardFailed (cause : Unanswered)
  | inconclusive (answer : SzamlazzAnswer)
  | rejected (rejection : Rejection)
  | credentialsRejected (answer : SzamlazzAnswer)
  | lost (cause : Unanswered)
deriving DecidableEq

/-- What an error says about a deletion; a code of creation says nothing. -/
def DeleteOutcome.ofApi (api : ApiError) : DeleteOutcome :=
  if api.code = .proformaNotFound then alreadyGone
  else if api.code.isCredentialError then credentialsRejected (.ofApi api)
  else if api.code = .xmlNotAFile ∨ api.code = .malformedXml then rejected (.ofApi api)
  else inconclusive (.ofApi api)

/-- A create or storno exchange ended without a settled outcome. -/
inductive Unconfirmed where
  | reissueEcho
  | transport (message : String)
  | open (code : Option String) (message : String)
  | unavailable (message : String)
  | stornoVerification (number : String) (notificationDeliveryFailed : Bool) (message : String)
  | reQueryFailed (sent reQuery : String)
deriving DecidableEq

namespace Unconfirmed

def openDisplay (code : Option String) (message : String) : String :=
  match code with
  | some code => "open code " ++ code ++ ": " ++ message
  | none => "open answer without a code or a document number: " ++ message

def display : Unconfirmed → String
  | reissueEcho =>
    "reissue acknowledgement names the old document; replacement is not established"
  | transport message => "transport failure: " ++ message
  | .open code message => openDisplay code message
  | unavailable message => "szamlazz.hu is unavailable (szlahu_down): " ++ message
  | stornoVerification number _ message =>
    "storno send returned " ++ number ++ ", but its reversal identity is unconfirmed: " ++ message
  | reQueryFailed sent reQuery =>
    sent ++ "; the re-query that would have settled it failed: " ++ reQuery

/-- The cause of the send with the failure of the read that would have settled it. -/
def reQuery (cause : Unconfirmed) (failure : String) : Unconfirmed :=
  .reQueryFailed cause.display failure

end Unconfirmed

/-- A failed create-like call. -/
inductive Failure where
  | rejected (rejection : Rejection)
  | duplicate (answer : SzamlazzAnswer)
  | credentialsRejected (answer : SzamlazzAnswer)
  | unknown (answer : SzamlazzAnswer)
  | unavailable (message : String)
  | transport (message : String)
deriving DecidableEq

/-- Classifies the failure of a create or storno send. -/
def classifyFailure (operation : String) : ClientError → Failure
  | .api api =>
    if api.code.isCredentialError then .credentialsRejected (.ofApi api)
    else
      match api.code.outcomeClass with
      | .duplicateOrderNumber => .duplicate (.ofApi api)
      | .rejected | .notFound => .rejected (.ofApi api)
      | .unknown => .unknown (.ofApi api)
  | .request error => .rejected (.ofRequest error.display)
  | other =>
    match Diagnostic.exchange operation other with
    | .unavailable message => .unavailable message
    | .transport message => .transport message

/-- What is kept of an uncertain write beside its marker. -/
structure WriteDiagnostic where
  reason : String
  candidateNumber : Option String := none
  /-- A reported warning, about the candidate only. -/
  notificationDeliveryFailed : Bool := false
deriving DecidableEq

/-- The diagnostic of an unconfirmed send. -/
def WriteDiagnostic.unconfirmed : Unconfirmed → WriteDiagnostic
  | .reissueEcho => { reason := Unconfirmed.reissueEcho.display }
  | .open (some code) _ => { reason := "open vendor code " ++ code }
  | .open none _ => { reason := "success without a document number" }
  | .stornoVerification number notificationDeliveryFailed _ =>
    { reason := "numbered storno reply needs positive reversal evidence"
      candidateNumber := some number
      notificationDeliveryFailed := notificationDeliveryFailed }
  | .transport message | .unavailable message => { reason := message }
  | .reQueryFailed _ _ => { reason := "post-send query failed" }

/-- The result of a protected write; uncertainty is data. -/
inductive WriteResult where
  | create (outcome : CreateOutcome)
  | storno (outcome : StornoOutcome)
  | delete (outcome : DeleteOutcome)
  /-- A recovery read was answered with a code. -/
  | answered (credentials : Bool) (answer : SzamlazzAnswer)
  | unresolved (diagnostic : WriteDiagnostic)
deriving DecidableEq

namespace WriteResult

/-- Unresolved for a reason and nothing else. -/
def because (reason : String) : WriteResult := unresolved { reason := reason }

/-- The result of the one-shot deletion: a lost or inconclusive answer is
uncertainty. -/
def ofDelete : DeleteOutcome → WriteResult
  | .lost cause => because cause.display
  | .inconclusive answer => because ("inconclusive deletion code " ++ answer.code)
  | outcome => delete outcome

/-- Whether the result leaves the write unresolved. -/
def isUnresolved : WriteResult → Bool
  | unresolved _ => true
  | _ => false

@[simp] theorem isUnresolved_because (reason : String) : (because reason).isUnresolved = true := rfl

end WriteResult

end Szamlazz
