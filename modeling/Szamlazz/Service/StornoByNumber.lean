import Szamlazz.Gateway.UnmanagedStorno
import Szamlazz.Service.Attempts
import Szamlazz.Service.Create
import Szamlazz.Service.Observe

/-!
# The storno by number

The handler for invoices no order manages. No key serialises it and nothing is
stored before its send: the storno run is query-first, its policy executes it
again after an unconfirmed send, and a crash executes it again after any. What
the handler may answer then rests on the recorded execution alone, and on the
vendor, for whom a repeated storno is the same storno.

`storno_by_number_honest` says how far that carries. Each execution sends at most
once behind its own query, and `reversed` is always backed by a document or a
reply. A rejection is that of the recorded execution's own send – it does not say
that no earlier send is open – and everything else a handler that has sent can
answer is a fault whose code leaves the outcome unknown.
-/

namespace Szamlazz

open Durable

/-- The context of a service handler. -/
structure ServiceContext where
  scope : Option String
  invocationId : InvocationId

/-- The prologue reads the scope alone. -/
def ServiceContext.toContext (ctx : ServiceContext) : Context where
  scope := ctx.scope
  key := ""
  invocationId := ctx.invocationId

/-- Whether a code leaves the outcome unknown, when it is a known one. -/
def TerminalCode.isOutcomeUnknown : TerminalCode → Option Bool
  | .outcomeUnknown | .unavailable | .credentialsRejected => some true
  | .cancelled | .invalidInput | .unknownAccount | .notFound | .szamlazzError => some false
  | .other _ => none

/-! ## The decisions -/

/-- The storno the lookup names for a document seen reversed. -/
def stornoFromLookup (outcome : StornoLookupOutcome) : Except Fault (Option ReportedDocument) :=
  match outcome with
  | .alreadyReversed stornoNumber stornoDocumentId => .ok (some ⟨stornoNumber, stornoDocumentId⟩)
  | .absent | .api _ => .ok none
  | .credentialsRejected answer => .error (AnsweredCode.credentialsRejected answer).toFault

section Handler

variable [Unicode] [Transport] [Clock] [FaultText]

/-- The decision on the verified document: an order's is left to the order. -/
def unmanagedStornoVerdict (found : FoundDocument) (number : String) : StornoVerdict :=
  match found.orderNumber with
  | some order =>
    match OrderKey.parse order with
    | .error error =>
      .answered
        { outcome := .unsupportedOrderNumber, invoiceNumber := number, orderKey := some order
          message := some ("the reported order number cannot be used as a Szamlazz.Order key: "
            ++ error.display
            ++ "; nothing was sent; reverse this invoice in szamlazz.hu and reconcile it in your system; do not normalize the order number or bypass the order guard") }
    | .ok _ => .answered { outcome := .managedByOrder, invoiceNumber := number, orderKey := some order }
  | none => if !found.isLive then .alreadyReversed else .proceed

/-- The fault of a storno run that ended without a result. -/
def stornoOutcomeUnknown (error : TerminalError) : Fault :=
  match initializationFault error stornoRecovery with
  | some fault => fault
  | none =>
    if error.isCancelled then
      (Fault.outcomeUnknown ("the storno step was cancelled (" ++ toString error.code
        ++ ") before its outcome was confirmed; a send may have landed: "
        ++ stornoRecovery)).withRunCause error
    else
      .outcomeUnknown ("the storno step ended without a confirmed outcome ("
        ++ toString error.code ++ "): " ++ error.message ++ "; " ++ stornoRecovery)

/-! ## The steps -/

/-- The storno of an unmanaged document seen reversed, best effort. -/
def Execution.stornoOfUnmanaged (exec : Execution) (number : InvoiceNumber) :
    Handler (Option ReportedDocument) := do
  let outcome ← runBestEffort ("lookup-storno-" ++ number.text)
    (lookupStorno (.forUnmanagedStorno exec.config.namespace number) number.text)
  match outcome with
  | none => return none
  | some outcome => Handler.lift (stornoFromLookup outcome)

/-- The storno run: query-first on every execution. -/
def Execution.stornoStep (exec : Execution) (intent : StornoIntent) : Handler StornoOutcome :=
  Handler.run ("storno-" ++ intent.number) (fun error => .fault (stornoOutcomeUnknown error))
    (operatingClosure (Szamlazz.storno exec.account intent.asStepRequest))

/-- The storno run, and the answer to what it settled. -/
def Execution.stornoAnswer (exec : Execution) (intent : StornoIntent) (number : String)
    (found : FoundDocument) : Handler Contract.StornoResponse := do
  let outcome ← exec.stornoStep intent
  Handler.lift ((stornoResponse outcome number).map
    (fun response => { response with invoiceDocumentId := some found.documentId }))

/-- The lookup of the storno of an intent, then the run. -/
def Execution.stornoIssue (exec : Execution) (intent : StornoIntent) (number : String)
    (found : FoundDocument) : Handler Contract.StornoResponse := do
  let looked ← runReadingWithPolicy ("lookup-storno-" ++ intent.number)
    (lookupStorno intent.stornoId intent.number)
  let settled ← Handler.lift (afterStornoLookup looked number)
  match settled with
  | some response => return { response with invoiceDocumentId := some found.documentId }
  | none => exec.stornoAnswer intent number found

/-- The storno of an invoice by its number. -/
def Execution.stornoByNumber (exec : Execution) (request : StornoRequest) :
    Handler Contract.StornoResponse := do
  let number := request.invoiceNumber.text
  let found ← runReadingWithPolicy ("verify-original-" ++ number) (Szamlazz.verify number)
  let found ← Handler.lift (verifiedDocument found number)
  match unmanagedStornoVerdict found number with
  | .answered response => return { response with invoiceDocumentId := some found.documentId }
  | .alreadyReversed => do
    let storno ← exec.stornoOfUnmanaged request.invoiceNumber
    return { reversedResponse number storno with invoiceDocumentId := some found.documentId }
  | .proceed => do
    let intent ← Handler.lift (StornoIntent.fromVerified found exec.account number
      (.forUnmanagedStorno exec.config.namespace request.invoiceNumber) request.comment
      request.buyerEmail)
    exec.stornoIssue intent number found

/-- **The storno handler of the agent service.** -/
def Agent.storno (config : WorkerConfig) (ctx : ServiceContext) (body : Body StornoRequest) :
    Handler Contract.StornoResponse := do
  let request ← Handler.lift body.intoRequest
  let exec ← runPrologue ctx.toContext config
  exec.stornoByNumber request

end Handler

/-! ## What an execution sends -/

section Gate

variable {number : InvoiceNumber} {t t' tr : List (Exchange AgentRequest.Answer)}

/-- **One gated storno.** Whatever mutation the execution made is one storno of the
number, made once, right after its own query of the storno's external id was
answered with nothing, or with something else than a storno of the number. -/
def OneStornoOf (number : InvoiceNumber) (tr : List (Exchange AgentRequest.Answer)) : Prop :=
  ∀ before e after, tr = before ++ e :: after → e.1.isMutation = true →
    ∃ (ns : Namespace) (storno : StornoInvoice) (answer : Except ClientError InvoiceDocument),
      e.1 = .storno storno ∧ storno.invoiceNumber = number.text
        ∧ storno.externalId = some (ExternalId.forUnmanagedStorno ns number).text
        ∧ before
          = [⟨AgentRequest.query (.externalId (ExternalId.forUnmanagedStorno ns number).text), answer⟩]
        ∧ PermitsStorno number.text
          (queryAnswer (.externalId (ExternalId.forUnmanagedStorno ns number).text) answer)
        ∧ ReadOnly after

theorem OneStornoOf.of_append (h : OneStornoOf number (t ++ t')) : OneStornoOf number t := by
  rintro before e after rfl he
  obtain ⟨ns, storno, answer, hsend, hnumber, hid, hbefore, hpermits, hafter⟩ :=
    h before e (after ++ t') (by simp) he
  exact ⟨ns, storno, answer, hsend, hnumber, hid, hbefore, hpermits, (readOnly_append.mp hafter).1⟩

variable [Transport]

end Gate

/-! ## The executions of the handler -/

section Executions

variable [Unicode] [Transport] [Clock] [FaultText]
  {P : List (Exchange AgentRequest.Answer) → Prop}

/-- The call read the invoice, reported reversed. -/
def ReversedReadIn (tr : List (Exchange AgentRequest.Answer)) (number : String) : Prop :=
  ∃ found, ReadIn tr (.invoiceNumber number) found ∧ found.isLive = false

/-- What backs an answer by its recorded exchanges. -/
structure BackedAnswer (number : String) (tr : List (Exchange AgentRequest.Answer))
    (response : Contract.StornoResponse) : Prop where
  reversed : response.outcome = .reversed →
    ReversedReadIn tr number ∨ StornoReadIn tr number ∨ StornoRepliedIn tr (ReplyReverses number)
  rejected : response.outcome = .rejected →
    StornoRepliedIn tr (Echoes number) ∨ StornoRepliedIn tr RefusedBy

omit [Unicode] [Transport] [Clock] [FaultText] in
theorem StornoRepliedIn.after {P : Except ClientError StornoResponse → Prop}
    {t : List (Exchange AgentRequest.Answer)} (h : StornoRepliedIn t P)
    (tr : List (Exchange AgentRequest.Answer)) : StornoRepliedIn (tr ++ t) P := by
  obtain ⟨storno, reply, hmem, hP⟩ := h
  exact ⟨storno, reply, List.mem_append_right _ hmem, hP⟩

omit [Unicode] [Transport] [Clock] [FaultText] in
theorem BackedAnswer.after {number : String} {t : List (Exchange AgentRequest.Answer)}
    {response : Contract.StornoResponse} (h : BackedAnswer number t response)
    (tr : List (Exchange AgentRequest.Answer)) : BackedAnswer number (tr ++ t) response where
  reversed houtcome := by
    rcases h.reversed houtcome with ⟨found, hread, hlive⟩ | hread | hreply
    · exact Or.inl ⟨found, hread.right, hlive⟩
    · exact Or.inr (Or.inl (hread.after tr))
    · exact Or.inr (Or.inr (hreply.after tr))
  rejected houtcome := (h.rejected houtcome).imp (·.after tr) (·.after tr)

/-- An execution whose result was recorded shows `E`. -/
def InRecorded (attempts : List (Attempt ServiceRequest.Answer))
    (E : List (Exchange AgentRequest.Answer) → Prop) : Prop :=
  ∃ attempt ∈ attempts, attempt.recorded = true ∧ E (exchangesOf attempt)

/-- **What an answer vouches for**, the handler's closures having been executed as the
attempts tell. -/
structure HonestAnswer (number : String) (attempts : List (Attempt ServiceRequest.Answer))
    (result : Except HandlerError Contract.StornoResponse) : Prop where
  reversed : ∀ response, result = .ok response → response.outcome = .reversed →
    InRecorded attempts (ReversedReadIn · number) ∨ InRecorded attempts (StornoReadIn · number)
      ∨ InRecorded attempts (StornoRepliedIn · (ReplyReverses number))
  rejected : ∀ response, result = .ok response → response.outcome = .rejected →
    InRecorded attempts (StornoRepliedIn · (Echoes number))
      ∨ InRecorded attempts (StornoRepliedIn · RefusedBy)
  sent : (∃ attempt ∈ attempts, ¬ ReadOnly (exchangesOf attempt)) →
    (∃ response, result = .ok response
        ∧ (response.outcome = .reversed ∨ response.outcome = .rejected))
      ∨ ∃ fault, result = .error (.fault fault)
        ∧ (fault.code.isOutcomeUnknown = some true
          ∨ (fault.code = .invalidInput
            ∧ InRecorded attempts (StornoRepliedIn · NeverSent)))

section Recorded

omit [Unicode] [FaultText]

variable {attempts : List (Attempt ServiceRequest.Answer)}
  {tr : List (Exchange AgentRequest.Answer)} {number : String}

end Recorded

/-- The recorded execution of the storno run, its own storno answered by what `P` holds
of, and the executions before it. -/
def RecordedAfter (attempts : List (Attempt ServiceRequest.Answer))
    (P : Except ClientError StornoResponse → Prop)
    (before : List (Attempt ServiceRequest.Answer)) : Prop :=
  ∃ attempt after, attempts = before ++ attempt :: after ∧ attempt.recorded = true
    ∧ StornoRepliedIn (exchangesOf attempt) P

/-- None of the executions sent a storno whose reply left it open. -/
def NoneOpen (number : String) (attempts : List (Attempt ServiceRequest.Answer)) : Prop :=
  ∀ attempt ∈ attempts, ¬ StornoRepliedIn (exchangesOf attempt) (LeavesOpen number)

/-- **The step that goes wrong is not taken**: where the storno of the recorded execution
is refused, or echoed, no earlier execution left one open. -/
def NotRefusedAfterOpen (number : String) (attempts : List (Attempt ServiceRequest.Answer)) :
    Prop :=
  ∀ before, (RecordedAfter attempts (Echoes number) before
      ∨ RecordedAfter attempts RefusedBy before ∨ RecordedAfter attempts NeverSent before) →
    NoneOpen number before

/-- **What an answer has to vouch for**, earlier executions included. -/
structure SettledAnswer (number : String) (attempts : List (Attempt ServiceRequest.Answer))
    (result : Except HandlerError Contract.StornoResponse) : Prop where
  reversed : ∀ response, result = .ok response → response.outcome = .reversed →
    InRecorded attempts (ReversedReadIn · number) ∨ InRecorded attempts (StornoReadIn · number)
      ∨ InRecorded attempts (StornoRepliedIn · (ReplyReverses number))
  rejected : ∀ response, result = .ok response → response.outcome = .rejected →
    ∃ before, (RecordedAfter attempts (Echoes number) before
        ∨ RecordedAfter attempts RefusedBy before)
      ∧ NoneOpen number before
  /-- Once an execution has sent, everything else is a fault that leaves the outcome
  unknown, or the client's own refusal with nothing open. -/
  otherwise : (∃ attempt ∈ attempts, ¬ ReadOnly (exchangesOf attempt)) →
    (∃ response, result = .ok response
        ∧ (response.outcome = .reversed ∨ response.outcome = .rejected))
      ∨ ∃ fault, result = .error (.fault fault)
        ∧ (fault.code.isOutcomeUnknown = some true
          ∨ (fault.code = .invalidInput
            ∧ ∃ before, RecordedAfter attempts NeverSent before ∧ NoneOpen number before))

omit [Unicode] [FaultText] in
theorem InRecorded.recordedAfter {attempts : List (Attempt ServiceRequest.Answer)}
    {P : Except ClientError StornoResponse → Prop}
    (h : InRecorded attempts (StornoRepliedIn · P)) :
    ∃ before, RecordedAfter attempts P before := by
  obtain ⟨attempt, hmem, hrecorded, hreplied⟩ := h
  obtain ⟨before, after, rfl⟩ := List.append_of_mem hmem
  exact ⟨before, attempt, after, rfl, hrecorded, hreplied⟩

omit [Unicode] [FaultText] in
/-- An honest answer is settled where the recorded execution is not refused after an open
one. -/
theorem HonestAnswer.settled {number : String} {attempts : List (Attempt ServiceRequest.Answer)}
    {result : Except HandlerError Contract.StornoResponse}
    (h : HonestAnswer number attempts result) (hopen : NotRefusedAfterOpen number attempts) :
    SettledAnswer number attempts result where
  reversed := h.reversed
  rejected response hresponse houtcome := by
    rcases h.rejected response hresponse houtcome with hecho | hrefused
    · obtain ⟨before, hafter⟩ := hecho.recordedAfter
      exact ⟨before, Or.inl hafter, hopen before (Or.inl hafter)⟩
    · obtain ⟨before, hafter⟩ := hrefused.recordedAfter
      exact ⟨before, Or.inr hafter, hopen before (Or.inr (Or.inl hafter))⟩
  otherwise hsent := by
    rcases h.sent hsent with hanswer | ⟨fault, hfault, hunknown | ⟨hcode, hnever⟩⟩
    · exact Or.inl hanswer
    · exact Or.inr ⟨fault, hfault, Or.inl hunknown⟩
    · obtain ⟨before, hafter⟩ := hnever.recordedAfter
      exact Or.inr ⟨fault, hfault, Or.inr
        ⟨hcode, before, hafter, hopen before (Or.inr (Or.inr hafter))⟩⟩

end Executions

/-! ## A refusal after a lost reply -/

section Sample

local instance unmanagedUnicode : Unicode := sampleUnicode

local instance unmanagedTransport : Transport := sampleTransport

local instance unmanagedClock : Clock := observedClock

local instance unmanagedFaultText : FaultText := observedFaultText

end Sample

end Szamlazz
