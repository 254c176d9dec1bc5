import Szamlazz.Gateway.Storno

/-!
# The storno without a marker

An invoice no order manages is reversed without a marker to fall back on: each
execution of the step asks first and decides from its own two or three answers.
What such an execution can vouch for is therefore stated of its own transcript –
it sent at most once, behind its own query, and a settled result is backed by a
reply or a document of that transcript. An earlier execution is not part of it.
-/

namespace Szamlazz

variable [Unicode]

/-! ## The lookup -/

/-- The holder of the storno external id, as the lookup step answers it. -/
def stornoLookupOutcome : Except QueryError (Option ReportedDocument) →
    Except Unanswered StornoLookupOutcome
  | .ok (some reported) => .ok (.alreadyReversed reported.number reported.documentId)
  | .ok none => .ok .absent
  | .error error =>
    match error.answered with
    | .ok .notFound => .ok .absent
    | .ok (.credentialsRejected answer) => .ok (.credentialsRejected answer)
    | .ok (.api answer) => .ok (.api answer)
    | .error cause => .error cause

/-- The lookup of a storno external id, before a storno no order manages. -/
def lookupStorno (externalId : ExternalId) (invoiceNumber : String) :
    Call (Except Unanswered StornoLookupOutcome) := do
  let seen ← stornoSeen externalId invoiceNumber
  return stornoLookupOutcome seen

/-! ## What a transcript backs -/

/-- The call read a storno of the number. -/
def StornoReadIn (tr : List (Exchange AgentRequest.Answer)) (number : String) : Prop :=
  ∃ selector storno, ReadIn tr selector storno ∧ storno.isStornoOf number = true

/-- The reply names the original again. -/
def Echoes (original : String) (reply : Except ClientError StornoResponse) : Prop :=
  ∃ created, reply = .ok (.numbered created) ∧ created.invoiceNumber = original

/-- szamlazz.hu refused the request with a code that is neither open nor about the
credentials. -/
def RefusedBy : Except ClientError StornoResponse → Prop
  | .error (.api api) => api.code.isCredentialError = false ∧ api.code.outcomeClass ≠ .unknown
  | _ => False

/-- The client refused to send the request. -/
def NeverSent : Except ClientError StornoResponse → Prop
  | .error (.request _) => True
  | _ => False

/-- The external id permits the storno: nothing holds it, or something else than a
storno of the number. -/
def PermitsStorno (number : String) (holder : Except QueryError FoundDocument) : Prop :=
  holder = .error .notFound ∨ ∃ document, holder = .ok document ∧ document.isStornoOf number = false

/-- The call sent a storno, and the reply satisfies `P`. -/
def StornoRepliedIn (tr : List (Exchange AgentRequest.Answer))
    (P : Except ClientError StornoResponse → Prop) : Prop :=
  ∃ storno reply, (⟨AgentRequest.storno storno, reply⟩ : Exchange AgentRequest.Answer) ∈ tr ∧ P reply

/-- **What backs a settled storno**: the documents read in `tr`, and what is known of
the reply. -/
def Backs (number : String) (tr : List (Exchange AgentRequest.Answer))
    (replied : (Except ClientError StornoResponse → Prop) → Prop) : StornoOutcome → Prop
  | .reversed _ => replied (ReplyReverses number) ∨ StornoReadIn tr number
  | .alreadyReversed _ _ => StornoReadIn tr number
  | .notStornoable => replied (Echoes number)
  | .rejected rejection =>
    (rejection.code = .request ∧ replied NeverSent)
      ∨ (rejection.code ≠ .request ∧ replied RefusedBy)
  | .unnumbered _ | .credentialsRejected _ | .api _ | .unavailable _ => True

section Backs

variable {number : String} {tr tr' : List (Exchange AgentRequest.Answer)}
  {replied replied' : (Except ClientError StornoResponse → Prop) → Prop} {outcome : StornoOutcome}

omit [Unicode] in
theorem StornoReadIn.after (h : StornoReadIn tr' number)
    (tr : List (Exchange AgentRequest.Answer)) : StornoReadIn (tr ++ tr') number := by
  obtain ⟨selector, storno, hread, hs⟩ := h
  exact ⟨selector, storno, hread.right, hs⟩

omit [Unicode] in
theorem Backs.mono (h : Backs number tr replied outcome) (hreplied : ∀ P, replied P → replied' P)
    (hread : StornoReadIn tr number → StornoReadIn tr' number) :
    Backs number tr' replied' outcome := by
  cases outcome with
  | reversed document => exact Or.imp (hreplied _) hread h
  | alreadyReversed stornoNumber stornoDocumentId => exact hread h
  | notStornoable => exact hreplied _ h
  | rejected rejection => exact Or.imp (And.imp_right (hreplied _)) (And.imp_right (hreplied _)) h
  | unnumbered message | credentialsRejected answer | api answer | unavailable message => trivial

end Backs

/-! ## The reads -/

section Reads

variable {externalId : ExternalId} {number : String} {request : StornoStepRequest}

end Reads

/-! ## The reply -/

section Reply

variable {request : StornoStepRequest} {reply : Except ClientError StornoResponse}

/-- What settling a reply guarantees: it only reads, and what it settles is backed. -/
def SettlesReply (request : StornoStepRequest) (reply : Except ClientError StornoResponse)
    (tr : List (Exchange AgentRequest.Answer)) (r : Except Unconfirmed StornoOutcome) : Prop :=
  ReadOnly tr ∧ ∀ outcome, r = .ok outcome →
    Backs request.invoiceNumber tr (fun P => P reply) outcome

omit [Unicode] in
/-- A warning kept for the acknowledged document changes nothing that backs it. -/
theorem SettlesReply.keepWarning {created : CreatedInvoice}
    {tr : List (Exchange AgentRequest.Answer)} {r : Except Unconfirmed StornoOutcome}
    (h : SettlesReply request reply tr r) :
    SettlesReply request reply tr (keepStornoWarning created r) := by
  refine ⟨h.1, fun outcome houtcome => ?_⟩
  unfold keepStornoWarning at houtcome
  split at houtcome
  · have hread := h.2 _ rfl
    split_ifs at houtcome
    · cases houtcome
      exact Or.inr hread
    · cases houtcome
      exact hread
  · exact h.2 outcome houtcome

end Reply

/-! ## The step -/

section Step

variable [Transport]

end Step

end Szamlazz
