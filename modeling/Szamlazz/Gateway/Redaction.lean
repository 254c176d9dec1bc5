import Szamlazz.Lib.Noninterference
import Szamlazz.Gateway.ReplayCreate
import Szamlazz.Gateway.Storno
import Szamlazz.Gateway.Delete

/-!
# What diagnostics keep of a vendor's text

The vendor writes text: the message of an error, the reason it is down, the body of
a failed exchange, what a parser quotes of a body. `Redact.redact` takes it out of
an answer, and of everything a call makes of it. A diagnostic has nothing to take
out; so once a call is indifferent to redacted answers, its diagnostics are the same
whatever the vendor wrote.

Every call is taken apart along its own text: the reads first, the evidence they are
combined into, and the sends.
-/

namespace Szamlazz

/-! ## What is taken out -/

/-- A type whose values may hold text of the vendor. -/
class Redact (α : Type) where
  /-- The value without the text. -/
  redact : α → α

export Redact (redact)

instance {ε α : Type} [Redact ε] [Redact α] : Redact (Except ε α) where
  redact
    | .ok a => .ok (redact a)
    | .error e => .error (redact e)

instance : Redact Unit := ⟨id⟩
instance : Redact FoundDocument := ⟨id⟩
instance : Redact InvoiceDocument := ⟨id⟩
instance : Redact CreationOutcome := ⟨id⟩
instance : Redact StornoResponse := ⟨id⟩
instance : Redact Unanswered := ⟨id⟩
instance : Redact Seen := ⟨id⟩
instance : Redact StornoEvidence := ⟨id⟩
instance : Redact WriteDiagnostic := ⟨id⟩

instance : Redact ApiError := ⟨fun e => { e with message := "" }⟩

instance : Redact ParseError where
  redact
    | .xml _ => .xml ""
    | .missing _ => .missing ""
    | .invalid _ _ => .invalid "" ""
    | .base64 _ => .base64 ""
    | .unexpectedBody _ => .unexpectedBody ""

instance : Redact ClientError where
  redact
    | .api error => .api (redact error)
    | .parse error => .parse (redact error)
    | .serviceUnavailable _ => .serviceUnavailable ""
    | .httpStatus status _ => .httpStatus status ""
    | .request error => .request error
    | .transport error => .transport error
    | .incompleteResponse status => .incompleteResponse status

instance : Redact SzamlazzAnswer := ⟨fun answer => { answer with message := "" }⟩

instance : Redact Rejection := ⟨fun rejection => { rejection with message := "" }⟩

instance : Redact QueryError where
  redact
    | .credentialsRejected answer => .credentialsRejected (redact answer)
    | .api answer => .api (redact answer)
    | .transient answer => .transient (redact answer)
    | error => error

instance : Redact QueryOutcome where
  redact
    | .credentialsRejected answer => .credentialsRejected (redact answer)
    | .api answer => .api (redact answer)
    | outcome => outcome

instance : Redact OwnershipOutcome where
  redact
    | .credentialsRejected answer => .credentialsRejected (redact answer)
    | .api answer => .api (redact answer)
    | outcome => outcome

instance : Redact StornoLookupOutcome where
  redact
    | .credentialsRejected answer => .credentialsRejected (redact answer)
    | .api answer => .api (redact answer)
    | outcome => outcome

instance : Redact ReconciliationOutcome where
  redact
    | .credentialsRejected answer => .credentialsRejected (redact answer)
    | .api answer => .api (redact answer)
    | outcome => outcome

instance : Redact CreateOutcome where
  redact
    | .duplicateOrderNumber answer existingNumber =>
      .duplicateOrderNumber (redact answer) existingNumber
    | .rejected rejection => .rejected (redact rejection)
    | .credentialsRejected answer => .credentialsRejected (redact answer)
    | .api answer => .api (redact answer)
    | outcome => outcome

instance : Redact StornoOutcome where
  redact
    | .unnumbered _ => .unnumbered ""
    | .rejected rejection => .rejected (redact rejection)
    | .credentialsRejected answer => .credentialsRejected (redact answer)
    | .api answer => .api (redact answer)
    | outcome => outcome

instance : Redact DeleteOutcome where
  redact
    | .rejected rejection => .rejected (redact rejection)
    | .credentialsRejected answer => .credentialsRejected (redact answer)
    | .inconclusive answer => .inconclusive (redact answer)
    | .api answer => .api (redact answer)
    | outcome => outcome

instance : Redact Unconfirmed where
  redact
    | .open code _ => .open code ""
    | .stornoVerification number notificationDeliveryFailed _ =>
      .stornoVerification number notificationDeliveryFailed ""
    | .reQueryFailed _ _ => .reQueryFailed "" ""
    | cause => cause

instance : Redact Failure where
  redact
    | .rejected rejection => .rejected (redact rejection)
    | .duplicate answer => .duplicate (redact answer)
    | .credentialsRejected answer => .credentialsRejected (redact answer)
    | .unknown answer => .unknown (redact answer)
    | failure => failure

/-- Nothing is taken out of a diagnostic. -/
instance : Redact WriteResult where
  redact
    | .create outcome => .create (redact outcome)
    | .storno outcome => .storno (redact outcome)
    | .delete outcome => .delete (redact outcome)
    | .answered credentials answer => .answered credentials (redact answer)
    | .unresolved diagnostic => .unresolved diagnostic

instance {α : Type} [Redact α] : Redact (Option α) := ⟨Option.map redact⟩

/-- An answer of szamlazz.hu without the vendor's text. -/
def redactAnswer : (r : AgentRequest) → r.Answer → r.Answer
  | .query _, answer => redact (α := Except ClientError InvoiceDocument) answer
  | .create _, answer => redact (α := Except ClientError CreationOutcome) answer
  | .storno _, answer => redact (α := Except ClientError StornoResponse) answer
  | .deleteProforma _, answer => redact (α := Except ClientError Unit) answer

/-- **The call does the same and returns the same**, up to the vendor's text, whatever
that text is. -/
abbrev Indifferent {α : Type} [Redact α] (p : Call α) : Prop :=
  Prog.Indifferent redactAnswer redact p

/-- The same calls, and results that are the same without the vendor's text. -/
abbrev Alike {α : Type} [Redact α] (p q : Call α) : Prop := Prog.Alike redact p q

/-! ## The reads -/

section Reads

variable [Unicode] {α : Type} [Redact α]

omit [Unicode] in
/-- The answer made of the agent's error has no more text in it than the error. -/
theorem ofApi_redact (api : ApiError) :
    redact (SzamlazzAnswer.ofApi (redact api)) = redact (SzamlazzAnswer.ofApi api) := by
  unfold SzamlazzAnswer.ofApi
  rfl

omit [Unicode] in
/-- What a query is taken for does not depend on the texts of its answer. -/
theorem queryAnswer_redact (selector : InvoiceSelector)
    (answer : Except ClientError InvoiceDocument) :
    redact (queryAnswer selector (redact answer)) = redact (queryAnswer selector answer) := by
  match answer with
  | .ok document => rfl
  | .error (.api api) =>
    have hcode : (redact api).code = api.code := rfl
    show redact (queryAnswer selector (.error (.api (redact api)))) = _
    unfold queryAnswer
    dsimp only
    rw [hcode]
    split_ifs
    · rfl
    · exact congrArg (fun a => Except.error (QueryError.credentialsRejected a)) (ofApi_redact api)
    · exact congrArg (fun a => Except.error (QueryError.transient a)) (ofApi_redact api)
    · exact congrArg (fun a => Except.error (QueryError.api a)) (ofApi_redact api)
  | .error (.request error) => rfl
  | .error (.parse error) => cases error <;> rfl
  | .error (.serviceUnavailable message) => rfl
  | .error (.httpStatus status body) => rfl
  | .error (.transport error) => rfl
  | .error (.incompleteResponse status) => rfl

omit [Unicode] in
/-- **A call goes on from a query** as the rest of it goes on from the redacted answer. -/
theorem indifferent_query {selector : InvoiceSelector}
    {f : Except QueryError FoundDocument → Call α} (hf : ∀ r, Indifferent (f r))
    (hsee : ∀ r, Alike (f (redact r)) (f r)) : Indifferent (queryRaw selector >>= f) := by
  refine Prog.indifferent_call (fun answer => hf _)
    (fun (answer : Except ClientError InvoiceDocument) => ?_)
  have hredacted := hsee (queryAnswer selector (redact answer))
  rw [queryAnswer_redact] at hredacted
  exact hredacted.symm.trans (hsee (queryAnswer selector answer))

/-- A function does not see the text: its result does not depend on it, but for the
text it holds itself. -/
def Blind {β : Type} [Redact β] (f : α → β) : Prop := ∀ a, redact (f (redact a)) = redact (f a)

omit [Unicode] in
/-- A query and a classification of what was found. -/
theorem indifferent_classify {selector : InvoiceSelector}
    {classify : Except QueryError FoundDocument → α} (h : Blind classify) :
    Indifferent (queryRaw selector >>= fun r => Prog.ret (classify r)) :=
  indifferent_query (fun _ => Prog.indifferent_ret _ _) (fun r => Prog.Alike.ret (h r))

omit [Unicode] in
/-- A query asks the same whatever texts were answered before. -/
theorem indifferent_queryRaw (selector : InvoiceSelector) : Indifferent (queryRaw selector) := by
  rw [← Prog.bind_ret (queryRaw selector)]
  show Indifferent (queryRaw selector >>= fun r => Prog.ret (id r))
  refine indifferent_classify (fun r => ?_)
  rcases r with error | found
  · cases error <;> rfl
  · rfl

omit [Unicode] in
/-- Whether a document was found, was absent or left unanswered is seen without the texts.
-/
theorem blind_queryOutcome : Blind queryOutcome := by
  intro r
  rcases r with error | found
  · cases error <;> rfl
  · rfl

/-- The document under an external id is classified by its own data. -/
theorem blind_classifySeen (order : OrderKey) (kind : IssuedKind) :
    Blind (classifySeen order kind) := by
  intro r
  rcases r with error | found
  · cases error <;> rfl
  · rfl

omit [Unicode] in
/-- Whose document it is, too. -/
theorem blind_ownership : Blind ownership := by
  intro r
  rcases r with error | seen
  · cases error <;> rfl
  · cases seen <;> rfl

omit [Unicode] in
/-- A look at a document by its number. -/
theorem indifferent_verify (number : String) : Indifferent (verify number) :=
  indifferent_classify blind_queryOutcome

/-- A look at the order's hint. -/
theorem indifferent_hint (order : OrderKey) : Indifferent (hint order) :=
  indifferent_classify blind_queryOutcome

/-- A look at what is under an external id. -/
theorem indifferent_seen (externalId : ExternalId) (order : OrderKey) (kind : IssuedKind) :
    Indifferent (seen externalId order kind) :=
  indifferent_classify (blind_classifySeen order kind)

/-- A look for the order's own document. -/
theorem indifferent_lookupOurs (externalId : ExternalId) (order : OrderKey) (kind : IssuedKind) :
    Indifferent (lookupOurs externalId order kind) := by
  refine Prog.Indifferent.bind (indifferent_seen externalId order kind)
    (fun _ => Prog.indifferent_ret _ _) (fun r => Prog.Alike.ret (blind_ownership r))

/-! ## Evidence of a reversal -/

/-- The checks on a reversal found for an order read data, not texts. -/
theorem indifferent_verifyOrderStorno (found : FoundDocument) (order : OrderKey)
    (number : String) : Indifferent (verifyOrderStorno found order number) := by
  unfold verifyOrderStorno
  split_ifs
  · exact Prog.indifferent_ret _ _
  refine indifferent_query (fun r => ?_) (fun r => ?_)
  · rcases r with error | original
    · exact Prog.indifferent_ret _ _
    · dsimp only
      split_ifs <;> exact Prog.indifferent_ret _ _
  · rcases r with error | original
    · cases error <;> exact Prog.Alike.ret rfl
    · exact Prog.Alike.refl _ _

/-- The look for the order's reversal under its external id, and then at its original. -/
theorem indifferent_lookupOrderStornoChecked (externalId : ExternalId) (order : OrderKey)
    (number : String) : Indifferent (lookupOrderStornoChecked externalId order number) := by
  refine indifferent_query (fun r => ?_) (fun r => ?_)
  · rcases r with error | found
    · cases error <;> exact Prog.indifferent_ret _ _
    refine Prog.Indifferent.bind (indifferent_verifyOrderStorno found order number)
      (fun evidence => ?_) (fun evidence => ?_)
    · rcases evidence with error | evidence
      · cases error <;> exact Prog.indifferent_ret _ _
      · cases evidence <;> exact Prog.indifferent_ret _ _
    · rcases evidence with error | evidence
      · cases error <;> exact Prog.Alike.ret rfl
      · cases evidence <;> exact Prog.Alike.ret rfl
  · rcases r with error | found
    · cases error <;> exact Prog.Alike.ret rfl
    · exact Prog.Alike.refl _ _

/-! ## Reconciliation -/

/-- The first query of a reconciliation. -/
theorem indifferent_reconcileQuery (request : ReconciliationRequest) :
    Indifferent (reconcileQuery request) := by
  unfold reconcileQuery
  split
  · split
    · exact indifferent_verify _
    · refine indifferent_query (fun r => ?_) (fun r => ?_)
      · split
        · exact indifferent_hint request.order
        · exact Prog.indifferent_ret _ _
      · rcases r with error | found
        · cases error with
          | notFound => exact Prog.Alike.refl _ _
          | _ => exact Prog.Alike.ret rfl
        · exact Prog.Alike.refl _ _
  · exact indifferent_classify blind_queryOutcome

/-- What is asked about a document that was found. -/
theorem indifferent_reconcileFound (request : ReconciliationRequest) (found : FoundDocument) :
    Indifferent (reconcileFound request found) := by
  unfold reconcileFound
  split_ifs
  · exact Prog.indifferent_ret _ _
  split
  · split_ifs <;> exact Prog.indifferent_ret _ _
  · refine Prog.Indifferent.bind (indifferent_verifyOrderStorno found _ _) (fun evidence => ?_)
      (fun evidence => ?_)
    · rcases evidence with error | evidence
      · cases error <;> exact Prog.indifferent_ret _ _
      · cases evidence <;> exact Prog.indifferent_ret _ _
    · rcases evidence with error | evidence
      · cases error <;> exact Prog.Alike.ret rfl
      · cases evidence <;> exact Prog.Alike.ret rfl
  · exact Prog.indifferent_ret _ _

/-- **Reconciliation** of a create, by one query or two. -/
theorem indifferent_reconcile (request : ReconciliationRequest) :
    Indifferent (reconcile request) := by
  unfold reconcile
  split
  · exact Prog.indifferent_ret _ _
  refine Prog.Indifferent.bind (indifferent_reconcileQuery request) (fun queried => ?_)
    (fun queried => ?_)
  · rcases queried with cause | outcome
    · exact Prog.indifferent_ret _ _
    · cases outcome with
      | found found => exact indifferent_reconcileFound request found
      | _ => exact Prog.indifferent_ret _ _
  · rcases queried with cause | outcome
    · exact Prog.Alike.refl _ _
    · cases outcome with
      | found found => exact Prog.Alike.refl _ _
      | _ => exact Prog.Alike.ret rfl

/-- The look at the original that a storno's marker pins. -/
theorem indifferent_checkPinnedOriginal (marker : UnresolvedWrite) (stornoNumber : String)
    (stornoDocumentId : Option Int64) :
    Indifferent (checkPinnedOriginal marker stornoNumber stornoDocumentId) := by
  unfold checkPinnedOriginal
  dsimp only
  split
  · refine Prog.Indifferent.bind (indifferent_verify _) (fun original => ?_) (fun original => ?_)
    · rcases original with cause | outcome
      · exact Prog.indifferent_ret _ _
      · cases outcome with
        | found original =>
          dsimp only
          split_ifs <;> exact Prog.indifferent_ret _ _
        | _ => exact Prog.indifferent_ret _ _
    · rcases original with cause | outcome
      · exact Prog.Alike.refl _ _
      · cases outcome with
        | found original => exact Prog.Alike.refl _ _
        | _ => exact Prog.Alike.ret rfl
  · exact Prog.indifferent_ret _ _

/-- The reconciliation of any marker, as far as its reads are answered. -/
theorem indifferent_reconcileWriteChecked (marker : UnresolvedWrite) (candidate : Option String) :
    Indifferent (reconcileWriteChecked marker candidate) := by
  refine Prog.Indifferent.bind (indifferent_reconcile _) (fun reconciled => ?_)
    (fun reconciled => ?_)
  · rcases reconciled with cause | outcome
    · exact Prog.indifferent_ret _ _
    · cases outcome with
      | reversed stornoNumber stornoDocumentId =>
        exact indifferent_checkPinnedOriginal marker stornoNumber stornoDocumentId
      | _ => exact Prog.indifferent_ret _ _
  · rcases reconciled with cause | outcome
    · exact Prog.Alike.refl _ _
    · cases outcome with
      | credentialsRejected answer => exact Prog.Alike.ret rfl
      | api answer => exact Prog.Alike.ret rfl
      | _ => exact Prog.Alike.refl _ _

omit [Unicode] in
/-- Of an answer to a recovery read, the code alone is kept. -/
theorem blind_retainUnanswered : Blind retainUnanswered := by
  intro checked
  rcases checked with cause | result
  · rfl
  · cases result with
    | create outcome => cases outcome <;> rfl
    | storno outcome => cases outcome <;> rfl
    | delete outcome => cases outcome <;> rfl
    | _ => rfl

omit [Unicode] in
/-- Whether a storno was settled is seen without the texts. -/
theorem isStornoResult_redact (checked : Except Unanswered WriteResult) :
    isStornoResult (redact checked) = isStornoResult checked := by
  rcases checked with cause | result
  · rfl
  · cases result <;> rfl

/-- The reconciliation of any marker, every failure of a read turned into uncertainty. -/
theorem indifferent_reconcileWrite (marker : UnresolvedWrite) (candidate : Option String) :
    Indifferent (reconcileWrite marker candidate) := by
  have hretain : Indifferent (reconcileWriteChecked marker none >>= fun checked =>
      Prog.ret (retainUnanswered checked)) :=
    Prog.Indifferent.bind (indifferent_reconcileWriteChecked marker none)
      (fun _ => Prog.indifferent_ret _ _) (fun checked => Prog.Alike.ret (blind_retainUnanswered checked))
  refine Prog.Indifferent.bind (indifferent_reconcileWriteChecked marker candidate)
    (fun checked => ?_) (fun checked => ?_)
  · split_ifs
    · exact hretain
    · exact Prog.indifferent_ret _ _
  · rw [isStornoResult_redact]
    split_ifs
    · exact Prog.Alike.refl _ _
    · exact Prog.Alike.ret (blind_retainUnanswered checked)

omit [Unicode] in
/-- The diagnostic that was there before is kept with its own texts taken out. -/
theorem blind_keepWarning (diagnostic : WriteDiagnostic) : Blind (keepWarning diagnostic) := by
  intro result
  cases result with
  | create outcome => cases outcome <;> rfl
  | storno outcome => cases outcome <;> rfl
  | delete outcome => cases outcome <;> rfl
  | _ => rfl

/-- **The reconciliation of a write** keeps nothing of what the vendor wrote. -/
theorem indifferent_reconcileWriteDiagnostic (marker : UnresolvedWrite)
    (diagnostic : WriteDiagnostic) : Indifferent (reconcileWriteDiagnostic marker diagnostic) :=
  Prog.Indifferent.bind (indifferent_reconcileWrite marker diagnostic.candidateNumber)
    (fun _ => Prog.indifferent_ret _ _)
    (fun result => Prog.Alike.ret (blind_keepWarning diagnostic result))

end Reads

/-! ## The create -/

section Create

variable [Unicode]

omit [Unicode] in
/-- A failed call is classified by its kind, and by the number of its error code. -/
theorem blind_classifyFailure (operation : String) : Blind (classifyFailure operation) := by
  intro error
  cases error with
  | api api =>
    have hcode : (redact api).code = api.code := rfl
    show redact (classifyFailure operation (.api (redact api))) = _
    unfold classifyFailure
    dsimp only
    rw [hcode]
    split_ifs
    · exact congrArg Failure.credentialsRejected (ofApi_redact api)
    · split
      · exact congrArg Failure.duplicate (ofApi_redact api)
      · rfl
      · rfl
      · exact congrArg Failure.unknown (ofApi_redact api)
  | parse error => cases error <;> rfl
  | _ => rfl

omit [Unicode] in
/-- **A call goes on from a failed send** as it goes on from the redacted failure. -/
theorem alike_failure {α : Type} [Redact α] {f : Failure → Call α}
    (hf : ∀ failure, Alike (f (redact failure)) (f failure)) (operation : String)
    (error : ClientError) :
    Alike (f (classifyFailure operation (redact error))) (f (classifyFailure operation error)) := by
  have hredacted := hf (classifyFailure operation (redact error))
  rw [blind_classifyFailure operation error] at hredacted
  exact hredacted.symm.trans (hf _)

variable (request : CreateStepRequest)

/-- A query that failed says nothing about the target. -/
theorem targetChanged_error (error : QueryError) :
    targetChanged request (.error error) = false := by
  unfold targetChanged
  split <;> rfl

/-- What a query settles before or after the send. -/
theorem blind_settledBy (beforeSend : Bool) : Blind (settledBy request beforeSend) := by
  intro holder
  rcases holder with error | seen
  · have hsettled : ∀ error, settledBy request beforeSend (.error error)
        = settleCreate (.error error) request.reversed := by
      intro error
      have hchanged : (beforeSend && targetChanged request (withCorrectiveBase request (.error error)))
          = false := by
        show (beforeSend && targetChanged request (.error error)) = false
        rw [targetChanged_error, Bool.and_false]
      exact if_neg (Bool.eq_false_iff.mp hchanged)
    show redact (settledBy request beforeSend (.error (redact error))) = _
    rw [hsettled, hsettled]
    cases error <;> rfl
  · rfl

/-- The query, and what it settles. -/
theorem indifferent_settledByQuery (beforeSend : Bool) :
    Indifferent (settledByQuery request beforeSend) :=
  Prog.Indifferent.bind (indifferent_seen _ _ _) (fun _ => Prog.indifferent_ret _ _)
    (fun holder => Prog.Alike.ret (blind_settledBy request beforeSend holder))

omit [Unicode] in
/-- The refusal of a duplicate is kept by the number it names. -/
theorem blind_duplicateRefusal (kind : IssuedKind) : Blind (duplicateRefusal kind) := by
  intro answer
  unfold duplicateRefusal
  split_ifs <;> rfl

omit [Unicode] in
/-- The existing number comes from a document, not from a text. -/
theorem redact_existingNumber (kind : IssuedKind) (r : Except QueryError FoundDocument) :
    existingNumber kind (redact r) = existingNumber kind r := by
  rcases r with error | newest
  · rfl
  · rfl

/-- The reads after a duplicate refusal, and what they make of the refusal. -/
theorem indifferent_afterDuplicate (answer : SzamlazzAnswer) :
    Indifferent (afterDuplicate request answer) := by
  refine Prog.Indifferent.bind (indifferent_settledByQuery request false) (fun settled => ?_)
    (fun settled => ?_)
  · rcases settled with error | _ | outcome
    · exact Prog.indifferent_ret _ _
    · dsimp only
      split_ifs
      · exact Prog.indifferent_ret _ _
      · refine Prog.Indifferent.bind (indifferent_queryRaw _) (fun _ => Prog.indifferent_ret _ _)
          (fun newest => ?_)
        rw [redact_existingNumber]
        exact Prog.Alike.refl _ _
    · cases outcome <;> exact Prog.indifferent_ret _ _
  · rcases settled with error | _ | outcome
    · exact Prog.Alike.refl _ _
    · exact Prog.Alike.refl _ _
    · cases outcome <;> exact Prog.Alike.ret rfl

/-- After a refusal as a duplicate the same is asked, whatever its text was. -/
theorem alike_afterDuplicate (answer : SzamlazzAnswer) :
    Alike (afterDuplicate request (redact answer)) (afterDuplicate request answer) := by
  refine Prog.Alike.bind (Prog.Alike.refl id _) (fun settled => ?_) (fun _ => Prog.Alike.refl _ _)
  rcases settled with error | _ | outcome
  · exact Prog.Alike.ret (blind_duplicateRefusal request.kind answer)
  · dsimp only
    split_ifs
    · exact Prog.Alike.ret rfl
    · exact Prog.Alike.bind (Prog.Alike.refl id _) (fun _ => Prog.Alike.ret rfl)
        (fun _ => Prog.Alike.refl _ _)
  · cases outcome with
    | credentialsRejected _ => exact Prog.Alike.ret (blind_duplicateRefusal request.kind answer)
    | _ => exact Prog.Alike.refl _ _

omit [Unicode] in
/-- Which diagnostic of a duplicate refusal is kept is decided without the texts. -/
theorem blind_keepDuplicate (kind : IssuedKind) (settlement : CreateSettlement)
    (answer : SzamlazzAnswer) : Blind (keepDuplicate kind settlement answer) := by
  intro outcome
  cases outcome <;> cases settlement <;> rfl

omit [Unicode] in
/-- Nor does it keep the text of the refusal. -/
theorem blind_keepDuplicate_answer (kind : IssuedKind) (settlement : CreateSettlement)
    (outcome : CreateOutcome) : Blind (fun answer => keepDuplicate kind settlement answer outcome) := by
  intro answer
  have hrefusal := blind_duplicateRefusal kind answer
  cases outcome <;> cases settlement <;> first | rfl | exact hrefusal

/-- What follows a failed create. -/
def createFailed (request : CreateStepRequest) (settlement : CreateSettlement) :
    Failure → Call (Except Unconfirmed CreateOutcome)
  | .rejected rejection => return .ok (.rejected rejection)
  | .credentialsRejected answer => return .ok (.credentialsRejected answer)
  | .unknown answer =>
    settleUnconfirmedCreate request settlement (.open (some answer.code) answer.message)
  | .unavailable message => settleUnconfirmedCreate request settlement (.unavailable message)
  | .transport message => settleUnconfirmedCreate request settlement (.transport message)
  | .duplicate answer => do
    let diagnostic ← afterDuplicate request answer
    return .ok (keepDuplicate request.kind settlement answer diagnostic)

/-- What follows a create. -/
def createReplied (request : CreateStepRequest) (settlement : CreateSettlement) :
    Except ClientError CreationOutcome → Call (Except Unconfirmed CreateOutcome)
  | .ok (.issued created) =>
    if request.reversed = some created.invoiceNumber then
      settleUnconfirmedCreate request settlement .reissueEcho
    else return .ok (.issued (.ofCreated created))
  | .ok .preview =>
    settleUnconfirmedCreate request settlement
      (.open none "the create succeeded without a document number")
  | .error error => createFailed request settlement (classifyFailure "create" error)

/-- A create is one call and what follows its reply. -/
theorem createSend_eq (settlement : CreateSettlement) : createSend request settlement
    = Prog.call (AgentRequest.create request.create) (createReplied request settlement) := by
  refine congrArg (Prog.call (AgentRequest.create request.create)) (funext (fun reply => ?_))
  rcases (reply : Except ClientError CreationOutcome) with error | outcome
  · rfl
  · cases outcome <;> rfl

variable {settlement : CreateSettlement}

/-- A create whose uncertainty is retained is settled elsewhere. -/
theorem settleUnconfirmedCreate_retained (h : settlement ≠ .immediate) (cause : Unconfirmed) :
    settleUnconfirmedCreate request settlement cause = Prog.ret (.error cause) := by
  cases settlement with
  | immediate => exact absurd rfl h
  | _ => rfl

/-- What is asked after a failed create, where the caller settles later. -/
theorem indifferent_createFailed (h : settlement ≠ .immediate) (failure : Failure) :
    Indifferent (createFailed request settlement failure) := by
  cases failure with
  | duplicate answer =>
    refine Prog.Indifferent.bind (indifferent_afterDuplicate request answer)
      (fun _ => Prog.indifferent_ret _ _) (fun outcome => Prog.Alike.ret ?_)
    exact congrArg Except.ok (blind_keepDuplicate request.kind settlement answer outcome)
  | rejected rejection => exact Prog.indifferent_ret _ _
  | credentialsRejected answer => exact Prog.indifferent_ret _ _
  | _ =>
    show Indifferent (settleUnconfirmedCreate request settlement _)
    rw [settleUnconfirmedCreate_retained request h]
    exact Prog.indifferent_ret _ _

/-- And it is the same for two failures that differ in their texts. -/
theorem alike_createFailed (h : settlement ≠ .immediate) (failure : Failure) :
    Alike (createFailed request settlement (redact failure))
      (createFailed request settlement failure) := by
  cases failure with
  | duplicate answer =>
    exact Prog.Alike.bind (alike_afterDuplicate request answer)
      (fun outcome => Prog.Alike.ret (congrArg Except.ok
        (blind_keepDuplicate_answer request.kind settlement outcome answer)))
      (fun outcome => Prog.Alike.ret (congrArg Except.ok
        (blind_keepDuplicate request.kind settlement answer outcome)))
  | rejected rejection => exact Prog.Alike.ret rfl
  | credentialsRejected answer => exact Prog.Alike.ret rfl
  | unknown answer =>
    show Alike (settleUnconfirmedCreate request settlement _)
      (settleUnconfirmedCreate request settlement _)
    rw [settleUnconfirmedCreate_retained request h, settleUnconfirmedCreate_retained request h]
    exact Prog.Alike.ret rfl
  | unavailable message => exact Prog.Alike.refl _ _
  | transport message => exact Prog.Alike.refl _ _

/-- **The send of a create**, where the caller settles later. -/
theorem indifferent_createSend (h : settlement ≠ .immediate) :
    Indifferent (createSend request settlement) := by
  rw [createSend_eq]
  refine Prog.indifferent_call (fun (reply : Except ClientError CreationOutcome) => ?_)
    (fun (reply : Except ClientError CreationOutcome) => ?_)
  · rcases reply with error | outcome
    · exact indifferent_createFailed request h _
    · cases outcome with
      | issued created =>
        unfold createReplied
        dsimp only
        rw [settleUnconfirmedCreate_retained request h]
        split_ifs <;> exact Prog.indifferent_ret _ _
      | preview =>
        unfold createReplied
        dsimp only
        rw [settleUnconfirmedCreate_retained request h]
        exact Prog.indifferent_ret _ _
  · rcases reply with error | outcome
    · exact alike_failure (alike_createFailed request h) "create" error
    · exact Prog.Alike.refl _ _

omit [Unicode] in
/-- Of an unconfirmed send, a diagnostic keeps what is no text of the vendor. -/
theorem unconfirmed_redact (cause : Unconfirmed) :
    WriteDiagnostic.unconfirmed (redact cause) = WriteDiagnostic.unconfirmed cause := by
  cases cause with
  | «open» code message => cases code <;> rfl
  | _ => rfl

omit [Unicode] in
/-- Nothing is left to take out a second time. -/
theorem redact_redact_createOutcome (outcome : CreateOutcome) :
    redact (redact outcome) = redact outcome := by
  cases outcome <;> rfl

omit [Unicode] in
/-- The result that a protected create journals. -/
theorem blind_protectedCreateResult : Blind protectedCreateResult := by
  intro sent
  rcases sent with cause | outcome
  · exact congrArg WriteResult.unresolved (unconfirmed_redact cause)
  · exact congrArg WriteResult.create (redact_redact_createOutcome outcome)

/-- **A protected create.** -/
theorem indifferent_protectedCreate : Indifferent (protectedCreate request) := by
  have hsend : Indifferent (createSend request .retained >>= fun sent =>
      Prog.ret (protectedCreateResult sent)) :=
    Prog.Indifferent.bind (indifferent_createSend request (by decide))
      (fun _ => Prog.indifferent_ret _ _)
      (fun sent => Prog.Alike.ret (blind_protectedCreateResult sent))
  refine Prog.Indifferent.bind (indifferent_settledByQuery request true) (fun settled => ?_)
    (fun settled => ?_)
  · rcases settled with error | _ | outcome
    · cases error with
      | notFound => exact hsend
      | _ => exact Prog.indifferent_ret _ _
    · exact hsend
    · exact Prog.indifferent_ret _ _
  · rcases settled with error | _ | outcome
    · cases error with
      | notFound => exact Prog.Alike.refl _ _
      | _ => exact Prog.Alike.ret rfl
    · exact Prog.Alike.refl _ _
    · exact Prog.Alike.ret (congrArg WriteResult.create (redact_redact_createOutcome outcome))

/-! ## The replay-enabled create -/

/-- The verdict on a slot is made from documents. -/
theorem replayKindVerdict_redact (kind : DocumentKind)
    (holder : Except Unanswered OwnershipOutcome) :
    replayKindVerdict request kind (redact holder) = replayKindVerdict request kind holder := by
  rcases holder with cause | outcome
  · rfl
  · cases outcome <;> rfl

/-- The fresh look at the order's slots, in their order. -/
theorem indifferent_checkReplaySlots (ns : Namespace) (kinds : List DocumentKind) :
    Indifferent (checkReplaySlots ns request kinds) := by
  induction kinds with
  | nil => exact Prog.indifferent_ret _ _
  | cons kind kinds ih =>
    refine Prog.Indifferent.bind (indifferent_lookupOurs _ _ _) (fun holder => ?_)
      (fun holder => ?_)
    · split
      · exact ih
      · exact Prog.indifferent_ret _ _
    · rw [replayKindVerdict_redact]
      exact Prog.Alike.refl _ _

/-- The slots that exclude the kind that is created. -/
theorem indifferent_checkReplayCreateKinds : Indifferent (checkReplayCreateKinds request) := by
  unfold checkReplayCreateKinds
  split
  · exact Prog.indifferent_ret _ _
  · split_ifs
    · exact Prog.indifferent_ret _ _
    · exact indifferent_checkReplaySlots request _ _

omit [Unicode] in
/-- A fresh look at a document that the create refers to. -/
theorem indifferent_checkReplayReference (number : Option String)
    {verdict : Except Unanswered QueryOutcome → Except WriteDiagnostic Unit}
    (h : ∀ found, verdict (redact found) = verdict found) :
    Indifferent (checkReplayReference number verdict) := by
  cases number with
  | none => exact Prog.indifferent_ret _ _
  | some number =>
    refine Prog.Indifferent.bind (indifferent_verify number) (fun _ => Prog.indifferent_ret _ _)
      (fun found => ?_)
    rw [h]
    exact Prog.Alike.refl _ _

/-- The documents that a create refers to. -/
theorem indifferent_checkReplayCreateReferences :
    Indifferent (checkReplayCreateReferences request) := by
  have hprepayment : ∀ found, replayPrepaymentVerdict request (redact found)
      = replayPrepaymentVerdict request found := by
    intro found
    rcases found with cause | outcome
    · rfl
    · cases outcome <;> rfl
  have hproforma : ∀ found, replayProformaVerdict request (redact found)
      = replayProformaVerdict request found := by
    intro found
    rcases found with cause | outcome
    · rfl
    · cases outcome <;> rfl
  refine Prog.Indifferent.bind (indifferent_checkReplayReference _ hprepayment) (fun checked => ?_)
    (fun checked => ?_)
  · rcases checked with diagnostic | _
    · exact Prog.indifferent_ret _ _
    · exact indifferent_checkReplayReference _ hproforma
  · rcases checked with diagnostic | _ <;> exact Prog.Alike.refl _ _

/-- The order's hint, where a new document is made. -/
theorem indifferent_checkReplayCreateHint : Indifferent (checkReplayCreateHint request) := by
  refine Prog.Indifferent.bind (indifferent_queryRaw _) (fun _ => Prog.indifferent_ret _ _)
    (fun newest => Prog.Alike.ret ?_)
  rcases newest with error | found
  · cases error <;> rfl
  · rfl

/-- All fresh checks before a send, together. -/
theorem indifferent_checkReplayCreate : Indifferent (checkReplayCreate request) := by
  have hsee : ∀ checked : Except WriteDiagnostic Unit, redact checked = checked := by
    intro checked
    cases checked <;> rfl
  refine Prog.Indifferent.bind (indifferent_checkReplayCreateKinds request) (fun kinds => ?_)
    (fun kinds => ?_)
  · rcases kinds with diagnostic | _
    · exact Prog.indifferent_ret _ _
    · refine Prog.Indifferent.bind (indifferent_checkReplayCreateReferences request)
        (fun references => ?_) (fun references => ?_)
      · rcases references with diagnostic | _
        · exact Prog.indifferent_ret _ _
        · exact indifferent_checkReplayCreateHint request
      · rw [hsee]
        exact Prog.Alike.refl _ _
  · rw [hsee]
    exact Prog.Alike.refl _ _

/-- What is not an answer settles the same, and an answer by its code. -/
theorem replayHolder_redact (holder : Except QueryError Seen) :
    replayHolder request (redact holder) = replayHolder request holder := by
  rcases holder with error | seen
  · cases error <;> rfl
  · rfl

omit [Unicode] in
/-- The result that a replay-enabled create journals. -/
theorem blind_replayCreateResult : Blind replayCreateResult := by
  intro sent
  rcases sent with cause | outcome
  · exact congrArg WriteResult.unresolved (unconfirmed_redact cause)
  · cases outcome <;> rfl

/-- **A replay-enabled create.** -/
theorem indifferent_createReplayEnabled : Indifferent (createReplayEnabled request) := by
  have hsee : ∀ checked : Except WriteDiagnostic Unit, redact checked = checked := by
    intro checked
    cases checked <;> rfl
  unfold createReplayEnabled
  split_ifs
  · exact Prog.indifferent_ret _ _
  refine Prog.Indifferent.bind (indifferent_seen _ _ _) (fun holder => ?_) (fun holder => ?_)
  · split
    · exact Prog.indifferent_ret _ _
    · refine Prog.Indifferent.bind (indifferent_checkReplayCreate request) (fun guards => ?_)
        (fun guards => ?_)
      · rcases guards with diagnostic | _
        · exact Prog.indifferent_ret _ _
        · exact Prog.Indifferent.bind (indifferent_createSend request (by decide))
            (fun _ => Prog.indifferent_ret _ _)
            (fun sent => Prog.Alike.ret (blind_replayCreateResult sent))
      · rw [hsee]
        exact Prog.Alike.refl _ _
  · rw [replayHolder_redact]
    exact Prog.Alike.refl _ _

end Create

/-! ## The storno -/

section Storno

variable [Unicode] [Transport] (request : StornoStepRequest) (marker : UnresolvedWrite)

/-- What follows a failed storno behind a marker. -/
def stornoFailed : Failure → Except Unconfirmed StornoOutcome
  | .rejected rejection => .ok (.rejected rejection)
  | .duplicate answer => .ok (.rejected (.ofAnswer answer))
  | .credentialsRejected answer => .ok (.credentialsRejected answer)
  | .unknown answer => .error (.open (some answer.code) answer.message)
  | .unavailable message => .error (.unavailable message)
  | .transport message => .error (.transport message)

omit [Transport] in
/-- With a marker a failed storno is settled by its failure alone: nothing is asked. -/
theorem settleFailedStorno_eq (error : ClientError) :
    settleFailedStorno request (some marker) error
      = Prog.ret (stornoFailed (classifyFailure "storno" error)) := by
  unfold settleFailedStorno
  cases classifyFailure "storno" error <;> rfl

omit [Unicode] [Transport] in
/-- A failed storno is classified by its kind and code. -/
theorem blind_stornoFailed : Blind stornoFailed := by
  intro failure
  cases failure <;> rfl

omit [Unicode] [Transport] in
/-- What a reconciliation makes of a numbered reply. -/
theorem blind_verifiedReply (created : CreatedInvoice) : Blind (verifiedReply created) := by
  intro checked
  rcases checked with cause | result
  · rfl
  · cases result with
    | storno outcome => cases outcome <;> rfl
    | _ => rfl

omit [Transport] in
/-- What is asked after the reply to a storno. -/
theorem indifferent_settleStornoReply (reply : Except ClientError StornoResponse) :
    Indifferent (settleStornoReply request (some marker) reply) := by
  rcases reply with error | response
  · show Indifferent (settleFailedStorno request (some marker) error)
    rw [settleFailedStorno_eq]
    exact Prog.indifferent_ret _ _
  · cases response with
    | unnumbered => exact Prog.indifferent_ret _ _
    | numbered created =>
      show Indifferent (settleNumberedStorno request (some marker) created)
      unfold settleNumberedStorno
      cases StornoReplyEvidence.of created request.invoiceNumber with
      | needsVerification =>
        exact Prog.Indifferent.bind (indifferent_reconcileWriteChecked marker _)
          (fun _ => Prog.indifferent_ret _ _)
          (fun checked => Prog.Alike.ret (blind_verifiedReply created checked))
      | _ => exact Prog.indifferent_ret _ _

/-- **The send of a storno**, behind a marker. -/
theorem indifferent_stornoSend (account : Account) :
    Indifferent (stornoSend account request (some marker)) := by
  refine Prog.indifferent_call
    (fun (reply : Except ClientError StornoResponse) =>
      indifferent_settleStornoReply request marker reply)
    (fun (reply : Except ClientError StornoResponse) => ?_)
  rcases reply with error | response
  · show Alike (settleFailedStorno request (some marker) (redact error))
      (settleFailedStorno request (some marker) error)
    rw [settleFailedStorno_eq, settleFailedStorno_eq]
    exact alike_failure (f := fun failure => Prog.ret (stornoFailed failure))
      (fun failure => Prog.Alike.ret (blind_stornoFailed failure)) "storno" error
  · exact Prog.Alike.refl _ _

omit [Unicode] [Transport] in
/-- The result that a protected storno journals. -/
theorem blind_protectedStornoResult : Blind protectedStornoResult := by
  intro sent
  rcases sent with cause | outcome
  · exact congrArg WriteResult.unresolved (unconfirmed_redact cause)
  · cases outcome <;> rfl

/-- **A protected storno.** -/
theorem indifferent_protectedStorno (account : Account) :
    Indifferent (protectedStorno account request marker) := by
  refine Prog.Indifferent.bind (indifferent_lookupOrderStornoChecked _ _ _) (fun looked => ?_)
    (fun looked => ?_)
  · rcases looked with error | outcome
    · cases error <;> exact Prog.indifferent_ret _ _
    · cases outcome with
      | absent =>
        exact Prog.Indifferent.bind (indifferent_stornoSend request marker account)
          (fun _ => Prog.indifferent_ret _ _)
          (fun sent => Prog.Alike.ret (blind_protectedStornoResult sent))
      | _ => exact Prog.indifferent_ret _ _
  · rcases looked with error | outcome
    · cases error <;> exact Prog.Alike.ret rfl
    · cases outcome with
      | absent => exact Prog.Alike.refl _ _
      | _ => exact Prog.Alike.ret rfl

omit [Unicode] [Transport] in
/-- The result that a replay-enabled storno journals. -/
theorem blind_replayStornoResult : Blind replayStornoResult := by
  intro sent
  rcases sent with cause | outcome
  · exact congrArg WriteResult.unresolved (unconfirmed_redact cause)
  · cases outcome <;> rfl

/-- What is done about the original, as it is found now. -/
theorem indifferent_replayStornoOriginal (account : Account) (pinned : FoundDocument)
    (original : Except Unanswered QueryOutcome) :
    Indifferent (replayStornoOriginal account request marker pinned original) := by
  rcases original with cause | outcome
  · exact Prog.indifferent_ret _ _
  · cases outcome with
    | found fresh =>
      unfold replayStornoOriginal
      dsimp only
      split_ifs
      · exact Prog.indifferent_ret _ _
      · exact indifferent_reconcileWrite marker none
      · exact Prog.Indifferent.bind (indifferent_stornoSend request marker account)
          (fun _ => Prog.indifferent_ret _ _)
          (fun sent => Prog.Alike.ret (blind_replayStornoResult sent))
    | _ => exact Prog.indifferent_ret _ _

/-- **A replay-enabled storno.** -/
theorem indifferent_stornoReplayEnabled (account : Account) (pinned : FoundDocument) :
    Indifferent (stornoReplayEnabled account request marker pinned) := by
  unfold stornoReplayEnabled
  split_ifs
  · exact Prog.indifferent_ret _ _
  refine Prog.Indifferent.bind (indifferent_lookupOrderStornoChecked _ _ _) (fun looked => ?_)
    (fun looked => ?_)
  · rcases looked with error | outcome
    · cases error <;> exact Prog.indifferent_ret _ _
    · cases outcome with
      | absent =>
        refine Prog.Indifferent.bind (indifferent_verify _)
          (fun original => indifferent_replayStornoOriginal request marker account pinned original)
          (fun original => ?_)
        rcases original with cause | outcome
        · exact Prog.Alike.refl _ _
        · cases outcome with
          | found fresh => exact Prog.Alike.refl _ _
          | _ => exact Prog.Alike.ret rfl
      | alreadyReversed stornoNumber stornoDocumentId =>
        exact indifferent_reconcileWrite marker none
      | _ => exact Prog.indifferent_ret _ _
  · rcases looked with error | outcome
    · cases error <;> exact Prog.Alike.ret rfl
    · cases outcome with
      | absent => exact Prog.Alike.refl _ _
      | alreadyReversed stornoNumber stornoDocumentId => exact Prog.Alike.refl _ _
      | _ => exact Prog.Alike.ret rfl

end Storno

/-! ## The deletion -/

section Delete

variable [Unicode] (pinned : FoundDocument) (order : OrderKey) (force : Bool)

omit [Unicode] in
/-- A refused deletion is classified by its code. -/
theorem blind_ofApi : Blind DeleteOutcome.ofApi := by
  intro api
  have hcode : (redact api).code = api.code := rfl
  unfold DeleteOutcome.ofApi
  rw [hcode]
  split_ifs
  · rfl
  · exact congrArg DeleteOutcome.credentialsRejected (ofApi_redact api)
  · rfl
  · exact congrArg DeleteOutcome.inconclusive (ofApi_redact api)

omit [Unicode] in
/-- The reply to a deletion. -/
theorem blind_deletionReply : Blind deletionReply := by
  intro reply
  rcases reply with error | _
  · cases error with
    | api api => exact blind_ofApi api
    | parse error => cases error <;> rfl
    | _ => rfl
  · rfl

/-- The guard of a deletion, and its send. -/
theorem indifferent_deleteProforma : Indifferent (deleteProforma pinned order force) := by
  have hsend : ∀ number, Indifferent (Prog.perform (AgentRequest.deleteProforma number) >>= fun reply =>
      Prog.ret (deletionReply reply)) := by
    intro number
    exact Prog.indifferent_call (fun _ => Prog.indifferent_ret _ _)
      (fun (reply : Except ClientError Unit) => Prog.Alike.ret (blind_deletionReply reply))
  refine indifferent_query (fun fresh => ?_) (fun fresh => ?_)
  · split
    · exact Prog.indifferent_ret _ _
    · exact hsend pinned.number
  · rcases fresh with error | found
    · cases error <;> exact Prog.Alike.ret rfl
    · exact Prog.Alike.refl _ _

omit [Unicode] in
/-- The result that a replay-enabled deletion journals. -/
theorem blind_replayDeleteResult : Blind replayDeleteResult := by
  intro outcome
  cases outcome <;> rfl

omit [Unicode] in
/-- The outcome of a deletion as the result of a write. -/
theorem blind_ofDelete : Blind WriteResult.ofDelete := by
  intro outcome
  cases outcome <;> rfl

omit [Unicode] in
/-- Whether the slot still holds the pinned proforma is seen without the texts. -/
theorem deletionNamespace_redact (holder : Except Unanswered OwnershipOutcome) :
    deletionNamespace pinned (redact holder) = deletionNamespace pinned holder := by
  rcases holder with cause | outcome
  · rfl
  · cases outcome <;> rfl

/-- **A replay-enabled deletion.** -/
theorem indifferent_deleteReplayEnabled (externalId : ExternalId) (marker : UnresolvedWrite)
    (request : DeleteProformaRequest) :
    Indifferent (deleteReplayEnabled externalId marker pinned request) := by
  have hdelete : Indifferent (deleteProforma pinned marker.order request.force >>= fun outcome =>
      Prog.ret (replayDeleteResult outcome)) :=
    Prog.Indifferent.bind (indifferent_deleteProforma pinned marker.order request.force)
      (fun _ => Prog.indifferent_ret _ _)
      (fun outcome => Prog.Alike.ret (blind_replayDeleteResult outcome))
  unfold deleteReplayEnabled
  split_ifs
  · exact Prog.indifferent_ret _ _
  · refine Prog.Indifferent.bind (indifferent_lookupOurs _ _ _) (fun holder => ?_)
      (fun holder => ?_)
    · split
      · exact Prog.indifferent_ret _ _
      · exact hdelete
    · rw [deletionNamespace_redact]
      exact Prog.Alike.refl _ _
  · exact hdelete

end Delete

/-! ## The diagnostics -/

section Calls

variable [Unicode] [Transport]

/-- A call that keeps what it could not settle as a diagnostic. -/
inductive RetainingCall where
  | protectedCreate (request : CreateStepRequest)
  | protectedStorno (account : Account) (request : StornoStepRequest) (marker : UnresolvedWrite)
  | createReplayEnabled (request : CreateStepRequest)
  | stornoReplayEnabled (account : Account) (request : StornoStepRequest)
      (marker : UnresolvedWrite) (pinned : FoundDocument)
  | deleteReplayEnabled (externalId : ExternalId) (marker : UnresolvedWrite)
      (found : FoundDocument) (request : DeleteProformaRequest)
  /-- The one-shot deletion, as a write of its marker. -/
  | delete (found : FoundDocument) (order : OrderKey) (force : Bool)
  | reconcileWriteDiagnostic (marker : UnresolvedWrite) (diagnostic : WriteDiagnostic)

/-- The call itself. -/
def RetainingCall.run : RetainingCall → Call WriteResult
  | protectedCreate request => Szamlazz.protectedCreate request
  | protectedStorno account request marker => Szamlazz.protectedStorno account request marker
  | createReplayEnabled request => Szamlazz.createReplayEnabled request
  | stornoReplayEnabled account request marker pinned =>
    Szamlazz.stornoReplayEnabled account request marker pinned
  | deleteReplayEnabled externalId marker found request =>
    Szamlazz.deleteReplayEnabled externalId marker found request
  | delete found order force => do
    let outcome ← deleteProforma found order force
    return WriteResult.ofDelete outcome
  | reconcileWriteDiagnostic marker diagnostic =>
    Szamlazz.reconcileWriteDiagnostic marker diagnostic

/-- None of them keeps what the vendor wrote. -/
theorem RetainingCall.indifferent (call : RetainingCall) : Indifferent call.run := by
  cases call with
  | protectedCreate request => exact indifferent_protectedCreate request
  | protectedStorno account request marker =>
    exact indifferent_protectedStorno request marker account
  | createReplayEnabled request => exact indifferent_createReplayEnabled request
  | stornoReplayEnabled account request marker pinned =>
    exact indifferent_stornoReplayEnabled request marker account pinned
  | deleteReplayEnabled externalId marker found request =>
    exact indifferent_deleteReplayEnabled found externalId marker request
  | delete found order force =>
    exact Prog.Indifferent.bind (indifferent_deleteProforma found order force)
      (fun _ => Prog.indifferent_ret _ _)
      (fun outcome => Prog.Alike.ret (blind_ofDelete outcome))
  | reconcileWriteDiagnostic marker diagnostic =>
    exact indifferent_reconcileWriteDiagnostic marker diagnostic

omit [Unicode] [Transport] in
/-- A result is a diagnostic if its redaction is, and then it is that diagnostic. -/
theorem redact_eq_unresolved {result : WriteResult} {diagnostic : WriteDiagnostic} :
    redact result = .unresolved diagnostic ↔ result = .unresolved diagnostic := by
  cases result with
  | unresolved d => rfl
  | _ => exact iff_of_false (fun h => by cases h) (fun h => by cases h)

/-- **No text of the vendor reaches a diagnostic.** Two runs of a call whose answers
differ in that text only, as long as the same is asked, ask for the same, change by
change; and where one keeps a diagnostic the other keeps the same one. -/
theorem diagnostics_without_vendor_text (call : RetainingCall)
    {tr tr' : List (Exchange AgentRequest.Answer)} {result result' : WriteResult}
    (hr : Prog.Runs call.run tr result) (hr' : Prog.Runs call.run tr' result')
    (halike : Prog.AnsweredAlike redactAnswer tr tr') :
    tr.map Sigma.fst = tr'.map Sigma.fst
      ∧ (mutations tr).map Sigma.fst = (mutations tr').map Sigma.fst
      ∧ (∀ diagnostic, result = .unresolved diagnostic ↔ result' = .unresolved diagnostic)
      ∧ redact result = redact result' := by
  obtain ⟨hrequests, hresult⟩ := call.indifferent.runs hr hr' halike
  refine ⟨hrequests, ?_, fun diagnostic => ?_, hresult⟩
  · have hmutations : ∀ t : List (Exchange AgentRequest.Answer),
        (mutations t).map Sigma.fst = (t.map Sigma.fst).filter AgentRequest.isMutation := by
      intro t
      rw [mutations, List.filter_map]
      rfl
    rw [hmutations, hmutations, hrequests]
  · rw [← redact_eq_unresolved, hresult, redact_eq_unresolved]

end Calls

section Sample

local instance redactedUnicode : Unicode := sampleUnicode

local instance redactedTransport : Transport := sampleTransport

/-- The lookup of a storno, answered by a gateway with a page of its own. -/
def badGateway (page : String) : List (Exchange AgentRequest.Answer) :=
  [⟨AgentRequest.query (.externalId sampleStorno.externalId.text),
    (Except.error (.httpStatus 502 page) : Except ClientError InvoiceDocument)⟩]

/-- Whatever the page says, the storno is unresolved for the same reason. -/
theorem diagnostics_without_vendor_text_sample :
    ∃ diagnostic : WriteDiagnostic, diagnostic.candidateNumber = none
      ∧ Prog.Runs (RetainingCall.protectedStorno sampleAccount sampleStorno sampleMarker).run
        (badGateway "upstream 10.0.0.7 closed") (.unresolved diagnostic)
      ∧ Prog.Runs (RetainingCall.protectedStorno sampleAccount sampleStorno sampleMarker).run
        (badGateway "") (.unresolved diagnostic) := by
  have hrun : ∀ page, ∃ result, Prog.Runs
      (RetainingCall.protectedStorno sampleAccount sampleStorno sampleMarker).run
      (badGateway page) result ∧ ∃ reason, result = .because reason :=
    fun page => ⟨_, Prog.Steps.call (Prog.Steps.refl _), _, rfl⟩
  obtain ⟨_, hr, reason, rfl⟩ := hrun "upstream 10.0.0.7 closed"
  obtain ⟨result, hr', -⟩ := hrun ""
  have hsame := diagnostics_without_vendor_text
    (.protectedStorno sampleAccount sampleStorno sampleMarker) hr hr' (fun _ => ⟨rfl, trivial⟩)
  refine ⟨{ reason := reason }, rfl, hr, ?_⟩
  rw [← (hsame.2.2.1 { reason := reason }).mp rfl]
  exact hr'

end Sample

end Szamlazz
