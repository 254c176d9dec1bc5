import Szamlazz.Contract.CreateView
import Szamlazz.Gateway.Origin
import Szamlazz.Service.Answers
import Szamlazz.Service.Create

/-!
# What a create answers

Every decision of a create turns something that was read, or the settled write,
into an answer or a fault. An answer is `Supported` when it carries what its
outcome promises: the number of a document szamlazz.hu named in the same
invocation – read under the external id, of the order and the kind – or the code
and the message of a refusal, or a reason. Each decision gives supported answers,
the handlers add nothing to them, and a supported answer is complete, so a client
always has a view of it.
-/

namespace Szamlazz

open Durable Contract

/-! ## Supported answers -/

/-- The outcomes that are about one document. -/
def Contract.CreateOutcome.namesDocument : Contract.CreateOutcome → Bool
  | .issued | .alreadyIssued | .reconciled | .reversed => true
  | .rejected | .conflict | .other _ => false

section Supported

variable [Unicode]

/-- **Where the number of an answer comes from**: the reply that numbered the
document, or a read of it under the external id. -/
def NumberFrom (tr : List (Exchange AgentRequest.Answer)) (target : Target)
    (base : FoundDocument → Prop) (number : String) : Prop :=
  (∃ document, ReplyIn tr document ∧ document.number = number)
    ∨ ∃ found, HolderIn tr target.externalId target.order target.kind found ∧ base found
      ∧ found.number = number

/-- **An answer that carries what its outcome promises.** -/
structure Supported (tr : List (Exchange AgentRequest.Answer)) (target : Target)
    (base : FoundDocument → Prop) (response : CreateResponse) : Prop where
  known : ∀ token, response.outcome ≠ .other token
  number : response.outcome.namesDocument = true →
    ∃ number, response.invoiceNumber = some number ∧ NumberFrom tr target base number
  rejected : response.outcome = .rejected →
    CreateResponse.Present response.code ∧ response.message.isSome = true
  conflict : response.outcome = .conflict →
    ∃ reason ∈ ConflictReason.known, response.conflictReason = some reason
      ∧ (reason = .duplicateOrderNumber →
        CreateResponse.Present response.code ∧ response.message.isSome = true)

variable {t t' tr : List (Exchange AgentRequest.Answer)} {target : Target}
  {base : FoundDocument → Prop} {response : CreateResponse}

/-- A number that was observed is not blank. -/
theorem NumberFrom.nonblank {number : String} (h : NumberFrom tr target base number) :
    Text.isBlank number = false := by
  rcases h with ⟨document, ⟨request, created, -, rfl⟩, rfl⟩ | ⟨found, hholder, -, rfl⟩
  · exact created.nonblank
  · exact hholder.read.nonblank

/-- **A supported answer is complete.** -/
theorem Supported.complete (h : Supported tr target base response) : response.Complete := by
  unfold CreateResponse.Complete
  cases houtcome : response.outcome with
  | issued | alreadyIssued | reconciled | reversed =>
    obtain ⟨number, hnumber, hfrom⟩ := h.number (by rw [houtcome]; rfl)
    exact ⟨number, hnumber, hfrom.nonblank⟩
  | rejected => exact h.rejected houtcome
  | conflict =>
    obtain ⟨reason, hknown, hreason, hduplicate⟩ := h.conflict houtcome
    exact ⟨reason, hreason, ConflictReason.nonblank_of_known hknown, hduplicate⟩
  | other token => exact absurd houtcome (h.known token)

/-- A base may be described by less. -/
theorem NumberFrom.mono {base' : FoundDocument → Prop} {number : String}
    (h : NumberFrom tr target base number) (hbase : ∀ found, base found → base' found) :
    NumberFrom tr target base' number := by
  rcases h with hreply | ⟨found, hholder, hfound, hnumber⟩
  · exact Or.inl hreply
  · exact Or.inr ⟨found, hholder, hbase found hfound, hnumber⟩

/-- So it may for an answer. -/
theorem Supported.mono {base' : FoundDocument → Prop} (h : Supported tr target base response)
    (hbase : ∀ found, base found → base' found) : Supported tr target base' response where
  known := h.known
  number hnames := by
    obtain ⟨number, hnumber, hfrom⟩ := h.number hnames
    exact ⟨number, hnumber, hfrom.mono hbase⟩
  rejected := h.rejected
  conflict := h.conflict

/-- What was observed in an earlier part was observed. -/
theorem NumberFrom.left {number : String} (h : NumberFrom t target base number) :
    NumberFrom (t ++ t') target base number := by
  rcases h with ⟨document, hreply, hnumber⟩ | ⟨found, hholder, hfound, hnumber⟩
  · exact Or.inl ⟨document, hreply.left, hnumber⟩
  · exact Or.inr ⟨found, hholder.left, hfound, hnumber⟩

/-- And so was what was observed in a later one. -/
theorem NumberFrom.right {number : String} (h : NumberFrom t' target base number) :
    NumberFrom (t ++ t') target base number := by
  rcases h with ⟨document, hreply, hnumber⟩ | ⟨found, hholder, hfound, hnumber⟩
  · exact Or.inl ⟨document, hreply.right, hnumber⟩
  · exact Or.inr ⟨found, hholder.right, hfound, hnumber⟩

/-- An answer is supported by more, if its numbers are. -/
theorem Supported.widen (h : Supported tr target base response)
    (hfrom : ∀ number, NumberFrom tr target base number → NumberFrom t target base number) :
    Supported t target base response where
  known := h.known
  number hnames := by
    obtain ⟨number, hnumber, hn⟩ := h.number hnames
    exact ⟨number, hnumber, hfrom number hn⟩
  rejected := h.rejected
  conflict := h.conflict

/-- By an earlier part. -/
theorem Supported.left (h : Supported t target base response) :
    Supported (t ++ t') target base response := h.widen (fun _ hn => hn.left)

/-- By a later part. -/
theorem Supported.right (h : Supported t' target base response) :
    Supported (t ++ t') target base response := h.widen (fun _ hn => hn.right)

/-! ## The answers of an identity -/

variable {identity : Identity}

/-- A conflict names no number that was not observed. -/
theorem supported_conflict {reason : ConflictReason} (hknown : reason ∈ ConflictReason.known)
    (hreason : reason ≠ .duplicateOrderNumber) (existingNumber : Option String) :
    Supported tr target base { identity.conflict reason with existingNumber := existingNumber } where
  known _ h := by cases h
  number h := by cases h
  rejected h := by cases h
  conflict _ := ⟨reason, hknown, rfl, fun h => absurd h hreason⟩

/-- An answer with one number that was observed. -/
theorem supported_of_number {number : String} (hnames : response.outcome.namesDocument = true)
    (hnumber : response.invoiceNumber = some number) (hfrom : NumberFrom tr target base number) :
    Supported tr target base response where
  known token h := by rw [h] at hnames; cases hnames
  number _ := ⟨number, hnumber, hfrom⟩
  rejected h := by rw [h] at hnames; cases hnames
  conflict h := by rw [h] at hnames; cases hnames

variable [RustDecimal]

/-- **The settled create is answered with what it was concluded from.** -/
theorem supported_respondTo {outcome : CreateOutcome} (horigin : outcome.OriginIn tr target)
    (h : identity.respondTo outcome = .ok response) :
    Supported tr target
      (fun found => matchesCreateBase found target.kind target.correctedNumber = true) response := by
  unfold Identity.respondTo at h
  cases outcome with
  | issued document =>
    cases h
    exact supported_of_number rfl rfl (Or.inl ⟨document, horigin, rfl⟩)
  | found document =>
    cases h
    exact supported_of_number rfl rfl (Or.inr ⟨document, horigin.1, horigin.2, rfl⟩)
  | reversed document =>
    cases h
    exact supported_of_number rfl rfl (Or.inr ⟨document, horigin.1, horigin.2, rfl⟩)
  | reconciled document =>
    cases h
    exact supported_of_number rfl rfl (Or.inr ⟨document, horigin.1, horigin.2, rfl⟩)
  | targetChanged =>
    cases h
    exact supported_conflict (by decide) (by decide) none
  | liveAgain document =>
    cases h
    exact supported_conflict (by decide) (by decide) _
  | collision document =>
    cases h
    exact supported_conflict (by decide) (by decide) _
  | duplicateOrderNumber answer existingNumber =>
    cases h
    exact ⟨(fun _ h => by cases h), (fun h => by cases h), (fun h => by cases h), fun _ =>
      ⟨.duplicateOrderNumber, by decide, rfl, fun _ => ⟨⟨answer.code, rfl, horigin⟩, rfl⟩⟩⟩
  | rejected rejection =>
    dsimp only at h
    split_ifs at h
    cases h
    exact ⟨(fun _ h => by cases h), (fun h => by cases h),
      (fun _ => ⟨⟨rejection.code.display, rfl, horigin⟩, rfl⟩), fun h => by cases h⟩
  | credentialsRejected answer => cases h
  | api answer => cases h
  | unavailable message => cases h

end Supported

/-! ## The decisions -/

section Decisions

variable [Unicode] {tr : List (Exchange AgentRequest.Answer)} {target : Target}
  {base : FoundDocument → Prop} {identity : Identity} {response : CreateResponse}

/-- A slot that is taken is answered by what it holds. -/
theorem supported_decideExclusivity {outcome : OwnershipOutcome} {reason : ConflictReason}
    (hknown : reason ∈ ConflictReason.known) (hreason : reason ≠ .duplicateOrderNumber)
    (h : decideExclusivity outcome reason identity = .ok (some response)) :
    Supported tr target base response := by
  unfold decideExclusivity at h
  cases outcome with
  | collision document =>
    cases h
    exact supported_conflict (by decide) (by decide) _
  | live document =>
    cases h
    exact supported_conflict hknown hreason _
  | _ => cases h

/-- A missing prepayment is answered without a number. -/
theorem supported_decidePrepaymentForFinal {outcome : OwnershipOutcome} {refs : Refs}
    (h : decidePrepaymentForFinal outcome identity refs = .ok (.inl response)) :
    Supported tr target base response := by
  unfold decidePrepaymentForFinal at h
  cases outcome with
  | absent =>
    cases h
    exact supported_conflict (by decide) (by decide) none
  | collision document =>
    cases h
    exact supported_conflict (by decide) (by decide) _
  | reversed document =>
    cases h
    exact supported_conflict (by decide) (by decide) _
  | _ => cases h

/-- A proforma that cannot be linked is answered without one. -/
theorem supported_decideProformaLink {outcome : OwnershipOutcome} {link : ProformaLink}
    {refs : Refs} (h : decideProformaLink outcome link identity refs = .ok (.inl response)) :
    Supported tr target base response := by
  unfold decideProformaLink at h
  cases outcome with
  | collision document =>
    cases h
    exact supported_conflict (by decide) (by decide) _
  | live document =>
    cases link with
    | none =>
      cases h
      exact supported_conflict (by decide) (by decide) _
    | _ => cases h
  | _ => cases h

/-- So is one that cannot be used in this execution. -/
theorem supported_decideProformaForExecution {outcome : QueryOutcome} {number : String}
    {order : OrderKey} {execution : OrderExecution} {refs : Refs}
    (h : decideProformaForExecution outcome number order identity execution refs
      = .ok (.inl response)) : Supported tr target base response := by
  unfold decideProformaForExecution at h
  dsimp only at h
  split_ifs at h
  · cases h
    exact supported_conflict (by decide) (by decide) _
  · unfold decideProformaByNumber at h
    cases outcome with
    | notFound =>
      cases h
      exact supported_conflict (by decide) (by decide) _
    | found document =>
      dsimp only at h
      split_ifs at h
      · cases h
        exact supported_conflict (by decide) (by decide) _
      · cases h
    | _ => cases h

/-- A base that was refused was observed. -/
theorem supported_decideBase {found : FoundDocument} {order : OrderKey} {number : String}
    (h : decideBase found order number identity = .ok (some response)) :
    Supported tr target base response := by
  unfold decideBase at h
  split_ifs at h
  · cases h
    exact supported_conflict (by decide) (by decide) _
  · cases h
    exact supported_conflict (by decide) (by decide) _
  · cases h

/-- A reissue of another document is answered by what was expected. -/
theorem supported_expectedTarget {reissue : Option Reissue} {holder : Option String}
    (h : expectedTarget reissue holder identity = some response) :
    Supported tr target base response := by
  unfold expectedTarget at h
  split at h
  · cases h
  · split_ifs at h
    cases h
    exact supported_conflict (by decide) (by decide) _

variable [RustDecimal]

/-- The target's own slot is answered with its holder. -/
theorem supported_decideExistingTarget {outcome : OwnershipOutcome} {reissue : Option Reissue}
    (horigin : outcome.OriginIn tr target.externalId target.order target.kind)
    (h : decideExistingTarget outcome reissue identity = .ok (some response)) :
    Supported tr target (fun _ => True) response := by
  unfold decideExistingTarget at h
  dsimp only at h
  split at h
  · rename_i changed hchanged
    cases h
    cases outcome with
    | absent | live document | reversed document => exact supported_expectedTarget hchanged
    | _ => cases hchanged
  · cases outcome with
    | live document =>
      dsimp only at h
      split_ifs at h
      · cases h
        exact supported_conflict (by decide) (by decide) _
      · cases h
        exact supported_of_number rfl rfl (Or.inr ⟨document, horigin, trivial, rfl⟩)
    | reversed document =>
      dsimp only at h
      split_ifs at h
      · cases h
        exact supported_of_number rfl rfl (Or.inr ⟨document, horigin, trivial, rfl⟩)
      · cases h
    | collision document =>
      cases h
      exact supported_conflict (by decide) (by decide) _
    | _ => cases h

/-- **What a lookup found** is answered as it was found. -/
theorem supported_decideLookup {outcome : LookupOutcome} {reissue : Option Reissue}
    (horigin : outcome.OriginIn tr target)
    (h : decideLookup outcome reissue identity = .ok (.inl response)) :
    Supported tr target
      (fun found => matchesCreateBase found target.kind target.correctedNumber = true) response := by
  unfold decideLookup at h
  dsimp only at h
  split at h
  · rename_i changed hchanged
    cases h
    cases outcome with
    | absent | live document | reversed document => exact supported_expectedTarget hchanged
    | _ => cases hchanged
  · cases outcome with
    | live document =>
      dsimp only at h
      split_ifs at h
      · cases h
        exact supported_conflict (by decide) (by decide) _
      · cases h
        exact supported_of_number rfl rfl (Or.inr ⟨document, horigin.1, horigin.2, rfl⟩)
    | reversed document stornoNumber =>
      dsimp only at h
      split_ifs at h
      · cases h
        exact supported_of_number rfl rfl (Or.inr ⟨document, horigin.1, horigin.2, rfl⟩)
      · cases h
    | collision document =>
      cases h
      exact supported_conflict (by decide) (by decide) _
    | foreign document =>
      cases h
      exact supported_conflict (by decide) (by decide) _
    | _ => cases h

/-- Also where an execution looks for its own document. -/
theorem supported_decideLookupForExecution {outcome : LookupOutcome} {reissue : Option Reissue}
    {execution : OrderExecution} (horigin : outcome.OriginIn tr target)
    (h : decideLookupForExecution outcome reissue identity execution = .ok (.inl response)) :
    Supported tr target
      (fun found => matchesCreateBase found target.kind target.correctedNumber = true) response := by
  unfold decideLookupForExecution at h
  dsimp only at h
  split at h
  · split_ifs at h
    · cases h
      exact supported_conflict (by decide) (by decide) _
    · exact supported_decideLookup horigin h
  · exact supported_decideLookup horigin h

end Decisions

/-! ## The reads -/

/-- The target of an identity. -/
def Identity.target [Unicode] (identity : Identity) (order : OrderKey) (correctedNumber : Option String) :
    Target where
  externalId := identity.externalId.text
  order := order
  kind := identity.kind
  correctedNumber := correctedNumber

/-- Nothing but a corrective has a base. -/
theorem matchesCreateBase_issued (found : FoundDocument) (kind : DocumentKind) :
    matchesCreateBase found kind.issued none = true := by cases kind <;> rfl

section Reads

variable [Unicode]

/-- A request is for the target it was made with. -/
theorem CreateStepRequest.target_of_new {identity : Identity} {order : OrderKey}
    {create : CreateInvoice} {reversed correctedNumber : Option String}
    {request : CreateStepRequest}
    (h : CreateStepRequest.new identity.externalId identity.kind order create reversed
      correctedNumber = .ok request) :
    request.target = identity.target order correctedNumber := by
  unfold CreateStepRequest.new at h
  split at h
  · cases h
    rfl
  · cases h

/-- The full lookup concludes from the holder, which has the intended base. -/
theorem lookupCall_origin {intent : Intent} {order : OrderKey} {execution : OrderExecution}
    (hbase : execution.permitsReplay = true →
      ∀ found, matchesCreateBase found intent.identity.kind intent.correctedNumber = true) :
    Prog.Ensures (intent.lookupCall order execution) fun tr r =>
      ∀ outcome, r = .ok outcome →
        outcome.OriginIn tr (intent.identity.target order intent.correctedNumber) := by
  unfold Intent.lookupCall
  dsimp only
  split_ifs with hreplay
  · refine (lookupInner_holder _ true).mono (fun tr r hr outcome ho => ?_)
    obtain ⟨hlive, hreversed⟩ := hr outcome ho
    cases outcome with
    | live document => exact ⟨hlive document rfl, hbase hreplay document⟩
    | reversed document stornoNumber =>
      exact ⟨hreversed document stornoNumber rfl, hbase hreplay document⟩
    | _ => trivial
  · refine (lookupInner_holder _ false).bind (fun tr r hr => ?_)
    refine Prog.ensures_ret.mpr (fun outcome ho => ?_)
    rw [List.append_nil]
    obtain ⟨looked, rfl, rfl⟩ := CreateResponse.map_eq_ok.mp ho
    obtain ⟨hlive, hreversed⟩ := hr looked rfl
    unfold withCreateBase
    split
    · split_ifs with hmatches
      · exact ⟨hlive _ rfl, hmatches⟩
      · trivial
    · split_ifs with hmatches
      · exact ⟨hreversed _ _ rfl, hmatches⟩
      · trivial
    · rename_i hnotLive hnotReversed
      cases looked with
      | live document => exact absurd rfl (hnotLive document)
      | reversed document stornoNumber => exact absurd rfl (hnotReversed document stornoNumber)
      | _ => trivial

end Reads

/-! ## The handlers -/

/-- Each excluding kind has a reason of its own. -/
theorem exclusiveWith_known (kind : DocumentKind) :
    ∀ other ∈ exclusiveWith kind, other.2 ∈ ConflictReason.known
      ∧ other.2 ≠ .duplicateOrderNumber := by cases kind <;> decide

section Handlers

variable [Unicode] [Transport] [Clock] [FaultText]

namespace Handler

/-- **A lookup of an external id of ours** is one query. -/
theorem answers_lookup (name : String) (externalId : ExternalId) (order : OrderKey)
    (kind : IssuedKind) :
    (lookup name externalId order kind).Answers fun tr outcome =>
      outcome.OriginIn tr externalId.text order kind
        ∧ ∃ answer, tr = [⟨.query (.externalId externalId.text), answer⟩] := by
  have hquery : Prog.Ensures (lookupOurs externalId order kind) fun tr _ =>
      ∃ answer, tr = [⟨AgentRequest.query (.externalId externalId.text), answer⟩] := by
    rw [lookupOurs, seen_bind, Prog.ensures_call]
    exact fun answer => Prog.ensures_ret.mpr ⟨answer, rfl⟩
  exact answers_mapFault (answers_runReading
    (((lookupOurs_origin externalId order kind).and hquery).mono
      (fun tr r h outcome ho => ⟨h.1 outcome ho, h.2⟩)))

end Handler

variable {target : Target} {base : FoundDocument → Prop} {identity : Identity} {order : OrderKey}

/-- An answer given early, if there is one, is supported. -/
def EarlySupported (target : Target) (base : FoundDocument → Prop)
    (tr : List (Exchange AgentRequest.Answer)) (early : Option CreateResponse) : Prop :=
  ∀ response, early = some response → Supported tr target base response

/-- The same where the alternative is to go on with something. -/
def AnswerSupported {α : Type} (target : Target) (base : FoundDocument → Prop)
    (tr : List (Exchange AgentRequest.Answer)) (decided : CreateResponse ⊕ α) : Prop :=
  ∀ response, decided = .inl response → Supported tr target base response

/-- Checking a slot. -/
theorem answers_exclusivity (exec : Execution) {other : DocumentKind}
    {reason : Contract.ConflictReason} (hknown : reason ∈ ConflictReason.known)
    (hreason : reason ≠ .duplicateOrderNumber) :
    (exec.exclusivity order identity other reason).Answers (EarlySupported target base) :=
  (Handler.answers_lookup _ _ _ _).bind (fun tr found _ => Handler.answers_liftAbout
    (fun early hearly response hresponse => by
      subst hresponse
      exact supported_decideExclusivity hknown hreason hearly))

/-- Checking several slots. -/
theorem answers_exclusivities (exec : Execution)
    (others : List (DocumentKind × Contract.ConflictReason))
    (hothers : ∀ other ∈ others, other.2 ∈ ConflictReason.known
      ∧ other.2 ≠ .duplicateOrderNumber) :
    (exec.exclusivities order identity others).Answers (EarlySupported target base) := by
  induction others with
  | nil => exact Handler.answers_pure (fun _ h => by cases h)
  | cons other others ih =>
    obtain ⟨hknown, hreason⟩ := hothers other List.mem_cons_self
    refine Handler.Answers.bind (Q := EarlySupported target base)
      (answers_exclusivity exec hknown hreason) (fun tr early hearly => ?_)
    cases early with
    | some response =>
      refine Handler.answers_pure ?_
      rintro _ ⟨⟩
      rw [List.append_nil]
      exact hearly response rfl
    | none =>
      exact (ih (fun o ho => hothers o (List.mem_cons_of_mem _ ho))).mono
        (fun tr' early h response hresponse => (h response hresponse).right)

/-- Looking for the prepayment. -/
theorem answers_prepaymentForFinal (exec : Execution) (refs : Refs) :
    (exec.prepaymentForFinal order identity refs).Answers (AnswerSupported target base) :=
  (Handler.answers_lookup _ _ _ _).bind (fun tr found _ => Handler.answers_liftAbout
    (fun decided hdecided response hresponse => by
      subst hresponse
      exact supported_decidePrepaymentForFinal hdecided))

/-- Reading the linked proforma. -/
theorem answers_proformaLink (exec : Execution) (prepared : Prepared) (refs : Refs) :
    (exec.proformaLink prepared identity refs).Answers (AnswerSupported target base) := by
  have hslot : ∀ link, (do
      let found ← Handler.lookup "lookup-proforma"
        (.forKind exec.config.namespace prepared.order .proforma) prepared.order .proforma
      Handler.lift ((decideProformaLink found link identity refs).mapError
        (identity.about prepared.order))).Answers (AnswerSupported target base) := fun link =>
    (Handler.answers_lookup _ _ _ _).bind (fun tr found _ => Handler.answers_liftAbout
      (fun decided hdecided response hresponse => by
        subst hresponse
        exact supported_decideProformaLink hdecided))
  unfold Execution.proformaLink
  split
  · exact hslot _
  · exact hslot _
  · refine (Handler.answers_true _).bind (fun tr found _ => Handler.answers_lift ?_)
    intro decided hdecided response hresponse
    subst hresponse
    exact supported_decideProformaForExecution hdecided

/-- Reading the slot of the proforma. -/
theorem answers_proformaSlot (exec : Execution) (refs : Refs) :
    (exec.proformaSlot order identity refs).Answers (EarlySupported target base) := by
  refine (Handler.answers_lookup _ _ _ _).bind (fun tr found _ => ?_)
  dsimp only
  split_ifs
  · exact Handler.answers_pure (fun _ h => by cases h)
  · refine Handler.answers_liftAbout (fun early hearly response hresponse => ?_)
    subst hresponse
    exact supported_decideExclusivity (by decide) (by decide) hearly

/-! ### The target's own slot -/

omit [Transport] [Clock] [FaultText] in
/-- A storno number is told apart from the document's own. -/
theorem Supported.withStornoNumber {tr : List (Exchange AgentRequest.Answer)}
    {response : CreateResponse} (h : Supported tr target base response)
    (stornoNumber : Option String) :
    Supported tr target base { response with stornoNumber := stornoNumber } :=
  ⟨h.known, h.number, h.rejected, h.conflict⟩

/-- Completing an early answer. -/
theorem answers_withStornoNumber {t : List (Exchange AgentRequest.Answer)}
    {early : Option CreateResponse} (h : EarlySupported target base t early) :
    (withStornoNumber order identity early).Answers fun tr completed =>
      EarlySupported target base (t ++ tr) completed
        ∧ (identity.kind = .corrective → tr = []) := by
  have hkeep : ∀ response, early = some response →
      EarlySupported target base (t ++ []) (some response) := by
    rintro response hresponse _ ⟨⟩
    rw [List.append_nil]
    exact h response hresponse
  unfold withStornoNumber
  cases early with
  | none => exact Handler.answers_pure ⟨(fun _ h => by cases h), fun _ => rfl⟩
  | some response =>
    dsimp only
    split
    · split_ifs with hlookup
      · refine (Handler.answers_true _).bind (fun tr stornoNumber _ => Handler.answers_pure ?_)
        refine ⟨?_, fun hkind => absurd hkind hlookup.2⟩
        rintro _ ⟨⟩
        exact (h response rfl).left.withStornoNumber stornoNumber
      · exact Handler.answers_pure ⟨hkeep response rfl, fun _ => rfl⟩
    · exact Handler.answers_pure ⟨hkeep response rfl, fun _ => rfl⟩

section Target

variable [RustDecimal]

/-- **An early answer is about the holder**, whatever base it has; a correction's
was read in one query, before anything else. -/
theorem answers_existingTarget (order : OrderKey) (identity : Identity)
    (reissue : Option Reissue) (correctedNumber : Option String) :
    (existingTarget order identity reissue).Answers fun tr early =>
      EarlySupported (identity.target order correctedNumber) (fun _ => True) tr early
        ∧ (identity.kind = .corrective →
          ∃ answer, tr = [⟨.query (.externalId identity.externalId.text), answer⟩]) := by
  unfold existingTarget
  refine (Handler.answers_lookup _ _ _ _).bind ?_
  rintro tr found ⟨horigin, hquery⟩
  refine (Handler.answers_liftAbout (Q := fun t early => t = [] ∧ EarlySupported
    (identity.target order correctedNumber) (fun _ => True) tr early) ?_).bind ?_
  · rintro early hearly
    refine ⟨rfl, fun response hresponse => ?_⟩
    subst hresponse
    exact supported_decideExistingTarget horigin hearly
  · rintro _ early ⟨rfl, hearly⟩
    refine (answers_withStornoNumber hearly).mono (fun t completed h => ⟨h.1, fun hkind => ?_⟩)
    obtain ⟨answer, rfl⟩ := hquery
    rw [h.2 hkind]
    exact ⟨answer, rfl⟩

end Target

/-! ### The references -/

omit [FaultText] in
/-- A step that may refuse, and what follows where it does not. -/
theorem answers_refusing {step : Handler (Option CreateResponse)}
    {next : Handler (CreateResponse ⊕ Refs)} (hstep : step.Answers (EarlySupported target base))
    (hnext : next.Answers (AnswerSupported target base)) :
    Handler.Answers (do
      let early ← step
      match early with
      | some response => pure (Sum.inl response)
      | none => next) (AnswerSupported target base) := by
  refine hstep.bind (fun tr early hearly => ?_)
  cases early with
  | some response =>
    refine Handler.answers_pure ?_
    rintro _ ⟨⟩
    rw [List.append_nil]
    exact hearly response rfl
  | none => exact hnext.mono (fun _ _ h response hresponse => (h response hresponse).right)

omit [FaultText] in
/-- A step that resolves a reference. -/
theorem answers_resolving {step : Handler (CreateResponse ⊕ Refs)}
    {next : Refs → Handler (CreateResponse ⊕ Refs)}
    (hstep : step.Answers (AnswerSupported target base))
    (hnext : ∀ refs, (next refs).Answers (AnswerSupported target base)) :
    Handler.Answers (do
      let decided ← step
      match decided with
      | .inl response => pure (Sum.inl response)
      | .inr refs => next refs) (AnswerSupported target base) := by
  refine hstep.bind (fun tr decided hdecided => ?_)
  cases decided with
  | inl response =>
    refine Handler.answers_pure ?_
    rintro _ ⟨⟩
    rw [List.append_nil]
    exact hdecided response rfl
  | inr refs =>
    exact (hnext refs).mono (fun _ _ h response hresponse => (h response hresponse).right)

omit [FaultText] in
/-- A refusing step that is taken in some cases only. -/
theorem answers_refusingIf {c : Prop} [Decidable c] {step : Handler (Option CreateResponse)}
    {next : Handler (CreateResponse ⊕ Refs)} (hstep : step.Answers (EarlySupported target base))
    (hnext : next.Answers (AnswerSupported target base)) :
    Handler.Answers (if c then do
        let early ← step
        match early with
        | some response => pure (Sum.inl response)
        | none => next
      else do
        let early ← pure none
        match early with
        | some response => pure (Sum.inl response)
        | none => next) (AnswerSupported target base) := by
  split_ifs
  · exact answers_refusing hstep hnext
  · exact answers_refusing (Handler.answers_pure (fun _ h => by cases h)) hnext

omit [FaultText] in
/-- A resolving step that is taken in some cases only. -/
theorem answers_resolvingIf {c : Prop} [Decidable c] {step : Handler (CreateResponse ⊕ Refs)}
    {refs : Refs} {next : Refs → Handler (CreateResponse ⊕ Refs)}
    (hstep : step.Answers (AnswerSupported target base))
    (hnext : ∀ refs, (next refs).Answers (AnswerSupported target base)) :
    Handler.Answers (if c then do
        let decided ← step
        match decided with
        | .inl response => pure (Sum.inl response)
        | .inr refs => next refs
      else do
        let decided ← pure (Sum.inr refs)
        match decided with
        | .inl response => pure (Sum.inl response)
        | .inr refs => next refs) (AnswerSupported target base) := by
  split_ifs
  · exact answers_resolving hstep hnext
  · exact answers_resolving (Handler.answers_pure (fun _ h => by cases h)) hnext

/-- Reading all references. -/
theorem answers_references (exec : Execution) (prepared : Prepared) (kind : DocumentKind) :
    (exec.references prepared identity kind).Answers (AnswerSupported target base) := by
  unfold Execution.references
  refine answers_refusing (answers_exclusivities exec _ (exclusiveWith_known kind)) ?_
  refine answers_resolvingIf (answers_prepaymentForFinal exec _) (fun refs => ?_)
  refine answers_refusingIf (answers_exclusivity exec (by decide) (by decide)) ?_
  refine answers_resolvingIf (answers_proformaLink exec prepared _) (fun refs => ?_)
  exact answers_refusingIf (answers_proformaSlot exec refs)
    (Handler.answers_pure (fun _ h => by cases h))

/-! ### The write -/

variable [RustDecimal]

omit [FaultText] [RustDecimal] in
/-- **A settled create was concluded in the writing run or by reconciliation**, of
the target that was meant. -/
theorem answers_createStep (exec : Execution) (ctx : Context) (intent : Intent)
    (reversed : Option String) :
    (exec.createStep ctx order intent reversed).Answers fun tr outcome =>
      outcome.OriginIn tr (intent.identity.target order intent.correctedNumber) := by
  have hbecause : ∀ (target : Target) (message : String),
      (WriteResult.because message).OriginIn [] target := fun _ _ _ h => by cases h
  have hsettled : ∀ (request : CreateStepRequest) (marker : UnresolvedWrite),
      marker.operation = request.operation → marker.externalId = request.externalId.text →
      marker.order = request.order → ∀ t t' settled, SettledBy marker t' settled →
      settled.OriginIn (t ++ t') request.target := by
    intro request marker hoperation hid horder t t' settled h
    have horigin : settled.OriginIn t' request.target := h.origin hoperation hid horder
    exact horigin.right
  unfold Execution.createStep
  refine (Handler.answers_liftAbout (Q := fun tr (request : CreateStepRequest) => tr = []
    ∧ request.target = intent.identity.target order intent.correctedNumber) ?_).bind ?_
  · intro request hrequest
    exact ⟨rfl, CreateStepRequest.target_of_new hrequest⟩
  rintro _ request ⟨rfl, htarget⟩
  rw [← htarget]
  split_ifs
  · refine Handler.Answers.bind (Q := fun tr result => result.OriginIn tr request.target) ?_ ?_
    · unfold Execution.createReplayEnabled
      split
      · exact Handler.answers_raise _
      · refine answers_replayEnabledWrite (hbecause _) (fun marker => ?_)
          (fun time => hsettled request _ rfl rfl rfl)
        split_ifs
        · exact Prog.ensures_ret.mpr (hbecause _ _)
        · exact createReplayEnabled_origin request
    · intro tr result hresult
      split
      · refine Handler.answers_pure ?_
        rw [List.append_nil]
        exact hresult _ rfl
      · exact Handler.answers_raise _
  · refine Handler.Answers.bind (Q := fun tr result => result.OriginIn tr request.target) ?_ ?_
    · exact answers_protectedWrite (hbecause _) (fun _ => protectedCreate_origin request)
        (fun time => hsettled request _ rfl rfl rfl)
    · intro tr result hresult
      split
      · refine Handler.answers_pure ?_
        rw [List.append_nil]
        exact hresult _ rfl
      · exact Handler.answers_raise _

/-- **An issued intent is answered with what it was concluded from.** -/
theorem answers_issue (exec : Execution) (ctx : Context) (intent : Intent)
    (hbase : exec.config.orderExecution.permitsReplay = true →
      ∀ found, matchesCreateBase found intent.identity.kind intent.correctedNumber = true) :
    (exec.issue ctx order intent).Answers
      (Supported · (intent.identity.target order intent.correctedNumber)
        (fun found => matchesCreateBase found intent.identity.kind intent.correctedNumber = true)) := by
  unfold Execution.issue
  refine (Handler.answers_mapFault (answers_runReading (lookupCall_origin hbase))).bind
    (fun tr found horigin => ?_)
  refine (Handler.answers_liftAbout (Q := fun t decided => t = [] ∧ AnswerSupported
    (intent.identity.target order intent.correctedNumber)
    (fun found => matchesCreateBase found intent.identity.kind intent.correctedNumber = true)
    tr decided) ?_).bind ?_
  · intro decided hdecided
    refine ⟨rfl, fun response hresponse => ?_⟩
    subst hresponse
    exact supported_decideLookupForExecution horigin hdecided
  rintro _ decided ⟨rfl, hdecided⟩
  cases decided with
  | inl response =>
    refine Handler.answers_pure ?_
    simpa using hdecided response rfl
  | inr reversed =>
    refine (answers_createStep exec ctx intent reversed).bind (fun t outcome houtcome => ?_)
    refine Handler.answers_liftAbout (fun response hresponse => ?_)
    rw [List.nil_append, List.append_nil]
    exact (supported_respondTo houtcome hresponse).right

/-! ### The whole handlers -/

/-- **The four creates** answer about their own target. -/
theorem answers_createKind (kind : DocumentKind) (config : WorkerConfig) (ctx : Context)
    (body : Body CreateRequest) :
    (createKind kind config ctx body).Answers fun tr response =>
      ∃ order, orderKey ctx.key = .ok order
        ∧ Supported tr ((Identity.ofKind config.namespace order kind).target order none)
          (fun _ => True) response := by
  unfold createKind
  refine (Handler.answers_lift (fun _ h => ⟨rfl, h⟩)).silent (fun request _ => ?_)
  refine (Handler.answers_lift (fun _ h => ⟨rfl, h⟩)).silent (fun order horder => ?_)
  refine (answers_guard.mono (fun _ _ h => ⟨h, trivial⟩)).silent (fun _ _ => ?_)
  refine (answers_runPrologue ctx config).silent ?_
  rintro exec rfl
  refine Handler.Answers.mono ?_ (fun _ _ h => ⟨order, horder, h⟩)
  unfold Execution.issueKind
  refine (Handler.answers_lift (fun _ h => ⟨rfl, h⟩)).silent (fun prepared _ => ?_)
  refine (answers_existingTarget order _ prepared.reissue none).bind ?_
  rintro tr early ⟨hearly, -⟩
  cases early with
  | some response =>
    refine Handler.answers_pure ?_
    rw [List.append_nil]
    exact hearly response rfl
  | none =>
    refine Handler.Answers.bind (Q := AnswerSupported
      ((Identity.ofKind exec.config.namespace order kind).target order none) (fun _ => True))
      (answers_references exec prepared kind) (fun t referred hreferred => ?_)
    cases referred with
    | inl response =>
      refine Handler.answers_pure ?_
      rw [List.append_nil]
      exact (hreferred response rfl).right
    | inr refs =>
      refine (Handler.answers_lift (fun _ h => ⟨rfl, h⟩)).silent (fun create _ => ?_)
      refine (answers_issue exec ctx _ (fun _ found => matchesCreateBase_issued found kind)).mono
        (fun _ _ h => ?_)
      exact (h.mono (fun _ _ => trivial)).right.right

/-- The document of a correction: it refers to the base, unless it was the whole
of what was asked for. -/
def CorrectionBase (externalId : String) (number : String)
    (tr : List (Exchange AgentRequest.Answer)) (found : FoundDocument) : Prop :=
  found.isCorrectiveOf number = true
    ∨ ∃ answer, tr = [⟨.query (.externalId externalId), answer⟩]

/-- **A correction** answers about its own target, and about the requested base
once it is past the lookup that comes first. -/
theorem answers_correctInvoice (config : WorkerConfig) (ctx : Context)
    (body : Body CorrectRequest) :
    (correctInvoice config ctx body).Answers fun tr response =>
      ∃ request order, body = .ok request ∧ orderKey ctx.key = .ok order
        ∧ let target : Target :=
            { externalId := (ExternalId.forCorrective config.namespace order
                request.correctionId).text
              order := order, kind := .corrective
              correctedNumber := some request.invoiceNumber.text }
          Supported tr target
            (CorrectionBase target.externalId request.invoiceNumber.text tr) response := by
  unfold correctInvoice
  split_ifs with hreplay
  · exact Handler.answers_raise _
  refine (Handler.answers_lift (fun _ h => ⟨rfl, h⟩)).silent (fun request hrequest => ?_)
  refine (Handler.answers_lift (fun _ h => ⟨rfl, h⟩)).silent (fun order horder => ?_)
  refine (answers_guard.mono (fun _ _ h => ⟨h, trivial⟩)).silent (fun _ _ => ?_)
  refine (answers_runPrologue ctx config).silent ?_
  rintro exec rfl
  refine Handler.Answers.mono ?_ (fun _ _ h => ⟨request, order, Except.mapError_eq_ok.mp hrequest, horder, h⟩)
  unfold Execution.correct
  dsimp only
  refine (Handler.answers_lift (fun _ h => ⟨rfl, h⟩)).silent (fun _ _ => ?_)
  refine (answers_existingTarget order _ none (some request.invoiceNumber.text)).bind ?_
  rintro tr early ⟨hearly, hquery⟩
  cases early with
  | some response =>
    refine Handler.answers_pure ?_
    rw [List.append_nil]
    exact (hearly response rfl).mono (fun found _ => Or.inr (hquery rfl))
  | none =>
    refine (Handler.answers_true _).bind (fun t outcome _ => ?_)
    refine (Handler.answers_liftAbout (fun _ h => ⟨rfl, h⟩)).silent (fun found _ => ?_)
    refine (Handler.answers_liftAbout (Q := fun tr refused => tr = [] ∧ ∀ response,
      refused = some response → ∀ tr target base, Supported tr target base response) ?_).silent ?_
    · intro refused hrefused
      refine ⟨rfl, fun response hresponse tr target base => ?_⟩
      subst hresponse
      exact supported_decideBase hrefused
    · intro refused hrefused
      cases refused with
      | some response => exact Handler.answers_pure (hrefused response rfl _ _ _)
      | none =>
        refine (Handler.answers_lift (fun _ h => ⟨rfl, h⟩)).silent (fun create _ => ?_)
        refine (answers_issue exec ctx _ (fun h => absurd h hreplay)).mono (fun _ _ h => ?_)
        exact (h.mono (fun _ hbase => Or.inl hbase)).right.right

omit [Transport] [Clock] [FaultText] [RustDecimal] in
/-- **An answer that is supported** is one the contract can decode. -/
theorem Supported.decodes {tr : List (Exchange AgentRequest.Answer)} {response : CreateResponse}
    (h : Supported tr target base response) : response.Decodes := by
  obtain ⟨view, hview⟩ := CreateResponse.validated_isOk_iff.mpr h.complete
  have hshows := CreateResponse.shows_of_validated hview
  refine ⟨view, hview, hshows, ?_⟩
  rintro token rfl
  exact h.known token hshows

/-- **Every answer of a create or a correction is read by a client**, whatever the
request, the execution and the answers of szamlazz.hu. -/
theorem create_answers_decode (config : WorkerConfig) (ctx : Context) :
    (∀ body, (createProforma config ctx body).Answers (fun _ => CreateResponse.Decodes))
      ∧ (∀ body, (createInvoice config ctx body).Answers (fun _ => CreateResponse.Decodes))
      ∧ (∀ body, (createPrepayment config ctx body).Answers (fun _ => CreateResponse.Decodes))
      ∧ (∀ body, (createFinal config ctx body).Answers (fun _ => CreateResponse.Decodes))
      ∧ ∀ body, (correctInvoice config ctx body).Answers (fun _ => CreateResponse.Decodes) := by
  have hcreate : ∀ kind body, (createKind kind config ctx body).Answers (fun _ => CreateResponse.Decodes) := by
    intro kind body
    refine (answers_createKind kind config ctx body).mono ?_
    rintro tr response ⟨order, -, hsupported⟩
    exact hsupported.decodes
  refine ⟨hcreate _, hcreate _, hcreate _, hcreate _, fun body => ?_⟩
  refine (answers_correctInvoice config ctx body).mono ?_
  rintro tr response ⟨request, order, -, -, hsupported⟩
  exact hsupported.decodes

end Handlers

end Szamlazz
