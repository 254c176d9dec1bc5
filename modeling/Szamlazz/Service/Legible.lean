import Szamlazz.Service.Answers
import Szamlazz.Service.Create
import Szamlazz.Service.Delete

/-!
# The numbers a marker retains

A worker reads a marker back only if every number in it is one of its kind: the old
holder of a reissue and the target of a deletion are held to the alphabet of a caller's
number, a linked proforma to that of a reported one. The writers copy these numbers from
documents szamlazz.hu reported, so whether they are read back is a matter of what the
handlers compare before they come to a write. `CreateStepRequest.Legible` says it of a
create; the lemmas here follow each number from the read that brought it.
-/

namespace Szamlazz

open Durable

theorem InvoiceNumber.isBlank_text (number : InvoiceNumber) : Text.isBlank number.text = false := by
  obtain ⟨hnonempty, -⟩ := InvoiceNumber.validate_eq_ok.mp number.valid
  rw [Text.isBlank, number.trim_text]
  exact hnonempty

/-- **A create whose marker is read back**: the old holder is one the caller named, the
proforma one szamlazz.hu can have reported, and the base of a corrective the caller's. -/
structure CreateStepRequest.Legible [Unicode] (request : CreateStepRequest) : Prop where
  reversed : ∀ n ∈ request.reversed, ∃ number : InvoiceNumber, n = number.text
  proforma : ∀ n ∈ request.proformaNumber, (ProviderDocumentNumber.parse n).isSome = true
  base : request.kind = .corrective → request.reversed = none
    ∧ ∃ number : InvoiceNumber, request.correctedNumber = some number.text

/-! ## The reads -/

section Reads

variable [Unicode] [Transport] [Clock] [FaultText] {order : OrderKey} {identity : Identity}

/-- A lookup is one query, and its outcome is what the answer classifies as. -/
theorem answers_lookup_holder (name : String) (externalId : ExternalId) (order : OrderKey)
    (kind : IssuedKind) :
    (Handler.lookup name externalId order kind).Answers fun tr outcome =>
      ∃ answer : Except ClientError InvoiceDocument,
        tr = [⟨.query (.externalId externalId.text), answer⟩]
          ∧ ownership (classifySeen order kind (queryAnswer (.externalId externalId.text) answer))
            = .ok outcome := by
  refine Handler.answers_mapFault (answers_runReading ?_)
  rw [lookupOurs, seen_bind, Prog.ensures_call]
  exact fun answer => Prog.ensures_ret.mpr fun outcome houtcome => ⟨answer, rfl, houtcome⟩

/-- The holder of a slot has a number. -/
theorem answers_lookup_number (name : String) (externalId : ExternalId) (order : OrderKey)
    (kind : IssuedKind) :
    (Handler.lookup name externalId order kind).Answers fun _ outcome =>
      ∀ found, outcome = .live found → Text.isBlank found.number = false := by
  refine (answers_lookup_holder name externalId order kind).mono ?_
  rintro _ outcome ⟨answer, -, howned⟩ found rfl
  obtain ⟨hlive, -, -⟩ := ownership_cases howned
  exact (number_of_queryAnswer (hlive found rfl).1).1

/-- A document read by a number carries it. -/
theorem answers_verify_number (name number : String) :
    (Handler.verify name number).Answers fun _ outcome =>
      ∀ found, outcome = .found found → found.number = number := by
  refine answers_runReading ?_
  rw [← Prog.bind_ret (verify number), verify_bind, Prog.ensures_call]
  intro answer
  refine Prog.ensures_ret.mpr ?_
  rintro outcome houtcome found rfl
  exact (number_of_queryAnswer (queryOutcome_eq_found.mp houtcome)).2 number rfl

end Reads

/-! ## The target of a deletion -/

section Deletion

variable [Unicode] [Transport] [Clock] [FaultText]

omit [Unicode] [Transport] [Clock] [FaultText] in
theorem paidGuard_eq_inr {found found' : FoundDocument} {force : Bool}
    (h : paidGuard found force = .inr found') : found' = found := by
  unfold paidGuard at h
  split_ifs at h
  cases h
  rfl

omit [Transport] [Clock] [FaultText] [Unicode] in
theorem number_of_decideOwnedDeletion {outcome : OwnershipOutcome} {request : DeleteProformaRequest}
    {found : FoundDocument} (h : decideOwnedDeletion outcome request = .ok (.inr found)) :
    found.number = request.expectedNumber.text := by
  unfold decideOwnedDeletion at h
  dsimp only at h
  split_ifs at h with hreplaced
  · cases h
  · unfold deleteGuard at h
    cases outcome with
    | live document | reversed document =>
      obtain rfl := paidGuard_eq_inr (Except.ok.inj h)
      simpa using hreplaced
    | absent | collision | api | credentialsRejected => cases h

omit [Transport] [Clock] [FaultText] in
theorem eq_of_namedDeleteGuard {outcome : QueryOutcome} {order : OrderKey} {force : Bool}
    {found : FoundDocument} (h : namedDeleteGuard outcome order force = .ok (.inr found)) :
    outcome = .found found := by
  unfold namedDeleteGuard at h
  cases outcome with
  | found document =>
    dsimp only at h
    split_ifs at h
    · cases h
    · rw [paidGuard_eq_inr (Except.ok.inj h)]
  | notFound | api | credentialsRejected => cases h

/-- **What is deleted carries the number the caller named**, in either mode. -/
theorem answers_selectDeletion_number (order : OrderKey) (proformaId : ExternalId)
    (request : DeleteProformaRequest) :
    (Execution.selectDeletion order proformaId request).Answers fun _ selected =>
      ∀ found, selected = .inr found → found.number = request.expectedNumber.text := by
  unfold Execution.selectDeletion
  dsimp only
  split
  · refine (Handler.answers_true _).bind fun _ outcome _ => Handler.answers_liftAbout ?_
    rintro _ hselected found rfl
    exact number_of_decideOwnedDeletion hselected
  · refine (Handler.answers_mapFault (answers_verify_number _ _)).bind fun _ outcome hnumber =>
      Handler.answers_liftAbout ?_
    rintro _ hselected found rfl
    exact hnumber found (eq_of_namedDeleteGuard hselected)

end Deletion

/-! ## The old holder of a reissue -/

section Reissue

variable [Unicode] [RustDecimal] {identity : Identity}

omit [Unicode] [RustDecimal] in
theorem eq_of_expectedTarget {intent : Reissue} {holder : Option String}
    (h : expectedTarget (some intent) holder identity = none) :
    holder = some intent.expectedNumber.text := by
  unfold expectedTarget at h
  dsimp only at h
  split_ifs at h with hholder
  exact hholder

omit [Unicode] in
/-- **A send goes past no other document than the one a reissue names.** -/
theorem decideLookup_eq_past {outcome : LookupOutcome} {reissue : Option Reissue} {number : String}
    (h : decideLookup outcome reissue identity = .ok (.inr (some number))) :
    ∃ intent, reissue = some intent ∧ number = intent.expectedNumber.text := by
  unfold decideLookup at h
  cases outcome with
  | reversed document stornoNumber =>
    cases reissue with
    | none => simp [expectedTarget] at h
    | some intent =>
      dsimp only at h
      cases hchanged : expectedTarget (some intent) (some document.number) identity with
      | some response => simp [hchanged] at h
      | none =>
        obtain rfl : document.number = number := by simpa [hchanged] using h
        exact ⟨intent, rfl, Option.some.inj (eq_of_expectedTarget hchanged)⟩
  | absent =>
    dsimp only at h
    split at h <;> cases h
  | live document =>
    dsimp only at h
    split at h
    · cases h
    · split_ifs at h <;> cases h
  | collision | foreign | api | credentialsRejected => cases h

omit [Unicode] in
theorem decideLookupForExecution_eq_past {outcome : LookupOutcome} {reissue : Option Reissue}
    {execution : OrderExecution} {number : String}
    (h : decideLookupForExecution outcome reissue identity execution = .ok (.inr (some number))) :
    ∃ intent, reissue = some intent ∧ number = intent.expectedNumber.text := by
  unfold decideLookupForExecution at h
  dsimp only at h
  split at h
  · split_ifs at h
    · cases h
    · exact decideLookup_eq_past h
  · exact decideLookup_eq_past h

end Reissue

/-! ## The linked proforma -/

section Proforma

variable [Unicode] {order : OrderKey} {identity : Identity}

/-- The references name a proforma by a number. -/
def Refs.Numbered (refs : Refs) : Prop := ∀ n ∈ refs.proforma, Text.isBlank n = false

omit [Unicode] in
theorem Refs.numbered_empty : Refs.Numbered {} := fun _ h => by cases h

omit [Unicode] in
theorem numbered_decidePrepaymentForFinal {outcome : OwnershipOutcome} {refs refs' : Refs}
    (hrefs : refs.Numbered) (h : decidePrepaymentForFinal outcome identity refs = .ok (.inr refs')) :
    refs'.Numbered := by
  unfold decidePrepaymentForFinal at h
  cases outcome with
  | live document =>
    cases h
    exact hrefs
  | absent | reversed | collision | api | credentialsRejected => cases h

omit [Unicode] in
theorem numbered_decideProformaLink {outcome : OwnershipOutcome} {link : ProformaLink}
    {refs refs' : Refs} (hrefs : refs.Numbered)
    (hnumber : ∀ found, outcome = .live found → Text.isBlank found.number = false)
    (h : decideProformaLink outcome link identity refs = .ok (.inr refs')) : refs'.Numbered := by
  unfold decideProformaLink at h
  cases outcome with
  | live document =>
    cases link with
    | none => cases h
    | auto | number _ =>
      cases h
      rintro _ ⟨⟩
      exact hnumber document rfl
  | absent | reversed document =>
    cases h
    exact hrefs
  | collision | api | credentialsRejected => cases h

theorem numbered_decideProformaForExecution {outcome : QueryOutcome} {number : InvoiceNumber}
    {execution : OrderExecution} {refs refs' : Refs}
    (h : decideProformaForExecution outcome number.text order identity execution refs
      = .ok (.inr refs')) : refs'.Numbered := by
  unfold decideProformaForExecution at h
  dsimp only at h
  split_ifs at h
  · cases h
  unfold decideProformaByNumber at h
  cases outcome with
  | found document =>
    dsimp only at h
    split_ifs at h
    · cases h
    · cases h
      rintro _ ⟨⟩
      exact number.isBlank_text
  | notFound | api | credentialsRejected => cases h

variable [Transport] [Clock] [FaultText]

theorem answers_prepaymentForFinal_numbered (exec : Execution) {refs : Refs} (hrefs : refs.Numbered) :
    (exec.prepaymentForFinal order identity refs).Answers fun _ decided =>
      ∀ refs', decided = .inr refs' → refs'.Numbered := by
  refine (Handler.answers_true _).bind fun _ outcome _ => Handler.answers_liftAbout ?_
  rintro _ hdecided refs' rfl
  exact numbered_decidePrepaymentForFinal hrefs hdecided

theorem answers_proformaLink_numbered (exec : Execution) (prepared : Prepared) {refs : Refs}
    (hrefs : refs.Numbered) :
    (exec.proformaLink prepared identity refs).Answers fun _ decided =>
      ∀ refs', decided = .inr refs' → refs'.Numbered := by
  have hslot : (Execution.proformaLink exec prepared identity refs
      = do
        let found ← Handler.lookup "lookup-proforma"
          (.forKind exec.config.namespace prepared.order .proforma) prepared.order .proforma
        Handler.lift ((decideProformaLink found prepared.proforma identity refs).mapError
          (identity.about prepared.order))) →
      (exec.proformaLink prepared identity refs).Answers fun _ decided =>
        ∀ refs', decided = .inr refs' → refs'.Numbered := by
    intro heq
    rw [heq]
    refine (answers_lookup_number _ _ _ _).bind fun _ outcome hnumber =>
      Handler.answers_liftAbout ?_
    rintro _ hdecided refs' rfl
    exact numbered_decideProformaLink hrefs hnumber hdecided
  cases hlink : prepared.proforma with
  | auto => exact hslot (by rw [Execution.proformaLink, hlink])
  | none => exact hslot (by rw [Execution.proformaLink, hlink])
  | number number =>
    rw [Execution.proformaLink, hlink]
    refine (Handler.answers_true _).bind fun _ outcome _ => Handler.answers_lift ?_
    rintro _ hdecided refs' rfl
    exact numbered_decideProformaForExecution hdecided

/-! The references are resolved one after the other. -/

/-- Whatever references a step comes to are numbered. -/
def Handler.Numbers (step : Handler (Contract.CreateResponse ⊕ Refs)) : Prop :=
  step.Answers fun _ decided => ∀ refs, decided = .inr refs → refs.Numbered

omit [FaultText] in
theorem numbers_refs {refs : Refs} (hrefs : refs.Numbered) :
    Handler.Numbers (pure (.inr refs)) :=
  Handler.answers_pure (by rintro _ ⟨⟩; exact hrefs)

omit [FaultText] in
theorem numbers_refusing {step : Handler (Option Contract.CreateResponse)}
    {next : Handler (Contract.CreateResponse ⊕ Refs)} (hnext : next.Numbers) :
    Handler.Numbers (do
      let early ← step
      match early with
      | some response => pure (Sum.inl response)
      | none => next) := by
  refine (Handler.answers_true step).bind fun _ early _ => ?_
  cases early with
  | some response => exact Handler.answers_pure (fun _ h => by cases h)
  | none => exact hnext

omit [FaultText] in
theorem numbers_resolving {step : Handler (Contract.CreateResponse ⊕ Refs)}
    {next : Refs → Handler (Contract.CreateResponse ⊕ Refs)} (hstep : step.Numbers)
    (hnext : ∀ refs : Refs, refs.Numbered → (next refs).Numbers) :
    Handler.Numbers (do
      let decided ← step
      match decided with
      | .inl response => pure (Sum.inl response)
      | .inr refs => next refs) := by
  refine Handler.Answers.bind hstep fun _ decided hdecided => ?_
  cases decided with
  | inl response => exact Handler.answers_pure (fun _ h => by cases h)
  | inr refs => exact hnext refs (hdecided refs rfl)

omit [FaultText] in
theorem numbers_refusingIf {c : Prop} [Decidable c]
    {step : Handler (Option Contract.CreateResponse)}
    {next : Handler (Contract.CreateResponse ⊕ Refs)} (hnext : next.Numbers) :
    Handler.Numbers (if c then do
        let early ← step
        match early with
        | some response => pure (Sum.inl response)
        | none => next
      else do
        let early ← pure none
        match early with
        | some response => pure (Sum.inl response)
        | none => next) := by
  split_ifs <;> exact numbers_refusing hnext

omit [FaultText] in
theorem numbers_resolvingIf {c : Prop} [Decidable c]
    {step : Handler (Contract.CreateResponse ⊕ Refs)} {refs : Refs}
    {next : Refs → Handler (Contract.CreateResponse ⊕ Refs)} (hstep : step.Numbers)
    (hrefs : refs.Numbered) (hnext : ∀ refs : Refs, refs.Numbered → (next refs).Numbers) :
    Handler.Numbers (if c then do
        let decided ← step
        match decided with
        | .inl response => pure (Sum.inl response)
        | .inr refs => next refs
      else do
        let decided ← pure (Sum.inr refs)
        match decided with
        | .inl response => pure (Sum.inl response)
        | .inr refs => next refs) := by
  split_ifs
  · exact numbers_resolving hstep hnext
  · exact numbers_resolving (numbers_refs hrefs) hnext

/-- **The references of a create are numbered.** -/
theorem numbers_references (exec : Execution) (prepared : Prepared) (kind : DocumentKind) :
    (exec.references prepared identity kind).Numbers := by
  unfold Execution.references
  refine numbers_refusing ?_
  refine numbers_resolvingIf (answers_prepaymentForFinal_numbered exec Refs.numbered_empty)
    Refs.numbered_empty fun refs hrefs => ?_
  refine numbers_refusingIf ?_
  refine numbers_resolvingIf (answers_proformaLink_numbered exec prepared hrefs) hrefs
    fun refs hrefs => ?_
  exact numbers_refusingIf (numbers_refs hrefs)

end Proforma

/-! ## The create of an intent -/

section Intents

variable [Unicode] [Transport] [RustDecimal]

/-- A create that was built is of the kind it was asked for. -/
theorem kind_of_build {exec : Execution} {kind : IssuedKind} {document : DocumentInput}
    {order : OrderKey} {externalId : ExternalId} {refs : DocumentRefs} {create : CreateInvoice}
    (h : exec.build kind document order externalId refs = .ok create) :
    invoiceKindOf kind refs = .ok create.kind := by
  unfold Execution.build at h
  obtain ⟨built, hbuilt, h⟩ := Except.bind_eq_ok.mp h
  obtain ⟨_, hvalid, h⟩ := Except.bind_eq_ok.mp h
  obtain rfl : built = create := Except.ok.inj h
  exact Account.kind_of_buildCreate (Except.mapError_eq_ok.mp hbuilt)

/-- A create that was built links the proforma it was given, in XML 1.0 text. -/
theorem proformaNumber_of_build {exec : Execution} {kind : IssuedKind} {document : DocumentInput}
    {order : OrderKey} {externalId : ExternalId} {refs : DocumentRefs} {create : CreateInvoice}
    (h : exec.build kind document order externalId refs = .ok create) {number : String}
    (hnumber : create.kind.proformaNumber = some number) :
    refs.proforma = some number ∧ validateXmlText number = .ok () := by
  have hkind := kind_of_build h
  unfold Execution.build at h
  obtain ⟨built, hbuilt, h⟩ := Except.bind_eq_ok.mp h
  obtain ⟨_, hvalid, h⟩ := Except.bind_eq_ok.mp h
  obtain rfl : built = create := Except.ok.inj h
  refine ⟨?_, CreateInvoice.validateXmlText_proformaNumber (Except.mapError_eq_ok.mp hvalid) hnumber⟩
  unfold invoiceKindOf at hkind
  cases kind with
  | invoice | prepayment =>
    rw [← Except.ok.inj hkind] at hnumber
    exact hnumber
  | proforma =>
    rw [← Except.ok.inj hkind] at hnumber
    cases hnumber
  | final =>
    dsimp only at hkind
    split at hkind
    · rw [← Except.ok.inj hkind] at hnumber
      exact hnumber
    · cases hkind
  | corrective =>
    dsimp only at hkind
    split at hkind
    · rw [← Except.ok.inj hkind] at hnumber
      cases hnumber
    · cases hkind

/-- The request of an intent, past the document it may replace. -/
structure CreateStepRequest.OfIntent (request : CreateStepRequest) (order : OrderKey)
    (intent : Intent) (reversed : Option String) : Prop where
  order : request.order = order
  kind : request.kind = intent.identity.kind
  externalId : request.externalId = intent.identity.externalId
  create : request.create = intent.create
  reversed : request.reversed = reversed
  correctedNumber : request.correctedNumber = intent.correctedNumber

omit [Transport] [RustDecimal] in
/-- A request is for what it was made with. -/
theorem CreateStepRequest.of_new {externalId : ExternalId} {kind : IssuedKind} {order : OrderKey}
    {create : CreateInvoice} {reversed correctedNumber : Option String}
    {request : CreateStepRequest}
    (h : CreateStepRequest.new externalId kind order create reversed correctedNumber = .ok request) :
    request.externalId = externalId ∧ request.kind = kind ∧ request.order = order
      ∧ request.create = create ∧ request.reversed = reversed
      ∧ request.correctedNumber = correctedNumber := by
  unfold CreateStepRequest.new at h
  split at h
  · cases h
    exact ⟨rfl, rfl, rfl, rfl, rfl, rfl⟩
  · cases h

omit [Transport] [RustDecimal] in
theorem CreateStepRequest.ofIntent_of_new {order : OrderKey} {intent : Intent}
    {reversed : Option String} {request : CreateStepRequest}
    (h : CreateStepRequest.new intent.identity.externalId intent.identity.kind order intent.create
      reversed intent.correctedNumber = .ok request) : request.OfIntent order intent reversed := by
  obtain ⟨hid, hkind, horder, hcreate, hreversed, hcorrected⟩ := CreateStepRequest.of_new h
  exact ⟨horder, hkind, hid, hcreate, hreversed, hcorrected⟩

/-- An intent whose numbers are read back: what it links, and what it corrects. -/
structure Intent.Legible (intent : Intent) : Prop where
  proforma : ∀ n ∈ intent.create.kind.proformaNumber, (ProviderDocumentNumber.parse n).isSome = true
  base : intent.identity.kind = .corrective → intent.reissue = none
    ∧ ∃ number : InvoiceNumber, intent.correctedNumber = some number.text

omit [Transport] [RustDecimal] in
/-- **The request of a legible intent is legible**, if it goes past no other document than
the one the reissue names. -/
theorem Intent.Legible.request {intent : Intent} (h : intent.Legible) {order : OrderKey}
    {reversed : Option String} {request : CreateStepRequest}
    (hrequest : request.OfIntent order intent reversed)
    (hpast : ∀ number, reversed = some number →
      ∃ reissue, intent.reissue = some reissue ∧ number = reissue.expectedNumber.text) :
    request.Legible where
  reversed n hn := by
    rw [hrequest.reversed] at hn
    obtain ⟨reissue, -, rfl⟩ := hpast n hn
    exact ⟨reissue.expectedNumber, rfl⟩
  proforma n hn := by
    rw [CreateStepRequest.proformaNumber, hrequest.create] at hn
    exact h.proforma n hn
  base hkind := by
    rw [hrequest.kind] at hkind
    obtain ⟨hreissue, hbase⟩ := h.base hkind
    rw [hrequest.reversed, hrequest.correctedNumber]
    refine ⟨?_, hbase⟩
    cases reversed with
    | none => rfl
    | some number =>
      obtain ⟨reissue, heq, -⟩ := hpast number rfl
      rw [hreissue] at heq
      cases heq

/-- The intent of one of the four creates. -/
theorem Intent.legible_of_kind {exec : Execution} {kind : DocumentKind} {document : DocumentInput}
    {order : OrderKey} {externalId : ExternalId} {refs : Refs} {intent : Intent}
    (hcreate : exec.build kind.issued document order externalId
      { proforma := refs.proforma, prepayment := refs.prepayment } = .ok intent.create)
    (hrefs : refs.Numbered) (hkind : intent.identity.kind = kind.issued) : intent.Legible where
  proforma n hn := by
    obtain ⟨hproforma, htext⟩ := proformaNumber_of_build hcreate hn
    exact ProviderDocumentNumber.isSome_parse.mpr ⟨hrefs n hproforma, htext⟩
  base hcorrective := by
    rw [hkind] at hcorrective
    cases kind <;> cases hcorrective

/-- The intent of a correction. -/
theorem Intent.legible_of_correction {exec : Execution} {kind : IssuedKind}
    {document : DocumentInput} {order : OrderKey} {externalId : ExternalId} {number : InvoiceNumber}
    {intent : Intent} (hcreate : exec.build kind document order externalId
      { corrected := some number.text } = .ok intent.create)
    (hreissue : intent.reissue = none) (hbase : intent.correctedNumber = some number.text) :
    intent.Legible where
  proforma n hn := by
    obtain ⟨hproforma, -⟩ := proformaNumber_of_build hcreate hn
    cases hproforma
  base _ := ⟨hreissue, number, hbase⟩

end Intents

end Szamlazz
