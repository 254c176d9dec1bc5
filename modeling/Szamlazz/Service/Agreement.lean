import Szamlazz.Service.FrozenReads
import Szamlazz.Service.OrderRuns

/-!
# Admission agrees with the armed write

The rules of an order are written twice: once where a handler decides to store a marker, and
once more, in each execution mode, where the write behind the marker decides to send. Where
they disagreed a marker would be stored that its own guards never settle. On a vendor that
stands still they agree: a handler that comes to store a marker has a write behind it that
sends (`admission_agrees_with_write`).
-/

namespace Szamlazz

open Durable

section Orders

variable [Unicode] [Transport] [Clock] [FaultText] {v : FrozenVendor}

/-! ## The deletion -/

/-- What the selection of a deletion shows of the proforma it selected. -/
structure SelectedBy (v : FrozenVendor) (order : OrderKey) (proformaId : ExternalId)
    (request : DeleteProformaRequest) (found : FoundDocument) : Prop where
  permitted : PermitsDeletion found order request.force (v.shows (.invoiceNumber found.number))
  holder : request.mode = .namespaceOwned →
    HoldsPinned found order (v.shows (.externalId proformaId.text))

omit [Unicode] [Transport] [Clock] [FaultText] in
/-- A proforma that passes is unpaid, or its deletion forced. -/
theorem unpaid_of_paidGuard {found found' : FoundDocument} {force : Bool}
    (h : paidGuard found force = .inr found') : force = true ∨ found.creditEntries = [] := by
  unfold paidGuard at h
  split_ifs at h with hpaid
  simp only [Bool.and_eq_true, Bool.not_eq_true', not_and, List.isEmpty_eq_false_iff,
    Bool.not_eq_false] at hpaid
  by_cases hentries : found.creditEntries = []
  · exact Or.inr hentries
  · exact Or.inl (hpaid hentries)

omit [Transport] [Clock] [FaultText] in
/-- **What an owned deletion goes on with** holds the slot, and is unpaid or forced. -/
theorem holder_of_decideOwnedDeletion {r : Except QueryError FoundDocument} {order : OrderKey}
    {outcome : OwnershipOutcome} {request : DeleteProformaRequest} {found : FoundDocument}
    (howned : ownership (classifySeen order .proforma r) = .ok outcome)
    (h : decideOwnedDeletion outcome request = .ok (.inr found)) :
    HoldsPinned found order r ∧ (request.force = true ∨ found.creditEntries = []) := by
  obtain ⟨hlive, hreversed, -⟩ := ownership_cases howned
  unfold decideOwnedDeletion at h
  dsimp only at h
  split_ifs at h
  · cases h
  unfold deleteGuard at h
  cases outcome with
  | live document =>
    have hguard := Except.ok.inj h
    obtain rfl := paidGuard_eq_inr hguard
    obtain ⟨hr, hours, -⟩ := hlive _ rfl
    exact ⟨⟨hr, hours⟩, unpaid_of_paidGuard hguard⟩
  | reversed document =>
    have hguard := Except.ok.inj h
    obtain rfl := paidGuard_eq_inr hguard
    obtain ⟨hr, hours, -⟩ := hreversed _ rfl
    exact ⟨⟨hr, hours⟩, unpaid_of_paidGuard hguard⟩
  | absent | collision | api | credentialsRejected => cases h

omit [Transport] [Clock] [FaultText] in
/-- What a deletion by number goes on with is the order's proforma. -/
theorem ours_of_namedDeleteGuard {outcome : QueryOutcome} {order : OrderKey} {force : Bool}
    {found : FoundDocument} (h : namedDeleteGuard outcome order force = .ok (.inr found)) :
    found.isOurs order .proforma = true ∧ (force = true ∨ found.creditEntries = []) := by
  unfold namedDeleteGuard at h
  cases outcome with
  | found document =>
    dsimp only at h
    split_ifs at h with hours
    · cases h
    · have hguard := Except.ok.inj h
      obtain rfl := paidGuard_eq_inr hguard
      exact ⟨by simpa using hours, unpaid_of_paidGuard hguard⟩
  | notFound | api | credentialsRejected => cases h

/-- **What the selection learns**, by slot or by number. -/
theorem learns_selectDeletion (order : OrderKey) (proformaId : ExternalId)
    (request : DeleteProformaRequest) :
    (Execution.selectDeletion order proformaId request).Learns v fun selected =>
      ∀ found, selected = .inr found → SelectedBy v order proformaId request found := by
  unfold Execution.selectDeletion
  cases hmode : request.mode with
  | namespaceOwned =>
    refine (learns_lookup _ _ _ _).bind fun outcome howned => Handler.learns_lift ?_
    rintro _ hselected found rfl
    obtain ⟨hholder, hunpaid⟩ :=
      holder_of_decideOwnedDeletion howned (Except.mapError_eq_ok.mp hselected)
    exact ⟨⟨found, FrozenVendor.shows_number hholder.1, rfl, rfl, hholder.2, hunpaid⟩,
      fun _ => hholder⟩
  | namedTarget =>
    refine (learns_verify _ _).mapFault.bind fun outcome hfound => Handler.learns_lift ?_
    rintro _ hselected found rfl
    have hselected := Except.mapError_eq_ok.mp hselected
    obtain ⟨hours, hunpaid⟩ := ours_of_namedDeleteGuard hselected
    have hshown := hfound found (eq_of_namedDeleteGuard hselected)
    exact ⟨⟨found, FrozenVendor.shows_number hshown, rfl, rfl, hours, hunpaid⟩,
      fun hother => by rw [hmode] at hother; cases hother⟩

omit [FaultText] in
theorem agrees_deleteReplayEnabled {exec : Execution} {ctx : Context} {order : OrderKey}
    {proformaId : ExternalId} {request : DeleteProformaRequest} {found : FoundDocument}
    (h : SelectedBy v order proformaId request found) :
    (exec.deleteReplayEnabled ctx order proformaId found request).Agrees v := by
  unfold Execution.deleteReplayEnabled
  refine agrees_replayEnabledWrite fun time => ?_
  refine FrozenVendor.sends_deleteReplayEnabled ?_ h.holder h.permitted
  simp only [retainsDelete, Execution.writeMarker, decide_true, Bool.and_self]

/-- **A deletion agrees with its write.** -/
theorem agrees_delete (exec : Execution) (ctx : Context) (order : OrderKey)
    (request : DeleteProformaRequest) : (exec.delete ctx order request).Agrees v := by
  unfold Execution.delete
  refine (learns_selectDeletion _ _ _).agrees (onlyReads_selectDeletion _ _ _).storesNothing
    fun selected hselected => ?_
  cases selected with
  | inl response => exact Handler.agrees_of_storesNothing trivial
  | inr found =>
    have hpermitted := hselected found rfl
    dsimp only
    split_ifs
    · exact (agrees_deleteReplayEnabled hpermitted).bind fun _ =>
        (Handler.onlyReads_lift _).storesNothing
    · refine Handler.Agrees.bind (agrees_protectedWrite fun time => ?_) fun _ =>
        (Handler.onlyReads_lift _).storesNothing
      exact (FrozenVendor.sends_deleteProforma hpermitted.permitted).map _

/-! ## The reversal -/

omit [Transport] [Clock] [FaultText] in
/-- An original that is gone on with is a live invoice of the order that a reversal exists
for. -/
theorem permitted_of_stornoVerdict {found : FoundDocument} {order : OrderKey} {number : String}
    (h : stornoVerdict found order number = .proceed) :
    found.carriesOrder order = true ∧ found.isLive = true ∧ found.isStornoable = true := by
  unfold stornoVerdict at h
  split_ifs at h with hcarries hlive hstornoable
  simp only [Bool.not_eq_true', Bool.not_eq_false] at hcarries hlive hstornoable
  exact ⟨hcarries, hlive, hstornoable⟩

/-- The verification learns the original. -/
theorem learns_verifyForStorno (order : OrderKey) (number : String) (stornoId : ExternalId) :
    (Handler.verifyForStorno order number stornoId).Learns v fun verified =>
      ∀ found, verified = .inr found → v.shows (.invoiceNumber number) = .ok found
        ∧ stornoVerdict found order number = .proceed := by
  unfold Handler.verifyForStorno
  refine (learns_verify _ _).mapFault.bind fun outcome hfound => ?_
  refine (Handler.learns_lift (Q := fun found => v.shows (.invoiceNumber number) = .ok found)
    fun found hverified => ?_).bind fun found hshown => ?_
  · have hverified := Except.mapError_eq_ok.mp hverified
    cases outcome with
    | found document =>
      obtain rfl := Except.ok.inj hverified
      exact hfound _ rfl
    | notFound | api | credentialsRejected => cases hverified
  · cases hverdict : stornoVerdict found order number with
    | proceed =>
      refine Handler.learns_pure ?_
      rintro _ ⟨⟩
      exact ⟨hshown, hverdict⟩
    | answered response => exact Handler.learns_pure fun _ h => by cases h
    | alreadyReversed =>
      exact (Handler.learns_true _).bind fun _ _ => Handler.learns_pure fun _ h => by cases h

/-- The lookup of the reversal learns that its slot is vacant. -/
theorem learns_lookupOrderStorno (name : String) (stornoId : ExternalId) (order : OrderKey)
    (number : String) :
    (runReading name (lookupOrderStorno stornoId order number)).Learns v fun outcome =>
      outcome = .absent → v.shows (.externalId stornoId.text) = .error .notFound := by
  refine answers_runReading ?_
  unfold lookupOrderStorno
  refine (lookupOrderStornoChecked_spec stornoId order number).bind ?_
  rintro tr checked ⟨-, habsent, -⟩
  split
  · rename_i outcome
    refine Prog.ensures_ret.mpr ?_
    rintro _ ⟨⟩ htells rfl
    obtain ⟨answer, rfl, hmiss⟩ := habsent rfl
    obtain rfl : answer = v.answer (.externalId stornoId.text) := htells _ List.mem_cons_self
    exact hmiss
  · split
    all_goals
      refine Prog.ensures_ret.mpr ?_
      rintro _ ⟨⟩ - ⟨⟩

omit [Unicode] [Transport] [Clock] [FaultText] in
theorem afterStornoLookup_eq_none {outcome : StornoLookupOutcome} {number : String}
    (h : afterStornoLookup outcome number = .ok none) : outcome = .absent := by
  cases outcome with
  | absent => rfl
  | alreadyReversed | credentialsRejected | api => cases h

omit [FaultText] in
theorem agrees_stornoReplayEnabled {exec : Execution} {ctx : Context} {order : OrderKey}
    {request : StornoStepRequest} {found : FoundDocument}
    (hfree : v.shows (.externalId request.externalId.text) = .error .notFound)
    (hpinned : PermitsReversal found request order
      (v.shows (.invoiceNumber request.invoiceNumber))) :
    (exec.stornoReplayEnabled ctx order request found).Agrees v := by
  unfold Execution.stornoReplayEnabled
  refine agrees_replayEnabledWrite fun time => ?_
  refine FrozenVendor.sends_stornoReplayEnabled ?_ hfree hpinned
  simp only [retainsStorno, Execution.writeMarker, decide_true, Bool.and_self]

/-- **A reversal agrees with its write.** -/
theorem agrees_storno (exec : Execution) (ctx : Context) (order : OrderKey)
    (request : StornoRequest) : (exec.storno ctx order request).Agrees v := by
  unfold Execution.storno
  refine (learns_verifyForStorno _ _ _).agrees (onlyReads_verifyForStorno _ _ _).storesNothing
    fun verified hverified => ?_
  cases verified with
  | inl response => exact Handler.agrees_of_storesNothing trivial
  | inr found =>
    obtain ⟨hshown, hverdict⟩ := hverified found rfl
    obtain ⟨hcarries, hlive, hstornoable⟩ := permitted_of_stornoVerdict hverdict
    refine Handler.agrees_lift_bind fun intent hintent => ?_
    have hintent := Except.mapError_eq_ok.mp hintent
    obtain ⟨hnumber, hid, hdate⟩ := StornoIntent.of_fromVerified hintent
    rw [← hnumber] at hshown
    have hpinned : PermitsReversal found intent.asStepRequest order
        (v.shows (.invoiceNumber intent.number)) :=
      ⟨hshown, hcarries, hstornoable, hlive, hdate⟩
    refine (learns_lookupOrderStorno _ _ _ _).mapFault.agrees ((onlyReads_runReading _
      (readingCall_lookupOrderStorno _ _ _)).mapFault _).storesNothing fun looked hfree => ?_
    refine Handler.agrees_lift_bind fun settled hsettled => ?_
    cases settled with
    | some response => exact Handler.agrees_of_storesNothing trivial
    | none =>
      have hfree := hfree (afterStornoLookup_eq_none (Except.mapError_eq_ok.mp hsettled))
      dsimp only
      split_ifs
      · exact (agrees_stornoReplayEnabled hfree hpinned).bind fun _ =>
          (Handler.onlyReads_lift _).storesNothing
      · refine Handler.Agrees.bind (agrees_protectedWrite fun time => ?_) fun _ =>
          (Handler.onlyReads_lift _).storesNothing
        exact FrozenVendor.sends_protectedStorno (congrArg WriteOperation.storno hnumber.symm) hfree

end Orders

/-! ## The creates -/

section Issue

variable [Unicode] [Transport] [Clock] [FaultText] [RustDecimal] {v : FrozenVendor}
  {ns : Namespace} {order : OrderKey} {kind : DocumentKind} {refs : Refs}
  {request : CreateStepRequest}

omit [FaultText] [RustDecimal] [Transport] [Clock] in
theorem parse_namespaceText (ns : Namespace) (order : OrderKey) (kind : DocumentKind) :
    Namespace.parse (ExternalId.forKind ns order kind).namespaceText = .ok ns := by
  have htext := Composition.namespaceText_externalId (.kind ns order kind)
  rw [Composition.externalId, Composition.namespace] at htext
  rw [htext, ns.parse_text]

omit [FaultText] [RustDecimal] in
/-- The write of a create that a replay-enabled worker makes. -/
theorem agrees_createReplayEnabled {exec : Execution} {ctx : Context}
    (hid : request.externalId = .forKind ns request.order kind) (hkind : request.kind = kind.issued)
    (hfinal : request.kind = .final → request.prepaymentNumber ≠ none)
    (hsend : PermitsSend request (v.shows (.externalId request.externalId.text)))
    (h : v.Passes ns request) : (exec.createReplayEnabled ctx request).Agrees v := by
  unfold Execution.createReplayEnabled
  have hcorrective : request.kind ≠ .corrective := by
    rw [hkind]
    cases kind <;> simp [DocumentKind.issued]
  split
  · exact Handler.agrees_of_storesNothing trivial
  · rename_i contract hcontract
    refine agrees_replayEnabledWrite fun time => ?_
    dsimp only
    rw [if_neg (by simp [Execution.writeMarker])]
    refine FrozenVendor.sends_createReplayEnabled (by simp [hcontract])
      (CreateStepRequest.correctedNumber_eq_none hcorrective) ?_ hfinal hsend h
    rw [hid]
    exact parse_namespaceText ns request.order kind

omit [FaultText] [RustDecimal] in
/-- A create step agrees with its write, in each mode, where what the lookup saw permits it.
-/
theorem agrees_createStep {exec : Execution} {ctx : Context} {intent : Intent}
    {reversed : Option String}
    (hprotected : exec.config.orderExecution.permitsReplay = false →
      ∀ request : CreateStepRequest, request.OfIntent order intent reversed →
        PermitsSend request (v.shows (.externalId request.externalId.text)))
    (hreplay : exec.config.orderExecution.permitsReplay = true →
      ∀ request : CreateStepRequest, request.OfIntent order intent reversed →
        (exec.createReplayEnabled ctx request).Agrees v) :
    (exec.createStep ctx order intent reversed).Agrees v := by
  unfold Execution.createStep
  refine Handler.agrees_lift_bind fun request hrequest => ?_
  have hintent := CreateStepRequest.ofIntent_of_new (Except.mapError_eq_ok.mp hrequest)
  split_ifs with hmode
  · refine (hreplay hmode request hintent).bind fun result => ?_
    cases result <;> trivial
  · rw [Bool.not_eq_true] at hmode
    refine Handler.Agrees.bind (agrees_protectedWrite fun time => ?_) fun result => ?_
    · exact FrozenVendor.sends_protectedCreate (hprotected hmode request hintent)
    · cases result <;> trivial

/-- **An intent is issued as its lookup let it**: what the write reads is what the lookup
saw. -/
theorem agrees_issue {exec : Execution} {ctx : Context} {intent : Intent}
    (hwrite : ∀ reversed (request : CreateStepRequest), request.OfIntent order intent reversed →
      exec.config.orderExecution.permitsReplay = true →
      GoesPast v (intent.looksFor order) true reversed →
        (exec.createReplayEnabled ctx request).Agrees v) :
    (exec.issue ctx order intent).Agrees v := by
  unfold Execution.issue
  refine (learns_lookupStep exec order intent).mapFault.agrees
    ((onlyReads_lookupStep exec intent).mapFault _).storesNothing fun outcome hlooked => ?_
  refine Handler.agrees_lift_bind fun decided hdecided => ?_
  cases decided with
  | inl response => exact Handler.agrees_of_storesNothing trivial
  | inr reversed =>
    have hdecided := decideLookup_of_execution (Except.mapError_eq_ok.mp hdecided)
    have hpast : GoesPast v (intent.looksFor order) exec.config.orderExecution.permitsReplay
          reversed
        ∧ (exec.config.orderExecution.permitsReplay = false →
          ∀ found, v.shows (.externalId intent.identity.externalId.text) = .ok found →
            matchesCreateBase found intent.identity.kind intent.correctedNumber = true) := by
      rcases decideLookup_eq_inr hdecided with ⟨rfl, rfl⟩ | ⟨document, stornoNumber, rfl, rfl⟩
      · refine ⟨Or.inl ⟨rfl, hlooked.1⟩, fun _ found hfound => ?_⟩
        have hmiss : v.shows (.externalId intent.identity.externalId.text) = .error .notFound :=
          hlooked.1.1
        rw [hmiss] at hfound
        cases hfound
      · refine ⟨Or.inr ⟨document, rfl, hlooked.1⟩, fun hmode found hfound => ?_⟩
        have hshown : v.shows (.externalId intent.identity.externalId.text) = .ok document :=
          hlooked.1.1
        obtain rfl : document = found := Except.ok.inj (hshown.symm.trans hfound)
        exact hlooked.2 hmode
    obtain ⟨hpast, hbase⟩ := hpast
    refine (agrees_createStep (fun hmode request hrequest => ?_)
      fun hmode request hrequest => ?_).bind fun _ => (Handler.onlyReads_lift _).storesNothing
    · refine (hrequest.reversed ▸ hpast).permitsSend hrequest.externalId.symm hrequest.order.symm
        hrequest.kind.symm ?_
      rw [hrequest.externalId, hrequest.kind, hrequest.correctedNumber]
      exact hbase hmode
    · rw [hmode] at hpast
      exact hwrite reversed request hrequest hmode hpast

end Issue

/-! ## The handlers -/

section Orders

variable [Unicode] [Transport] [Clock] [FaultText] [RustDecimal] {v : FrozenVendor}

omit [Clock] [FaultText] in
/-- A create is built with the references it was given. -/
theorem numbers_of_build {exec : Execution} {kind : DocumentKind} {document : DocumentInput}
    {order : OrderKey} {externalId : ExternalId} {refs : Refs} {create : CreateInvoice}
    (h : exec.build kind.issued document order externalId
      { proforma := refs.proforma, prepayment := refs.prepayment } = .ok create)
    (hproforma : kind = .proforma → refs.proforma = none)
    (hprepayment : kind ≠ .final → refs.prepayment = none) {request : CreateStepRequest}
    (hcreate : request.create = create) : request.proformaNumber = refs.proforma
      ∧ request.prepaymentNumber = refs.prepayment
      ∧ (kind = .final → request.prepaymentNumber ≠ none) := by
  have hkind : invoiceKindOf kind.issued
      { proforma := refs.proforma, prepayment := refs.prepayment } = .ok create.kind :=
    kind_of_build h
  rw [CreateStepRequest.proformaNumber, CreateStepRequest.prepaymentNumber, hcreate]
  cases kind with
  | invoice | prepayment =>
    rw [← Except.ok.inj hkind, hprepayment (by simp)]
    exact ⟨rfl, rfl, fun h => by cases h⟩
  | proforma =>
    rw [← Except.ok.inj hkind, hprepayment (by simp), hproforma rfl]
    exact ⟨rfl, rfl, fun h => by cases h⟩
  | final =>
    cases hprepaid : refs.prepayment with
    | none =>
      simp only [invoiceKindOf, DocumentKind.issued, hprepaid] at hkind
      cases hkind
    | some number =>
      simp only [invoiceKindOf, DocumentKind.issued, hprepaid] at hkind
      rw [← Except.ok.inj hkind]
      exact ⟨rfl, rfl, fun _ h => by cases h⟩

/-- **The four creates agree with their write.** -/
theorem agrees_issueKind (exec : Execution) (ctx : Context) (order : OrderKey) (kind : DocumentKind)
    (request : CreateRequest) : (exec.issueKind ctx order kind request).Agrees v := by
  unfold Execution.issueKind
  refine Handler.agrees_lift_bind fun prepared hprepared => ?_
  have horder : prepared.order = order := Execution.order_of_prepare hprepared
  refine (Handler.learns_true _).agrees (onlyReads_existingTarget _).storesNothing
    fun existing _ => ?_
  cases existing with
  | some response => exact Handler.agrees_of_storesNothing trivial
  | none =>
  -- What the references resolved matters to a replay-enabled write only.
  have hlearns : (exec.references prepared (Identity.ofKind exec.config.namespace order kind)
      kind).Learns v fun referred => exec.config.orderExecution.permitsReplay = true →
        ∀ refs, referred = .inr refs →
          Resolved v exec.config.namespace prepared.order kind refs := by
    cases hmode : exec.config.orderExecution.permitsReplay with
    | true => exact (learns_references hmode prepared kind).mono fun _ _ h htells _ => h htells
    | false => exact (Handler.learns_true (v := v) _).mono fun _ _ _ _ h => by cases h
  refine hlearns.agrees (onlyReads_references exec prepared kind).storesNothing
    fun referred hreferred => ?_
  cases referred with
  | inl response => exact Handler.agrees_of_storesNothing trivial
  | inr refs =>
  refine Handler.agrees_lift_bind fun create hcreate => ?_
  refine agrees_issue fun reversed request hrequest hmode hpast => ?_
  have hresolved := hreferred hmode refs rfl
  rw [horder] at hresolved
  obtain ⟨hproforma, hprepayment, hfinal⟩ := numbers_of_build hcreate hresolved.unlinked
    hresolved.unprepaid hrequest.create
  have hkind : request.kind = kind.issued := hrequest.kind
  have hid : request.externalId = .forKind exec.config.namespace request.order kind := by
    rw [hrequest.externalId, hrequest.order]
    rfl
  have hcorrective : request.kind ≠ .corrective := by
    rw [hkind]
    cases kind <;> simp [DocumentKind.issued]
  have hsend : PermitsSend request (v.shows (.externalId request.externalId.text)) := by
    refine (hrequest.reversed ▸ hpast).permitsSend hrequest.externalId.symm hrequest.order.symm
      hrequest.kind.symm fun found _ => ?_
    rw [CreateStepRequest.correctedNumber_eq_none hcorrective]
    exact matchesCreateBase_none hcorrective
  refine agrees_createReplayEnabled hid hkind (fun h => hfinal ?_) hsend
    (hresolved.passes hrequest.order hkind hproforma hprepayment rfl rfl rfl hpast)
  rw [hkind] at h
  cases kind with
  | final => rfl
  | invoice | prepayment | proforma => cases h

/-- **A correction agrees with its write**, which a protected worker alone makes. -/
theorem agrees_correct (exec : Execution) (ctx : Context) (order : OrderKey)
    (request : CorrectRequest) (hprotected : exec.config.orderExecution.permitsReplay = false) :
    (exec.correct ctx order request).Agrees v := by
  unfold Execution.correct
  refine Handler.agrees_lift_bind fun _ _ => ?_
  refine (Handler.learns_true _).agrees (onlyReads_existingTarget _).storesNothing
    fun existing _ => ?_
  cases existing with
  | some response => exact Handler.agrees_of_storesNothing trivial
  | none =>
  refine (Handler.learns_true _).agrees ((onlyReads_verify _ _).mapFault _).storesNothing
    fun outcome _ => ?_
  refine Handler.agrees_lift_bind fun found _ => ?_
  refine Handler.agrees_lift_bind fun refused _ => ?_
  cases refused with
  | some response => exact Handler.agrees_of_storesNothing trivial
  | none =>
  refine Handler.agrees_lift_bind fun create _ => ?_
  refine agrees_issue fun reversed create _ hreplay _ => ?_
  rw [hprotected] at hreplay
  cases hreplay

omit [FaultText] [RustDecimal] in
/-- What every handler of an order begins with. -/
theorem agrees_opened {α β : Type} {config : WorkerConfig} {ctx : Context} {body : Body α}
    {next : Execution → OrderKey → α → Handler β}
    (h : ∀ exec order request, exec.config = config → (next exec order request).Agrees v) :
    Handler.Agrees v (do
      let request ← Handler.lift body.intoRequest
      let order ← Handler.lift (orderKey ctx.key)
      guard
      let exec ← runPrologue ctx config
      next exec order request) := by
  refine Handler.agrees_lift_bind fun request _ => Handler.agrees_lift_bind fun order _ => ?_
  have hguard : guard.StoresNothing := by
    intro stored
    cases stored with
    | error error => trivial
    | ok stored => cases stored <;> trivial
  refine (Handler.learns_true _).agrees hguard fun _ _ => ?_
  have hprologue : (runPrologue ctx config).Learns v fun exec => exec.config = config :=
    (answers_runPrologue ctx config).mono fun _ _ h _ => h.2
  exact hprologue.agrees (onlyReads_runPrologue ctx config).storesNothing fun exec hexec =>
    h exec order request hexec

omit [RustDecimal] in
/-- A recovery stores nothing. -/
theorem storesNothing_recover (ctx : Context) (body : Body RecoveryBody) :
    (Order.recover ctx body).StoresNothing := by
  have hlift : ∀ {α : Type} (result : Except Fault α), (Handler.lift result).StoresNothing :=
    fun result => (Handler.onlyReads_lift result).storesNothing
  have hstored : Handler.stored.StoresNothing := fun stored => by
    cases stored <;> trivial
  have hevidence : ∀ marker evidence, (verifyEvidence marker evidence).StoresNothing := by
    intro marker evidence
    cases evidence with
    | document number => exact (Handler.storesNothing_run _ _ _).bind fun _ => hlift _
    | notExecuted | completed => trivial
  unfold Order.recover recoverMarker
  refine (hlift _).bind fun recovery => hstored.bind fun stored => (hlift _).bind fun marker =>
    (hlift _).bind fun _ => (hlift _).bind fun _ => (hevidence _ _).bind fun _ => ?_
  exact (Handler.storesNothing_run _ _ _).bind fun _ => trivial

/-- **Admission agrees with the armed write.** A handler of an order that comes to store a
marker on what a frozen vendor answers has a write run behind it that the vendor is sent: its
fresh query and guards pass, and it makes one request for a change. A write run the vendor
would refuse is not come to on its answers; the handler answers before. -/
theorem admission_agrees_with_write (config : WorkerConfig) (ctx : Context) (request : OrderRequest)
    (v : FrozenVendor) {t : List (Exchange (Act.Ans ServiceRequest.Answer))}
    {marker : UnresolvedWrite} {next : HandlerFlow (Except HandlerError OrderAnswer)}
    (hreaches : (ExceptT.run (request.handler config ctx)).Reaches t (.set marker next)) :
    ((∀ e ∈ agentExchanges t, v.Tells e) → v.SendsBehind next)
      ∧ (v.RefusesBehind next → ¬ ∀ e ∈ agentExchanges t, v.Tells e) := by
  suffices h : (request.handler config ctx).Agrees v from
    ⟨h t marker next hreaches, fun hrefuses htells =>
      (h t marker next hreaches htells).not_refuses hrefuses⟩
  cases request with
  | create kind body =>
    refine Handler.Agrees.bind ?_ fun _ => trivial
    exact agrees_opened fun exec order request _ => agrees_issueKind exec ctx order kind request
  | correct body =>
    refine Handler.Agrees.bind ?_ fun _ => trivial
    unfold correctInvoice
    split_ifs with hreplay
    · exact Handler.agrees_of_storesNothing trivial
    · refine agrees_opened fun exec order request hexec => ?_
      refine agrees_correct exec ctx order request ?_
      rw [hexec]
      simpa using hreplay
  | storno body =>
    refine Handler.Agrees.bind ?_ fun _ => trivial
    exact agrees_opened fun exec order request _ => agrees_storno exec ctx order request
  | deleteProforma body =>
    refine Handler.Agrees.bind ?_ fun _ => trivial
    exact agrees_opened fun exec order request _ => agrees_delete exec ctx order request
  | recover body =>
    refine Handler.Agrees.bind ?_ fun _ => trivial
    exact Handler.agrees_of_storesNothing (storesNothing_recover ctx body)

end Orders

/-! ## A deletion that is sent -/

section ComesTo

variable [Unicode] [Transport] [Clock]

/-- The handler can come to `flow`, its recorded attempts having exchanged `tr`. -/
def Handler.ComesTo {α : Type} (handler : Handler α) (tr : List (Exchange AgentRequest.Answer))
    (flow : HandlerFlow (Except HandlerError α)) : Prop :=
  ∃ t, (ExceptT.run handler).Reaches t flow ∧ agentExchanges t = tr

/-- What was answered is gone on from. -/
theorem Handler.Returns.comesTo {α β : Type} {handler : Handler α} {next : α → Handler β}
    {tr tr' : List (Exchange AgentRequest.Answer)} {a : α}
    {flow : HandlerFlow (Except HandlerError β)} (h : handler.Returns tr a)
    (h' : (next a).ComesTo tr' flow) : (handler >>= next).ComesTo (tr ++ tr') flow := by
  obtain ⟨t, hr, rfl⟩ := h
  obtain ⟨t', hr', rfl⟩ := h'
  exact ⟨t ++ t', (Flow.Reaches.bind hr _).trans hr', agentExchanges_append t t'⟩

/-- What follows does not matter to a marker that is stored before it. -/
theorem Handler.ComesTo.bind {α β : Type} {handler : Handler α}
    {tr : List (Exchange AgentRequest.Answer)} {marker : UnresolvedWrite}
    (h : ∃ flow, handler.ComesTo tr (.set marker flow)) (next : α → Handler β) :
    ∃ flow, (handler >>= next).ComesTo tr (.set marker flow) := by
  obtain ⟨flow, t, hr, heq⟩ := h
  exact ⟨_, t, Flow.Reaches.bind hr _, heq⟩

/-- A replay-enabled write comes to store its intent, prepared at some time. -/
theorem comesTo_replayEnabledWrite {order : OrderKey} {externalId : ExternalId}
    {operation : ReplayWrite} {write : UnresolvedWrite → Call WriteResult} (intent : ReplayIntent)
    (time : Clock.Timestamp) :
    ∃ next, (replayEnabledWrite order externalId intent.marker operation write).ComesTo []
      (.set (intent.preparedAt (Clock.display time)).marker next) := by
  have hintent : ReplayIntent.new intent.marker = .ok intent :=
    dif_pos ⟨intent.contract, intent.valid⟩
  have hprepare : Prog.Runs (prepareIntentClosure intent) [⟨.ask .now, time⟩]
      (.done (intent.preparedAt (Clock.display time))) :=
    Prog.runs_call.mpr ⟨time, [], rfl, Prog.runs_ret.mpr ⟨rfl, rfl⟩⟩
  exact ⟨_, (Handler.returns_lift (by rw [hintent]; rfl)).comesTo
    ((Handler.returns_run hprepare).comesTo ⟨[], .refl _, rfl⟩)⟩

/-- So does a replay-enabled deletion. -/
theorem comesTo_deleteReplayEnabled (exec : Execution) (ctx : Context) (order : OrderKey)
    (externalId : ExternalId) (found : FoundDocument) (request : DeleteProformaRequest)
    (time : Clock.Timestamp) : ∃ marker next,
      (exec.deleteReplayEnabled ctx order externalId found request).ComesTo []
        (.set marker next) := by
  unfold Execution.deleteReplayEnabled
  exact ⟨_, comesTo_replayEnabledWrite ⟨{ exec.writeMarker ctx order externalId
    (.delete found.number) with executionContract := some (.forDelete request found.documentId) },
      rfl, rfl⟩ time⟩

end ComesTo

section Sample

local instance agreedUnicode : Unicode := sampleUnicode

local instance agreedTransport : Transport := sampleTransport

local instance agreedClock : Clock := observedClock

local instance agreedFaultText : FaultText := observedFaultText

local instance agreedDecimal : RustDecimal := RustDecimal.exact

/-- A vendor whose only document is the proforma `D-1`, in its slot. -/
def proformaVendor : FrozenVendor where
  answer selector :=
    if selector = .invoiceNumber "D-1" ∨ selector = .externalId deletionSlot.text then
      .ok deletedDocument
    else .error (.api ⟨.missingData, ""⟩)
  answered selector := by
    split_ifs with h
    · rcases h with rfl | rfl
      · exact Or.inr ⟨deletedFound, by decide +kernel⟩
      · exact Or.inr ⟨deletedFound, by decide +kernel⟩
    · exact Or.inl rfl
  agree selector found hfound := by
    have hshown : ∀ selector', selector' = .invoiceNumber "D-1"
        ∨ selector' = .externalId deletionSlot.text →
          queryAnswer selector' (.ok deletedDocument) = .ok deletedFound := by
      rintro _ (rfl | rfl) <;> decide +kernel
    split_ifs at hfound with h
    · rw [hshown selector h] at hfound
      obtain rfl := Except.ok.inj hfound
      have hnumber : deletedFound.number = "D-1" := rfl
      rw [hnumber, if_pos (Or.inl rfl)]
      exact hshown _ (Or.inl rfl)
    · cases hfound

/-- The settings of a replay-enabled worker. -/
def replayedConfig : WorkerConfig :=
  { correctedConfig with orderExecution := .replayEnabled }

/-- The selection finds the proforma by its number. -/
theorem returns_selectDeletion : (Execution.selectDeletion correctedOrder deletionSlot
    deletionRequest).Returns [⟨.query (.invoiceNumber "D-1"), .ok deletedDocument⟩]
      (.inr deletedFound) := by
  have hread : Prog.Runs (readingClosure (verify "D-1"))
      [⟨.ask .gateway, (.ok () : Except Fault Unit)⟩,
        ⟨.ask (.agent (.query (.invoiceNumber "D-1"))),
          (.ok deletedDocument : Except ClientError InvoiceDocument)⟩]
      (.done (.found deletedFound)) :=
    Prog.runs_call.mpr ⟨.ok (), _, rfl, Prog.runs_call.mpr ⟨.ok deletedDocument, [], rfl,
      Prog.runs_ret.mpr ⟨rfl, by decide +kernel⟩⟩⟩
  have hdecided : namedDeleteGuard (.found deletedFound) correctedOrder deletionRequest.force
      = .ok (.inr deletedFound) := by decide +kernel
  exact ((Handler.returns_run hread).mapFault _).bind
    (Handler.returns_lift (by rw [hdecided]; rfl))

/-- The deletion comes to store its marker on what the vendor shows. -/
theorem comesTo_deletion : ∃ marker next,
    (OrderRequest.handler replayedConfig sampleContext
      (.deleteProforma (.ok deletionRequest))).ComesTo
        [⟨.query (.invoiceNumber "D-1"), .ok deletedDocument⟩] (.set marker next) := by
  let exec : Execution := ⟨sampleAccount, replayedConfig⟩
  obtain ⟨marker, next, hwrite⟩ := comesTo_deleteReplayEnabled exec sampleContext correctedOrder
    deletionSlot deletedFound deletionRequest "2024-01-01T00:00:00Z"
  have hdelete := Handler.ComesTo.bind ⟨next, hwrite⟩ fun result =>
    Handler.lift (respondDelete correctedOrder deletionSlot deletedFound.number result)
  obtain ⟨next, hdelete⟩ := hdelete
  have hselected : (exec.delete sampleContext correctedOrder deletionRequest).ComesTo
      [⟨.query (.invoiceNumber "D-1"), .ok deletedDocument⟩] (.set marker next) :=
    returns_selectDeletion.comesTo hdelete
  have hhandler : (Order.deleteProforma replayedConfig sampleContext
      (.ok deletionRequest)).ComesTo
        [⟨.query (.invoiceNumber "D-1"), .ok deletedDocument⟩] (.set marker next) :=
    (Handler.returns_lift rfl).comesTo ((Handler.returns_lift rfl).comesTo
      (returns_guard.comesTo ((returns_runPrologue replayedConfig).comesTo hselected)))
  obtain ⟨next, hhandler⟩ := Handler.ComesTo.bind ⟨next, hhandler⟩ fun response =>
    pure (OrderAnswer.deleteProforma response)
  exact ⟨marker, next, hhandler⟩

/-- The proforma vendor is sent the deletion. -/
theorem admission_agrees_with_write_sample : ∃ t marker next,
    (ExceptT.run (OrderRequest.handler replayedConfig sampleContext
        (.deleteProforma (.ok deletionRequest)))).Reaches t (.set marker next)
      ∧ (∀ e ∈ agentExchanges t, proformaVendor.Tells e) ∧ proformaVendor.SendsBehind next := by
  obtain ⟨marker, next, t, hreaches, hexchanged⟩ := comesTo_deletion
  have htells : ∀ e ∈ agentExchanges t, proformaVendor.Tells e := by
    rw [hexchanged]
    intro e he
    obtain rfl := List.mem_singleton.mp he
    have hanswer : proformaVendor.answer (.invoiceNumber "D-1") = .ok deletedDocument :=
      by simp [proformaVendor]
    exact hanswer.symm
  exact ⟨t, marker, next, hreaches, htells,
    (admission_agrees_with_write _ _ _ proformaVendor hreaches).1 htells⟩

end Sample

end Szamlazz
