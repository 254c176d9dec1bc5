import Szamlazz.Gateway.Create

/-!
# The replay-enabled create

An unfinished execution of this call may run again, so a send needs more than
the absence of the document: the slots of the other kinds, the pinned references
and the newest document under the order are read afresh in the same call, one
after the other, and each must permit the issuance. Whatever does not establish
an issuance leaves the write unresolved: an earlier execution may have landed.
-/

namespace Szamlazz

variable [Unicode]

/-! ## The guards -/

/-- The slots that are read before a create of a kind. -/
def replayGuarded : IssuedKind → List DocumentKind
  | .proforma => [.invoice, .prepayment, .final]
  | .final => [.invoice, .prepayment, .proforma]
  | .prepayment => [.invoice, .final, .proforma]
  | .invoice | .corrective => [.prepayment, .final, .proforma]

/-- What the holder of a guarded slot says about the issuance. -/
def replayKindVerdict (request : CreateStepRequest) (kind : DocumentKind) :
    Except Unanswered OwnershipOutcome → Except WriteDiagnostic Unit
  | .ok (.live found) =>
    if kind = .prepayment ∧ request.kind = .final
        ∧ request.prepaymentNumber = some found.number then .ok ()
    else if kind = .proforma ∧ request.proformaNumber = some found.number then .ok ()
    else .error { reason := "fresh " ++ kind.asStr ++ " guard did not permit issuance" }
  | .ok .absent | .ok (.reversed _) =>
    if kind = .prepayment ∧ request.kind = .final then
      .error { reason := "pinned prepayment absent or reversed" }
    else .ok ()
  | .ok (.credentialsRejected answer) =>
    .error { reason := "fresh " ++ kind.asStr ++ " credentials rejected: " ++ answer.code }
  | .ok (.collision _) | .ok (.api _) | .error _ =>
    .error { reason := "fresh " ++ kind.asStr ++ " guard did not permit issuance" }

/-- Reads the guarded slots, one after the other. -/
def checkReplaySlots (ns : Namespace) (request : CreateStepRequest) :
    List DocumentKind → Call (Except WriteDiagnostic Unit)
  | [] => return .ok ()
  | kind :: rest => do
    let holder ← lookupOurs (.forKind ns request.order kind) request.order kind.issued
    match replayKindVerdict request kind holder with
    | .ok () => checkReplaySlots ns request rest
    | .error diagnostic => return .error diagnostic

def checkReplayCreateKinds (request : CreateStepRequest) : Call (Except WriteDiagnostic Unit) :=
  match Namespace.parse request.externalId.namespaceText with
  | .error _ => return .error { reason := "invalid issuance namespace" }
  | .ok ns =>
    if request.kind = .final ∧ request.prepaymentNumber = none then
      return .error { reason := "final issuance requires pinned prepayment" }
    else checkReplaySlots ns request (replayGuarded request.kind)

/-- What a freshly read prepayment says about the issuance. -/
def replayPrepaymentVerdict (request : CreateStepRequest) :
    Except Unanswered QueryOutcome → Except WriteDiagnostic Unit
  | .ok (.found found) =>
    if found.isOurs request.order .prepayment && found.isLive then .ok ()
    else .error { reason := "pinned prepayment no longer live on this Order" }
  | .ok (.credentialsRejected answer) =>
    .error { reason := "prepayment credentials rejected: " ++ answer.code }
  | .ok .notFound | .ok (.api _) | .error _ =>
    .error { reason := "pinned prepayment no longer live on this Order" }

/-- What a freshly read proforma says about the issuance. -/
def replayProformaVerdict (request : CreateStepRequest) :
    Except Unanswered QueryOutcome → Except WriteDiagnostic Unit
  | .ok (.found found) =>
    if found.carriesOrder request.order && found.documentType = .proforma && found.isLive then
      .ok ()
    else .error { reason := "pinned proforma no longer live on this Order" }
  | .ok (.credentialsRejected answer) =>
    .error { reason := "pinned proforma credentials rejected: " ++ answer.code }
  | .ok .notFound | .ok (.api _) | .error _ =>
    .error { reason := "pinned proforma no longer live on this Order" }

/-- Reads a pinned reference, if there is one. -/
def checkReplayReference (number : Option String)
    (verdict : Except Unanswered QueryOutcome → Except WriteDiagnostic Unit) :
    Call (Except WriteDiagnostic Unit) :=
  match number with
  | none => return .ok ()
  | some number => do
    let found ← verify number
    return verdict found

def checkReplayCreateReferences (request : CreateStepRequest) :
    Call (Except WriteDiagnostic Unit) := do
  let prepayment ← checkReplayReference request.prepaymentNumber (replayPrepaymentVerdict request)
  match prepayment with
  | .error diagnostic => return .error diagnostic
  | .ok () => checkReplayReference request.proformaNumber (replayProformaVerdict request)

/-- Whether the newest document under the order lets the issuance pass: a pinned
reference, a reversed document, or one that is neither an invoice nor a proforma. -/
def replayHintPermits (request : CreateStepRequest) (found : FoundDocument) : Bool :=
  (request.prepaymentNumber = some found.number && found.isOurs request.order .prepayment)
    || (found.documentType = .proforma && request.proformaNumber = some found.number
      && found.carriesOrder request.order)
    || !found.isLive
    || (!found.isInvoiceFamily && found.documentType ≠ .proforma)

/-- What the hint says; unlike the lookup's, a failed one does not permit. -/
def replayHintVerdict (request : CreateStepRequest) :
    Except QueryError FoundDocument → Except WriteDiagnostic Unit
  | .error .notFound => .ok ()
  | .error (.credentialsRejected answer) =>
    .error { reason := "fresh order hint credentials rejected: " ++ answer.code }
  | .ok found =>
    if replayHintPermits request found then .ok ()
    else .error { reason := "fresh order hint did not permit issuance" }
  | .error _ => .error { reason := "fresh order hint did not permit issuance" }

def checkReplayCreateHint (request : CreateStepRequest) : Call (Except WriteDiagnostic Unit) := do
  let newest ← hintRaw request.order
  return replayHintVerdict request newest

/-! ## The call -/

/-- What the holder of the external id settles; `none` goes on to the guards. -/
def replayHolder (request : CreateStepRequest) : Except QueryError Seen → Option WriteResult
  | .ok .absent =>
    if request.reversed = none then none
    else some (.because "holder does not permit the retained issuance intent")
  | .ok (.reversed found) =>
    if request.reversed = some found.number then none else some (.create (.reversed found))
  | .ok (.live found) =>
    if request.reversed ≠ some found.number then some (.create (.found found))
    else some (.because "holder does not permit the retained issuance intent")
  | .ok (.collision _) => some (.because "holder does not permit the retained issuance intent")
  | .error (.credentialsRejected answer) =>
    some (.because ("holder credentials rejected: " ++ answer.code))
  | .error _ => some (.because "holder query failed")

/-- Positive issuance alone is a result. -/
def replayCreateResult : Except Unconfirmed CreateOutcome → WriteResult
  | .ok (.issued document) => .create (.issued document)
  | .ok (.found document) => .create (.found document)
  | .ok (.reconciled document) => .create (.reconciled document)
  | .ok (.reversed document) => .create (.reversed document)
  | .ok (.credentialsRejected answer) =>
    .because ("issuance credentials rejected: " ++ answer.code)
  | .ok (.rejected rejection) => .because ("issuance refusal: " ++ rejection.code.display)
  | .ok (.duplicateOrderNumber answer _) =>
    .because ("issuance duplicate refusal: " ++ answer.code)
  | .ok _ => .because "guard or query did not establish issuance"
  | .error cause => .unresolved (.unconfirmed cause)

/-- The guards of a replay-enabled create, sequentially. -/
def checkReplayCreate (request : CreateStepRequest) : Call (Except WriteDiagnostic Unit) := do
  let kinds ← checkReplayCreateKinds request
  match kinds with
  | .error diagnostic => return .error diagnostic
  | .ok () =>
    let references ← checkReplayCreateReferences request
    match references with
    | .error diagnostic => return .error diagnostic
    | .ok () => checkReplayCreateHint request

/-- The create whose unfinished executions may run again. -/
def createReplayEnabled (request : CreateStepRequest) : Call WriteResult :=
  if request.replayContract = none || request.correctedNumber.isSome then
    return .because "unsupported replay-enabled issuance intent"
  else do
    let holder ← seen request.externalId request.order request.kind
    match replayHolder request holder with
    | some result => return result
    | none =>
      let guards ← checkReplayCreate request
      match guards with
      | .error diagnostic => return .unresolved diagnostic
      | .ok () =>
        let sent ← createSend request .retainedWithDuplicateEvidence
        return replayCreateResult sent

/-! ## What the guards read -/

/-- One fresh read before a send. -/
inductive ReplayGuard where
  | slot (kind : DocumentKind)
  | prepayment (number : String)
  | proforma (number : String)
  | hint

namespace ReplayGuard

/-- What the guard queries. -/
def selector (ns : Namespace) (order : OrderKey) : ReplayGuard → InvoiceSelector
  | slot kind => .externalId (ExternalId.forKind ns order kind).text
  | prepayment number | proforma number => .invoiceNumber number
  | hint => .orderNumber order.text

/-- **What a fresh read must have been answered** for the send to follow. -/
def Permits (request : CreateStepRequest) :
    ReplayGuard → Except QueryError FoundDocument → Prop
  | slot kind, r =>
    if kind = .prepayment ∧ request.kind = .final then
      -- The slot a final settles holds the pinned prepayment, live.
      ∃ found, r = .ok found ∧ found.isOurs request.order .prepayment = true
        ∧ found.isLive = true ∧ request.prepaymentNumber = some found.number
    else
      r = .error .notFound
        ∨ (∃ found, r = .ok found ∧ found.isOurs request.order kind.issued = true
          ∧ found.isLive = false)
        ∨ (∃ found, r = .ok found ∧ found.isOurs request.order kind.issued = true
          ∧ kind = .proforma ∧ request.proformaNumber = some found.number)
  | prepayment _, r =>
    ∃ found, r = .ok found ∧ found.isOurs request.order .prepayment = true ∧ found.isLive = true
  | proforma _, r =>
    ∃ found, r = .ok found ∧ found.carriesOrder request.order = true
      ∧ found.documentType = .proforma ∧ found.isLive = true
  | hint, r => r = .error .notFound ∨ ∃ found, r = .ok found ∧ replayHintPermits request found = true

end ReplayGuard

/-- The fresh reads of a request, in the order they are made. -/
def replayGuards (request : CreateStepRequest) : List ReplayGuard :=
  (replayGuarded request.kind).map .slot ++ request.prepaymentNumber.toList.map .prepayment
    ++ request.proformaNumber.toList.map .proforma ++ [.hint]

/-- The exchange `e` is the read of guard `g`, answered with a permission. -/
def ReplayGuard.ReadBy (request : CreateStepRequest) (ns : Namespace) (g : ReplayGuard)
    (e : Exchange AgentRequest.Answer) : Prop :=
  ∃ answer : Except ClientError InvoiceDocument,
    e = ⟨AgentRequest.query (g.selector ns request.order), answer⟩
      ∧ g.Permits request (queryAnswer (g.selector ns request.order) answer)

/-- **Every guard was read, in order, and permitted the send.** -/
def GuardsRead (request : CreateStepRequest) (tr : List (Exchange AgentRequest.Answer)) : Prop :=
  request.kind ≠ .corrective ∧ ∃ ns, Namespace.parse request.externalId.namespaceText = .ok ns
    ∧ List.Forall₂ (ReplayGuard.ReadBy request ns) (replayGuards request) tr

section Guards

variable {request : CreateStepRequest} {r : Except QueryError FoundDocument}

/-- What each classification of a holder comes from. -/
theorem ownership_cases {order : OrderKey} {kind : IssuedKind} {outcome : OwnershipOutcome}
    (h : ownership (classifySeen order kind r) = .ok outcome) :
    (∀ found, outcome = .live found → r = .ok found ∧ found.isOurs order kind = true
        ∧ found.isLive = true)
      ∧ (∀ found, outcome = .reversed found → r = .ok found ∧ found.isOurs order kind = true
        ∧ found.isLive = false)
      ∧ (outcome = .absent → r = .error .notFound) := by
  unfold ownership at h
  split at h
  · rename_i hseen
    cases h
    exact ⟨by simp, by simp, fun _ => classifySeen_eq_absent.mp hseen⟩
  · rename_i found hseen
    cases h
    refine ⟨?_, by simp, by simp⟩
    rintro _ ⟨⟩
    exact classifySeen_eq_live.mp hseen
  · rename_i found hseen
    cases h
    refine ⟨by simp, ?_, by simp⟩
    rintro _ ⟨⟩
    exact classifySeen_eq_reversed.mp hseen
  · cases h
    simp
  · rename_i error hseen
    split at h
    · rename_i hanswered
      cases h
      refine ⟨by simp, by simp, fun _ => ?_⟩
      -- The miss is already a classification, so this arm is not reached.
      have herror : error = .notFound := by
        cases error <;> simp [QueryError.answered] at hanswered ⊢
      subst herror
      unfold classifySeen at hseen
      split at hseen
      · split_ifs at hseen
      · rfl
      · rename_i hne
        exact absurd (by simpa using hseen) hne
    all_goals cases h
    all_goals simp

theorem permits_of_replayKindVerdict {kind : DocumentKind}
    (h : replayKindVerdict request kind (ownership (classifySeen request.order kind.issued r))
      = .ok ()) : (ReplayGuard.slot kind).Permits request r := by
  cases hown : ownership (classifySeen request.order kind.issued r) with
  | error cause =>
    rw [hown] at h
    cases h
  | ok outcome =>
    rw [hown] at h
    obtain ⟨hlive, hreversed, habsent⟩ := ownership_cases hown
    simp only [ReplayGuard.Permits]
    cases outcome with
    | live found =>
      obtain ⟨hr, hours, hl⟩ := hlive found rfl
      simp only [replayKindVerdict] at h
      split_ifs at h with hpin hpro
      · rw [if_pos ⟨hpin.1, hpin.2.1⟩]
        rw [hpin.1] at hours
        exact ⟨found, hr, hours, hl, hpin.2.2⟩
      · have hne : ¬ (kind = .prepayment ∧ request.kind = .final) := by
          rw [hpro.1]
          simp
        rw [if_neg hne]
        exact Or.inr (Or.inr ⟨found, hr, hours, hpro.1, hpro.2⟩)
    | absent =>
      simp only [replayKindVerdict] at h
      split_ifs at h with hpin
      rw [if_neg hpin]
      exact Or.inl (habsent rfl)
    | reversed found =>
      obtain ⟨hr, hours, hl⟩ := hreversed found rfl
      simp only [replayKindVerdict] at h
      split_ifs at h with hpin
      rw [if_neg hpin]
      exact Or.inr (Or.inl ⟨found, hr, hours, hl⟩)
    | collision found => cases h
    | credentialsRejected answer => cases h
    | api answer => cases h

theorem permits_of_replayPrepaymentVerdict {number : String}
    (h : replayPrepaymentVerdict request (queryOutcome r) = .ok ()) :
    (ReplayGuard.prepayment number).Permits request r := by
  unfold replayPrepaymentVerdict at h
  split at h
  · rename_i found hfound
    split_ifs at h with hlive
    rw [Bool.and_eq_true] at hlive
    exact ⟨found, queryOutcome_eq_found.mp hfound, hlive.1, hlive.2⟩
  all_goals cases h

theorem permits_of_replayProformaVerdict {number : String}
    (h : replayProformaVerdict request (queryOutcome r) = .ok ()) :
    (ReplayGuard.proforma number).Permits request r := by
  unfold replayProformaVerdict at h
  split at h
  · rename_i found hfound
    split_ifs at h with hlive
    simp only [Bool.and_eq_true, decide_eq_true_eq] at hlive
    exact ⟨found, queryOutcome_eq_found.mp hfound, hlive.1.1, hlive.1.2, hlive.2⟩
  all_goals cases h

theorem permits_of_replayHintVerdict (h : replayHintVerdict request r = .ok ()) :
    ReplayGuard.hint.Permits request r := by
  unfold replayHintVerdict at h
  split at h
  · exact Or.inl rfl
  · cases h
  · rename_i found
    split_ifs at h with hpermits
    exact Or.inr ⟨found, rfl, hpermits⟩
  · cases h

end Guards

/-- The slots were read one after the other, up to the first that refused. -/
theorem checkReplaySlots_spec (ns : Namespace) (request : CreateStepRequest)
    (kinds : List DocumentKind) :
    Prog.Ensures (checkReplaySlots ns request kinds) fun tr r =>
      ReadOnly tr ∧ (r = .ok () →
        List.Forall₂ (ReplayGuard.ReadBy request ns) (kinds.map .slot) tr) := by
  induction kinds with
  | nil => simp [checkReplaySlots]
  | cons kind rest ih =>
    unfold checkReplaySlots
    rw [lookupOurs_bind, Prog.ensures_call]
    intro answer
    split
    · rename_i hverdict
      refine ih.mono ?_
      rintro tr r ⟨hro, hread⟩
      refine ⟨readOnly_cons.mpr ⟨rfl, hro⟩, fun hr => List.Forall₂.cons ?_ (hread hr)⟩
      exact ⟨answer, rfl, permits_of_replayKindVerdict hverdict⟩
    · simp [AgentRequest.isMutation]

theorem checkReplayCreateKinds_spec (request : CreateStepRequest) :
    Prog.Ensures (checkReplayCreateKinds request) fun tr r =>
      ReadOnly tr ∧ (r = .ok () → ∃ ns,
        Namespace.parse request.externalId.namespaceText = .ok ns
          ∧ List.Forall₂ (ReplayGuard.ReadBy request ns)
            ((replayGuarded request.kind).map .slot) tr) := by
  unfold checkReplayCreateKinds
  split
  · simp
  · rename_i ns hns
    split_ifs
    · simp
    · refine (checkReplaySlots_spec ns request _).mono ?_
      rintro tr r ⟨hro, hread⟩
      exact ⟨hro, fun hr => ⟨ns, hns, hread hr⟩⟩

/-- A pinned reference is one read, or none when nothing is pinned. -/
theorem checkReplayReference_spec (request : CreateStepRequest) (ns : Namespace)
    (number : Option String) (guard : String → ReplayGuard)
    (verdict : Except Unanswered QueryOutcome → Except WriteDiagnostic Unit)
    (hselector : ∀ n, (guard n).selector ns request.order = .invoiceNumber n)
    (hverdict : ∀ n r, verdict (queryOutcome r) = .ok () → (guard n).Permits request r) :
    Prog.Ensures (checkReplayReference number verdict) fun tr r =>
      ReadOnly tr ∧ (r = .ok () →
        List.Forall₂ (ReplayGuard.ReadBy request ns) (number.toList.map guard) tr) := by
  cases number with
  | none => simp [checkReplayReference]
  | some n =>
    simp only [checkReplayReference, verify_bind, Prog.pure_eq, Prog.ensures_call, Prog.ensures_ret]
    refine fun answer => ⟨by simp [AgentRequest.isMutation], fun hr => ?_⟩
    refine List.Forall₂.cons ⟨answer, ?_, ?_⟩ List.Forall₂.nil
    · rw [hselector]
    · rw [hselector]
      exact hverdict n _ hr

theorem checkReplayCreateReferences_spec (request : CreateStepRequest) (ns : Namespace) :
    Prog.Ensures (checkReplayCreateReferences request) fun tr r =>
      ReadOnly tr ∧ (r = .ok () → List.Forall₂ (ReplayGuard.ReadBy request ns)
        (request.prepaymentNumber.toList.map .prepayment
          ++ request.proformaNumber.toList.map .proforma) tr) := by
  unfold checkReplayCreateReferences
  refine (checkReplayReference_spec request ns request.prepaymentNumber .prepayment _
    (fun _ => rfl) (fun _ _ => permits_of_replayPrepaymentVerdict)).bind ?_
  rintro tr r ⟨hro, hprepayment⟩
  split
  · simpa using hro
  · refine (checkReplayReference_spec request ns request.proformaNumber .proforma _
      (fun _ => rfl) (fun _ _ => permits_of_replayProformaVerdict)).mono ?_
    rintro tr' r' ⟨hro', hproforma⟩
    exact ⟨readOnly_append.mpr ⟨hro, hro'⟩,
      fun hr => List.rel_append (hprepayment rfl) (hproforma hr)⟩

theorem checkReplayCreate_spec (request : CreateStepRequest) :
    Prog.Ensures (checkReplayCreate request) fun tr r =>
      ReadOnly tr ∧ (r = .ok () → ∃ ns,
        Namespace.parse request.externalId.namespaceText = .ok ns
          ∧ List.Forall₂ (ReplayGuard.ReadBy request ns) (replayGuards request) tr) := by
  unfold checkReplayCreate
  refine (checkReplayCreateKinds_spec request).bind ?_
  rintro tr r ⟨hro, hkinds⟩
  split
  · simpa using hro
  obtain ⟨ns, hns, hslots⟩ := hkinds rfl
  refine (checkReplayCreateReferences_spec request ns).bind ?_
  rintro tr' r' ⟨hro', hreferences⟩
  split
  · simp only [Prog.pure_eq, Prog.ensures_ret, List.append_nil]
    exact ⟨readOnly_append.mpr ⟨hro, hro'⟩, by simp⟩
  simp only [checkReplayCreateHint, hintRaw_bind, Prog.pure_eq, Prog.ensures_call,
    Prog.ensures_ret]
  refine fun answer => ⟨?_, fun hr => ⟨ns, hns, ?_⟩⟩
  · simp [hro, hro', AgentRequest.isMutation]
  · have hhint : List.Forall₂ (ReplayGuard.ReadBy request ns) [ReplayGuard.hint]
        [⟨AgentRequest.query (.orderNumber request.order.text), answer⟩] :=
      List.Forall₂.cons ⟨answer, rfl, permits_of_replayHintVerdict hr⟩ List.Forall₂.nil
    have hall := List.rel_append (List.rel_append hslots (hreferences rfl)) hhint
    simpa only [replayGuards, List.append_assoc] using hall

/-- The holder that lets a replay-enabled create go on is the one that permits a
send. -/
theorem permitsSend_of_replayHolder {request : CreateStepRequest}
    {r : Except QueryError FoundDocument} (hkind : request.kind ≠ .corrective)
    (hbase : request.correctedNumber = none)
    (h : replayHolder request (classifySeen request.order request.kind r) = none) :
    PermitsSend request r := by
  unfold replayHolder at h
  unfold PermitsSend
  split at h
  · rename_i hseen
    split_ifs at h with hreversed
    rw [hreversed]
    exact classifySeen_eq_absent.mp hseen
  · rename_i found hseen
    split_ifs at h with hreversed
    obtain ⟨hr, hours, hlive⟩ := classifySeen_eq_reversed.mp hseen
    rw [hreversed]
    refine ⟨found, hr, hours, ?_, rfl, hlive⟩
    rw [hbase]
    cases hk : request.kind <;> first | rfl | exact absurd hk hkind
  · split_ifs at h
  all_goals cases h

theorem createReplayEnabled_gatedSend (request : CreateStepRequest) :
    Prog.Ensures (createReplayEnabled request) fun tr _ =>
      GatedSend request (GuardsRead request) tr := by
  unfold createReplayEnabled
  split_ifs with hsupported
  · simpa using gated_of_readOnly readOnly_nil
  simp only [Bool.or_eq_true, decide_eq_true_eq, not_or, Bool.not_eq_true, Option.isSome_eq_false_iff,
    Option.isNone_iff_eq_none] at hsupported
  obtain ⟨hcontract, hbase⟩ := hsupported
  have hkind : request.kind ≠ .corrective := by
    intro hk
    simp [CreateStepRequest.replayContract, hk] at hcontract
  rw [seen_bind, Prog.ensures_call]
  intro answer
  split
  · rw [Prog.pure_eq, Prog.ensures_ret]
    exact gated_of_readOnly (by simp [AgentRequest.isMutation])
  · rename_i hholder
    have hpermit := permitsSend_of_replayHolder hkind hbase hholder
    refine (checkReplayCreate_spec request).bind ?_
    rintro guards r ⟨hro, hguards⟩
    split
    · rw [Prog.pure_eq, Prog.ensures_ret]
      exact gated_of_readOnly (by simpa [AgentRequest.isMutation] using hro)
    · refine (createSend_shape request .retainedWithDuplicateEvidence).bind ?_
      rintro tr sent ⟨reply, post, rfl, hpost⟩
      rw [Prog.pure_eq, Prog.ensures_ret, List.append_nil]
      exact gated_of_send hpermit hro hpost ⟨hkind, hguards rfl⟩

/-- **The send gate of the three create paths.** However szamlazz.hu answers, and
wherever the call is cut short, each path sends at most one create, and only
behind an external-id query of the same call that permits it – at once in
`createOnce` and `protectedCreate`, which send whenever it does; and in
`createReplayEnabled` only after every guard was freshly read and permitted it,
never for a corrective. -/
theorem create_send_gate (request : CreateStepRequest) :
    (∀ tr q, Prog.Steps (createOnce request) tr q →
        GatedSend request (fun guards => guards = []) tr)
      ∧ (∀ tr q, Prog.Steps (protectedCreate request) tr q →
        GatedSend request (fun guards => guards = []) tr)
      ∧ (∀ tr q, Prog.Steps (createReplayEnabled request) tr q →
        GatedSend request (GuardsRead request) tr)
      ∧ (∀ tr outcome, Prog.Runs (createOnce request) tr outcome → LedByGate request tr)
      ∧ (∀ tr result, Prog.Runs (protectedCreate request) tr result → LedByGate request tr) := by
  refine ⟨fun tr q hs => ?_, fun tr q hs => ?_, fun tr q hs => ?_,
    createOnce_ledByGate request, protectedCreate_ledByGate request⟩
  · exact Prog.Ensures.steps ((createOnce_ledByGate request).mono (fun _ _ h => h.gatedSend))
      (fun t t' => Gated.of_append) hs
  · exact Prog.Ensures.steps ((protectedCreate_ledByGate request).mono (fun _ _ h => h.gatedSend))
      (fun t t' => Gated.of_append) hs
  · exact Prog.Ensures.steps (createReplayEnabled_gatedSend request)
      (fun t t' => Gated.of_append) hs

end Szamlazz
