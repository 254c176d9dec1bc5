import Szamlazz.Gateway.Transcript

/-!
# Evidence about an uncertain write

Once a send may have landed, only positive evidence of *that* write settles it:
for a create, a document under its external id that matches the order, the kind
and the corrective base and is not the old holder; for a storno, a reversal
document of the order together with the freshly read original. The same rules
serve the immediate re-query after a send, the recovery of a retained marker,
and the document an operator submits.

`reconcileWriteDiagnostic_spec` collects what the four layers – the query, the
evidence rule, the pinned contract, the retry without a candidate – guarantee
together, for every sequence of answers.
-/

namespace Szamlazz

variable [Unicode]

/-! ## The rules -/

/-- The base of a corrective is part of its intent. -/
def matchesCreateBase (found : FoundDocument) : IssuedKind → Option String → Bool
  | .corrective, some base => found.isCorrectiveOf base
  | .corrective, none => false
  | _, some _ => false
  | _, none => true

def matchesCorrectiveBase (found : FoundDocument) : WriteOperation → Bool
  | .create kind _ correctedNumber => matchesCreateBase found kind correctedNumber
  | _ => true

/-- The retained intent to reconcile. -/
structure ReconciliationRequest where
  externalId : String
  order : OrderKey
  operation : WriteOperation
  candidate : Option String

/-- What the reads establish about the intent. -/
inductive ReconciliationOutcome where
  | created (document : FoundDocument)
  | reversed (stornoNumber : String) (stornoDocumentId : Option Int64)
  | inconclusive (reason : String)
  | credentialsRejected (answer : SzamlazzAnswer)
  | api (answer : SzamlazzAnswer)
deriving DecidableEq

namespace ReconciliationOutcome

def deletion : String :=
  "deletion requires independent settlement; document queries cannot establish completion"

end ReconciliationOutcome

/-- The document the evidence is read from. -/
def reconcileQuery (request : ReconciliationRequest) : Call (Except Unanswered QueryOutcome) :=
  match request.operation with
  | .storno _ =>
    match request.candidate with
    -- A repeated storno does not attach our external id: a candidate is
    -- verified by its number, and without one the order hint may name it.
    | some number => verify number
    | none => do
      let found ← queryRaw (.externalId request.externalId)
      match queryOutcome found with
      | .ok .notFound => hint request.order
      | outcome => return outcome
  | _ => do
    let found ← queryRaw (.externalId request.externalId)
    return queryOutcome found

/-- What the document says about the intent. -/
def reconcileFound (request : ReconciliationRequest) (found : FoundDocument) :
    Call (Except Unanswered ReconciliationOutcome) :=
  if request.candidate.any (fun number => found.number ≠ number) then
    return .ok (.inconclusive "candidate number does not match the queried document")
  else
    match request.operation with
    | .create kind expectedNumber _ =>
      if !found.isOurs request.order kind || expectedNumber = some found.number
          || !matchesCorrectiveBase found request.operation then
        return .ok (.inconclusive "document does not match order, kind or expected issuance intent")
      else return .ok (.created found)
    | .storno number => do
      let evidence ← verifyOrderStorno found request.order number
      match evidence with
      | .ok (.verified stornoNumber stornoDocumentId) =>
        return .ok (.reversed stornoNumber stornoDocumentId)
      | .ok (.inconclusive reason) => return .ok (.inconclusive reason)
      | .error error =>
        match error.answered with
        | .ok (.credentialsRejected answer) => return .ok (.credentialsRejected answer)
        | .ok (.api answer) => return .ok (.api answer)
        | .ok .notFound => return .ok (.inconclusive "original absent; reversal is not established")
        | .error cause => return .error cause
    | .delete _ => return .ok (.inconclusive ReconciliationOutcome.deletion)

/-- Queries the evidence for a retained intent. -/
def reconcile (request : ReconciliationRequest) :
    Call (Except Unanswered ReconciliationOutcome) :=
  match request.operation with
  | .delete _ => return .ok (.inconclusive ReconciliationOutcome.deletion)
  | _ => do
    let queried ← reconcileQuery request
    match queried with
    | .ok (.found found) => reconcileFound request found
    | .ok (.credentialsRejected answer) => return .ok (.credentialsRejected answer)
    | .ok (.api answer) => return .ok (.api answer)
    | .ok .notFound =>
      return .ok (.inconclusive "document absent; absence does not settle the write")
    | .error cause => return .error cause

/-- Whether a freshly read original is the one a storno contract pinned. -/
def matchesPinnedOriginal (original : FoundDocument) (documentId : Int64)
    (fulfillmentDate : Date) (appearance : Int64) (order : OrderKey) : Bool :=
  original.documentId = documentId && original.fulfillmentDate = some fulfillmentDate
    && original.appearance = appearance && original.carriesOrder order && original.isStornoable
    && original.reversed = some true

/-- The pinned original behind a reversal, when the marker pins one. -/
def checkPinnedOriginal (marker : UnresolvedWrite) (stornoNumber : String)
    (stornoDocumentId : Option Int64) : Call (Except Unanswered WriteResult) :=
  let reversed := WriteResult.storno (.alreadyReversed stornoNumber stornoDocumentId)
  match marker.executionContract, marker.operation with
  | some (.requestResponseStornoV1 documentId fulfillmentDate _ appearance), .storno number => do
    let original ← verify number
    match original with
    | .ok (.found original) =>
      if matchesPinnedOriginal original documentId fulfillmentDate appearance marker.order then
        return .ok reversed
      else return .ok (.because "reversal evidence does not match pinned original")
    | .ok (.credentialsRejected answer) => return .ok (.answered true answer)
    | .ok (.api answer) => return .ok (.answered false answer)
    | .ok .notFound => return .ok (.because "reversal evidence does not match pinned original")
    | .error cause => return .error cause
  | _, _ => return .ok reversed

/-- Reconciles a marker, strict about the candidate. -/
def reconcileWriteChecked (marker : UnresolvedWrite) (candidate : Option String) :
    Call (Except Unanswered WriteResult) := do
  let reconciled ← reconcile
    { externalId := marker.externalId, order := marker.order, operation := marker.operation
      candidate := candidate }
  match reconciled with
  | .error cause => return .error cause
  | .ok (.created found) =>
    return .ok (.create (if found.isLive then .reconciled found else .reversed found))
  | .ok (.reversed stornoNumber stornoDocumentId) =>
    checkPinnedOriginal marker stornoNumber stornoDocumentId
  | .ok (.inconclusive reason) => return .ok (.because reason)
  | .ok (.credentialsRejected answer) => return .ok (.answered true answer)
  | .ok (.api answer) => return .ok (.answered false answer)

def WriteOperation.isStorno : WriteOperation → Bool
  | .storno _ => true
  | _ => false

/-- Whether a checked reconciliation established a reversal. -/
def isStornoResult : Except Unanswered WriteResult → Bool
  | .ok (.storno _) => true
  | _ => false

/-- Everything short of evidence is unresolved. -/
def retainUnanswered : Except Unanswered WriteResult → WriteResult
  | .ok (.answered credentials answer) =>
    .because ((if credentials then "credentials rejected" else "inconclusive vendor")
      ++ " code " ++ answer.code)
  | .error cause => .because cause.display
  | .ok result => result

/-- Reconciles a marker; the candidate is a hint. -/
def reconcileWrite (marker : UnresolvedWrite) (candidate : Option String) : Call WriteResult := do
  let checked ← reconcileWriteChecked marker candidate
  if candidate.isSome && marker.operation.isStorno && !isStornoResult checked then
    let checked ← reconcileWriteChecked marker none
    return retainUnanswered checked
  else return retainUnanswered checked

/-- Keeps an acknowledged warning with the exact candidate it was about. -/
def keepWarning (diagnostic : WriteDiagnostic) : WriteResult → WriteResult
  | .storno (.alreadyReversed stornoNumber stornoDocumentId) =>
    if diagnostic.notificationDeliveryFailed
        && diagnostic.candidateNumber = some stornoNumber then
      .storno (.reversed
        { number := stornoNumber, documentId := stornoDocumentId, netTotal := none
          grossTotal := none, outstanding := none, customerAccountUrl := none
          notificationDeliveryFailed := true })
    else .storno (.alreadyReversed stornoNumber stornoDocumentId)
  | result => result

/-- Reconciles a journaled uncertain write. -/
def reconcileWriteDiagnostic (marker : UnresolvedWrite) (diagnostic : WriteDiagnostic) :
    Call WriteResult := do
  let result ← reconcileWrite marker diagnostic.candidateNumber
  return keepWarning diagnostic result

/-! ## What the reads establish -/

/-- What a candidate was verified to be, and by which read. -/
theorem verifyOrderStorno_spec (found : FoundDocument) (order : OrderKey) (number : String) :
    Prog.Ensures (verifyOrderStorno found order number) fun tr r =>
      ReadOnly tr ∧ ∀ n id, r = .ok (.verified n id) →
        n = found.number ∧ id = some found.documentId ∧ found.isStornoOf number = true
          ∧ found.carriesOrder order = true ∧ ∃ original,
            ReadIn tr (.invoiceNumber number) original
              ∧ isReversedOriginal original order = true := by
  unfold verifyOrderStorno
  split_ifs with hcandidate
  · simp
  · simp only [Bool.or_eq_true, Bool.not_eq_true', not_or, Bool.not_eq_false] at hcandidate
    rw [queryRaw_bind, Prog.ensures_call]
    intro answer
    cases hanswer : queryAnswer (.invoiceNumber number) answer with
    | error error => simp [AgentRequest.isMutation]
    | ok original =>
      dsimp only
      split_ifs with horiginal
      · simp [AgentRequest.isMutation]
      · simp only [Bool.or_eq_true, Bool.not_eq_true', decide_eq_true_eq, not_or, Bool.not_eq_false,
          not_not] at horiginal
        rw [Prog.pure_eq, Prog.ensures_ret]
        refine ⟨by simp [AgentRequest.isMutation], ?_⟩
        rintro n id ⟨⟩
        refine ⟨rfl, rfl, hcandidate.1, hcandidate.2, original, readIn_head hanswer, ?_⟩
        simp [isReversedOriginal, horiginal.1.1, horiginal.1.2, horiginal.2]

/-- The document the evidence is read from was read in this call. -/
theorem reconcileQuery_spec (request : ReconciliationRequest) :
    Prog.Ensures (reconcileQuery request) fun tr r =>
      ReadOnly tr ∧ ∀ found, r = .ok (.found found) →
        (∃ selector, ReadIn tr selector found)
          ∧ (request.operation.isStorno = false →
            ReadIn tr (.externalId request.externalId) found) := by
  -- The one shape of every branch: a query whose classified answer is returned.
  have single : ∀ selector answer, ∀ found,
      queryOutcome (queryAnswer selector answer) = .ok (.found found) →
        ReadIn [⟨AgentRequest.query selector, answer⟩] selector found :=
    fun selector answer found h => readIn_head (queryOutcome_eq_found.mp h)
  unfold reconcileQuery
  cases hop : request.operation with
  | storno number =>
    cases hc : request.candidate with
    | some candidate =>
      simp only [verify, queryRaw_bind, Prog.pure_eq, Prog.ensures_call, Prog.ensures_ret]
      refine fun answer => ⟨by simp [AgentRequest.isMutation], fun found h => ?_⟩
      exact ⟨⟨_, single _ _ _ h⟩, by simp [WriteOperation.isStorno]⟩
    | none =>
      simp only [queryRaw_bind, Prog.ensures_call]
      intro answer
      split
      · simp only [hint, hintRaw_bind, Prog.pure_eq, Prog.ensures_call, Prog.ensures_ret]
        refine fun answer' => ⟨by simp [AgentRequest.isMutation], fun found h => ?_⟩
        exact ⟨⟨_, (single _ _ _ h).right (t := [_])⟩, by simp [WriteOperation.isStorno]⟩
      · simp only [Prog.pure_eq, Prog.ensures_ret]
        refine ⟨by simp [AgentRequest.isMutation], fun found h => ?_⟩
        exact ⟨⟨_, single _ _ _ h⟩, by simp [WriteOperation.isStorno]⟩
  | create kind expected corrected =>
    simp only [queryRaw_bind, Prog.pure_eq, Prog.ensures_call, Prog.ensures_ret]
    refine fun answer => ⟨by simp [AgentRequest.isMutation], fun found h => ?_⟩
    exact ⟨⟨_, single _ _ _ h⟩, fun _ => single _ _ _ h⟩
  | delete number =>
    simp only [queryRaw_bind, Prog.pure_eq, Prog.ensures_call, Prog.ensures_ret]
    refine fun answer => ⟨by simp [AgentRequest.isMutation], fun found h => ?_⟩
    exact ⟨⟨_, single _ _ _ h⟩, fun _ => single _ _ _ h⟩

/-- A document that shows an intended issuance happened: of this order and kind,
with the intended base, and not the old holder. -/
structure IssuanceEvidence (order : OrderKey) (kind : IssuedKind)
    (expectedNumber correctedNumber : Option String) (found : FoundDocument) : Prop where
  carriesOrder : found.carriesOrder order = true
  documentType : found.documentType = kind.documentType
  number_ne : expectedNumber ≠ some found.number
  base : matchesCreateBase found kind correctedNumber = true

theorem reconcileFound_spec (request : ReconciliationRequest) (found : FoundDocument) :
    Prog.Ensures (reconcileFound request found) fun tr r =>
      ReadOnly tr
        ∧ (∀ d, r = .ok (.created d) → d = found ∧ ∃ kind expected corrected,
            request.operation = .create kind expected corrected
              ∧ IssuanceEvidence request.order kind expected corrected found)
        ∧ (∀ n id, r = .ok (.reversed n id) → ∃ number, request.operation = .storno number
            ∧ n = found.number ∧ id = some found.documentId ∧ found.isStornoOf number = true
            ∧ found.carriesOrder request.order = true ∧ ∃ original,
              ReadIn tr (.invoiceNumber number) original
                ∧ isReversedOriginal original request.order = true) := by
  unfold reconcileFound
  split_ifs with hcandidate
  · simp
  cases hop : request.operation with
  | create kind expected corrected =>
    dsimp only
    split_ifs with hmatch
    · simp
    · simp only [Bool.or_eq_true, Bool.not_eq_true', decide_eq_true_eq, not_or, Bool.not_eq_false]
        at hmatch
      obtain ⟨⟨hours, hne⟩, hbase⟩ := hmatch
      rw [Prog.pure_eq, Prog.ensures_ret]
      refine ⟨readOnly_nil, ?_, by simp⟩
      rintro d ⟨⟩
      exact ⟨rfl, kind, expected, corrected, rfl,
        ⟨FoundDocument.carriesOrder_of_isOurs hours, FoundDocument.documentType_of_isOurs hours,
          hne, hbase⟩⟩
  | storno number =>
    refine (verifyOrderStorno_spec found request.order number).bind ?_
    rintro tr r ⟨hro, hverified⟩
    split
    · rename_i n id
      obtain ⟨rfl, rfl, hs, hc, original, hread, hrev⟩ := hverified n id rfl
      rw [Prog.pure_eq, Prog.ensures_ret]
      refine ⟨by simpa using hro, by simp, ?_⟩
      rintro n' id' ⟨⟩
      exact ⟨number, rfl, rfl, rfl, hs, hc, original, hread.left, hrev⟩
    · simpa using hro
    · split <;> simpa using hro
  | delete number => simp

theorem reconcile_spec (request : ReconciliationRequest) :
    Prog.Ensures (reconcile request) fun tr r =>
      ReadOnly tr
        ∧ (∀ d, r = .ok (.created d) → ReadIn tr (.externalId request.externalId) d
            ∧ ∃ kind expected corrected, request.operation = .create kind expected corrected
              ∧ IssuanceEvidence request.order kind expected corrected d)
        ∧ (∀ n id, r = .ok (.reversed n id) → ∃ number storno,
            request.operation = .storno number ∧ n = storno.number
              ∧ id = some storno.documentId
              ∧ ReversalReadIn tr request.order number (fun _ => True) storno) := by
  unfold reconcile
  split
  · simp
  · refine (reconcileQuery_spec request).bind ?_
    rintro tr queried ⟨hro, hread⟩
    split
    · rename_i found
      obtain ⟨⟨selector, hany⟩, hext⟩ := hread found rfl
      refine (reconcileFound_spec request found).mono ?_
      rintro tr' r ⟨hro', hcreated, hreversed⟩
      refine ⟨readOnly_append.mpr ⟨hro, hro'⟩, fun d hd => ?_, fun n id hn => ?_⟩
      · obtain ⟨rfl, kind, expected, corrected, hop, hevidence⟩ := hcreated d hd
        exact ⟨(hext (by rw [hop]; rfl)).left, kind, expected, corrected, hop, hevidence⟩
      · obtain ⟨number, hop, rfl, rfl, hs, hc, original, horiginal, hrev⟩ := hreversed n id hn
        exact ⟨number, found, hop, rfl, rfl, tr, tr', selector, original, rfl, hany, hs, hc,
          horiginal, hrev, trivial⟩
    all_goals simpa using hro

/-- The original of a reversal, as a marker's contract pins it. -/
def PinnedBy (contract : Option ReplayExecutionContract) (original : FoundDocument) : Prop :=
  ∀ documentId fulfillmentDate eInvoice appearance,
    contract = some (.requestResponseStornoV1 documentId fulfillmentDate eInvoice appearance) →
      original.documentId = documentId ∧ original.fulfillmentDate = some fulfillmentDate
        ∧ original.appearance = appearance

theorem checkPinnedOriginal_spec (marker : UnresolvedWrite) (stornoNumber : String)
    (stornoDocumentId : Option Int64) :
    Prog.Ensures (checkPinnedOriginal marker stornoNumber stornoDocumentId) fun tr r =>
      ReadOnly tr ∧ (∀ o, r ≠ .ok (.create o)) ∧ (∀ o, r ≠ .ok (.delete o))
        ∧ ∀ outcome, r = .ok (.storno outcome) →
          outcome = .alreadyReversed stornoNumber stornoDocumentId
            ∧ ∀ number, marker.operation = .storno number →
              (∃ original, ReadIn tr (.invoiceNumber number) original
                ∧ isReversedOriginal original marker.order = true
                ∧ PinnedBy marker.executionContract original)
              ∨ ∀ original, PinnedBy marker.executionContract original := by
  unfold checkPinnedOriginal
  split
  · rename_i documentId fulfillmentDate eInvoice appearance number hcontract hop
    simp only [verify_bind, Prog.ensures_call]
    intro answer
    split
    · rename_i original horiginal
      split_ifs with hpinned
      · rw [Prog.pure_eq, Prog.ensures_ret]
        refine ⟨by simp [AgentRequest.isMutation], by simp, by simp, ?_⟩
        rintro outcome ⟨⟩
        refine ⟨rfl, fun number' hnumber => Or.inl ?_⟩
        obtain rfl : number = number' := by
          rw [hop] at hnumber
          exact WriteOperation.storno.inj hnumber
        simp only [matchesPinnedOriginal, Bool.and_eq_true, decide_eq_true_eq] at hpinned
        obtain ⟨⟨⟨⟨⟨hid, hdate⟩, happ⟩, hc⟩, hs⟩, hrev⟩ := hpinned
        refine ⟨original, readIn_head (queryOutcome_eq_found.mp horiginal), ?_, ?_⟩
        · simp [isReversedOriginal, hs, hc, hrev]
        · intro _ _ _ _ hpin
          rw [hcontract] at hpin
          cases hpin
          exact ⟨hid, hdate, happ⟩
      · simp [AgentRequest.isMutation, WriteResult.because]
    all_goals simp [AgentRequest.isMutation, WriteResult.because]
  · rename_i hnone
    rw [Prog.pure_eq, Prog.ensures_ret]
    refine ⟨readOnly_nil, by simp, by simp, ?_⟩
    rintro outcome ⟨⟩
    refine ⟨rfl, fun number hnumber => Or.inr ?_⟩
    intro original documentId fulfillmentDate eInvoice appearance hcontract
    exact absurd hnumber (hnone documentId fulfillmentDate eInvoice appearance number hcontract)

/-- **What settles an uncertain write**: matching positive evidence, read in the
call that reports it. A deletion has none. -/
def SettledBy (marker : UnresolvedWrite) (tr : List (Exchange AgentRequest.Answer))
    (result : WriteResult) : Prop :=
  match marker.operation with
  | .create kind expectedNumber correctedNumber =>
    ∃ found, ReadIn tr (.externalId marker.externalId) found
      ∧ IssuanceEvidence marker.order kind expectedNumber correctedNumber found
      ∧ result = .create (if found.isLive then .reconciled found else .reversed found)
  | .storno number =>
    ∃ storno, ReversalReadIn tr marker.order number (PinnedBy marker.executionContract) storno
      ∧ (result = .storno (.alreadyReversed storno.number (some storno.documentId))
        ∨ ∃ issued, result = .storno (.reversed issued) ∧ issued.number = storno.number
          ∧ issued.documentId = some storno.documentId)
  | .delete _ => False

theorem SettledBy.right {marker : UnresolvedWrite} {t t' : List (Exchange AgentRequest.Answer)}
    {result : WriteResult} (h : SettledBy marker t' result) : SettledBy marker (t ++ t') result := by
  unfold SettledBy at h ⊢
  split at h
  · obtain ⟨found, hread, hrest⟩ := h
    exact ⟨found, hread.right, hrest⟩
  · obtain ⟨storno, hread, hrest⟩ := h
    exact ⟨storno, hread.right, hrest⟩
  · exact h

theorem SettledBy.left {marker : UnresolvedWrite} {t t' : List (Exchange AgentRequest.Answer)}
    {result : WriteResult} (h : SettledBy marker t result) : SettledBy marker (t ++ t') result := by
  unfold SettledBy at h ⊢
  split at h
  · obtain ⟨found, hread, hrest⟩ := h
    exact ⟨found, hread.left, hrest⟩
  · obtain ⟨storno, hread, hrest⟩ := h
    exact ⟨storno, hread.left, hrest⟩
  · exact h

/-- Whether a checked reconciliation is evidence, rather than a code or a reason. -/
def WriteResult.isEvidence : WriteResult → Bool
  | .create _ | .storno _ | .delete _ => true
  | .answered _ _ | .unresolved _ => false

theorem reconcileWriteChecked_spec (marker : UnresolvedWrite) (candidate : Option String) :
    Prog.Ensures (reconcileWriteChecked marker candidate) fun tr r =>
      ReadOnly tr ∧ ∀ result, r = .ok result → result.isEvidence = true →
        SettledBy marker tr result := by
  unfold reconcileWriteChecked
  refine (reconcile_spec _).bind ?_
  rintro tr reconciled ⟨hro, hcreated, hreversed⟩
  split
  · simpa using hro
  · rename_i found
    obtain ⟨hread, kind, expected, corrected, hop, hevidence⟩ := hcreated found rfl
    rw [Prog.pure_eq, Prog.ensures_ret]
    refine ⟨by simpa using hro, ?_⟩
    rintro result ⟨⟩ -
    simp only at hop hevidence hread
    rw [SettledBy, hop]
    exact ⟨found, hread.left, hevidence, rfl⟩
  · rename_i n id
    obtain ⟨number, storno, hop, rfl, rfl, hreversal⟩ := hreversed n id rfl
    simp only at hop hreversal
    refine (checkPinnedOriginal_spec marker storno.number (some storno.documentId)).mono ?_
    rintro tr' r ⟨hro', hcreate, hdelete, hstorno⟩
    refine ⟨readOnly_append.mpr ⟨hro, hro'⟩, fun result hr hev => ?_⟩
    cases result with
    | create outcome => exact absurd hr (hcreate outcome)
    | delete outcome => exact absurd hr (hdelete outcome)
    | answered credentials answer => cases hev
    | unresolved diagnostic => cases hev
    | storno outcome =>
      obtain ⟨rfl, hpinned⟩ := hstorno outcome hr
      rw [SettledBy, hop]
      refine ⟨storno, ?_, Or.inl rfl⟩
      obtain ⟨before, after, selector, original, rfl, hb, hs, hc, ha, hrev, -⟩ := hreversal
      -- The pinned original is read once more, after the one that showed the
      -- reversal; without a pin the first read is the evidence.
      rcases hpinned number hop with ⟨original', hread', hrev', hpin⟩ | hpin
      · exact ⟨before ++ after, tr', selector, original', rfl, hb.left, hs, hc, hread', hrev', hpin⟩
      · exact ⟨before, after ++ tr', selector, original, List.append_assoc .., hb, hs, hc, ha.left,
          hrev, hpin original⟩
  all_goals simpa [WriteResult.because, WriteResult.isEvidence] using hro

theorem settledBy_retainUnanswered {marker : UnresolvedWrite}
    {tr : List (Exchange AgentRequest.Answer)} {checked : Except Unanswered WriteResult}
    (h : ∀ result, checked = .ok result → result.isEvidence = true → SettledBy marker tr result)
    (hresolved : (retainUnanswered checked).isUnresolved = false) :
    SettledBy marker tr (retainUnanswered checked) := by
  match checked with
  | .error cause => cases hresolved
  | .ok (.answered credentials answer) => cases hresolved
  | .ok (.unresolved diagnostic) => cases hresolved
  | .ok (.create outcome) => exact h _ rfl rfl
  | .ok (.storno outcome) => exact h _ rfl rfl
  | .ok (.delete outcome) => exact h _ rfl rfl

theorem reconcileWrite_spec (marker : UnresolvedWrite) (candidate : Option String) :
    Prog.Ensures (reconcileWrite marker candidate) fun tr result =>
      ReadOnly tr ∧ (result.isUnresolved = false → SettledBy marker tr result) := by
  unfold reconcileWrite
  refine (reconcileWriteChecked_spec marker candidate).bind ?_
  rintro tr checked ⟨hro, hsettled⟩
  split_ifs
  · refine (reconcileWriteChecked_spec marker none).bind ?_
    rintro tr' checked' ⟨hro', hsettled'⟩
    rw [Prog.pure_eq, Prog.ensures_ret, List.append_nil]
    exact ⟨readOnly_append.mpr ⟨hro, hro'⟩,
      fun hresolved => (settledBy_retainUnanswered hsettled' hresolved).right⟩
  · rw [Prog.pure_eq, Prog.ensures_ret, List.append_nil]
    exact ⟨hro, settledBy_retainUnanswered hsettled⟩

/-- Keeping the warning changes neither the verdict nor the document it is about. -/
theorem settledBy_keepWarning {marker : UnresolvedWrite}
    {tr : List (Exchange AgentRequest.Answer)} {diagnostic : WriteDiagnostic}
    {result : WriteResult} (h : SettledBy marker tr result) :
    SettledBy marker tr (keepWarning diagnostic result) := by
  unfold keepWarning
  split
  · rename_i n id
    split_ifs
    · unfold SettledBy at h ⊢
      split at h
      · obtain ⟨found, -, -, hcreate⟩ := h
        cases hcreate
      · obtain ⟨storno, hread, heq | ⟨issued, heq, -⟩⟩ := h
        · cases heq
          exact ⟨storno, hread, Or.inr ⟨_, rfl, rfl, rfl⟩⟩
        · cases heq
      · exact h
    · exact h
  · exact h

omit [Unicode] in
theorem isUnresolved_keepWarning (diagnostic : WriteDiagnostic) (result : WriteResult) :
    (keepWarning diagnostic result).isUnresolved = result.isUnresolved := by
  unfold keepWarning
  split
  · split_ifs <;> rfl
  · rfl

theorem reconcileWriteDiagnostic_spec (marker : UnresolvedWrite) (diagnostic : WriteDiagnostic) :
    Prog.Ensures (reconcileWriteDiagnostic marker diagnostic) fun tr result =>
      ReadOnly tr ∧ (result.isUnresolved = false → SettledBy marker tr result) := by
  unfold reconcileWriteDiagnostic
  refine (reconcileWrite_spec marker diagnostic.candidateNumber).bind ?_
  rintro tr result ⟨hro, hsettled⟩
  rw [Prog.pure_eq, Prog.ensures_ret, List.append_nil, isUnresolved_keepWarning]
  exact ⟨hro, fun hresolved => settledBy_keepWarning (hsettled hresolved)⟩

/-- A deletion is never settled by a query, and none is made. -/
theorem reconcileWriteDiagnostic_delete {marker : UnresolvedWrite} {number : String}
    (hop : marker.operation = .delete number) (diagnostic : WriteDiagnostic) :
    reconcileWriteDiagnostic marker diagnostic
      = Prog.ret (.because ReconciliationOutcome.deletion) := by
  have hchecked : ∀ candidate, reconcileWriteChecked marker candidate
      = Prog.ret (.ok (.because ReconciliationOutcome.deletion)) := by
    intro candidate
    simp only [reconcileWriteChecked, reconcile, hop, Prog.pure_eq, Prog.ret_bind]
  simp only [reconcileWriteDiagnostic, reconcileWrite, hchecked, hop, WriteOperation.isStorno,
    Prog.ret_bind, Bool.and_false, Bool.false_and, Bool.false_eq_true, if_false, Prog.pure_eq,
    retainUnanswered, WriteResult.because, keepWarning]

/-- **Only matching positive evidence settles uncertainty.** Whatever it is
answered, and wherever it is cut short, the reconciliation of a marker sends
nothing; and it returns something other than *unresolved* only with the evidence
`SettledBy` spells out, read in the same call. The marker of a deletion stays
unresolved, without a query. -/
theorem reconcileWriteDiagnostic_only_by_evidence (marker : UnresolvedWrite)
    (diagnostic : WriteDiagnostic) :
    (∀ tr q, Prog.Steps (reconcileWriteDiagnostic marker diagnostic) tr q → ReadOnly tr)
      ∧ (∀ tr result, Prog.Runs (reconcileWriteDiagnostic marker diagnostic) tr result →
          result.isUnresolved = false → SettledBy marker tr result)
      ∧ (∀ number, marker.operation = .delete number →
          ∀ tr result, Prog.Runs (reconcileWriteDiagnostic marker diagnostic) tr result →
            tr = [] ∧ result = .because ReconciliationOutcome.deletion) := by
  refine ⟨fun tr q hs => ?_, fun tr result hr => ?_, fun number hop tr result hr => ?_⟩
  · refine Prog.Ensures.steps ((reconcileWriteDiagnostic_spec marker diagnostic).mono
      (fun _ _ h => h.1)) (fun t t' h => (readOnly_append.mp h).1) hs
  · exact (reconcileWriteDiagnostic_spec marker diagnostic tr result hr).2
  · rw [reconcileWriteDiagnostic_delete hop, Prog.runs_ret] at hr
    exact ⟨hr.1, hr.2.symm⟩

end Szamlazz
