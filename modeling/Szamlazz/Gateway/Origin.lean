import Szamlazz.Gateway.ReplayCreate

/-!
# Where an outcome comes from

Every outcome about a document was concluded from something szamlazz.hu said in
the same call: a reply to the create that numbered it, or a query of the external
id that returned it, of the order, the kind and the base that were meant. A
refusal carries a code szamlazz.hu documents. These are the facts an answer to a
caller rests on; they hold of every call that concludes a create, and of the two
reads the handlers are written with.
-/

namespace Szamlazz

/-! ## Codes -/

/-- Every documented code is written with a digit. -/
theorem ErrorCode.display_nonblank {code : ErrorCode} (h : code.outcomeClass ≠ .unknown) :
    Text.isBlank code.display = false := by
  cases code with
  | unknown token => exact absurd rfl h
  | absent => exact absurd rfl h
  | _ => decide

/-- A refusal has a code. -/
theorem classifyFailure_rejected {operation : String} {error : ClientError}
    {rejection : Rejection} (h : classifyFailure operation error = .rejected rejection) :
    Text.isBlank rejection.code.display = false := by
  unfold classifyFailure at h
  split at h
  · rename_i api
    split_ifs at h
    split at h
    · cases h
    · rename_i hclass
      cases h
      exact ErrorCode.display_nonblank (by rw [hclass]; decide)
    · rename_i hclass
      cases h
      exact ErrorCode.display_nonblank (by rw [hclass]; decide)
    · cases h
  · cases h
    show Text.isBlank "request" = false
    decide
  · split at h <;> cases h

theorem classifyFailure_duplicate {operation : String} {error : ClientError}
    {answer : SzamlazzAnswer} (h : classifyFailure operation error = .duplicate answer) :
    Text.isBlank answer.code = false := by
  unfold classifyFailure at h
  split at h
  · rename_i api
    split_ifs at h
    split at h
    · rename_i hclass
      cases h
      exact ErrorCode.display_nonblank (by rw [hclass]; decide)
    · cases h
    · cases h
    · cases h
  · cases h
  · split at h <;> cases h

variable [Unicode]

/-! ## Documents -/

omit [Unicode] in
/-- A document a call read has a number. -/
theorem ReadIn.nonblank {tr : List (Exchange AgentRequest.Answer)} {selector : InvoiceSelector}
    {found : FoundDocument} (h : ReadIn tr selector found) : Text.isBlank found.number = false := by
  obtain ⟨answer, -, hanswer⟩ := h
  exact (number_of_queryAnswer hanswer).1

/-- What an outcome about a document is about: the external id, the order and the
kind it was looked up by, and the base it must have. -/
structure Target where
  externalId : String
  order : OrderKey
  kind : IssuedKind
  correctedNumber : Option String

/-- The call read `found` under the external id: of the order and of the kind. -/
structure HolderIn (tr : List (Exchange AgentRequest.Answer)) (externalId : String)
    (order : OrderKey) (kind : IssuedKind) (found : FoundDocument) : Prop where
  read : ReadIn tr (.externalId externalId) found
  ours : found.isOurs order kind = true

/-- The call was told in a reply to a create that the document exists. -/
def ReplyIn (tr : List (Exchange AgentRequest.Answer)) (document : IssuedDocument) : Prop :=
  ∃ request created,
    (⟨AgentRequest.create request, Except.ok (.issued created)⟩ : Exchange AgentRequest.Answer) ∈ tr
      ∧ document = .ofCreated created

/-- **What a settled create is concluded from.** -/
def CreateOutcome.OriginIn (tr : List (Exchange AgentRequest.Answer)) (target : Target) :
    CreateOutcome → Prop
  | .issued document => ReplyIn tr document
  | .found document | .reversed document | .reconciled document =>
    HolderIn tr target.externalId target.order target.kind document
      ∧ matchesCreateBase document target.kind target.correctedNumber = true
  | .duplicateOrderNumber answer _ => Text.isBlank answer.code = false
  | .rejected rejection => Text.isBlank rejection.code.display = false
  | .targetChanged | .liveAgain _ | .collision _ | .credentialsRejected _ | .api _
  | .unavailable _ => True

/-- The same of the write that settled it. -/
def WriteResult.OriginIn (tr : List (Exchange AgentRequest.Answer)) (target : Target)
    (result : WriteResult) : Prop :=
  ∀ outcome, result = .create outcome → outcome.OriginIn tr target

/-- What a read of an external id is concluded from. -/
def OwnershipOutcome.OriginIn (tr : List (Exchange AgentRequest.Answer)) (externalId : String)
    (order : OrderKey) (kind : IssuedKind) : OwnershipOutcome → Prop
  | .live document | .reversed document => HolderIn tr externalId order kind document
  | .absent | .collision _ | .credentialsRejected _ | .api _ => True

/-- What the full lookup is concluded from. -/
def LookupOutcome.OriginIn (tr : List (Exchange AgentRequest.Answer)) (target : Target) :
    LookupOutcome → Prop
  | .live document | .reversed document _ =>
    HolderIn tr target.externalId target.order target.kind document
      ∧ matchesCreateBase document target.kind target.correctedNumber = true
  | .absent | .collision _ | .foreign _ | .credentialsRejected _ | .api _ => True

section Widen

variable {t t' : List (Exchange AgentRequest.Answer)} {externalId : String} {order : OrderKey}
  {kind : IssuedKind} {found : FoundDocument} {target : Target}

theorem HolderIn.left (h : HolderIn t externalId order kind found) :
    HolderIn (t ++ t') externalId order kind found := ⟨h.read.left, h.ours⟩

theorem HolderIn.right (h : HolderIn t' externalId order kind found) :
    HolderIn (t ++ t') externalId order kind found := ⟨h.read.right, h.ours⟩

omit [Unicode] in
theorem ReplyIn.left {document : IssuedDocument} (h : ReplyIn t document) :
    ReplyIn (t ++ t') document := by
  obtain ⟨request, created, hmem, hdocument⟩ := h
  exact ⟨request, created, List.mem_append_left _ hmem, hdocument⟩

omit [Unicode] in
theorem ReplyIn.right {document : IssuedDocument} (h : ReplyIn t' document) :
    ReplyIn (t ++ t') document := by
  obtain ⟨request, created, hmem, hdocument⟩ := h
  exact ⟨request, created, List.mem_append_right _ hmem, hdocument⟩

theorem CreateOutcome.OriginIn.left {outcome : CreateOutcome} (h : outcome.OriginIn t target) :
    outcome.OriginIn (t ++ t') target := by
  cases outcome with
  | issued document => exact ReplyIn.left h
  | found document | reversed document | reconciled document => exact ⟨h.1.left, h.2⟩
  | _ => exact h

theorem CreateOutcome.OriginIn.right {outcome : CreateOutcome} (h : outcome.OriginIn t' target) :
    outcome.OriginIn (t ++ t') target := by
  cases outcome with
  | issued document => exact ReplyIn.right h
  | found document | reversed document | reconciled document => exact ⟨h.1.right, h.2⟩
  | _ => exact h

theorem WriteResult.OriginIn.left {result : WriteResult} (h : result.OriginIn t target) :
    result.OriginIn (t ++ t') target := fun outcome ho => (h outcome ho).left

theorem WriteResult.OriginIn.right {result : WriteResult} (h : result.OriginIn t' target) :
    result.OriginIn (t ++ t') target := fun outcome ho => (h outcome ho).right

end Widen

/-! ## The reads -/

theorem lookupOurs_origin (externalId : ExternalId) (order : OrderKey) (kind : IssuedKind) :
    Prog.Ensures (lookupOurs externalId order kind) fun tr r =>
      ∀ outcome, r = .ok outcome → outcome.OriginIn tr externalId.text order kind := by
  rw [lookupOurs, seen_bind, Prog.ensures_call]
  intro answer
  rw [Prog.pure_eq, Prog.ensures_ret]
  intro outcome houtcome
  obtain ⟨hlive, hreversed, -⟩ := ownership_cases houtcome
  cases outcome with
  | live document =>
    obtain ⟨hanswer, hours, -⟩ := hlive document rfl
    exact ⟨readIn_head hanswer, hours⟩
  | reversed document =>
    obtain ⟨hanswer, hours, -⟩ := hreversed document rfl
    exact ⟨readIn_head hanswer, hours⟩
  | _ => trivial

/-- The hint adds nothing to what the external id holds. -/
theorem lookupHint_origin (request : LookupRequest) (blockProforma : Bool)
    (reversed : Option FoundDocument) :
    Prog.Ensures (lookupHint request blockProforma reversed) fun _ r =>
      ∀ outcome, r = .ok outcome → (∀ document, outcome ≠ .live document)
        ∧ ∀ document stornoNumber, outcome = .reversed document stornoNumber →
          reversed = some document := by
  have hresult : ∀ stornoNumber, (∀ document, lookupResult reversed stornoNumber ≠ .live document)
      ∧ ∀ document number, lookupResult reversed stornoNumber = .reversed document number →
        reversed = some document := by
    intro stornoNumber
    cases reversed with
    | none => simp [lookupResult]
    | some found =>
      refine ⟨(fun _ h => by cases h), ?_⟩
      rintro document number ⟨⟩
      rfl
  unfold lookupHint
  split_ifs
  · rw [hintRaw_bind, Prog.ensures_call]
    intro answer
    split
    · split_ifs
      · rw [Prog.pure_eq, Prog.ensures_ret]
        rintro outcome ⟨⟩
        simp
      · rw [Prog.pure_eq, Prog.ensures_ret]
        rintro outcome ⟨⟩
        exact hresult _
    · split
      · rw [Prog.pure_eq, Prog.ensures_ret]
        rintro outcome ⟨⟩
        simp
      · rw [Prog.pure_eq, Prog.ensures_ret]
        rintro outcome ⟨⟩
        exact hresult _
      · rw [Prog.pure_eq, Prog.ensures_ret]
        rintro outcome ⟨⟩
        exact hresult _
      · exact Prog.ensures_ret.mpr (fun _ h => by cases h)
  · rw [Prog.pure_eq, Prog.ensures_ret]
    rintro outcome ⟨⟩
    exact hresult _

theorem lookupInner_holder (request : LookupRequest) (blockProforma : Bool) :
    Prog.Ensures (lookupInner request blockProforma) fun tr r =>
      ∀ outcome, r = .ok outcome →
        (∀ document, outcome = .live document →
          HolderIn tr request.externalId.text request.order request.kind document)
        ∧ ∀ document stornoNumber, outcome = .reversed document stornoNumber →
          HolderIn tr request.externalId.text request.order request.kind document := by
  unfold lookupInner
  rw [seen_bind, Prog.ensures_call]
  intro answer
  split
  · exact Prog.ensures_ret.mpr (by rintro outcome ⟨⟩; simp)
  · rename_i found hfound
    obtain ⟨hanswer, hours, -⟩ := classifySeen_eq_live.mp hfound
    rw [Prog.pure_eq, Prog.ensures_ret]
    rintro outcome ⟨⟩
    refine ⟨?_, fun _ _ h => by cases h⟩
    rintro document ⟨⟩
    exact ⟨readIn_head hanswer, hours⟩
  · rename_i found hfound
    obtain ⟨hanswer, hours, -⟩ := classifySeen_eq_reversed.mp hfound
    refine (lookupHint_origin request blockProforma (some found)).mono ?_
    intro tr r hr outcome ho
    obtain ⟨hlive, hreversed⟩ := hr outcome ho
    refine ⟨fun document h => absurd h (hlive document), fun document stornoNumber h => ?_⟩
    obtain rfl := Option.some.inj (hreversed document stornoNumber h)
    exact ⟨readIn_head hanswer, hours⟩
  · refine (lookupHint_origin request blockProforma none).mono ?_
    intro tr r hr outcome ho
    obtain ⟨hlive, hreversed⟩ := hr outcome ho
    exact ⟨fun document h => absurd h (hlive document),
      fun document stornoNumber h => nomatch hreversed document stornoNumber h⟩
  · split
    · refine (lookupHint_origin request blockProforma none).mono ?_
      intro tr r hr outcome ho
      obtain ⟨hlive, hreversed⟩ := hr outcome ho
      exact ⟨fun document h => absurd h (hlive document),
        fun document stornoNumber h => nomatch hreversed document stornoNumber h⟩
    · exact Prog.ensures_ret.mpr (by rintro outcome ⟨⟩; simp)
    · exact Prog.ensures_ret.mpr (by rintro outcome ⟨⟩; simp)
    · exact Prog.ensures_ret.mpr (fun _ h => by cases h)

/-! ## The writes -/

/-- The target of a create. -/
def CreateStepRequest.target (request : CreateStepRequest) : Target where
  externalId := request.externalId.text
  order := request.order
  kind := request.kind
  correctedNumber := request.correctedNumber

/-- A holder that settles was read, and has the intended base. -/
theorem settledBy_origin {request : CreateStepRequest} {beforeSend : Bool}
    {answer : Except ClientError InvoiceDocument} {outcome : CreateOutcome}
    (h : settledBy request beforeSend (classifySeen request.order request.kind
      (queryAnswer (.externalId request.externalId.text) answer)) = .ok (some outcome))
    (tr : List (Exchange AgentRequest.Answer)) :
    outcome.OriginIn (⟨.query (.externalId request.externalId.text), answer⟩ :: tr)
      request.target := by
  unfold settledBy at h
  dsimp only at h
  split_ifs at h
  · cases h
    trivial
  · unfold settleCreate at h
    split at h
    · cases h
      trivial
    · rename_i document hdocument
      obtain ⟨hseen, hbase⟩ := withCorrectiveBase_eq_live.mp hdocument
      obtain ⟨hanswer, hours, -⟩ := classifySeen_eq_live.mp hseen
      split_ifs at h
      · cases h
        exact ⟨⟨readIn_head hanswer, hours⟩, hbase⟩
      · cases h
        trivial
    · rename_i document hdocument
      obtain ⟨hseen, hbase⟩ := withCorrectiveBase_eq_reversed.mp hdocument
      obtain ⟨hanswer, hours, -⟩ := classifySeen_eq_reversed.mp hseen
      split_ifs at h
      · cases h
        exact ⟨⟨readIn_head hanswer, hours⟩, hbase⟩
      · cases h
    · cases h
    · cases h
      trivial
    · cases h

theorem duplicateRefusal_origin {kind : IssuedKind} {answer : SzamlazzAnswer}
    (hanswer : Text.isBlank answer.code = false) (tr : List (Exchange AgentRequest.Answer))
    (target : Target) : (duplicateRefusal kind answer).OriginIn tr target := by
  unfold duplicateRefusal
  split_ifs
  · exact hanswer
  · exact hanswer

theorem afterDuplicate_origin (request : CreateStepRequest) {answer : SzamlazzAnswer}
    (hanswer : Text.isBlank answer.code = false) :
    Prog.Ensures (afterDuplicate request answer) fun tr outcome =>
      outcome.OriginIn tr request.target := by
  unfold afterDuplicate
  rw [settledByQuery_bind, Prog.ensures_call]
  intro reply
  split
  · rename_i found hfound
    exact Prog.ensures_ret.mpr (settledBy_origin hfound [])
  · exact Prog.ensures_ret.mpr (duplicateRefusal_origin hanswer _ _)
  · rename_i settled hsettled
    exact Prog.ensures_ret.mpr (settledBy_origin hsettled [])
  · exact Prog.ensures_ret.mpr (duplicateRefusal_origin hanswer _ _)
  · split_ifs
    · exact Prog.ensures_ret.mpr hanswer
    · rw [hintRaw_bind, Prog.ensures_call]
      exact fun newest => Prog.ensures_ret.mpr hanswer

theorem keepDuplicate_origin {kind : IssuedKind} {settlement : CreateSettlement}
    {answer : SzamlazzAnswer} {outcome : CreateOutcome}
    {tr : List (Exchange AgentRequest.Answer)} {target : Target}
    (hanswer : Text.isBlank answer.code = false) (h : outcome.OriginIn tr target) :
    (keepDuplicate kind settlement answer outcome).OriginIn tr target := by
  unfold keepDuplicate
  split
  · exact h
  · split
    · exact h
    · exact h
    · exact duplicateRefusal_origin hanswer _ _
  · split
    · exact h
    · exact h
    · exact duplicateRefusal_origin hanswer _ _
  · split_ifs
    · exact h
    · exact duplicateRefusal_origin hanswer _ _

/-- The immediate read after an uncertain send concludes by the same rules. -/
theorem settleUnconfirmedCreate_origin (request : CreateStepRequest)
    (settlement : CreateSettlement) (unconfirmed : Unconfirmed) :
    Prog.Ensures (settleUnconfirmedCreate request settlement unconfirmed) fun tr r =>
      ∀ outcome, r = .ok outcome → outcome.OriginIn tr request.target := by
  unfold settleUnconfirmedCreate
  split
  · unfold settleOr
    refine (reconcile_spec _).bind ?_
    rintro tr reconciled ⟨-, hcreated, -⟩
    split
    · rename_i found
      obtain ⟨hread, kind, expected, corrected, hoperation, hevidence⟩ := hcreated found rfl
      cases hoperation
      have hholder : HolderIn tr request.externalId.text request.order request.kind found :=
        ⟨hread, by simp [FoundDocument.isOurs, hevidence.carriesOrder, hevidence.documentType]⟩
      rw [Prog.pure_eq, Prog.ensures_ret]
      rintro outcome ⟨⟩
      split_ifs
      · exact ⟨hholder.left, hevidence.base⟩
      · exact ⟨hholder.left, hevidence.base⟩
    all_goals exact Prog.ensures_ret.mpr (fun _ h => by cases h)
  all_goals exact Prog.ensures_ret.mpr (fun _ h => by cases h)

theorem createSend_origin (request : CreateStepRequest) (settlement : CreateSettlement) :
    Prog.Ensures (createSend request settlement) fun tr r =>
      ∀ outcome, r = .ok outcome → outcome.OriginIn tr request.target := by
  -- What the reads behind a reply conclude, they conclude with the reply in front.
  have hbehind : ∀ (e : Exchange AgentRequest.Answer) (unconfirmed : Unconfirmed),
      Prog.Ensures (settleUnconfirmedCreate request settlement unconfirmed) fun tr r =>
        ∀ outcome, r = .ok outcome → outcome.OriginIn (e :: tr) request.target :=
    fun e unconfirmed => (settleUnconfirmedCreate_origin request settlement unconfirmed).mono
      (fun tr r hr outcome ho => (hr outcome ho).right (t := [e]))
  unfold createSend
  rw [Prog.perform_bind, Prog.ensures_call]
  intro reply
  split
  · split_ifs
    · exact hbehind _ _
    · rw [Prog.pure_eq, Prog.ensures_ret]
      rintro outcome ⟨⟩
      exact ⟨request.create, _, List.mem_cons_self, rfl⟩
  · exact hbehind _ _
  · rename_i error
    split
    · rename_i rejection hrejection
      rw [Prog.pure_eq, Prog.ensures_ret]
      rintro outcome ⟨⟩
      exact classifyFailure_rejected hrejection
    · rw [Prog.pure_eq, Prog.ensures_ret]
      rintro outcome ⟨⟩
      trivial
    · exact hbehind _ _
    · exact hbehind _ _
    · exact hbehind _ _
    · rename_i answer hduplicate
      have hanswer := classifyFailure_duplicate hduplicate
      refine (afterDuplicate_origin request hanswer).bind (fun tr outcome houtcome => ?_)
      rw [Prog.pure_eq, Prog.ensures_ret, List.append_nil]
      rintro _ ⟨⟩
      exact keepDuplicate_origin hanswer (houtcome.right (t := [_]))

/-- **What the protected create concludes, it was told in the call.** -/
theorem protectedCreate_origin (request : CreateStepRequest) :
    Prog.Ensures (protectedCreate request) fun tr result =>
      result.OriginIn tr request.target := by
  unfold protectedCreate
  rw [settledByQuery_bind, Prog.ensures_call]
  intro answer
  have hsend : Prog.Ensures
      (createSend request .retained >>= fun sent => pure (protectedCreateResult sent))
      fun tr result => result.OriginIn
        (⟨.query (.externalId request.externalId.text), answer⟩ :: tr) request.target := by
    refine (createSend_origin request .retained).bind (fun tr sent hsent => ?_)
    rw [Prog.pure_eq, Prog.ensures_ret, List.append_nil]
    intro outcome houtcome
    cases sent with
    | error cause => cases houtcome
    | ok settled =>
      cases houtcome
      exact (hsent _ rfl).right (t := [_])
  split
  · rename_i outcome hsettled
    rw [Prog.pure_eq, Prog.ensures_ret]
    rintro _ ⟨⟩
    exact settledBy_origin hsettled []
  · exact hsend
  · exact hsend
  · exact Prog.ensures_ret.mpr (by rintro _ ⟨⟩; trivial)
  · exact Prog.ensures_ret.mpr (by rintro _ ⟨⟩; trivial)
  · exact Prog.ensures_ret.mpr (by rintro _ ⟨⟩; trivial)
  · exact Prog.ensures_ret.mpr (by rintro _ ⟨⟩; trivial)
  · exact Prog.ensures_ret.mpr (fun _ h => by cases h)

/-- **So does the replay-enabled create.** -/
theorem createReplayEnabled_origin (request : CreateStepRequest) :
    Prog.Ensures (createReplayEnabled request) fun tr result =>
      result.OriginIn tr request.target := by
  unfold createReplayEnabled
  split_ifs with hsupported
  · exact Prog.ensures_ret.mpr (fun _ h => by cases h)
  · -- Replay-enabled writes have no correctives, and nothing else has a base.
    have hbase : ∀ document : FoundDocument,
        matchesCreateBase document request.kind request.correctedNumber = true := by
      intro document
      simp only [Bool.or_eq_true, decide_eq_true_eq, not_or, Bool.not_eq_true,
        Option.isSome_eq_false_iff, Option.isNone_iff_eq_none] at hsupported
      rw [hsupported.2]
      cases hkind : request.kind with
      | corrective => exact absurd (by simp [CreateStepRequest.replayContract, hkind]) hsupported.1
      | _ => rfl
    -- what holds the slot is either answered from the query or waited for
    rw [seen_bind, Prog.ensures_call]
    intro answer
    split
    · rename_i result hresult
      rw [Prog.pure_eq, Prog.ensures_ret]
      rintro outcome rfl
      unfold replayHolder at hresult
      split at hresult
      · split_ifs at hresult
        cases hresult
      · rename_i document hdocument
        obtain ⟨hanswer, hours, -⟩ := classifySeen_eq_reversed.mp hdocument
        split_ifs at hresult
        cases hresult
        exact ⟨⟨readIn_head hanswer, hours⟩, hbase document⟩
      · rename_i document hdocument
        obtain ⟨hanswer, hours, -⟩ := classifySeen_eq_live.mp hdocument
        split_ifs at hresult
        · cases hresult
          exact ⟨⟨readIn_head hanswer, hours⟩, hbase document⟩
        · cases hresult
      all_goals cases hresult
    · refine Prog.Ensures.bind (Q := fun _ _ => True) (fun _ _ _ => trivial)
        (fun guards checked _ => ?_)
      split
      · exact Prog.ensures_ret.mpr (fun _ h => by cases h)
      · refine (createSend_origin request .retainedWithDuplicateEvidence).bind
          (fun tr sent hsent => ?_)
        rw [Prog.pure_eq, Prog.ensures_ret, List.append_nil]
        intro outcome houtcome
        -- a settled send keeps its origin with the query and the guards in front
        have hfront : ∀ settled, sent = .ok settled → settled.OriginIn
            (⟨.query (.externalId request.externalId.text), answer⟩ :: (guards ++ tr))
            request.target :=
          fun settled h => ((hsent settled h).right (t := guards)).right (t := [_])
        unfold replayCreateResult at houtcome
        split at houtcome
        · cases houtcome
          exact hfront _ rfl
        · cases houtcome
          exact hfront _ rfl
        · cases houtcome
          exact hfront _ rfl
        · cases houtcome
          exact hfront _ rfl
        all_goals cases houtcome

/-- A reconciled create was read under its external id, and is the intended one. -/
theorem SettledBy.origin {marker : UnresolvedWrite} {target : Target}
    {tr : List (Exchange AgentRequest.Answer)} {result : WriteResult}
    (h : SettledBy marker tr result) {reissued : Option String}
    (hoperation : marker.operation = .create target.kind reissued target.correctedNumber)
    (hid : marker.externalId = target.externalId) (horder : marker.order = target.order) :
    result.OriginIn tr target := by
  rintro outcome rfl
  unfold SettledBy at h
  rw [hoperation] at h
  obtain ⟨document, hread, hevidence, hresult⟩ := h
  rw [hid] at hread
  rw [horder] at hevidence
  have hholder : HolderIn tr target.externalId target.order target.kind document :=
    ⟨hread, by simp [FoundDocument.isOurs, hevidence.carriesOrder, hevidence.documentType]⟩
  cases WriteResult.create.inj hresult
  split_ifs
  · exact ⟨hholder, hevidence.base⟩
  · exact ⟨hholder, hevidence.base⟩

end Szamlazz
