import Szamlazz.Gateway.Reconcile

/-!
# The create step

Three calls send a create: `createOnce`, whose caller owns the permission,
`protectedCreate`, behind an order's marker, and `createReplayEnabled`, whose
unfinished executions may run again. They share the gate before the send – the
external-id query made in the same call must permit it – and part after it: who
reconciles an uncertain send, and when.
-/

namespace Szamlazz

variable [Unicode]

/-! ## The request -/

/-- Why an outbound create disagrees with the intended identity. -/
inductive CreateStepRequestError where
  | externalIdMismatch
  | orderMismatch
  | kindMismatch
  | unsupportedKind
  | correctiveIntentMismatch
deriving DecidableEq

def CreateStepRequestError.display : CreateStepRequestError → String
  | externalIdMismatch => "create external id must exactly match the intended external id"
  | orderMismatch => "create order number must exactly match the intended order"
  | kindMismatch => "create kind must match the intended issued kind"
  | unsupportedKind => "create kind is not supported by Gateway issuance"
  | correctiveIntentMismatch =>
    "create corrective base must exactly match the intended nonblank base, and be absent for other kinds"

namespace CreateStepRequest

/-- The kind and the base an outbound create has. -/
def outbound : InvoiceKind → Option (IssuedKind × Option String)
  | .invoice _ => some (.invoice, none)
  | .proforma => some (.proforma, none)
  | .prepayment _ => some (.prepayment, none)
  | .final _ _ => some (.final, none)
  | .corrective correctedNumber => some (.corrective, some correctedNumber)
  | .deliveryNote => none

/-- The outbound create must agree with the identity it is looked up by. -/
def check (externalId : ExternalId) (kind : IssuedKind) (order : OrderKey)
    (create : CreateInvoice) (correctedNumber : Option String) :
    Except CreateStepRequestError Unit :=
  if create.externalId ≠ some externalId.text then .error .externalIdMismatch
  else if create.header.orderNumber ≠ some order.text then .error .orderMismatch
  else
    match outbound create.kind with
    | none => .error .unsupportedKind
    | some (outboundKind, outboundBase) =>
      if outboundKind ≠ kind then .error .kindMismatch
      else if outboundBase ≠ correctedNumber || correctedNumber.any Text.isBlank then
        .error .correctiveIntentMismatch
      else .ok ()

end CreateStepRequest

/-- A create with the identity it is looked up and recovered by. -/
structure CreateStepRequest where
  externalId : ExternalId
  kind : IssuedKind
  order : OrderKey
  create : CreateInvoice
  /-- The old reversed holder of an explicit reissue: the one holder a send may
  go past. -/
  reversed : Option String
  correctedNumber : Option String
  agrees : CreateStepRequest.check externalId kind order create correctedNumber = .ok ()

namespace CreateStepRequest

/-- Checks the outbound create against the identity. -/
def new (externalId : ExternalId) (kind : IssuedKind) (order : OrderKey)
    (create : CreateInvoice) (reversed correctedNumber : Option String) :
    Except CreateStepRequestError CreateStepRequest :=
  match h : check externalId kind order create correctedNumber with
  | .ok () => .ok ⟨externalId, kind, order, create, reversed, correctedNumber, h⟩
  | .error error => .error error

/-- What a request agrees on with the create it sends. -/
theorem agreement (request : CreateStepRequest) :
    request.create.externalId = some request.externalId.text
      ∧ request.create.header.orderNumber = some request.order.text
      ∧ outbound request.create.kind = some (request.kind, request.correctedNumber) := by
  have hagrees := request.agrees
  unfold check at hagrees
  split_ifs at hagrees with hexternal horder
  rw [not_not] at hexternal horder
  split at hagrees
  · cases hagrees
  · rename_i kind base houtbound
    split_ifs at hagrees with hkind hbase
    rw [not_not] at hkind
    simp only [ne_eq, Bool.or_eq_true, decide_eq_true_eq, not_or, not_not] at hbase
    exact ⟨hexternal, horder, by rw [houtbound, hkind, hbase.1]⟩

/-- Only a corrective names a base. -/
theorem correctedNumber_eq_none {request : CreateStepRequest} (h : request.kind ≠ .corrective) :
    request.correctedNumber = none := by
  obtain ⟨-, -, houtbound⟩ := request.agreement
  cases hkind : request.create.kind <;> simp_all [outbound]

/-- The intent to retain before sending. -/
def operation (request : CreateStepRequest) : WriteOperation :=
  .create request.kind request.reversed request.correctedNumber

/-- The contract of a replay-enabled create; correctives have none. -/
def replayContract (request : CreateStepRequest) : Option ReplayExecutionContract :=
  match request.kind with
  | .invoice => some .requestResponseOrdinaryV1
  | .proforma => some .requestResponseProformaV1
  | .prepayment => some .requestResponsePrepaymentV1
  | .final => some .requestResponseFinalV1
  | .corrective => none

def prepaymentNumber (request : CreateStepRequest) : Option String :=
  match request.create.kind with
  | .final prepaymentNumber _ => prepaymentNumber
  | _ => none

def proformaNumber (request : CreateStepRequest) : Option String :=
  request.create.kind.proformaNumber

end CreateStepRequest

/-! ## The gate -/

/-- A holder with another base than the corrective's is a collision. -/
def withCorrectiveBase (request : CreateStepRequest) :
    Except QueryError Seen → Except QueryError Seen
  | .ok (.live found) =>
    if matchesCorrectiveBase found request.operation then .ok (.live found)
    else .ok (.collision found)
  | .ok (.reversed found) =>
    if matchesCorrectiveBase found request.operation then .ok (.reversed found)
    else .ok (.collision found)
  | other => other

/-- The expected old holder is gone, or another document of ours took its place. -/
def targetChanged (request : CreateStepRequest) (holder : Except QueryError Seen) : Bool :=
  match request.reversed with
  | none => false
  | some expected =>
    match holder with
    | .ok .absent => true
    | .ok (.live found) | .ok (.reversed found) => found.number ≠ expected
    | _ => false

/-- What a holder settles; `none` lets the send proceed. -/
def settleCreate (holder : Except QueryError Seen) (reversed : Option String) :
    Except QueryError (Option CreateOutcome) :=
  match holder with
  | .ok (.collision found) => .ok (some (.collision found))
  | .ok (.live found) =>
    if some found.number ≠ reversed then .ok (some (.found found))
    else .ok (some (.liveAgain found))
  | .ok (.reversed found) =>
    if some found.number ≠ reversed then .ok (some (.reversed found)) else .ok none
  | .ok .absent => .ok none
  | .error (.credentialsRejected answer) => .ok (some (.credentialsRejected answer))
  | .error error => .error error

/-- What the answer to the external-id query settles. -/
def settledBy (request : CreateStepRequest) (beforeSend : Bool)
    (holder : Except QueryError Seen) : Except QueryError (Option CreateOutcome) :=
  let holder := withCorrectiveBase request holder
  if beforeSend && targetChanged request holder then .ok (some .targetChanged)
  else settleCreate holder request.reversed

/-- The external-id query of the create step. -/
def settledByQuery (request : CreateStepRequest) (beforeSend : Bool) :
    Call (Except QueryError (Option CreateOutcome)) := do
  let holder ← seen request.externalId request.order request.kind
  return settledBy request beforeSend holder

@[simp] theorem settledByQuery_bind {α : Type} (request : CreateStepRequest) (beforeSend : Bool)
    (f : Except QueryError (Option CreateOutcome) → Call α) :
    (settledByQuery request beforeSend >>= f)
      = Prog.call (AgentRequest.query (.externalId request.externalId.text))
        (fun answer => f (settledBy request beforeSend (classifySeen request.order request.kind
          (queryAnswer (.externalId request.externalId.text) answer)))) := rfl

/-- **What permits a send**: nothing under the external id when no reissue target
was given; the target itself, ours, of the intended base and reversed, when one
was. -/
def PermitsSend (request : CreateStepRequest) (holder : Except QueryError FoundDocument) : Prop :=
  match request.reversed with
  | none => holder = .error .notFound
  | some expected =>
    ∃ found, holder = .ok found ∧ found.isOurs request.order request.kind = true
      ∧ matchesCreateBase found request.kind request.correctedNumber = true
      ∧ found.number = expected ∧ found.isLive = false

/-! ## The send and its settlement -/

/-- Where an uncertain create is reconciled. -/
inductive CreateSettlement where
  /-- At once, for a direct caller. -/
  | immediate
  /-- Later, from the order's marker. -/
  | retained
  /-- Later, but positive evidence of a duplicate refusal is kept. -/
  | retainedWithDuplicateEvidence
deriving DecidableEq

/-- A duplicate refusal whose diagnostic reads found nothing to add. -/
def duplicateRefusal (kind : IssuedKind) (answer : SzamlazzAnswer) : CreateOutcome :=
  if kind = .corrective then .rejected (.ofAnswer answer)
  else .duplicateOrderNumber answer none

/-- The immediate read after an uncertain send. -/
def settleOr (request : CreateStepRequest) (unconfirmed : Unconfirmed) :
    Call (Except Unconfirmed CreateOutcome) := do
  let reconciled ← reconcile
    { externalId := request.externalId.text, order := request.order
      operation := request.operation, candidate := none }
  match reconciled with
  | .ok (.created found) =>
    return .ok (if found.isLive then .found found else .reversed found)
  | .ok (.credentialsRejected answer) => return .error (unconfirmed.reQuery answer.display)
  | .ok (.api answer) => return .error (unconfirmed.reQuery answer.display)
  | .error error => return .error (unconfirmed.reQuery error.display)
  | .ok (.reversed _ _) | .ok (.inconclusive _) => return .error unconfirmed

def settleUnconfirmedCreate (request : CreateStepRequest) (settlement : CreateSettlement)
    (unconfirmed : Unconfirmed) : Call (Except Unconfirmed CreateOutcome) :=
  match settlement with
  | .immediate => settleOr request unconfirmed
  | .retained | .retainedWithDuplicateEvidence => return .error unconfirmed

/-- The number of the newest document, if it is a live one of the kind. -/
def existingNumber (kind : IssuedKind) : Except QueryError FoundDocument → Option String
  | .ok newest =>
    if newest.isLive && newest.documentType = kind.documentType then some newest.number else none
  | .error _ => none

/-- The reads after a duplicate refusal: diagnostics, never a change of the refusal. -/
def afterDuplicate (request : CreateStepRequest) (answer : SzamlazzAnswer) :
    Call CreateOutcome := do
  let settled ← settledByQuery request false
  match settled with
  | .ok (some (.found found)) => return .reconciled found
  | .ok (some (.credentialsRejected _)) => return duplicateRefusal request.kind answer
  | .ok (some settled) => return settled
  | .error _ => return duplicateRefusal request.kind answer
  | .ok none =>
    if request.kind = .corrective then return .rejected (.ofAnswer answer)
    else
      let newest ← hintRaw request.order
      return .duplicateOrderNumber answer (existingNumber request.kind newest)

/-- Which diagnostic of a duplicate refusal a settlement keeps. -/
def keepDuplicate (kind : IssuedKind) (settlement : CreateSettlement) (answer : SzamlazzAnswer) :
    CreateOutcome → CreateOutcome
  | .duplicateOrderNumber answer existingNumber => .duplicateOrderNumber answer existingNumber
  | .reconciled found =>
    match settlement with
    | .retainedWithDuplicateEvidence | .immediate => .reconciled found
    | .retained => duplicateRefusal kind answer
  | .reversed found =>
    match settlement with
    | .retainedWithDuplicateEvidence | .immediate => .reversed found
    | .retained => duplicateRefusal kind answer
  | outcome => if settlement = .immediate then outcome else duplicateRefusal kind answer

/-- Sends the create once. -/
def createSend (request : CreateStepRequest) (settlement : CreateSettlement) :
    Call (Except Unconfirmed CreateOutcome) := do
  let reply ← Prog.perform (AgentRequest.create request.create)
  match (reply : Except ClientError CreationOutcome) with
  | .ok (.issued created) =>
    if request.reversed = some created.invoiceNumber then
      settleUnconfirmedCreate request settlement .reissueEcho
    else return .ok (.issued (.ofCreated created))
  | .ok .preview =>
    settleUnconfirmedCreate request settlement
      (.open none "the create succeeded without a document number")
  | .error error =>
    match classifyFailure "create" error with
    | .rejected rejection => return .ok (.rejected rejection)
    | .credentialsRejected answer => return .ok (.credentialsRejected answer)
    | .unknown answer =>
      settleUnconfirmedCreate request settlement (.open (some answer.code) answer.message)
    | .unavailable message => settleUnconfirmedCreate request settlement (.unavailable message)
    | .transport message => settleUnconfirmedCreate request settlement (.transport message)
    | .duplicate answer => do
      let diagnostic ← afterDuplicate request answer
      return .ok (keepDuplicate request.kind settlement answer diagnostic)

/-- One authorized create: the leading query, then at most one send. -/
def createOnce (request : CreateStepRequest) : Call (Except Unconfirmed CreateOutcome) := do
  let settled ← settledByQuery request true
  match settled with
  | .ok (some settled) => return .ok settled
  | .ok none => createSend request .immediate
  | .error .notFound =>
    if request.reversed.isSome then return .ok .targetChanged
    else createSend request .immediate
  | .error (.api answer) | .error (.transient answer) => return .ok (.api answer)
  | .error (.unavailable message) => return .ok (.unavailable message)
  | .error (.credentialsRejected answer) => return .ok (.credentialsRejected answer)
  | .error (.transport message) => return .error (.transport message)

/-- The write of a settled or unconfirmed create. -/
def protectedCreateResult : Except Unconfirmed CreateOutcome → WriteResult
  | .ok outcome => .create outcome
  | .error cause => .unresolved (.unconfirmed cause)

/-- The create behind an order's marker. -/
def protectedCreate (request : CreateStepRequest) : Call WriteResult := do
  let settled ← settledByQuery request true
  match settled with
  | .ok (some outcome) => return .create outcome
  | .ok none | .error .notFound => do
    let sent ← createSend request .retained
    return protectedCreateResult sent
  | .error (.api answer) | .error (.transient answer) => return .create (.api answer)
  | .error (.credentialsRejected answer) => return .create (.credentialsRejected answer)
  | .error (.unavailable message) => return .create (.unavailable message)
  | .error (.transport message) => return .because message

/-! ## The gate, decided -/

theorem matchesCorrectiveBase_operation (request : CreateStepRequest) (found : FoundDocument) :
    matchesCorrectiveBase found request.operation
      = matchesCreateBase found request.kind request.correctedNumber := rfl

section Settle

variable {request : CreateStepRequest} {holder : Except QueryError Seen}

theorem withCorrectiveBase_eq_absent :
    withCorrectiveBase request holder = .ok .absent ↔ holder = .ok .absent := by
  unfold withCorrectiveBase
  split
  · split_ifs <;> simp
  · split_ifs <;> simp
  · rfl

theorem withCorrectiveBase_eq_error {error : QueryError} :
    withCorrectiveBase request holder = .error error ↔ holder = .error error := by
  unfold withCorrectiveBase
  split
  · split_ifs <;> simp
  · split_ifs <;> simp
  · rfl

theorem withCorrectiveBase_eq_live {found : FoundDocument} :
    withCorrectiveBase request holder = .ok (.live found)
      ↔ holder = .ok (.live found)
        ∧ matchesCreateBase found request.kind request.correctedNumber = true := by
  rw [← matchesCorrectiveBase_operation]
  unfold withCorrectiveBase
  split
  · rename_i found'
    by_cases hbase : matchesCorrectiveBase found' request.operation = true
    · rw [if_pos hbase]
      constructor
      · rintro ⟨⟩
        exact ⟨rfl, hbase⟩
      · exact And.left
    · rw [if_neg hbase]
      constructor
      · rintro ⟨⟩
      · rintro ⟨⟨⟩, hmatch⟩
        exact absurd hmatch hbase
  · split_ifs <;> simp
  · rename_i hlive _
    constructor
    · intro h
      exact absurd h (hlive found)
    · exact And.left

theorem withCorrectiveBase_eq_reversed {found : FoundDocument} :
    withCorrectiveBase request holder = .ok (.reversed found)
      ↔ holder = .ok (.reversed found)
        ∧ matchesCreateBase found request.kind request.correctedNumber = true := by
  rw [← matchesCorrectiveBase_operation]
  unfold withCorrectiveBase
  split
  · split_ifs <;> simp
  · rename_i found'
    by_cases hbase : matchesCorrectiveBase found' request.operation = true
    · rw [if_pos hbase]
      constructor
      · rintro ⟨⟩
        exact ⟨rfl, hbase⟩
      · exact And.left
    · rw [if_neg hbase]
      constructor
      · rintro ⟨⟩
      · rintro ⟨⟨⟩, hmatch⟩
        exact absurd hmatch hbase
  · rename_i hreversed
    constructor
    · intro h
      exact absurd h (hreversed found)
    · exact And.left

omit [Unicode] in
/-- A holder lets a send proceed if it is absent or the named reversed document. -/
theorem settleCreate_eq_none {reversed : Option String} :
    settleCreate holder reversed = .ok none
      ↔ holder = .ok .absent ∨ ∃ found, holder = .ok (.reversed found)
        ∧ reversed = some found.number := by
  unfold settleCreate
  split
  · simp
  · split_ifs <;> simp
  · rename_i found
    by_cases hnumber : some found.number = reversed
    · simp [hnumber]
    · have hne : ¬ reversed = some found.number := fun h => hnumber h.symm
      simp [hnumber, hne]
  · simp
  · simp
  · simp

/-- The leading query answers; a miss is an answer too. -/
theorem settledBy_ne_notFound (request : CreateStepRequest) (beforeSend : Bool)
    (r : Except QueryError FoundDocument) :
    settledBy request beforeSend (classifySeen request.order request.kind r)
      ≠ .error .notFound := by
  have hseen : classifySeen request.order request.kind r ≠ .error .notFound := by
    unfold classifySeen
    split
    · split_ifs <;> simp
    · simp
    · rename_i hne
      simpa using hne
  intro h
  unfold settledBy at h
  dsimp only at h
  split_ifs at h
  unfold settleCreate at h
  split at h
  · cases h
  · split_ifs at h
  · split_ifs at h
  · cases h
  · cases h
  · rename_i error _ hholder
    obtain rfl : error = .notFound := by simpa using h
    exact hseen (withCorrectiveBase_eq_error.mp hholder)

/-- **The gate is exactly the permission.** -/
theorem settledBy_eq_none_iff (r : Except QueryError FoundDocument) :
    settledBy request true (classifySeen request.order request.kind r) = .ok none
      ↔ PermitsSend request r := by
  have hgate : settledBy request true (classifySeen request.order request.kind r) = .ok none
      ↔ targetChanged request
          (withCorrectiveBase request (classifySeen request.order request.kind r)) = false
        ∧ settleCreate (withCorrectiveBase request (classifySeen request.order request.kind r))
          request.reversed = .ok none := by
    unfold settledBy
    dsimp only
    rw [Bool.true_and]
    split_ifs with htarget
    · simp [htarget]
    · simp [htarget]
  rw [hgate, settleCreate_eq_none, withCorrectiveBase_eq_absent]
  simp only [withCorrectiveBase_eq_reversed, classifySeen_eq_absent, classifySeen_eq_reversed]
  unfold PermitsSend
  constructor
  · rintro ⟨htarget, rfl | ⟨found, ⟨⟨rfl, hours, hlive⟩, hbase⟩, hnumber⟩⟩
    · -- Without a holder the target of a reissue has changed.
      cases hreversed : request.reversed with
      | none => rfl
      | some expected =>
        simp [targetChanged, hreversed, classifySeen, withCorrectiveBase] at htarget
    · rw [hnumber]
      exact ⟨found, rfl, hours, hbase, rfl, hlive⟩
  · cases hreversed : request.reversed with
    | none =>
      rintro rfl
      exact ⟨by simp [targetChanged, hreversed], Or.inl rfl⟩
    | some expected =>
      rintro ⟨found, rfl, hours, hbase, rfl, hlive⟩
      have hholder : withCorrectiveBase request
          (classifySeen request.order request.kind (.ok found)) = .ok (.reversed found) :=
        withCorrectiveBase_eq_reversed.mpr
          ⟨classifySeen_eq_reversed.mpr ⟨rfl, hours, hlive⟩, hbase⟩
      refine ⟨?_, Or.inr ⟨found, ⟨⟨rfl, hours, hlive⟩, hbase⟩, rfl⟩⟩
      rw [hholder]
      simp [targetChanged, hreversed]

end Settle

/-! ## The shape of a call that sends -/

/-- The create of a request behind its external-id query. -/
abbrev GatedSend (request : CreateStepRequest)
    (between : List (Exchange AgentRequest.Answer) → Prop) :
    List (Exchange AgentRequest.Answer) → Prop :=
  Gated (.create request.create) (.externalId request.externalId.text) (PermitsSend request) between

/-! ## Each call -/

theorem settleOr_readOnly (request : CreateStepRequest) (unconfirmed : Unconfirmed) :
    Prog.Ensures (settleOr request unconfirmed) fun tr _ => ReadOnly tr := by
  unfold settleOr
  refine (reconcile_spec _).bind ?_
  rintro tr r ⟨hro, -⟩
  split <;> simpa using hro

theorem settleUnconfirmedCreate_readOnly (request : CreateStepRequest)
    (settlement : CreateSettlement) (unconfirmed : Unconfirmed) :
    Prog.Ensures (settleUnconfirmedCreate request settlement unconfirmed)
      fun tr _ => ReadOnly tr := by
  unfold settleUnconfirmedCreate
  split
  · exact settleOr_readOnly request unconfirmed
  all_goals simp

theorem afterDuplicate_readOnly (request : CreateStepRequest) (answer : SzamlazzAnswer) :
    Prog.Ensures (afterDuplicate request answer) fun tr _ => ReadOnly tr := by
  unfold afterDuplicate
  rw [settledByQuery_bind, Prog.ensures_call]
  intro reply
  split
  case h_5 =>
    split_ifs
    · simp [AgentRequest.isMutation]
    · rw [hintRaw_bind, Prog.ensures_call]
      simp [AgentRequest.isMutation]
  all_goals simp [AgentRequest.isMutation]

/-- The send is one create; everything after it is a read. -/
theorem createSend_shape (request : CreateStepRequest) (settlement : CreateSettlement) :
    Prog.Ensures (createSend request settlement) fun tr _ =>
      ∃ (reply : Except ClientError CreationOutcome) (post : List _),
        tr = ⟨AgentRequest.create request.create, reply⟩ :: post ∧ ReadOnly post := by
  unfold createSend
  rw [Prog.perform_bind, Prog.ensures_call]
  intro reply
  suffices h : Prog.Ensures _ fun tr _ => ReadOnly tr from
    h.mono (fun post _ hpost => ⟨reply, post, rfl, hpost⟩)
  split
  · split_ifs
    · exact settleUnconfirmedCreate_readOnly _ _ _
    · simp
  · exact settleUnconfirmedCreate_readOnly _ _ _
  · split
    · simp
    · simp
    · exact settleUnconfirmedCreate_readOnly _ _ _
    · exact settleUnconfirmedCreate_readOnly _ _ _
    · exact settleUnconfirmedCreate_readOnly _ _ _
    · refine (afterDuplicate_readOnly _ _).bind ?_
      intro tr outcome hro
      simpa using hro

/-- What a call led by the gate does: it sends exactly if the answer permits it. -/
def LedByGate (request : CreateStepRequest) (tr : List (Exchange AgentRequest.Answer)) : Prop :=
  ∃ (answer : Except ClientError InvoiceDocument) (rest : List _),
    tr = ⟨AgentRequest.query (.externalId request.externalId.text), answer⟩ :: rest
      ∧ ((PermitsSend request (queryAnswer (.externalId request.externalId.text) answer)
          ∧ ∃ (reply : Except ClientError CreationOutcome) (post : List _),
            rest = ⟨AgentRequest.create request.create, reply⟩ :: post ∧ ReadOnly post)
        ∨ (¬ PermitsSend request (queryAnswer (.externalId request.externalId.text) answer)
          ∧ rest = []))

theorem LedByGate.gatedSend {request : CreateStepRequest}
    {tr : List (Exchange AgentRequest.Answer)} (h : LedByGate request tr) :
    GatedSend request (fun guards => guards = []) tr := by
  obtain ⟨answer, rest, rfl, ⟨hpermit, reply, post, rfl, hpost⟩ | ⟨-, rfl⟩⟩ := h
  · exact gated_of_send hpermit readOnly_nil hpost rfl
  · exact gated_of_readOnly (by simp [AgentRequest.isMutation])

/-- The two ways a leading query leaves a call, from the answer's classification. -/
theorem ledByGate_of_send {request : CreateStepRequest}
    {answer : Except ClientError InvoiceDocument} {α : Type} {p : Call α}
    (hsettled : settledBy request true (classifySeen request.order request.kind
      (queryAnswer (.externalId request.externalId.text) answer)) = .ok none)
    (hp : Prog.Ensures p fun tr _ => ∃ (reply : Except ClientError CreationOutcome)
      (post : List _), tr = ⟨AgentRequest.create request.create, reply⟩ :: post ∧ ReadOnly post) :
    Prog.Ensures p fun tr _ => LedByGate request
      (⟨AgentRequest.query (.externalId request.externalId.text), answer⟩ :: tr) :=
  hp.mono (fun tr _ htr =>
    ⟨answer, tr, rfl, Or.inl ⟨(settledBy_eq_none_iff _).mp hsettled, htr⟩⟩)

theorem ledByGate_of_settled {request : CreateStepRequest}
    {answer : Except ClientError InvoiceDocument} {α : Type} {a : α}
    (hsettled : settledBy request true (classifySeen request.order request.kind
      (queryAnswer (.externalId request.externalId.text) answer)) ≠ .ok none) :
    Prog.Ensures (pure a : Call α) fun tr _ => LedByGate request
      (⟨AgentRequest.query (.externalId request.externalId.text), answer⟩ :: tr) := by
  rw [Prog.pure_eq, Prog.ensures_ret]
  exact ⟨answer, [], rfl, Or.inr ⟨fun hpermit =>
    hsettled ((settledBy_eq_none_iff _).mpr hpermit), rfl⟩⟩

theorem createOnce_ledByGate (request : CreateStepRequest) :
    Prog.Ensures (createOnce request) fun tr _ => LedByGate request tr := by
  unfold createOnce
  rw [settledByQuery_bind, Prog.ensures_call]
  intro answer
  have hmiss := settledBy_ne_notFound request true
    (queryAnswer (.externalId request.externalId.text) answer)
  split
  case h_2 hsettled => exact ledByGate_of_send hsettled (createSend_shape request .immediate)
  case h_3 hsettled => exact absurd hsettled hmiss
  all_goals
    rename_i hsettled
    exact ledByGate_of_settled (by simp [hsettled])

theorem protectedCreate_ledByGate (request : CreateStepRequest) :
    Prog.Ensures (protectedCreate request) fun tr _ => LedByGate request tr := by
  have hshape : Prog.Ensures
      (createSend request .retained >>= fun sent => pure (protectedCreateResult sent))
      fun tr _ => ∃ (reply : Except ClientError CreationOutcome) (post : List _),
        tr = ⟨AgentRequest.create request.create, reply⟩ :: post ∧ ReadOnly post := by
    refine (createSend_shape request .retained).bind ?_
    rintro tr sent ⟨reply, post, rfl, hpost⟩
    rw [Prog.pure_eq, Prog.ensures_ret, List.append_nil]
    exact ⟨reply, post, rfl, hpost⟩
  unfold protectedCreate
  rw [settledByQuery_bind, Prog.ensures_call]
  intro answer
  have hmiss := settledBy_ne_notFound request true
    (queryAnswer (.externalId request.externalId.text) answer)
  split
  case h_2 hsettled => exact ledByGate_of_send hsettled hshape
  case h_3 hsettled => exact absurd hsettled hmiss
  all_goals
    rename_i hsettled
    exact ledByGate_of_settled (by simp [hsettled])

end Szamlazz
