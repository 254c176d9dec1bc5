import Szamlazz.Gateway.Outcome

/-!
# The reads of the gateway

Every read is one or two queries and a classification of what they were
answered. The classifications are pure functions of the answer, kept apart from
the calls that make the query: a rule about what an answer permits is then a
statement about a function, and a run of a call is known from the answers in its
transcript.
-/

namespace Szamlazz

variable [Unicode]

/-! ## One query -/

/-- The number a query expects its document to carry. -/
def InvoiceSelector.expected : InvoiceSelector → Option String
  | invoiceNumber number => some number
  | orderNumber _ | externalId _ => none

/-- Classifies the answer to a query. -/
def queryAnswer (selector : InvoiceSelector) :
    Except ClientError InvoiceDocument → Except QueryError FoundDocument
  | .ok document =>
    match FoundDocument.validateIdentity document.info.invoiceNumber selector.expected with
    | .ok () => .ok (.ofInvoiceDocument document)
    | .error message => .error (.transport message)
  | .error (.api api) =>
    if api.code = .missingData then .error .notFound
    else if api.code.isCredentialError then .error (.credentialsRejected (.ofApi api))
    else if api.code.isRetryable then .error (.transient (.ofApi api))
    else .error (.api (.ofApi api))
  | .error error =>
    match Diagnostic.exchange "query" error with
    | .unavailable message => .error (.unavailable message)
    | .transport message => .error (.transport message)

/-- One query, its answer projected. -/
def queryRaw (selector : InvoiceSelector) : Call (Except QueryError FoundDocument) := do
  let answer ← Prog.perform (AgentRequest.query selector)
  return queryAnswer selector answer

omit [Unicode] in
@[simp] theorem queryRaw_bind {α : Type} (selector : InvoiceSelector)
    (f : Except QueryError FoundDocument → Call α) :
    (queryRaw selector >>= f)
      = Prog.call (AgentRequest.query selector) (fun answer => f (queryAnswer selector answer)) := rfl

omit [Unicode] in
/-- **A document a query returned names itself**, by the number asked for. -/
theorem number_of_queryAnswer {selector : InvoiceSelector}
    {answer : Except ClientError InvoiceDocument} {found : FoundDocument}
    (h : queryAnswer selector answer = .ok found) :
    Text.isBlank found.number = false ∧ ∀ e, selector.expected = some e → found.number = e := by
  unfold queryAnswer at h
  split at h
  · rename_i document
    split at h
    · rename_i hid
      cases h
      exact FoundDocument.validateIdentity_eq_ok.mp hid
    · cases h
  · split_ifs at h
  · split at h <;> cases h

/-- A conclusive answer is data; anything else is unanswered. -/
def queryOutcome : Except QueryError FoundDocument → Except Unanswered QueryOutcome
  | .ok document => .ok (.found document)
  | .error error =>
    match error.answered with
    | .ok .notFound => .ok .notFound
    | .ok (.credentialsRejected answer) => .ok (.credentialsRejected answer)
    | .ok (.api answer) => .ok (.api answer)
    | .error cause => .error cause

/-- Queries a document by number. -/
def verify (number : String) : Call (Except Unanswered QueryOutcome) := do
  let found ← queryRaw (.invoiceNumber number)
  return queryOutcome found

/-- The newest document under the order. -/
def hintRaw (order : OrderKey) : Call (Except QueryError FoundDocument) :=
  queryRaw (.orderNumber order.text)

def hint (order : OrderKey) : Call (Except Unanswered QueryOutcome) := do
  let found ← hintRaw order
  return queryOutcome found

omit [Unicode] in
@[simp] theorem verify_bind {α : Type} (number : String)
    (f : Except Unanswered QueryOutcome → Call α) :
    (verify number >>= f) = Prog.call (AgentRequest.query (.invoiceNumber number))
      (fun answer => f (queryOutcome (queryAnswer (.invoiceNumber number) answer))) := rfl

@[simp] theorem hintRaw_bind {α : Type} (order : OrderKey)
    (f : Except QueryError FoundDocument → Call α) :
    (hintRaw order >>= f) = Prog.call (AgentRequest.query (.orderNumber order.text))
      (fun answer => f (queryAnswer (.orderNumber order.text) answer)) := rfl

@[simp] theorem hint_bind {α : Type} (order : OrderKey)
    (f : Except Unanswered QueryOutcome → Call α) :
    (hint order >>= f) = Prog.call (AgentRequest.query (.orderNumber order.text))
      (fun answer => f (queryOutcome (queryAnswer (.orderNumber order.text) answer))) := rfl

omit [Unicode] in
theorem queryOutcome_eq_found {r : Except QueryError FoundDocument} {found : FoundDocument} :
    queryOutcome r = .ok (.found found) ↔ r = .ok found := by
  constructor
  · intro h
    unfold queryOutcome at h
    split at h
    · simpa using h
    · split at h <;> cases h
  · rintro rfl
    rfl

/-! ## The holder of an external id -/

/-- What the holder of an external id is to an order and a kind. -/
def classifySeen (order : OrderKey) (kind : IssuedKind) :
    Except QueryError FoundDocument → Except QueryError Seen
  | .ok found =>
    if !found.isOurs order kind then .ok (.collision found)
    else if found.isLive then .ok (.live found)
    else .ok (.reversed found)
  | .error .notFound => .ok .absent
  | .error error => .error error

/-- The external-id query of the lookup, create and ownership reads. -/
def seen (externalId : ExternalId) (order : OrderKey) (kind : IssuedKind) :
    Call (Except QueryError Seen) := do
  let found ← queryRaw (.externalId externalId.text)
  return classifySeen order kind found

@[simp] theorem seen_bind {α : Type} (externalId : ExternalId) (order : OrderKey)
    (kind : IssuedKind) (f : Except QueryError Seen → Call α) :
    (seen externalId order kind >>= f) = Prog.call (AgentRequest.query (.externalId externalId.text))
      (fun answer =>
        f (classifySeen order kind (queryAnswer (.externalId externalId.text) answer))) := rfl

section ClassifySeen

variable {order : OrderKey} {kind : IssuedKind} {r : Except QueryError FoundDocument}
  {found : FoundDocument}

theorem classifySeen_eq_absent :
    classifySeen order kind r = .ok .absent ↔ r = .error .notFound := by
  constructor
  · intro h
    unfold classifySeen at h
    split at h
    · split_ifs at h <;> cases h
    · rfl
    · cases h
  · rintro rfl
    rfl

theorem classifySeen_eq_live : classifySeen order kind r = .ok (.live found)
    ↔ r = .ok found ∧ found.isOurs order kind = true ∧ found.isLive = true := by
  constructor
  · intro h
    unfold classifySeen at h
    split at h
    · split_ifs at h with ho hl
      · cases h
      · cases h
        exact ⟨rfl, by simpa using ho, hl⟩
      · cases h
    · cases h
    · cases h
  · rintro ⟨rfl, ho, hl⟩
    simp [classifySeen, ho, hl]

theorem classifySeen_eq_reversed : classifySeen order kind r = .ok (.reversed found)
    ↔ r = .ok found ∧ found.isOurs order kind = true ∧ found.isLive = false := by
  constructor
  · intro h
    unfold classifySeen at h
    split at h
    · split_ifs at h with ho hl
      · cases h
      · cases h
      · cases h
        exact ⟨rfl, by simpa using ho, by simpa using hl⟩
    · cases h
    · cases h
  · rintro ⟨rfl, ho, hl⟩
    simp [classifySeen, ho, hl]

end ClassifySeen

/-- What an external id of ours holds, as data. -/
def ownership : Except QueryError Seen → Except Unanswered OwnershipOutcome
  | .ok .absent => .ok .absent
  | .ok (.live found) => .ok (.live found)
  | .ok (.reversed found) => .ok (.reversed found)
  | .ok (.collision found) => .ok (.collision found)
  | .error error =>
    match error.answered with
    | .ok .notFound => .ok .absent
    | .ok (.credentialsRejected answer) => .ok (.credentialsRejected answer)
    | .ok (.api answer) => .ok (.api answer)
    | .error cause => .error cause

/-- Queries one of our external ids and validates what it holds. -/
def lookupOurs (externalId : ExternalId) (order : OrderKey) (kind : IssuedKind) :
    Call (Except Unanswered OwnershipOutcome) := do
  let holder ← seen externalId order kind
  return ownership holder

@[simp] theorem lookupOurs_bind {α : Type} (externalId : ExternalId) (order : OrderKey)
    (kind : IssuedKind) (f : Except Unanswered OwnershipOutcome → Call α) :
    (lookupOurs externalId order kind >>= f) = Prog.call (AgentRequest.query (.externalId externalId.text))
      (fun answer => f (ownership (classifySeen order kind
        (queryAnswer (.externalId externalId.text) answer)))) := rfl

/-! ## The lookup step -/

/-- A live invoice that is neither known to be ours nor the one just seen. -/
def isForeign (found : FoundDocument) (ourNumbers : List String) (seenNumber : Option String) :
    Bool :=
  found.isInvoiceFamily && found.isLive && some found.number ≠ seenNumber
    && !ourNumbers.contains found.number

/-- What the lookup looks for. -/
structure LookupRequest where
  externalId : ExternalId
  kind : IssuedKind
  order : OrderKey
  ourNumbers : List String

/-- Whether the hint stops the lookup. -/
def hintIsForeign (request : LookupRequest) (blockProforma : Bool)
    (reversed : Option FoundDocument) (found : FoundDocument) : Bool :=
  isForeign found request.ourNumbers (reversed.map FoundDocument.number)
    || (blockProforma && found.isLive && !request.ourNumbers.contains found.number
      && found.documentType = .proforma)

/-- The lookup's result when no hint stopped it. -/
def lookupResult (reversed : Option FoundDocument) (stornoNumber : Option String) : LookupOutcome :=
  match reversed with
  | some document => .reversed document stornoNumber
  | none => .absent

/-- The reversed document's storno, if that is the newest under the order. -/
def stornoOf (reversed : Option FoundDocument) (newest : FoundDocument) : Option String :=
  match reversed with
  | some document => if newest.isStornoOf document.number then some newest.number else none
  | none => none

/-- The order-number hint of the lookup step; correctives are exempt. -/
def lookupHint (request : LookupRequest) (blockProforma : Bool)
    (reversed : Option FoundDocument) : Call (Except Unanswered LookupOutcome) :=
  if request.kind ≠ .corrective then do
    let newest ← hintRaw request.order
    match newest with
    | .ok newest =>
      if hintIsForeign request blockProforma reversed newest then return .ok (.foreign newest)
      else return .ok (lookupResult reversed (stornoOf reversed newest))
    | .error error =>
      match error.answered with
      | .ok (.credentialsRejected answer) => return .ok (.credentialsRejected answer)
      | .ok .notFound | .ok (.api _) => return .ok (lookupResult reversed none)
      | .error cause => return .error cause
  else return .ok (lookupResult reversed none)

/-- The lookup step: the external id, then the hint. -/
def lookupInner (request : LookupRequest) (blockProforma : Bool) :
    Call (Except Unanswered LookupOutcome) := do
  let holder ← seen request.externalId request.order request.kind
  match holder with
  | .ok (.collision found) => return .ok (.collision found)
  | .ok (.live found) => return .ok (.live found)
  | .ok (.reversed found) => lookupHint request blockProforma (some found)
  | .ok .absent => lookupHint request blockProforma none
  | .error error =>
    match error.answered with
    | .ok .notFound => lookupHint request blockProforma none
    | .ok (.credentialsRejected answer) => return .ok (.credentialsRejected answer)
    | .ok (.api answer) => return .ok (.api answer)
    | .error cause => return .error cause

def lookup (request : LookupRequest) : Call (Except Unanswered LookupOutcome) :=
  lookupInner request false

/-- Replay-enabled admission also stops at an unselected live proforma. -/
def lookupForReplay (request : LookupRequest) : Call (Except Unanswered LookupOutcome) :=
  lookupInner request true

/-! ## Evidence of a reversal -/

/-- What a candidate establishes about a reversal. -/
inductive StornoEvidence where
  | verified (stornoNumber : String) (stornoDocumentId : Option Int64)
  | inconclusive (reason : String)
deriving DecidableEq

/-- The storno of `number` on this order. -/
def isOrderStornoOf (found : FoundDocument) (order : OrderKey) (number : String) : Bool :=
  found.isStornoOf number && found.carriesOrder order

/-- An original of this order, reported reversed. -/
def isReversedOriginal (original : FoundDocument) (order : OrderKey) : Bool :=
  original.isStornoable && original.carriesOrder order && original.reversed = some true

/-- One evidence rule: a candidate establishes a reversal only together with a
freshly read, matching original. -/
def verifyOrderStorno (found : FoundDocument) (order : OrderKey) (number : String) :
    Call (Except QueryError StornoEvidence) :=
  if !found.isStornoOf number || !found.carriesOrder order then
    return .ok (.inconclusive "candidate is not the original's storno of this order")
  else do
    let original ← queryRaw (.invoiceNumber number)
    match original with
    | .error error => return .error error
    | .ok original =>
      if !original.isStornoable || !original.carriesOrder order || original.reversed ≠ some true then
        return .ok (.inconclusive "original reversal and order identity are not established")
      else return .ok (.verified found.number (some found.documentId))

/-- The lookup of an order's storno, with its errors kept. -/
def lookupOrderStornoChecked (externalId : ExternalId) (order : OrderKey) (number : String) :
    Call (Except QueryError StornoLookupOutcome) := do
  let holder ← queryRaw (.externalId externalId.text)
  match holder with
  | .error .notFound => return .ok .absent
  | .error error => return .error error
  | .ok found =>
    let evidence ← verifyOrderStorno found order number
    match evidence with
    | .ok (.verified stornoNumber stornoDocumentId) =>
      return .ok (.alreadyReversed stornoNumber stornoDocumentId)
    | .ok (.inconclusive reason) => return .error (.transport reason)
    | .error .notFound =>
      return .error (.transport "original absent; reversal is not established")
    | .error error => return .error error

/-- The protected lookup: only absence permits a send. -/
def lookupOrderStorno (externalId : ExternalId) (order : OrderKey) (number : String) :
    Call (Except Unanswered StornoLookupOutcome) := do
  let checked ← lookupOrderStornoChecked externalId order number
  match checked with
  | .ok outcome => return .ok outcome
  | .error error =>
    match error.answered with
    | .ok (.credentialsRejected answer) => return .ok (.credentialsRejected answer)
    | .ok (.api answer) => return .ok (.api answer)
    | .ok .notFound =>
      return .error (.transport "reversal evidence absent; reversal is not established")
    | .error cause => return .error cause

end Szamlazz
