import Szamlazz.Account
import Szamlazz.Gateway.Reconcile

/-!
# The storno step

One send, three callers. The unmanaged storno (`storno`) settles for itself; the
two behind an order's marker, `protectedStorno` and `stornoReplayEnabled`, treat
whatever the reply leaves open as unresolved. What a numbered reply establishes
by itself is `StornoReplyEvidence`: another number with a gross total that is not
positive; everything less needs a reversal document *and* the original read
afresh.
-/

namespace Szamlazz

section Storno

variable [Unicode] [Transport]

/-! ## The request and its reply -/

/-- What identifies the storno to send. -/
structure StornoStepRequest where
  invoiceNumber : String
  externalId : ExternalId
  comment : Option String
  buyerEmail : Option String
  eInvoice : Bool
  fulfillmentDate : Date

/-- The outbound storno, with the account's settings. -/
def Account.buildStorno (account : Account) (request : StornoStepRequest) : StornoInvoice where
  invoiceNumber := request.invoiceNumber
  eInvoice := request.eInvoice
  externalId := some request.externalId.text
  comment := request.comment
  buyerEmail := request.buyerEmail
  aggregator := account.defaults.aggregator
  guardian := account.defaults.guardian
  issueDate := none
  fulfillmentDate := some request.fulfillmentDate

/-- What a numbered reply establishes by itself. -/
inductive StornoReplyEvidence where
  | reversal
  | sameNumberEcho
  | needsVerification
deriving DecidableEq

def StornoReplyEvidence.of (created : CreatedInvoice) (original : String) : StornoReplyEvidence :=
  if created.reverses original then .reversal
  else if created.invoiceNumber = original then .sameNumberEcho
  else .needsVerification

/-! ## The reads -/

/-- The reversal of `invoiceNumber` under the storno external id; another holder
is passed over. -/
def stornoHolder (invoiceNumber : String) :
    Except QueryError FoundDocument → Except QueryError (Option ReportedDocument)
  | .ok document =>
    if document.isStornoOf invoiceNumber then .ok (some (.ofFound document)) else .ok none
  | .error .notFound => .ok none
  | .error error => .error error

def stornoSeen (externalId : ExternalId) (invoiceNumber : String) :
    Call (Except QueryError (Option ReportedDocument)) := do
  let holder ← queryRaw (.externalId externalId.text)
  return stornoHolder invoiceNumber holder

/-- What the holder settles; `none` lets the send proceed. -/
def settleStorno : Except QueryError (Option ReportedDocument) →
    Except QueryError (Option StornoOutcome)
  | .ok (some reported) => .ok (some (.alreadyReversed reported.number reported.documentId))
  | .ok none => .ok none
  | .error (.credentialsRejected answer) => .ok (some (.credentialsRejected answer))
  | .error error => .error error

/-- The immediate read after an unmanaged storno. -/
def stornoSettleOr (request : StornoStepRequest) (unconfirmed : Unconfirmed) :
    Call (Except Unconfirmed StornoOutcome) := do
  let seen ← stornoSeen request.externalId request.invoiceNumber
  match seen with
  | .ok (some reported) => return .ok (.alreadyReversed reported.number reported.documentId)
  | .ok none => return .error unconfirmed
  | .error error => return .error (unconfirmed.reQuery error.display)

/-- `{:?}` of an optional number. -/
def debugNumber : Option String → String
  | some number => "Some(" ++ Unicode.debugText number ++ ")"
  | none => "None"

/-- Why a queried candidate is not the storno that was asked for. -/
def stornoMismatch (document : FoundDocument) (original : String) : String :=
  "queried " ++ document.number ++ " with document type " ++ document.documentType.asWire
    ++ " and original " ++ debugNumber document.referencedInvoiceNumber
    ++ "; expected a storno of " ++ original

/-- Keeps an acknowledged warning with the exact document it was about. -/
def keepStornoWarning (created : CreatedInvoice) :
    Except Unconfirmed StornoOutcome → Except Unconfirmed StornoOutcome
  | .ok (.alreadyReversed stornoNumber stornoDocumentId) =>
    if created.notificationDeliveryFailed && stornoNumber = created.invoiceNumber then
      .ok (.reversed { IssuedDocument.ofCreated created with documentId := stornoDocumentId })
    else .ok (.alreadyReversed stornoNumber stornoDocumentId)
  | other => other

/-- The identity of a numbered reply that establishes nothing by itself. -/
def verifyStornoReply (request : StornoStepRequest) (created : CreatedInvoice) :
    Call (Except Unconfirmed StornoOutcome) := do
  let queried ← queryRaw (.invoiceNumber created.invoiceNumber)
  match queried with
  | .ok document =>
    if document.number = created.invoiceNumber && document.isStornoOf request.invoiceNumber then
      return .ok (.reversed
        { IssuedDocument.ofCreated created with documentId := some document.documentId })
    else
      let settled ← stornoSettleOr request
        (.stornoVerification created.invoiceNumber created.notificationDeliveryFailed
          (stornoMismatch document request.invoiceNumber))
      return keepStornoWarning created settled
  | .error error =>
    let settled ← stornoSettleOr request
      (.stornoVerification created.invoiceNumber created.notificationDeliveryFailed error.display)
    return keepStornoWarning created settled

/-! ## The send -/

/-- Where an open send is settled: retained behind a marker, or read at once. -/
def settleOpenStorno (request : StornoStepRequest) (marker : Option UnresolvedWrite)
    (unconfirmed : Unconfirmed) : Call (Except Unconfirmed StornoOutcome) :=
  match marker with
  | some _ => return .error unconfirmed
  | none => stornoSettleOr request unconfirmed

/-- An unnumbered acknowledgement of an unmanaged storno ends the step all the same. -/
def completeUnnumbered : Except Unconfirmed StornoOutcome → StornoOutcome
  | .ok outcome => outcome
  | .error cause => .unnumbered cause.display

/-- What a marker's own reconciliation makes of a numbered reply. -/
def verifiedReply (created : CreatedInvoice) :
    Except Unanswered WriteResult → Except Unconfirmed StornoOutcome
  | .ok (.storno (.alreadyReversed _ stornoDocumentId)) =>
    .ok (.reversed { IssuedDocument.ofCreated created with documentId := stornoDocumentId })
  | _ =>
    .error (.stornoVerification created.invoiceNumber created.notificationDeliveryFailed
      "numbered reply needs positive identity and original reversal evidence")

/-- Settles a numbered reply. -/
def settleNumberedStorno (request : StornoStepRequest) (marker : Option UnresolvedWrite)
    (created : CreatedInvoice) : Call (Except Unconfirmed StornoOutcome) :=
  match StornoReplyEvidence.of created request.invoiceNumber, marker with
  | .reversal, _ => return .ok (.reversed (.ofCreated created))
  | .sameNumberEcho, some _ =>
    return .error (.stornoVerification created.invoiceNumber created.notificationDeliveryFailed
      "storno acknowledgement names the verified original; neither reversal nor non-execution is established")
  | .sameNumberEcho, none => return .ok .notStornoable
  | .needsVerification, some marker => do
    let checked ← reconcileWriteChecked marker (some created.invoiceNumber)
    return verifiedReply created checked
  | .needsVerification, none => verifyStornoReply request created

/-- Settles an unnumbered reply. -/
def settleUnnumberedStorno (request : StornoStepRequest) (marker : Option UnresolvedWrite) :
    Call (Except Unconfirmed StornoOutcome) :=
  let unconfirmed := Unconfirmed.open none "storno acknowledged without a document number"
  match marker with
  | some _ => return .error unconfirmed
  | none => do
    let settled ← stornoSettleOr request unconfirmed
    return .ok (completeUnnumbered settled)

/-- Settles a failed send. -/
def settleFailedStorno (request : StornoStepRequest) (marker : Option UnresolvedWrite)
    (error : ClientError) : Call (Except Unconfirmed StornoOutcome) :=
  match classifyFailure "storno" error with
  | .rejected rejection => return .ok (.rejected rejection)
  | .duplicate answer => return .ok (.rejected (.ofAnswer answer))
  | .credentialsRejected answer => return .ok (.credentialsRejected answer)
  | .unknown answer => settleOpenStorno request marker (.open (some answer.code) answer.message)
  | .unavailable message => settleOpenStorno request marker (.unavailable message)
  | .transport message => settleOpenStorno request marker (.transport message)

/-- Settles the reply to a storno. -/
def settleStornoReply (request : StornoStepRequest) (marker : Option UnresolvedWrite) :
    Except ClientError StornoResponse → Call (Except Unconfirmed StornoOutcome)
  | .ok .unnumbered => settleUnnumberedStorno request marker
  | .ok (.numbered created) => settleNumberedStorno request marker created
  | .error error => settleFailedStorno request marker error

/-- Sends the storno once. -/
def stornoSend (account : Account) (request : StornoStepRequest)
    (marker : Option UnresolvedWrite) : Call (Except Unconfirmed StornoOutcome) := do
  let reply ← Prog.perform (AgentRequest.storno (account.buildStorno request))
  settleStornoReply request marker reply

/-- The unmanaged storno. -/
def storno (account : Account) (request : StornoStepRequest) :
    Call (Except Unconfirmed StornoOutcome) := do
  let seen ← stornoSeen request.externalId request.invoiceNumber
  match settleStorno seen with
  | .ok (some settled) => return .ok settled
  | .ok none | .error .notFound => stornoSend account request none
  | .error (.api answer) | .error (.transient answer) => return .ok (.api answer)
  | .error (.unavailable message) => return .ok (.unavailable message)
  | .error (.credentialsRejected answer) => return .ok (.credentialsRejected answer)
  | .error (.transport message) => return .error (.transport message)

/-! ## Behind a marker -/

/-- What a settled or unconfirmed storno is to a protected write. -/
def protectedStornoResult : Except Unconfirmed StornoOutcome → WriteResult
  | .ok (.reversed document) => .storno (.reversed document)
  | .ok (.rejected rejection) => .storno (.rejected rejection)
  | .ok (.credentialsRejected answer) => .storno (.credentialsRejected answer)
  | .error cause => .unresolved (.unconfirmed cause)
  | .ok _ => .because "storno requires positive reversal evidence"

/-- The storno behind an order's marker. -/
def protectedStorno (account : Account) (request : StornoStepRequest)
    (marker : UnresolvedWrite) : Call WriteResult := do
  let looked ← lookupOrderStornoChecked request.externalId marker.order request.invoiceNumber
  match looked with
  | .ok (.alreadyReversed stornoNumber stornoDocumentId) =>
    return .storno (.alreadyReversed stornoNumber stornoDocumentId)
  | .ok .absent => do
    let sent ← stornoSend account request (some marker)
    return protectedStornoResult sent
  | .ok (.api answer) | .error (.api answer) | .error (.transient answer) =>
    return .storno (.api answer)
  | .ok (.credentialsRejected answer) | .error (.credentialsRejected answer) =>
    return .storno (.credentialsRejected answer)
  | .error (.unavailable message) => return .storno (.unavailable message)
  | .error .notFound => return .because QueryError.notFound.display
  | .error (.transport message) => return .because (QueryError.transport message).display

/-- What a settled or unconfirmed storno is to a replay-enabled write. -/
def replayStornoResult : Except Unconfirmed StornoOutcome → WriteResult
  | .ok (.reversed document) => .storno (.reversed document)
  | .ok (.alreadyReversed stornoNumber stornoDocumentId) =>
    .storno (.alreadyReversed stornoNumber stornoDocumentId)
  | .ok (.credentialsRejected answer) => .because ("storno credentials rejected: " ++ answer.code)
  | .ok (.rejected rejection) =>
    .because ("storno refused: " ++ rejection.code.display
      ++ "; earlier execution remains unresolved")
  | .ok _ => .because "storno answer did not establish reversal"
  | .error cause => .unresolved (.unconfirmed cause)

/-- The pinned original, freshly read, differs from what the storno was admitted for. -/
def differsFromPinned (fresh pinned : FoundDocument) (request : StornoStepRequest)
    (order : OrderKey) : Bool :=
  fresh.documentId ≠ pinned.documentId || !fresh.carriesOrder order || !fresh.isStornoable
    || fresh.fulfillmentDate ≠ some request.fulfillmentDate
    || fresh.appearance ≠ pinned.appearance

/-- What the freshly read original permits. -/
def replayStornoOriginal (account : Account) (request : StornoStepRequest)
    (marker : UnresolvedWrite) (pinned : FoundDocument) :
    Except Unanswered QueryOutcome → Call WriteResult
  | .ok (.found fresh) =>
    if differsFromPinned fresh pinned request marker.order then
      return .because "fresh original differs from pinned storno intent"
    else if !fresh.isLive then reconcileWrite marker none
    else do
      let sent ← stornoSend account request (some marker)
      return replayStornoResult sent
  | .ok (.credentialsRejected answer) =>
    return .because ("original credentials rejected: " ++ answer.code)
  | .ok (.api answer) => return .because ("original query vendor code " ++ answer.code)
  | .ok .notFound => return .because "original absent; reversal not established"
  | .error cause => return .because ("original query unanswered: " ++ cause.display)

/-- Whether the marker retains exactly this storno. -/
def retainsStorno (request : StornoStepRequest) (marker : UnresolvedWrite)
    (pinned : FoundDocument) : Bool :=
  marker.executionContract = some (.requestResponseStornoV1 pinned.documentId
      request.fulfillmentDate request.eInvoice pinned.appearance)
    && marker.operation = .storno request.invoiceNumber
    && marker.externalId = request.externalId.text

/-- The storno whose unfinished executions may run again. -/
def stornoReplayEnabled (account : Account) (request : StornoStepRequest)
    (marker : UnresolvedWrite) (pinned : FoundDocument) : Call WriteResult :=
  if !retainsStorno request marker pinned then
    return .because "storno request differs from retained original intent"
  else do
    let looked ← lookupOrderStornoChecked request.externalId marker.order request.invoiceNumber
    match looked with
    | .ok (.alreadyReversed _ _) => reconcileWrite marker none
    | .ok .absent => do
      let original ← verify request.invoiceNumber
      replayStornoOriginal account request marker pinned original
    | .ok (.credentialsRejected answer) | .error (.credentialsRejected answer) =>
      return .because ("storno lookup credentials rejected: " ++ answer.code)
    | .ok (.api answer) | .error (.api answer) | .error (.transient answer) =>
      return .because ("storno lookup vendor code " ++ answer.code)
    | .error (.unavailable message) =>
      return .because ("storno lookup inconclusive: " ++ (QueryError.unavailable message).display)
    | .error (.transport message) =>
      return .because ("storno lookup inconclusive: " ++ (QueryError.transport message).display)
    | .error .notFound =>
      return .because ("storno lookup inconclusive: " ++ QueryError.notFound.display)

/-! ## What a reply says -/

/-- The reply names another document with a gross total that is not positive. -/
def ReplyReverses (original : String) (reply : Except ClientError StornoResponse) : Prop :=
  ∃ created gross, reply = .ok (.numbered created) ∧ created.invoiceNumber ≠ original
    ∧ created.grossTotal = some gross ∧ gross.isNonPositive = true

/-- **A reply that leaves the storno open**: it echoes the original, names no
number, carries an open code, reports unavailability, or was lost. -/
def LeavesOpen (original : String) : Except ClientError StornoResponse → Prop
  | .ok .unnumbered => True
  | .ok (.numbered created) => created.invoiceNumber = original
  | .error (.api api) => api.code.outcomeClass = .unknown
  | .error (.request _) => False
  | .error (.serviceUnavailable _) | .error (.parse _) | .error (.httpStatus _ _)
  | .error (.transport _) | .error (.incompleteResponse _) => True

/-- A positive result of a storno. -/
def WriteResult.isReversal : WriteResult → Bool
  | .storno (.reversed _) | .storno (.alreadyReversed _ _) => true
  | _ => false

section Reply

omit [Unicode] [Transport]

theorem replyReverses_of_evidence {created : CreatedInvoice} {original : String}
    (h : StornoReplyEvidence.of created original = .reversal) :
    ReplyReverses original (.ok (.numbered created)) := by
  unfold StornoReplyEvidence.of at h
  split_ifs at h with hreverses
  simp only [CreatedInvoice.reverses, Bool.and_eq_true, decide_eq_true_eq] at hreverses
  cases hgross : created.grossTotal with
  | none => simp [hgross] at hreverses
  | some gross =>
    refine ⟨created, gross, rfl, hreverses.1, hgross, ?_⟩
    simpa [hgross] using hreverses.2

theorem evidence_of_echo {created : CreatedInvoice} {original : String}
    (h : created.invoiceNumber = original) :
    StornoReplyEvidence.of created original = .sameNumberEcho := by
  simp [StornoReplyEvidence.of, CreatedInvoice.reverses, h]

/-- Credential codes are refusals. -/
theorem isCredentialError_of_unknown {code : ErrorCode} (h : code.outcomeClass = .unknown) :
    code.isCredentialError = false := by
  cases code <;> first | rfl | cases h

/-- A failure that leaves a storno open is classified as one. -/
theorem classifyFailure_of_leavesOpen {original : String} {error : ClientError}
    (h : LeavesOpen original (.error error)) :
    (∃ answer, classifyFailure "storno" error = .unknown answer)
      ∨ (∃ message, classifyFailure "storno" error = .unavailable message)
      ∨ (∃ message, classifyFailure "storno" error = .transport message) := by
  cases error with
  | request error => exact h.elim
  | api api =>
    refine Or.inl ⟨.ofApi api, ?_⟩
    have hclass : api.code.outcomeClass = .unknown := h
    simp [classifyFailure, isCredentialError_of_unknown hclass, hclass]
  | serviceUnavailable message => exact Or.inr (Or.inl ⟨_, rfl⟩)
  | parse error => exact Or.inr (Or.inr ⟨_, rfl⟩)
  | httpStatus status body => exact Or.inr (Or.inr ⟨_, rfl⟩)
  | transport error => exact Or.inr (Or.inr ⟨_, rfl⟩)
  | incompleteResponse status => exact Or.inr (Or.inr ⟨_, rfl⟩)

end Reply

/-! ## Behind a marker, specified -/

section Marker

variable {account : Account} {request : StornoStepRequest} {marker : UnresolvedWrite}

/-- What settling a reply behind a marker guarantees: it only reads; a reversal it
reports was named by the reply or read in full; and a reply that leaves the storno
open stays open. -/
structure SettledReply (request : StornoStepRequest) (marker : UnresolvedWrite)
    (reply : Except ClientError StornoResponse) (tr : List (Exchange AgentRequest.Answer))
    (r : Except Unconfirmed StornoOutcome) : Prop where
  readOnly : ReadOnly tr
  outcome : ∀ outcome, r = .ok outcome →
    (∃ document, outcome = .reversed document
      ∧ (ReplyReverses request.invoiceNumber reply
        ∨ ∃ storno, ReversalReadIn tr marker.order request.invoiceNumber (fun _ => True) storno))
    ∨ (∃ rejection, outcome = .rejected rejection)
    ∨ ∃ answer, outcome = .credentialsRejected answer
  leavesOpen : LeavesOpen request.invoiceNumber reply → ∃ cause, r = .error cause

omit [Transport] in
theorem settledReply_error {reply : Except ClientError StornoResponse}
    {tr : List (Exchange AgentRequest.Answer)} {cause : Unconfirmed} (hro : ReadOnly tr) :
    SettledReply request marker reply tr (.error cause) :=
  ⟨hro, by simp, fun _ => ⟨cause, rfl⟩⟩

omit [Transport] in
theorem settleNumberedStorno_spec (hop : marker.operation = .storno request.invoiceNumber)
    (created : CreatedInvoice) :
    Prog.Ensures (settleNumberedStorno request (some marker) created)
      (SettledReply request marker (.ok (.numbered created))) := by
  unfold settleNumberedStorno
  cases hevidence : StornoReplyEvidence.of created request.invoiceNumber with
  | reversal =>
    dsimp only
    rw [Prog.pure_eq, Prog.ensures_ret]
    refine ⟨readOnly_nil, ?_, fun hecho => ?_⟩
    · rintro outcome ⟨⟩
      exact Or.inl ⟨_, rfl, Or.inl (replyReverses_of_evidence hevidence)⟩
    · rw [evidence_of_echo hecho] at hevidence
      cases hevidence
  | sameNumberEcho =>
    dsimp only
    rw [Prog.pure_eq, Prog.ensures_ret]
    exact settledReply_error readOnly_nil
  | needsVerification =>
    -- The marker's own reconciliation: the reversal document and the original.
    refine (reconcileWriteChecked_spec marker (some created.invoiceNumber)).bind ?_
    rintro tr checked ⟨hro, hsettled⟩
    rw [Prog.pure_eq, Prog.ensures_ret, List.append_nil]
    unfold verifiedReply
    split
    · rename_i n id
      have hby := hsettled _ rfl rfl
      rw [SettledBy, hop] at hby
      obtain ⟨storno, hread, -⟩ := hby
      refine ⟨hro, ?_, fun hecho => ?_⟩
      · rintro outcome ⟨⟩
        exact Or.inl ⟨_, rfl, Or.inr ⟨storno, hread.mono (fun _ _ => trivial)⟩⟩
      · rw [evidence_of_echo hecho] at hevidence
        cases hevidence
    · exact settledReply_error hro

omit [Transport] in
theorem settleFailedStorno_spec (error : ClientError) :
    Prog.Ensures (settleFailedStorno request (some marker) error)
      (SettledReply request marker (.error error)) := by
  unfold settleFailedStorno
  cases hclass : classifyFailure "storno" error with
  | unknown answer => simpa [settleOpenStorno] using settledReply_error readOnly_nil
  | unavailable message => simpa [settleOpenStorno] using settledReply_error readOnly_nil
  | transport message => simpa [settleOpenStorno] using settledReply_error readOnly_nil
  | rejected rejection =>
    refine Prog.ensures_ret.mpr ⟨readOnly_nil, by simp, fun hopen => ?_⟩
    simpa [hclass] using classifyFailure_of_leavesOpen hopen
  | duplicate answer =>
    refine Prog.ensures_ret.mpr ⟨readOnly_nil, by simp, fun hopen => ?_⟩
    simpa [hclass] using classifyFailure_of_leavesOpen hopen
  | credentialsRejected answer =>
    refine Prog.ensures_ret.mpr ⟨readOnly_nil, by simp, fun hopen => ?_⟩
    simpa [hclass] using classifyFailure_of_leavesOpen hopen

omit [Transport] in
theorem settleStornoReply_spec (hop : marker.operation = .storno request.invoiceNumber)
    (reply : Except ClientError StornoResponse) :
    Prog.Ensures (settleStornoReply request (some marker) reply)
      (SettledReply request marker reply) := by
  match reply with
  | .ok .unnumbered =>
    simpa [settleStornoReply, settleUnnumberedStorno] using settledReply_error readOnly_nil
  | .ok (.numbered created) => exact settleNumberedStorno_spec hop created
  | .error error => exact settleFailedStorno_spec error

omit [Transport] in
/-- The storno lookup: its first exchange is the external-id query, a miss is all
it made, and a reversal it reports was read in full. -/
theorem lookupOrderStornoChecked_spec (externalId : ExternalId) (order : OrderKey)
    (number : String) :
    Prog.Ensures (lookupOrderStornoChecked externalId order number) fun tr r =>
      ReadOnly tr
        ∧ (r = .ok .absent → ∃ answer : Except ClientError InvoiceDocument,
          tr = [⟨AgentRequest.query (.externalId externalId.text), answer⟩]
            ∧ queryAnswer (.externalId externalId.text) answer = .error .notFound)
        ∧ (∀ n id, r = .ok (.alreadyReversed n id) → ∃ storno,
          ReversalReadIn tr order number (fun _ => True) storno) := by
  unfold lookupOrderStornoChecked
  rw [queryRaw_bind, Prog.ensures_call]
  intro answer
  split
  · rename_i hmiss
    refine Prog.ensures_ret.mpr ⟨by simp [AgentRequest.isMutation], fun _ => ?_, by simp⟩
    exact ⟨answer, rfl, hmiss⟩
  · simp [AgentRequest.isMutation]
  · rename_i found hfound
    refine (verifyOrderStorno_spec found order number).bind ?_
    rintro tr evidence ⟨hro, hverified⟩
    have hreads : ReadOnly (⟨AgentRequest.query (.externalId externalId.text), answer⟩ :: tr) :=
      readOnly_cons.mpr ⟨rfl, hro⟩
    split
    · rename_i n id
      obtain ⟨-, -, hs, hc, original, horiginal, hrev⟩ := hverified n id rfl
      refine Prog.ensures_ret.mpr ⟨by simpa using hreads, by simp, fun _ _ _ => ⟨found, ?_⟩⟩
      exact ⟨[_], tr ++ [], _, original, rfl, readIn_head hfound, hs, hc, horiginal.left, hrev,
        trivial⟩
    all_goals exact Prog.ensures_ret.mpr ⟨by simpa using hreads, by simp, by simp⟩

end Marker

/-! ## The two paths -/

/-- **What a storno behind a marker guarantees.** A reversal it reports was named by
the reply to its own send, or was read: the reversal document of this order, and
after it the original of this order, reported reversed. A reply that leaves the
storno open leaves the write unresolved. -/
structure StornoSettlement (account : Account) (request : StornoStepRequest) (order : OrderKey)
    (tr : List (Exchange AgentRequest.Answer)) (result : WriteResult) : Prop where
  reversal : result.isReversal = true →
    (∃ reply, (⟨AgentRequest.storno (account.buildStorno request), reply⟩ :
        Exchange AgentRequest.Answer) ∈ tr ∧ ReplyReverses request.invoiceNumber reply)
      ∨ ∃ storno, ReversalReadIn tr order request.invoiceNumber (fun _ => True) storno
  leavesOpen : ∀ reply, (⟨AgentRequest.storno (account.buildStorno request), reply⟩ :
      Exchange AgentRequest.Answer) ∈ tr → LeavesOpen request.invoiceNumber reply →
    result.isUnresolved = true

/-- The original, freshly read, is the one the storno was admitted for, and live. -/
def PinnedOriginalRead (request : StornoStepRequest) (order : OrderKey) (pinned : FoundDocument)
    (tr : List (Exchange AgentRequest.Answer)) : Prop :=
  ∃ (answer : Except ClientError InvoiceDocument) (fresh : FoundDocument),
    tr = [⟨AgentRequest.query (.invoiceNumber request.invoiceNumber), answer⟩]
      ∧ queryAnswer (.invoiceNumber request.invoiceNumber) answer = .ok fresh
      ∧ fresh.carriesOrder order = true ∧ fresh.isStornoable = true ∧ fresh.isLive = true
      ∧ fresh.documentId = pinned.documentId
      ∧ fresh.fulfillmentDate = some request.fulfillmentDate
      ∧ fresh.appearance = pinned.appearance

section Paths

variable {account : Account} {request : StornoStepRequest} {marker : UnresolvedWrite}
  {pinned : FoundDocument}

/-- The send of a path, behind the exchanges `guards` made since the leading query. -/
abbrev GatedStorno (account : Account) (request : StornoStepRequest)
    (between : List (Exchange AgentRequest.Answer) → Prop) :
    List (Exchange AgentRequest.Answer) → Prop :=
  Gated (.storno (account.buildStorno request)) (.externalId request.externalId.text)
    (fun holder => holder = .error .notFound) between

omit [Unicode] in
/-- A call that sent nothing has no reply to be left open by. -/
theorem notMem_send_of_readOnly {tr : List (Exchange AgentRequest.Answer)} (hro : ReadOnly tr)
    {reply : (AgentRequest.storno (account.buildStorno request)).Answer} :
    (⟨AgentRequest.storno (account.buildStorno request), reply⟩ : Exchange AgentRequest.Answer)
      ∉ tr := by
  intro hmem
  have := hro _ hmem
  cases this

theorem stornoSettlement_of_readOnly {tr : List (Exchange AgentRequest.Answer)}
    {order : OrderKey} {result : WriteResult} (hro : ReadOnly tr)
    (h : result.isReversal = true →
      ∃ storno, ReversalReadIn tr order request.invoiceNumber (fun _ => True) storno) :
    StornoSettlement account request order tr result :=
  ⟨fun hr => Or.inr (h hr), fun _ hmem => absurd hmem (notMem_send_of_readOnly hro)⟩

/-- The send itself, `before` being what the call exchanged until then: it is made
once, and `settle` of its settled reply keeps the guarantees if it takes no
refusal for a reversal and no uncertainty for a result. -/
theorem stornoSend_settlement (hop : marker.operation = .storno request.invoiceNumber)
    {before : List (Exchange AgentRequest.Answer)} (hbefore : ReadOnly before)
    {settle : Except Unconfirmed StornoOutcome → WriteResult}
    (herror : ∀ cause, (settle (.error cause)).isUnresolved = true)
    (hrejected : ∀ rejection, (settle (.ok (.rejected rejection))).isReversal = false)
    (hcredentials : ∀ answer, (settle (.ok (.credentialsRejected answer))).isReversal = false) :
    Prog.Ensures (stornoSend account request (some marker) >>= fun sent => pure (settle sent))
      fun tr result => (∃ reply post, tr
          = ⟨AgentRequest.storno (account.buildStorno request), reply⟩ :: post ∧ ReadOnly post)
        ∧ StornoSettlement account request marker.order (before ++ tr) result := by
  unfold stornoSend
  rw [Prog.bind_assoc, Prog.perform_bind, Prog.ensures_call]
  intro reply
  refine (settleStornoReply_spec hop reply).bind ?_
  intro post sent hsettled
  rw [Prog.pure_eq, Prog.ensures_ret, List.append_nil]
  refine ⟨⟨reply, post, rfl, hsettled.readOnly⟩, fun hreversal => ?_, fun reply' hmem hopen => ?_⟩
  · cases hsent : sent with
    | error cause =>
      have := herror cause
      rw [hsent] at hreversal
      cases hresult : settle (.error cause) <;> simp_all [WriteResult.isReversal,
        WriteResult.isUnresolved]
    | ok outcome =>
      rw [hsent] at hreversal
      rcases hsettled.outcome outcome hsent with ⟨document, rfl, hreply | ⟨storno, hread⟩⟩ |
        ⟨rejection, rfl⟩ | ⟨answer, rfl⟩
      · exact Or.inl ⟨reply, by simp, hreply⟩
      · exact Or.inr ⟨storno, (hread.right (t := [_])).right⟩
      · simp [hrejected] at hreversal
      · simp [hcredentials] at hreversal
  · -- The one send of the call is this one.
    rw [List.mem_append, List.mem_cons] at hmem
    rcases hmem with hmem | heq | hmem
    · exact absurd hmem (notMem_send_of_readOnly hbefore)
    · cases heq
      obtain ⟨cause, rfl⟩ := hsettled.leavesOpen hopen
      exact herror cause
    · exact absurd hmem (notMem_send_of_readOnly hsettled.readOnly)

theorem protectedStorno_spec (hop : marker.operation = .storno request.invoiceNumber) :
    Prog.Ensures (protectedStorno account request marker) fun tr result =>
      GatedStorno account request (fun guards => guards = []) tr
        ∧ StornoSettlement account request marker.order tr result := by
  unfold protectedStorno
  refine (lookupOrderStornoChecked_spec request.externalId marker.order
    request.invoiceNumber).bind ?_
  rintro tr looked ⟨hro, habsent, hreversed⟩
  split
  · refine Prog.ensures_ret.mpr ⟨gated_of_readOnly (by simpa using hro), ?_⟩
    rw [List.append_nil]
    exact stornoSettlement_of_readOnly hro (fun _ => hreversed _ _ rfl)
  · obtain ⟨answer, rfl, hmiss⟩ := habsent rfl
    refine (stornoSend_settlement hop hro (fun _ => rfl) (fun _ => rfl) (fun _ => rfl)).mono ?_
    rintro tr' result ⟨⟨reply, post, rfl, hpost⟩, hsettlement⟩
    exact ⟨gated_of_send hmiss readOnly_nil hpost rfl, hsettlement⟩
  -- Every other answer of the lookup ends the call without a send or a reversal.
  all_goals
    refine Prog.ensures_ret.mpr ⟨gated_of_readOnly (by simpa using hro), ?_⟩
    rw [List.append_nil]
    exact stornoSettlement_of_readOnly hro (by simp [WriteResult.isReversal, WriteResult.because])

omit [Transport] in
/-- What a marker's reconciliation reports as a reversal was read. -/
theorem reversalReadIn_of_settledBy {tr : List (Exchange AgentRequest.Answer)}
    {result : WriteResult} (hop : marker.operation = .storno request.invoiceNumber)
    (h : result.isUnresolved = false → SettledBy marker tr result)
    (hreversal : result.isReversal = true) :
    ∃ storno, ReversalReadIn tr marker.order request.invoiceNumber (fun _ => True) storno := by
  have hresolved : result.isUnresolved = false := by
    cases result <;> simp_all [WriteResult.isReversal, WriteResult.isUnresolved]
  have hby := h hresolved
  rw [SettledBy, hop] at hby
  obtain ⟨storno, hread, -⟩ := hby
  exact ⟨storno, hread.mono (fun _ _ => trivial)⟩

theorem reconcileWrite_settlement (account : Account)
    (hop : marker.operation = .storno request.invoiceNumber)
    {before : List (Exchange AgentRequest.Answer)} (hbefore : ReadOnly before) :
    Prog.Ensures (reconcileWrite marker none) fun tr result => ReadOnly tr
      ∧ StornoSettlement account request marker.order (before ++ tr) result := by
  refine (reconcileWrite_spec marker none).mono ?_
  rintro tr result ⟨hro, hsettled⟩
  refine ⟨hro, stornoSettlement_of_readOnly (readOnly_append.mpr ⟨hbefore, hro⟩)
    (fun hreversal => ?_)⟩
  obtain ⟨storno, hread⟩ := reversalReadIn_of_settledBy hop hsettled hreversal
  exact ⟨storno, hread.right⟩

theorem stornoReplayEnabled_spec :
    Prog.Ensures (stornoReplayEnabled account request marker pinned) fun tr result =>
      GatedStorno account request (PinnedOriginalRead request marker.order pinned) tr
        ∧ StornoSettlement account request marker.order tr result := by
  unfold stornoReplayEnabled
  by_cases hretains : retainsStorno request marker pinned = true
  swap
  · rw [if_pos (by simpa using hretains)]
    exact Prog.ensures_ret.mpr ⟨gated_of_readOnly readOnly_nil,
      stornoSettlement_of_readOnly readOnly_nil (by simp [WriteResult.isReversal,
        WriteResult.because])⟩
  rw [if_neg (by simp [hretains])]
  have hop : marker.operation = .storno request.invoiceNumber := by
    simp only [retainsStorno, Bool.and_eq_true, decide_eq_true_eq] at hretains
    exact hretains.1.2
  refine (lookupOrderStornoChecked_spec request.externalId marker.order
    request.invoiceNumber).bind ?_
  rintro tr looked ⟨hro, habsent, -⟩
  split
  · refine (reconcileWrite_settlement account hop hro).mono ?_
    rintro tr' result ⟨hro', hsettlement⟩
    exact ⟨gated_of_readOnly (readOnly_append.mpr ⟨hro, hro'⟩), hsettlement⟩
  · obtain ⟨answer, rfl, hmiss⟩ := habsent rfl
    rw [verify_bind, Prog.ensures_call]
    intro original
    -- The two reads that lead a send, whatever follows them.
    have hreads : ReadOnly [(⟨AgentRequest.query (.externalId request.externalId.text), answer⟩ :
          Exchange AgentRequest.Answer),
        ⟨AgentRequest.query (.invoiceNumber request.invoiceNumber), original⟩] := by
      simp [AgentRequest.isMutation]
    have hnothing : ∀ result : WriteResult, result.isReversal = false →
        Prog.Ensures (pure result : Call WriteResult) fun tr result =>
          GatedStorno account request (PinnedOriginalRead request marker.order pinned)
              ([⟨AgentRequest.query (.externalId request.externalId.text), answer⟩]
                ++ ⟨AgentRequest.query (.invoiceNumber request.invoiceNumber), original⟩ :: tr)
            ∧ StornoSettlement account request marker.order
              ([⟨AgentRequest.query (.externalId request.externalId.text), answer⟩]
                ++ ⟨AgentRequest.query (.invoiceNumber request.invoiceNumber), original⟩ :: tr)
              result := by
      intro result hresult
      exact Prog.ensures_ret.mpr ⟨gated_of_readOnly hreads,
        stornoSettlement_of_readOnly hreads (by simp [hresult])⟩
    unfold replayStornoOriginal
    split
    · rename_i fresh hfresh
      by_cases hdiffers : differsFromPinned fresh pinned request marker.order = true
      · rw [if_pos hdiffers]
        exact hnothing _ rfl
      rw [if_neg hdiffers]
      by_cases hlive : fresh.isLive = true
      swap
      · rw [if_pos (by simpa using hlive)]
        refine (reconcileWrite_settlement account hop hreads).mono ?_
        rintro tr' result ⟨hro', hsettlement⟩
        exact ⟨gated_of_readOnly (readOnly_append.mpr ⟨hro, readOnly_cons.mpr ⟨rfl, hro'⟩⟩),
          hsettlement⟩
      rw [if_neg (by simp [hlive])]
      simp only [differsFromPinned, Bool.or_eq_true, Bool.not_eq_true', decide_eq_true_eq, not_or,
        Bool.not_eq_false, not_not] at hdiffers
      obtain ⟨⟨⟨⟨hid, horder⟩, hstornoable⟩, hdate⟩, happearance⟩ := hdiffers
      refine (stornoSend_settlement hop hreads (fun _ => rfl) (fun _ => rfl) (fun _ => rfl)).mono ?_
      rintro tr' result ⟨⟨reply, post, rfl, hpost⟩, hsettlement⟩
      have hpinned : PinnedOriginalRead request marker.order pinned
          [⟨AgentRequest.query (.invoiceNumber request.invoiceNumber), original⟩] :=
        ⟨original, fresh, rfl, queryOutcome_eq_found.mp hfresh, horder, hstornoable, hlive, hid,
          hdate, happearance⟩
      exact ⟨gated_of_send hmiss (by simp [AgentRequest.isMutation]) hpost hpinned, hsettlement⟩
    all_goals exact hnothing _ rfl
  all_goals
    refine Prog.ensures_ret.mpr ⟨gated_of_readOnly (by simpa using hro), ?_⟩
    rw [List.append_nil]
    exact stornoSettlement_of_readOnly hro (by simp [WriteResult.isReversal, WriteResult.because])

end Paths

/-- **The gate and the settlement of the two storno paths**, over every transcript:
cut short or finished, a path has sent at most one storno, behind its own
external-id query answered with code 7 – and, when executions may repeat, behind
the pinned original freshly read and still live – and what it returns is backed by
the reply or by the documents it read. -/
def StornoGate (account : Account) (request : StornoStepRequest) (marker : UnresolvedWrite)
    (pinned : FoundDocument) : Prop :=
  (∀ tr q, Prog.Steps (protectedStorno account request marker) tr q →
      GatedStorno account request (fun guards => guards = []) tr)
    ∧ (∀ tr q, Prog.Steps (stornoReplayEnabled account request marker pinned) tr q →
      GatedStorno account request (PinnedOriginalRead request marker.order pinned) tr)
    ∧ (∀ tr result, Prog.Runs (protectedStorno account request marker) tr result →
      StornoSettlement account request marker.order tr result)
    ∧ (∀ tr result, Prog.Runs (stornoReplayEnabled account request marker pinned) tr result →
      StornoSettlement account request marker.order tr result)

/-- **The send gate and settlement of the storno paths**, for the marker of the
storno: the one the order stored for this original before it was sent. -/
theorem storno_send_gate (account : Account) (request : StornoStepRequest)
    (marker : UnresolvedWrite) (pinned : FoundDocument)
    (hmarker : marker.operation = .storno request.invoiceNumber) :
    StornoGate account request marker pinned := by
  refine ⟨fun tr q hs => ?_, fun tr q hs => ?_, fun tr result hr => ?_, fun tr result hr => ?_⟩
  · exact Prog.Ensures.steps ((protectedStorno_spec hmarker).mono (fun _ _ h => h.1))
      (fun t t' => Gated.of_append) hs
  · exact Prog.Ensures.steps (stornoReplayEnabled_spec.mono (fun _ _ h => h.1))
      (fun t t' => Gated.of_append) hs
  · exact (protectedStorno_spec hmarker tr result hr).2
  · exact (stornoReplayEnabled_spec tr result hr).2

end Storno

section Sample

local instance sampleUnicode : Unicode := Unicode.ascii

local instance sampleTransport : Transport := Transport.production

theorem sampleYear_ge : (-9999 : ℤ) ≤ 2026 := by decide

theorem sampleYear_le : (2026 : ℤ) ≤ 9999 := by decide

/-- A date. -/
def sampleDate : Date := ⟨2026, 9, 11, sampleYear_ge, sampleYear_le, by decide, by decide⟩

/-- An invoice of order `A-1`. -/
def sampleOriginal : FoundDocument where
  documentId := 7
  number := "INV-1"
  documentType := .invoice
  orderNumber := some "A-1"
  reversed := none
  referencedInvoiceNumber := none
  referencedProformaNumber := none
  appearance := 1
  issueDate := some sampleDate
  fulfillmentDate := some sampleDate
  dueDate := some sampleDate
  currency := some "HUF"
  test := some true
  netTotal := ⟨false, 10000, 2, by decide, by decide⟩
  vatTotal := ⟨false, 2700, 2, by decide, by decide⟩
  grossTotal := ⟨false, 12700, 2, by decide, by decide⟩
  creditEntries := []

/-- Its storno, as the order would send it. -/
def sampleStorno : StornoStepRequest where
  invoiceNumber := "INV-1"
  externalId := ⟨"shop:A-1:storno:INV-1"⟩
  comment := none
  buyerEmail := none
  eInvoice := false
  fulfillmentDate := sampleDate

/-- The account it is sent for. -/
def sampleAccount : Account where
  id := "main"
  endpoint := ⟨Endpoint.production, by decide⟩
  defaults := {}
  seller := {}
  credentialRef := "main"

theorem shop_valid : Namespace.validate "shop" = .ok () := by decide

/-- The marker stored for it. -/
def sampleMarker : UnresolvedWrite where
  executionContract := some (.requestResponseStornoV1 7 sampleDate false 1)
  proformaNumber := none
  prepaymentNumber := none
  token := "inv_1"
  ownerInvocation := "inv_1"
  createdAt := "2026-09-11T08:00:00Z"
  scope := none
  order := ⟨"A-1", by decide⟩
  «namespace» := ⟨"shop", shop_valid⟩
  externalId := "shop:A-1:storno:INV-1"
  accountId := "main"
  endpoint := Endpoint.production
  credentialRef := "main"
  operation := .storno "INV-1"

/-- The storno of an invoice, with the marker its order stores. -/
theorem storno_send_gate_sample :
    sampleMarker.operation = .storno sampleStorno.invoiceNumber
      ∧ StornoGate sampleAccount sampleStorno sampleMarker sampleOriginal :=
  ⟨rfl, storno_send_gate sampleAccount sampleStorno sampleMarker sampleOriginal rfl⟩

end Sample

end Szamlazz
