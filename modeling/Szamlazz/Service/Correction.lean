import Szamlazz.Service.CreateAnswer
import Szamlazz.Service.Observe

/-!
# Whose correction an answer is about

A correction id names a correction of the order, not of a base: it can be given
twice with two bases. The lookup that comes before everything else answers with
what the id already holds, whichever base that has, so that a base reversed in
the meantime cannot hide it. From there on the base counts: the full lookup and
the leading query of the write see a corrective of another base as a collision,
and reconciliation, which cannot tell what an earlier send did, stays unresolved.
-/

namespace Szamlazz

open Durable Contract

section Layers

variable [Unicode]

/-- **What a correction makes of a corrective of another base** that its external
id holds: `found`, read by `answer`. -/
structure OtherBaseLayers [RustDecimal] (order : OrderKey) (externalId : ExternalId)
    (base : String) (answer : Except ClientError InvoiceDocument) (found : FoundDocument) :
    Prop where
  /-- The lookup before any prerequisite answers with it. -/
  existing : ∀ tr r,
    Prog.Runs (lookupOurs externalId order .corrective)
      (⟨.query (.externalId externalId.text), answer⟩ :: tr) r →
    ∃ outcome response, r = .ok outcome
      ∧ decideExistingTarget outcome none ⟨.corrective, externalId⟩ = .ok (some response)
      ∧ (response.outcome = .alreadyIssued ∨ response.outcome = .reversed)
      ∧ response.invoiceNumber = some found.number
  /-- The full lookup sees a collision. -/
  looked : ∀ (intent : Intent) tr r, intent.identity = ⟨.corrective, externalId⟩ →
    intent.correctedNumber = some base →
    Prog.Runs (intent.lookupCall order .protected)
      (⟨.query (.externalId externalId.text), answer⟩ :: tr) r →
    r = .ok (.collision found)
      ∧ decideLookupForExecution (.collision found) intent.reissue intent.identity .protected
        = .ok (.inl (intent.identity.conflictAbout .externalIdCollision found.number))
  /-- So does the leading query of the write, which sends nothing. -/
  written : ∀ (request : CreateStepRequest) tr result, request.externalId = externalId →
    request.order = order → request.kind = .corrective → request.correctedNumber = some base →
    Prog.Runs (protectedCreate request) (⟨.query (.externalId externalId.text), answer⟩ :: tr)
      result →
    tr = [] ∧ result = .create (.collision found)
      ∧ Identity.respondTo ⟨.corrective, externalId⟩ (.collision found)
        = .ok (Identity.conflictAbout ⟨.corrective, externalId⟩ .externalIdCollision found.number)
  /-- Reconciliation does not settle the write with it. -/
  reconciled : ∀ (marker : UnresolvedWrite) diagnostic reissued tr result,
    marker.externalId = externalId.text →
    marker.operation = .create .corrective reissued (some base) →
    Prog.Runs (reconcileWriteDiagnostic marker diagnostic)
      (⟨.query (.externalId externalId.text), answer⟩ :: tr) result →
    result.isUnresolved = true

variable {order : OrderKey} {externalId : ExternalId} {base : String}
  {answer : Except ClientError InvoiceDocument} {found : FoundDocument}

/-- A document of ours is live or reversed. -/
theorem classifySeen_of_ours {kind : IssuedKind} (hours : found.isOurs order kind = true) :
    classifySeen order kind (.ok found) = .ok (.live found)
      ∨ classifySeen order kind (.ok found) = .ok (.reversed found) := by
  cases hlive : found.isLive
  · exact Or.inr (classifySeen_eq_reversed.mpr ⟨rfl, hours, hlive⟩)
  · exact Or.inl (classifySeen_eq_live.mpr ⟨rfl, hours, hlive⟩)

theorem lookupCall_otherBase {intent : Intent} {tr : List (Exchange AgentRequest.Answer)}
    {r : Except Unanswered LookupOutcome}
    (hanswer : queryAnswer (.externalId externalId.text) answer = .ok found)
    (hours : found.isOurs order .corrective = true) (hbase : found.isCorrectiveOf base = false)
    (hidentity : intent.identity = ⟨.corrective, externalId⟩)
    (hcorrected : intent.correctedNumber = some base)
    (hr : Prog.Runs (intent.lookupCall order .protected)
      (⟨.query (.externalId externalId.text), answer⟩ :: tr) r) :
    r = .ok (.collision found) := by
  unfold Intent.lookupCall at hr
  rw [hidentity, hcorrected] at hr
  obtain ⟨t, looked, t', ht, hlook, hret⟩ := Prog.runs_bind.mp hr
  obtain ⟨rfl, rfl⟩ := Prog.runs_ret.mp hret
  have hlooked : looked = .ok (.live found) ∨ ∃ stornoNumber,
      looked = .ok (.reversed found stornoNumber) := by
    unfold lookup lookupInner at hlook
    rw [seen_bind, Prog.runs_call] at hlook
    obtain ⟨x, t'', ht', hlook⟩ := hlook
    obtain rfl : x = answer := by
      rw [List.append_nil, ht'] at ht
      injection ht with hx
      cases hx
      rfl
    rw [hanswer] at hlook
    rcases classifySeen_of_ours hours with hseen | hseen
    · rw [hseen] at hlook
      obtain ⟨-, rfl⟩ := Prog.runs_ret.mp hlook
      exact Or.inl rfl
    · rw [hseen] at hlook
      obtain ⟨-, rfl⟩ := Prog.runs_ret.mp hlook
      exact Or.inr ⟨none, rfl⟩
  have hmatches : matchesCreateBase found .corrective (some base) = false := hbase
  rcases hlooked with rfl | ⟨stornoNumber, rfl⟩
  · simp [Except.map, withCreateBase, hmatches]
  · simp [Except.map, withCreateBase, hmatches]

theorem protectedCreate_otherBase {request : CreateStepRequest}
    {tr : List (Exchange AgentRequest.Answer)} {result : WriteResult}
    (hanswer : queryAnswer (.externalId externalId.text) answer = .ok found)
    (hours : found.isOurs order .corrective = true) (hbase : found.isCorrectiveOf base = false)
    (hid : request.externalId = externalId) (horder : request.order = order)
    (hkind : request.kind = .corrective) (hcorrected : request.correctedNumber = some base)
    (hr : Prog.Runs (protectedCreate request)
      (⟨.query (.externalId externalId.text), answer⟩ :: tr) result) :
    tr = [] ∧ result = .create (.collision found) := by
  have hmatches : matchesCorrectiveBase found request.operation = false := by
    show matchesCreateBase found request.kind request.correctedNumber = false
    rw [hkind, hcorrected]
    exact hbase
  have hsettled : settledBy request true (classifySeen order .corrective (.ok found))
      = .ok (some (.collision found)) := by
    have hholder : withCorrectiveBase request (classifySeen order .corrective (.ok found))
        = .ok (.collision found) := by
      rcases classifySeen_of_ours hours with hseen | hseen
      · rw [hseen, withCorrectiveBase, if_neg (by rw [hmatches]; decide)]
      · rw [hseen, withCorrectiveBase, if_neg (by rw [hmatches]; decide)]
    have hchanged : targetChanged request (.ok (.collision found)) = false := by
      unfold targetChanged
      split <;> rfl
    simp only [settledBy, hholder, hchanged, Bool.and_false, Bool.false_eq_true, if_false]
    rfl
  unfold protectedCreate at hr
  rw [settledByQuery_bind, Prog.runs_call, hid, horder, hkind] at hr
  obtain ⟨x, t, ht, hr⟩ := hr
  cases ht
  rw [hanswer, hsettled] at hr
  obtain ⟨rfl, rfl⟩ := Prog.runs_ret.mp hr
  exact ⟨rfl, rfl⟩

/-- A create is reconciled by one query, of its external id. -/
theorem reconcileWriteDiagnostic_create_query {marker : UnresolvedWrite} {kind : IssuedKind}
    {reissued corrected : Option String}
    (hoperation : marker.operation = .create kind reissued corrected)
    (diagnostic : WriteDiagnostic) :
    Prog.Ensures (reconcileWriteDiagnostic marker diagnostic) fun tr _ =>
      ∃ answer, tr = [⟨AgentRequest.query (.externalId marker.externalId), answer⟩] := by
  have hreconcile : ∀ request : ReconciliationRequest, request.operation = marker.operation →
      Prog.Ensures (reconcile request) fun tr _ =>
        ∃ answer, tr = [⟨AgentRequest.query (.externalId request.externalId), answer⟩] := by
    intro request hrequest
    unfold reconcile reconcileQuery
    simp only [hrequest, hoperation]
    rw [Prog.bind_assoc, queryRaw_bind, Prog.ensures_call]
    intro answer
    rw [Prog.pure_eq, Prog.ret_bind]
    split
    · unfold reconcileFound
      simp only [hrequest, hoperation]
      split_ifs <;> exact Prog.ensures_ret.mpr ⟨answer, rfl⟩
    all_goals exact Prog.ensures_ret.mpr ⟨answer, rfl⟩
  have hchecked : ∀ candidate, Prog.Ensures (reconcileWriteChecked marker candidate) fun tr _ =>
      ∃ answer, tr = [⟨AgentRequest.query (.externalId marker.externalId), answer⟩] := by
    intro candidate
    unfold reconcileWriteChecked
    refine (hreconcile _ rfl).bind ?_
    rintro tr reconciled ⟨answer, rfl⟩
    split
    all_goals try exact Prog.ensures_ret.mpr ⟨answer, rfl⟩
    -- Only a storno pins an original, so nothing else is asked.
    unfold checkPinnedOriginal
    split
    · rename_i hstorno
      rw [hoperation] at hstorno
      cases hstorno
    · exact Prog.ensures_ret.mpr ⟨answer, rfl⟩
  have hwrite : Prog.Ensures (reconcileWrite marker diagnostic.candidateNumber) fun tr _ =>
      ∃ answer, tr = [⟨AgentRequest.query (.externalId marker.externalId), answer⟩] := by
    unfold reconcileWrite
    refine (hchecked _).bind ?_
    rintro tr checked ⟨answer, rfl⟩
    have hstorno : marker.operation.isStorno = false := by rw [hoperation]; rfl
    rw [hstorno, Bool.and_false, Bool.false_and, if_neg (by decide)]
    exact Prog.ensures_ret.mpr ⟨answer, rfl⟩
  refine hwrite.bind ?_
  rintro tr result ⟨answer, rfl⟩
  exact Prog.ensures_ret.mpr ⟨answer, rfl⟩

theorem reconcileWriteDiagnostic_otherBase {marker : UnresolvedWrite}
    {diagnostic : WriteDiagnostic} {reissued : Option String}
    {tr : List (Exchange AgentRequest.Answer)} {result : WriteResult}
    (hanswer : queryAnswer (.externalId externalId.text) answer = .ok found)
    (hbase : found.isCorrectiveOf base = false) (hid : marker.externalId = externalId.text)
    (hoperation : marker.operation = .create .corrective reissued (some base))
    (hr : Prog.Runs (reconcileWriteDiagnostic marker diagnostic)
      (⟨.query (.externalId externalId.text), answer⟩ :: tr) result) :
    result.isUnresolved = true := by
  by_contra hresolved
  obtain ⟨only, honly⟩ := reconcileWriteDiagnostic_create_query hoperation diagnostic _ _ hr
  have hsettled := (reconcileWriteDiagnostic_spec marker diagnostic _ _ hr).2
    (Bool.not_eq_true _ ▸ hresolved)
  unfold SettledBy at hsettled
  rw [hoperation] at hsettled
  obtain ⟨document, ⟨read, hmem, hread⟩, hevidence, -⟩ := hsettled
  have htail : tr = [] := (List.cons.inj honly).2
  subst htail
  rw [hid] at hmem hread
  cases List.mem_singleton.mp hmem
  rw [hanswer] at hread
  cases hread
  have hmatches : found.isCorrectiveOf base = true := hevidence.base
  rw [hbase] at hmatches
  cases hmatches

/-- **A corrective of another base** is answered by the first lookup and by nothing
after it. -/
theorem otherBaseLayers [RustDecimal]
    (hanswer : queryAnswer (.externalId externalId.text) answer = .ok found)
    (hours : found.isOurs order .corrective = true) (hbase : found.isCorrectiveOf base = false) :
    OtherBaseLayers order externalId base answer found where
  existing := by
    intro tr r hr
    rw [lookupOurs, seen_bind, Prog.runs_call] at hr
    obtain ⟨x, t, ht, hr⟩ := hr
    cases ht
    obtain ⟨-, rfl⟩ := Prog.runs_ret.mp hr
    rw [hanswer]
    rcases classifySeen_of_ours hours with hseen | hseen
    · rw [hseen]
      exact ⟨_, _, rfl, rfl, Or.inl rfl, rfl⟩
    · rw [hseen]
      exact ⟨_, _, rfl, rfl, Or.inr rfl, rfl⟩
  looked := by
    intro intent tr r hidentity hcorrected hr
    exact ⟨lookupCall_otherBase hanswer hours hbase hidentity hcorrected hr, rfl⟩
  written := by
    intro request tr result hid horder hkind hcorrected hr
    obtain ⟨htr, hresult⟩ :=
      protectedCreate_otherBase hanswer hours hbase hid horder hkind hcorrected hr
    exact ⟨htr, hresult, rfl⟩
  reconciled := by
    intro marker diagnostic reissued tr result hid hoperation hr
    exact reconcileWriteDiagnostic_otherBase hanswer hbase hid hoperation hr

end Layers

/-! ## The handler -/

section Handler

variable [Unicode] [Transport] [Clock] [FaultText] [RustDecimal]

/-- What an answer about a document names: the document its create was answered
with, or the corrective of the order that the id of the correction holds – of the
requested base, unless that was all the handler read. -/
def NamesCorrection (config : WorkerConfig) (ctx : Context) (body : Body CorrectRequest)
    (tr : List (Exchange AgentRequest.Answer)) (response : CreateResponse) : Prop :=
  response.outcome.namesDocument = true →
    ∃ request order number, body = .ok request ∧ orderKey ctx.key = .ok order
      ∧ response.invoiceNumber = some number
      ∧ let externalId := ExternalId.forCorrective config.namespace order request.correctionId
        (∃ document, ReplyIn tr document ∧ document.number = number)
          ∨ ∃ found, HolderIn tr externalId.text order .corrective found ∧ found.number = number
            ∧ (found.isCorrectiveOf request.invoiceNumber.text = true
              ∨ ∃ answer, tr = [⟨.query (.externalId externalId.text), answer⟩])

/-- **A correction past its first lookup is a correction of the requested base**,
and what every layer makes of one that is not. -/
theorem correction_names_base (config : WorkerConfig) (ctx : Context) :
    (∀ body, (correctInvoice config ctx body).Answers (NamesCorrection config ctx body))
      ∧ ∀ order externalId base answer found,
        queryAnswer (.externalId externalId.text) answer = .ok found →
        found.isOurs order .corrective = true → found.isCorrectiveOf base = false →
        OtherBaseLayers order externalId base answer found := by
  refine ⟨fun body => ?_, fun order externalId base answer found => otherBaseLayers⟩
  refine (answers_correctInvoice config ctx body).mono ?_
  rintro tr response ⟨request, order, hbody, horder, hsupported⟩ hnames
  obtain ⟨number, hnumber, hreply | ⟨found, hholder, hbase, hfound⟩⟩ := hsupported.number hnames
  · exact ⟨request, order, number, hbody, horder, hnumber, Or.inl hreply⟩
  · exact ⟨request, order, number, hbody, horder, hnumber,
      Or.inr ⟨found, hholder, hfound, hbase⟩⟩

end Handler

/-! ## A correction id given twice -/

section Sample

local instance correctedUnicode : Unicode := sampleUnicode

local instance correctedTransport : Transport := sampleTransport

local instance correctedClock : Clock := observedClock

local instance correctedFaultText : FaultText := observedFaultText

local instance correctedDecimal : RustDecimal := RustDecimal.exact

/-- Whether a create is sent, read off the characters of its document. -/
def CreateInvoice.sendable (request : CreateInvoice) : Bool :=
  let document := request.writeXml (.agentKey "validation")
  request.validate.isOk && document.head.all isXml10Character
    && (Xml.renderAll document.children).all isXml10Character
    && (Xml.endTag document.root).all isXml10Character

theorem CreateInvoice.validateRequest_of_sendable {request : CreateInvoice}
    (h : request.sendable = true) : request.validateRequest = .ok () := by
  simp only [sendable, Bool.and_eq_true] at h
  obtain ⟨⟨⟨hvalidate, hhead⟩, hchildren⟩, hend⟩ := h
  have hvalid : request.validate = .ok () := by
    cases hv : request.validate with
    | ok _ => rfl
    | error error => rw [hv] at hvalidate; cases hvalidate
  have hsent : request.toWire (.agentKey "validation")
      = .ok (request.writeXml (.agentKey "validation")) :=
    wireRequest_of_isXml10 hvalid (by simp [XmlDocument.isXml10, hhead, hchildren, hend])
  rw [validateRequest, hsent]
  rfl

theorem Execution.build_of_sendable {exec : Execution} {kind : IssuedKind}
    {document : DocumentInput} {order : OrderKey} {externalId : ExternalId} {refs : DocumentRefs}
    {create : CreateInvoice}
    (hcreate : exec.account.buildCreate kind document order externalId refs = .ok create)
    (h : create.sendable = true) : exec.build kind document order externalId refs = .ok create := by
  rw [Execution.build, hcreate]
  show (create.validateRequest.mapError _ >>= fun _ => pure create) = _
  rw [CreateInvoice.validateRequest_of_sendable h]
  rfl

/-- The order of the sample. -/
def correctedOrder : OrderKey := ⟨"A-1", by decide⟩

def minusTen : Decimal := ⟨true, 10, 0, Decimal.ten_lt_bound, Decimal.zero_le_places⟩

/-- One row of minus ten. -/
def correctedDocument : DocumentInput where
  buyer := { name := "Buyer", zip := "1000", city := "Budapest", address := "Main street 1" }
  items := [
    { name := "Correction"
      quantity := ⟨false, 1, 0, by decide, Decimal.zero_le_places⟩
      unit := "pcs"
      unitPrice := minusTen
      vatRate := "AAM"
      amounts := some ⟨minusTen, .zero, minusTen⟩ }]
  fulfillmentDate := sampleDate
  dueDate := sampleDate
  paymentMethod := .transfer

def correctedConfig : WorkerConfig where
  «namespace» := ⟨"shop", shop_valid⟩
  orderExecution := .protected

def correctedExecution : Execution where
  account := sampleAccount
  config := correctedConfig

/-- The correction `c1`, of the invoice `INV-2`. -/
def correctedRequest : CorrectRequest where
  invoiceNumber := ⟨"INV-2", by decide⟩
  correctionId := ⟨"c1", by decide⟩
  document := correctedDocument

/-- The document is one the handler accepts. -/
theorem correctedDocument_valid :
    correctedExecution.validateDocument .corrective correctedDocument correctedOrder
      = .ok () := by
  have hsendable : (match correctedExecution.account.buildCreate .corrective correctedDocument
      correctedOrder ⟨"-"⟩ { prepayment := some "-", corrected := some "-" } with
      | .ok create => create.sendable
      | .error _ => false) = true := by decide +kernel
  have hbuild : ∃ create, correctedExecution.build .corrective correctedDocument correctedOrder
      ⟨"-"⟩ { prepayment := some "-", corrected := some "-" } = .ok create := by
    split at hsendable
    · rename_i create hcreate
      exact ⟨create, Execution.build_of_sendable hcreate hsendable⟩
    · cases hsendable
  obtain ⟨create, hcreate⟩ := hbuild
  unfold Execution.validateDocument
  rw [if_neg (by decide +kernel), hcreate]
  rfl

/-- The corrective of `INV-1` that the id already holds. -/
def correctedAnswer : InvoiceDocument where
  info :=
    { id := 9
      invoiceNumber := "HS-1"
      documentType := .corrective
      appearance := .paper
      referencedInvoiceNumber := some "INV-1"
      referencedProformaNumber := none
      issueDate := some sampleDate
      fulfillmentDate := some sampleDate
      dueDate := some sampleDate
      orderNumber := some "A-1"
      currency := some ⟨"HUF"⟩
      test := some true
      reversed := none }
  total := ⟨minusTen, .zero, minusTen⟩
  creditEntries := []

/-- The id of the correction. -/
def correctedId : ExternalId :=
  .forCorrective correctedConfig.namespace correctedOrder correctedRequest.correctionId

/-- The lookup finds it. -/
theorem lookup_correctedAnswer :
    (Handler.lookup "lookup-corrective" correctedId correctedOrder .corrective).Returns
      [⟨.query (.externalId correctedId.text), .ok correctedAnswer⟩]
      (.live (.ofInvoiceDocument correctedAnswer)) := by
  have hrun : Prog.Runs (readingClosure (lookupOurs correctedId correctedOrder .corrective))
      [⟨.ask .gateway, .ok ()⟩,
        ⟨.ask (.agent (.query (.externalId correctedId.text))), .ok correctedAnswer⟩]
      (.done (.live (.ofInvoiceDocument correctedAnswer))) := by
    refine Prog.runs_call.mpr ⟨.ok (), _, rfl, Prog.runs_call.mpr ⟨.ok correctedAnswer, _, rfl, ?_⟩⟩
    exact Prog.runs_ret.mpr ⟨rfl, by decide +kernel⟩
  exact (Handler.returns_run hrun).mapFault _

/-- An object without a marker passes. -/
theorem returns_guard : guard.Returns [] () :=
  (Handler.returns_stored none).bind (Handler.returns_pure ())

/-- The prologue pins the sample account. -/
theorem returns_runPrologue (config : WorkerConfig) :
    (runPrologue sampleContext config).Returns [] ⟨sampleAccount, config⟩ := by
  have hpin : (runOnce "namespace" config.namespace).Returns [] config.namespace :=
    Handler.returns_run (t := []) (Prog.runs_ret.mpr ⟨rfl, rfl⟩)
  have hresolve : Prog.Runs (resolveClosure none)
      [⟨.ask (.resolve none), .ok sampleAccount⟩] (.done (.account sampleAccount)) :=
    Prog.runs_call.mpr ⟨.ok sampleAccount, [], rfl, Prog.runs_ret.mpr ⟨rfl, rfl⟩⟩
  have haccount : accountOf (.account sampleAccount) = .ok sampleAccount := by
    have hvalid : sampleAccount.validate = .ok () := by decide +kernel
    rw [accountOf, hvalid]
  exact hpin.bind ((Handler.returns_run hresolve).bind
    ((Handler.returns_lift haccount).bind (Handler.returns_pure _)))

/-- **The correction of `INV-2` is answered with a correction of `INV-1`**, issued
earlier under the same id. -/
theorem correction_of_another_base :
    ∃ tr response found,
      (correctInvoice correctedConfig sampleContext (.ok correctedRequest)).Returns tr response
        ∧ response.outcome = .alreadyIssued ∧ response.invoiceNumber = some found.number
        ∧ HolderIn tr correctedId.text correctedOrder .corrective found
        ∧ found.isCorrectiveOf "INV-1" = true
        ∧ found.isCorrectiveOf correctedRequest.invoiceNumber.text = false := by
  have hexisting : (existingTarget correctedOrder ⟨.corrective, correctedId⟩ none).Returns
      [⟨.query (.externalId correctedId.text), .ok correctedAnswer⟩]
      (some (Identity.found ⟨.corrective, correctedId⟩ .alreadyIssued
        (.ofInvoiceDocument correctedAnswer))) :=
    lookup_correctedAnswer.bind ((Handler.returns_lift rfl).bind (Handler.returns_pure _))
  refine ⟨_, Identity.found ⟨.corrective, correctedId⟩ .alreadyIssued
    (.ofInvoiceDocument correctedAnswer), .ofInvoiceDocument correctedAnswer, ?_, rfl, rfl,
    ⟨⟨.ok correctedAnswer, List.mem_singleton.mpr rfl, rfl⟩, by decide⟩, by decide, by decide⟩
  exact (Handler.returns_lift rfl).bind ((Handler.returns_lift rfl).bind (returns_guard.bind
    ((returns_runPrologue correctedConfig).bind
      ((Handler.returns_lift correctedDocument_valid).bind
        (hexisting.bind (Handler.returns_pure _))))))

/-- What the layers make of it. -/
theorem correction_names_base_sample :
    OtherBaseLayers correctedOrder correctedId "INV-2" (.ok correctedAnswer)
      (.ofInvoiceDocument correctedAnswer) :=
  (correction_names_base correctedConfig sampleContext).2 _ _ _ _ _ (by decide +kernel)
    (by decide) (by decide)

end Sample

end Szamlazz
