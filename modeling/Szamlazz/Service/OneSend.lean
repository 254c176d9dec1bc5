import Szamlazz.Service.OrderObject

/-!
# Calls that send once

Each of the six calls behind a marker sends one request and at most once, and what
a replay-enabled one takes for a settlement shows that the write was made. The rest of
what the calls guarantee was said with each of them; here are the two facts the law of
an order needs of all of them.
-/

namespace Szamlazz

open Durable

/-! ## Calls that send once -/

section OneSend

variable [Unicode]

/-- Whatever the transcript sends is `send`, and it is sent once. -/
def OneSend (send : AgentRequest) (tr : List (Exchange AgentRequest.Answer)) : Prop :=
  ∀ before e after, tr = before ++ e :: after → e.1.isMutation = true →
    e.1 = send ∧ ReadOnly before

section Rules

omit [Unicode]

variable {send : AgentRequest} {t t' : List (Exchange AgentRequest.Answer)}

theorem Gated.oneSend {lead : InvoiceSelector} {permits : Except QueryError FoundDocument → Prop}
    {between : List (Exchange AgentRequest.Answer) → Prop} (h : Gated send lead permits between t) :
    OneSend send t := by
  intro before e after heq he
  obtain ⟨hsend, hbefore, -⟩ := h before e after heq he
  exact ⟨hsend, hbefore⟩

theorem oneSend_of_readOnly (h : ReadOnly t) : OneSend send t := by
  rintro before e after rfl he
  have := h e (List.mem_append_right _ List.mem_cons_self)
  simp [he] at this

/-- A call cut short has sent no more than the whole call. -/
theorem OneSend.of_append (h : OneSend send (t ++ t')) : OneSend send t := by
  rintro before e after rfl he
  exact h before e (after ++ t') (by simp) he

/-- The last exchange, if it is a send. -/
theorem OneSend.last {r : AgentRequest} {x : r.Answer} (h : OneSend send (t ++ [⟨r, x⟩]))
    (hr : r.isMutation = true) : r = send ∧ ReadOnly t := h t ⟨r, x⟩ [] rfl hr

/-- Reads before a call that sends once. -/
theorem OneSend.after_reads (h : OneSend send t') (ht : ReadOnly t) : OneSend send (t ++ t') := by
  intro before e after heq he
  rcases List.append_eq_append_iff.mp heq with ⟨more, rfl, hrest⟩ | ⟨more, rfl, hrest⟩
  · obtain ⟨hsend, hbefore⟩ := h more e after hrest he
    exact ⟨hsend, readOnly_append.mpr ⟨ht, hbefore⟩⟩
  · cases more with
    | nil =>
      rw [List.append_nil] at ht
      obtain ⟨hsend, -⟩ := h [] e after (by simpa using hrest.symm) he
      exact ⟨hsend, ht⟩
    | cons d more =>
      obtain ⟨rfl, -⟩ := List.cons.inj hrest
      have := ht e (List.mem_append_right _ List.mem_cons_self)
      simp [he] at this

end Rules

theorem protectedCreate_oneSend (request : CreateStepRequest) :
    Prog.Ensures (protectedCreate request) fun tr _ => OneSend (.create request.create) tr :=
  (protectedCreate_ledByGate request).mono (fun _ _ h => h.gatedSend.oneSend)

theorem createReplayEnabled_oneSend (request : CreateStepRequest) :
    Prog.Ensures (createReplayEnabled request) fun tr _ => OneSend (.create request.create) tr :=
  (createReplayEnabled_gatedSend request).mono (fun _ _ h => h.oneSend)

theorem deleteProforma_oneSend (found : FoundDocument) (order : OrderKey) (force : Bool) :
    Prog.Ensures (deleteProforma found order force) fun tr _ =>
      OneSend (.deleteProforma found.number) tr := by
  refine (deleteProforma_gated found order force).mono ?_
  rintro tr outcome (⟨hro, -⟩ | ⟨answer, reply, rfl, hpermits, -⟩)
  · exact oneSend_of_readOnly hro
  · have hgated : Gated (.deleteProforma found.number) (.invoiceNumber found.number)
        (PermitsDeletion found order force) (fun guards => guards = [])
        [⟨.query (.invoiceNumber found.number), answer⟩, ⟨.deleteProforma found.number, reply⟩] :=
      gated_of_send hpermits readOnly_nil readOnly_nil rfl
    exact hgated.oneSend

theorem protectedDelete_oneSend [Transport] [Clock] (found : FoundDocument) (order : OrderKey)
    (force : Bool) : Prog.Ensures (protectedDelete found order force) fun tr _ =>
      OneSend (.deleteProforma found.number) tr := by
  refine (deleteProforma_oneSend found order force).bind fun tr outcome h => ?_
  simpa using h

/-- A replay-enabled deletion reads the slot of the proforma, and deletes what it pinned. -/
theorem deleteReplayEnabled_spec (externalId : ExternalId) (marker : UnresolvedWrite)
    (found : FoundDocument) (request : DeleteProformaRequest) :
    Prog.Ensures (deleteReplayEnabled externalId marker found request) fun tr result =>
      OneSend (.deleteProforma found.number) tr
        ∧ (result.isUnresolved = false → result.Shows (.delete found.number)) := by
  have hresult : ∀ outcome, (replayDeleteResult outcome).isUnresolved = false →
      (replayDeleteResult outcome).Shows (.delete found.number) := by
    intro outcome h
    cases outcome with
    | deleted => exact ⟨rfl, rfl⟩
    | _ => cases h
  have hdelete : Prog.Ensures (deleteProforma found marker.order request.force >>= fun outcome =>
      pure (replayDeleteResult outcome)) fun tr result =>
      OneSend (.deleteProforma found.number) tr
        ∧ (result.isUnresolved = false → result.Shows (.delete found.number)) := by
    refine (deleteProforma_oneSend found marker.order request.force).bind fun tr outcome h => ?_
    exact Prog.ensures_ret.mpr ⟨by simpa using h, hresult outcome⟩
  unfold deleteReplayEnabled
  split_ifs
  · exact Prog.ensures_ret.mpr ⟨oneSend_of_readOnly readOnly_nil, fun h => by cases h⟩
  · rw [lookupOurs_bind, Prog.ensures_call]
    intro answer
    have hread : ReadOnly [(⟨.query (.externalId externalId.text), answer⟩ :
        Exchange AgentRequest.Answer)] := by simp [AgentRequest.isMutation]
    split
    · rename_i result hrefused
      refine Prog.ensures_ret.mpr ⟨oneSend_of_readOnly hread, fun h => ?_⟩
      unfold deletionNamespace at hrefused
      split at hrefused <;> try split_ifs at hrefused
      all_goals cases hrefused
      all_goals cases h
    · exact hdelete.mono (fun tr result h => ⟨h.1.after_reads hread, h.2⟩)
  · exact hdelete

theorem protectedStorno_oneSend [Transport] {account : Account} {request : StornoStepRequest}
    {marker : UnresolvedWrite} (hop : marker.operation = .storno request.invoiceNumber) :
    Prog.Ensures (protectedStorno account request marker) fun tr _ =>
      OneSend (.storno (account.buildStorno request)) tr :=
  (protectedStorno_spec hop).mono (fun _ _ h => h.1.oneSend)

theorem stornoReplayEnabled_oneSend [Transport] (account : Account) (request : StornoStepRequest)
    (marker : UnresolvedWrite) (pinned : FoundDocument) :
    Prog.Ensures (stornoReplayEnabled account request marker pinned) fun tr _ =>
      OneSend (.storno (account.buildStorno request)) tr :=
  stornoReplayEnabled_spec.mono (fun _ _ h => h.1.oneSend)

/-! ## Replayed results show the write -/

/-- A create that was answered is settled by a document only: by the one it made, or by one
that was there. -/
theorem replayCreateResult_shows (request : CreateStepRequest)
    {sent : Except Unconfirmed CreateOutcome}
    (h : (replayCreateResult sent).isUnresolved = false) :
    (replayCreateResult sent).Shows request.operation := by
  cases sent with
  | error cause => cases h
  | ok outcome =>
    cases outcome with
    | issued | found | reversed | reconciled => exact ⟨rfl, rfl⟩
    | _ => cases h

/-- The document that is already there settles the create, or leaves it open. -/
theorem replayHolder_shows {request : CreateStepRequest} {holder : Except QueryError Seen}
    {result : WriteResult} (hholder : replayHolder request holder = some result)
    (h : result.isUnresolved = false) : result.Shows request.operation := by
  unfold replayHolder at hholder
  split at hholder <;> try split_ifs at hholder
  all_goals cases hholder
  all_goals first | exact ⟨rfl, rfl⟩ | cases h

/-- **A replay-enabled create is settled by a document only.** -/
theorem createReplayEnabled_shows (request : CreateStepRequest) :
    Prog.Ensures (createReplayEnabled request) fun _ result =>
      result.isUnresolved = false → result.Shows request.operation := by
  unfold createReplayEnabled
  split_ifs
  · exact Prog.ensures_ret.mpr (fun h => by cases h)
  rw [seen_bind, Prog.ensures_call]
  intro answer
  split
  · rename_i result hholder
    exact Prog.ensures_ret.mpr (replayHolder_shows hholder)
  · refine (checkReplayCreate_spec request).bind fun tr checked _ => ?_
    split
    · exact Prog.ensures_ret.mpr (fun h => by cases h)
    · refine (createSend_shape request .retainedWithDuplicateEvidence).bind fun tr sent _ => ?_
      exact Prog.ensures_ret.mpr (replayCreateResult_shows request)

/-- What settles an uncertain write shows that it was made. -/
theorem SettledBy.shows {marker : UnresolvedWrite} {tr : List (Exchange AgentRequest.Answer)}
    {result : WriteResult} (h : SettledBy marker tr result) : result.Shows marker.operation := by
  unfold SettledBy at h
  split at h
  · rename_i hop
    obtain ⟨found, -, -, rfl⟩ := h
    rw [hop]
    split_ifs <;> exact ⟨rfl, rfl⟩
  · rename_i hop
    rw [hop]
    obtain ⟨storno, -, rfl | ⟨issued, rfl, -⟩⟩ := h <;> exact ⟨rfl, rfl⟩
  · exact h.elim

/-- A reconciliation settles a write by what it found of it. -/
theorem reconcileWrite_shows (marker : UnresolvedWrite) (candidate : Option String) :
    Prog.Ensures (reconcileWrite marker candidate) fun _ result =>
      result.isUnresolved = false → result.Shows marker.operation :=
  (reconcileWrite_spec marker candidate).mono (fun _ _ h hresolved => (h.2 hresolved).shows)

omit [Unicode] in
/-- A storno that was answered is settled by the reversal only. -/
theorem replayStornoResult_shows (number : String) {sent : Except Unconfirmed StornoOutcome}
    (h : (replayStornoResult sent).isUnresolved = false) :
    (replayStornoResult sent).Shows (.storno number) := by
  cases sent with
  | error cause => cases h
  | ok outcome =>
    cases outcome with
    | reversed | alreadyReversed => exact ⟨rfl, rfl⟩
    | _ => cases h

/-- **A replay-enabled storno is settled by the reversal only.** -/
theorem stornoReplayEnabled_shows [Transport] (account : Account) (request : StornoStepRequest)
    {marker : UnresolvedWrite} (hop : marker.operation = .storno request.invoiceNumber)
    (pinned : FoundDocument) :
    Prog.Ensures (stornoReplayEnabled account request marker pinned) fun _ result =>
      result.isUnresolved = false → result.Shows marker.operation := by
  have hnothing : ∀ reason, Prog.Ensures (pure (.because reason) : Call WriteResult)
      fun _ result => result.isUnresolved = false → result.Shows marker.operation :=
    fun reason => Prog.ensures_ret.mpr (fun h => by cases h)
  unfold stornoReplayEnabled
  split_ifs
  · exact hnothing _
  refine (lookupOrderStornoChecked_spec request.externalId marker.order
    request.invoiceNumber).bind fun tr looked _ => ?_
  split
  · exact reconcileWrite_shows marker none
  · rw [verify_bind, Prog.ensures_call]
    intro answer
    unfold replayStornoOriginal
    split
    · split_ifs
      · exact hnothing _
      · exact reconcileWrite_shows marker none
      · intro tr result hr
        obtain ⟨t, sent, t', -, -, hsent⟩ := Prog.runs_bind.mp hr
        obtain ⟨-, rfl⟩ := Prog.runs_ret.mp hsent
        rw [hop]
        exact replayStornoResult_shows request.invoiceNumber
    all_goals exact hnothing _
  all_goals exact hnothing _

/-! ## An execution of a replay-enabled write -/

end OneSend

end Szamlazz
