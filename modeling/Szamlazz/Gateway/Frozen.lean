import Szamlazz.Gateway.Delete
import Szamlazz.Gateway.ReplayCreate
import Szamlazz.Gateway.Storno

/-!
# The armed writes on a vendor that stands still

The guards of a write are its own: it queries afresh and compares with what it was given.
On a vendor that stands still they can be read off what the vendor shows. For each write,
of both execution modes, this module says what the vendor has to show for the write to make
its one request for a change.
-/

namespace Szamlazz

/-! ## Frozen vendors -/

/-- **A vendor that stands still**, and whose views agree: every query is answered by its
selector, with a document or with its absence; and a document that any of them shows is the
one that its number shows. -/
structure FrozenVendor where
  answer : InvoiceSelector → Except ClientError InvoiceDocument
  answered : ∀ selector, queryAnswer selector (answer selector) = .error .notFound
    ∨ ∃ found, queryAnswer selector (answer selector) = .ok found
  agree : ∀ selector found, queryAnswer selector (answer selector) = .ok found →
    queryAnswer (.invoiceNumber found.number) (answer (.invoiceNumber found.number)) = .ok found

namespace FrozenVendor

/-- What a query of the vendor shows. -/
def shows (v : FrozenVendor) (selector : InvoiceSelector) : Except QueryError FoundDocument :=
  queryAnswer selector (v.answer selector)

/-- The answers of the vendor: queries it answers as it stands, and changes in any way. -/
def Tells (v : FrozenVendor) : Exchange AgentRequest.Answer → Prop
  | ⟨.query selector, answer⟩ => answer = v.answer selector
  | ⟨.create _, _⟩ | ⟨.storno _, _⟩ | ⟨.deleteProforma _, _⟩ => True

variable {v : FrozenVendor} {selector : InvoiceSelector}

theorem queryAnswer_answer (v : FrozenVendor) (selector : InvoiceSelector) :
    queryAnswer selector (v.answer selector) = v.shows selector := rfl

theorem shows_cases (v : FrozenVendor) (selector : InvoiceSelector) :
    v.shows selector = .error .notFound ∨ ∃ found, v.shows selector = .ok found :=
  v.answered selector

/-- A document that is shown at all is the one its number shows. -/
theorem shows_number {found : FoundDocument} (h : v.shows selector = .ok found) :
    v.shows (.invoiceNumber found.number) = .ok found :=
  v.agree selector found h

/-- Documents of one number are one document. -/
theorem eq_of_number {selector' : InvoiceSelector} {found found' : FoundDocument}
    (h : v.shows selector = .ok found) (h' : v.shows selector' = .ok found')
    (hnumber : found.number = found'.number) : found = found' := by
  have hfound := shows_number h
  rw [hnumber, shows_number h'] at hfound
  exact (Except.ok.inj hfound).symm

/-- The vendor has an answer to every request. -/
theorem exists_tells (v : FrozenVendor) (request : AgentRequest) :
    ∃ answer : request.Answer, v.Tells ⟨request, answer⟩ := by
  cases request with
  | query selector => exact ⟨v.answer selector, rfl⟩
  | create create => exact ⟨.error (.incompleteResponse 200), trivial⟩
  | storno storno => exact ⟨.error (.incompleteResponse 200), trivial⟩
  | deleteProforma number => exact ⟨.error (.incompleteResponse 200), trivial⟩

end FrozenVendor

/-! ## Calls on a frozen vendor -/

/-- The transcript holds one request for a change. -/
def SendsOnce (tr : List (Exchange AgentRequest.Answer)) : Prop := ∃ send, mutations tr = [send]

theorem mutations_append (t t' : List (Exchange AgentRequest.Answer)) :
    mutations (t ++ t') = mutations t ++ mutations t' :=
  List.filter_append ..

theorem mutations_eq_nil {tr : List (Exchange AgentRequest.Answer)} :
    mutations tr = [] ↔ ReadOnly tr := by
  simp [mutations, ReadOnly]

/-- Reads before the request do not count. -/
theorem SendsOnce.after {t t' : List (Exchange AgentRequest.Answer)} (hro : ReadOnly t)
    (h : SendsOnce t') : SendsOnce (t ++ t') := by
  obtain ⟨send, hsend⟩ := h
  exact ⟨send, by rw [mutations_append, mutations_eq_nil.mpr hro, hsend]; rfl⟩

theorem sendsOnce_cons {send : Exchange AgentRequest.Answer}
    {post : List (Exchange AgentRequest.Answer)} (hsend : send.1.isMutation = true)
    (hro : ReadOnly post) : SendsOnce (send :: post) :=
  ⟨send, by rw [mutations, List.filter_cons_of_pos (by simpa using hsend), ← mutations,
    mutations_eq_nil.mpr hro]⟩

namespace FrozenVendor

/-- The call only reads, and what it reads of the vendor makes it return `a`. -/
def Gives (v : FrozenVendor) {α : Type} (p : Call α) (a : α) : Prop :=
  Prog.Under v.Tells p fun tr b => ReadOnly tr ∧ b = a

/-- Whatever the call reads of the vendor permits its one send. -/
def Sends (v : FrozenVendor) {α : Type} (p : Call α) : Prop :=
  Prog.Under v.Tells p fun tr _ => SendsOnce tr

variable {v : FrozenVendor} {α β : Type} {selector : InvoiceSelector}

theorem gives_pure (a : α) : v.Gives (pure a) a :=
  Prog.under_ret.mpr ⟨readOnly_nil, rfl⟩

/-- A query is gone on with as the vendor answers it. -/
theorem gives_query {k : Except ClientError InvoiceDocument → Call α} {a : α}
    (h : v.Gives (k (v.answer selector)) a) :
    v.Gives (Prog.call (AgentRequest.query selector) k) a := by
  refine Prog.under_call.mpr ?_
  rintro answer rfl
  exact h.mono fun tr b hb => ⟨readOnly_cons.mpr ⟨rfl, hb.1⟩, hb.2⟩

/-- What is given first is gone on with. -/
theorem Gives.bind {p : Call α} {f : α → Call β} {a : α} {b : β} (h : v.Gives p a)
    (hf : v.Gives (f a) b) : v.Gives (p >>= f) b := by
  refine Prog.Under.bind h ?_
  rintro tr _ ⟨hro, rfl⟩
  exact hf.mono fun tr' b hb => ⟨readOnly_append.mpr ⟨hro, hb.1⟩, hb.2⟩

/-- The same, of what sends. -/
theorem sends_query {k : Except ClientError InvoiceDocument → Call α}
    (h : v.Sends (k (v.answer selector))) :
    v.Sends (Prog.call (AgentRequest.query selector) k) := by
  refine Prog.under_call.mpr ?_
  rintro answer rfl
  exact h.mono fun tr _ hb => SendsOnce.after (t := [_]) (by simp [AgentRequest.isMutation]) hb

/-- Reading, and then sending. -/
theorem Gives.sends {p : Call α} {f : α → Call β} {a : α} (h : v.Gives p a)
    (hf : v.Sends (f a)) : v.Sends (p >>= f) := by
  refine Prog.Under.bind h ?_
  rintro tr _ ⟨hro, rfl⟩
  exact hf.mono fun tr' _ hb => hb.after hro

/-- Sending, and then answering. -/
theorem Sends.map {p : Call α} (h : v.Sends p) (f : α → β) :
    v.Sends (p >>= fun a => pure (f a)) := by
  refine Prog.Under.bind h fun tr a htr => ?_
  rw [Prog.pure_eq, Prog.under_ret, List.append_nil]
  exact htr

end FrozenVendor

/-! ### The create -/

section Create

variable [Unicode] {v : FrozenVendor}

/-- The request itself goes out, whatever is answered. -/
theorem FrozenVendor.sends_createSend (v : FrozenVendor) (request : CreateStepRequest)
    (settlement : CreateSettlement) : v.Sends (createSend request settlement) := by
  refine ((createSend_shape request settlement).mono ?_).under _
  rintro _ _ ⟨reply, post, rfl, hpost⟩
  exact sendsOnce_cons rfl hpost

/-- **A vendor that permits the create is sent it.** -/
theorem FrozenVendor.sends_protectedCreate {request : CreateStepRequest}
    (h : PermitsSend request (v.shows (.externalId request.externalId.text))) :
    v.Sends (protectedCreate request) := by
  unfold protectedCreate
  rw [settledByQuery_bind]
  refine sends_query ?_
  have hsettled := (settledBy_eq_none_iff _).mpr h
  rw [queryAnswer_answer, hsettled]
  exact (v.sends_createSend request .retained).map _

section Guards

variable {request : CreateStepRequest} {r : Except QueryError FoundDocument}

/-- A permitted slot passes its check. -/
theorem replayKindVerdict_of_permits {kind : DocumentKind}
    (h : (ReplayGuard.slot kind).Permits request r) :
    replayKindVerdict request kind (ownership (classifySeen request.order kind.issued r))
      = .ok () := by
  simp only [ReplayGuard.Permits] at h
  split_ifs at h with hfinal
  · obtain ⟨found, rfl, hours, hlive, hpinned⟩ := h
    obtain ⟨rfl, hkind⟩ := hfinal
    have hseen : classifySeen request.order .prepayment (.ok found) = .ok (.live found) :=
      classifySeen_eq_live.mpr ⟨rfl, hours, hlive⟩
    rw [DocumentKind.issued, hseen]
    simp [ownership, replayKindVerdict, hkind, hpinned]
  · rcases h with rfl | ⟨found, rfl, hours, hlive⟩ | ⟨found, rfl, hours, rfl, hpinned⟩
    · simp [classifySeen, ownership, replayKindVerdict, hfinal]
    · rw [classifySeen_eq_reversed.mpr ⟨rfl, hours, hlive⟩]
      simp [ownership, replayKindVerdict, hfinal]
    · cases hlive : found.isLive with
      | true =>
        rw [classifySeen_eq_live.mpr ⟨rfl, hours, hlive⟩]
        simp [ownership, replayKindVerdict, hpinned]
      | false =>
        rw [classifySeen_eq_reversed.mpr ⟨rfl, hours, hlive⟩]
        simp [ownership, replayKindVerdict]

/-- A permitted prepayment passes. -/
theorem replayPrepaymentVerdict_of_permits (number : String)
    (h : (ReplayGuard.prepayment number).Permits request r) :
    replayPrepaymentVerdict request (queryOutcome r) = .ok () := by
  obtain ⟨found, rfl, hours, hlive⟩ := h
  simp [queryOutcome, replayPrepaymentVerdict, hours, hlive]

/-- A permitted proforma passes. -/
theorem replayProformaVerdict_of_permits (number : String)
    (h : (ReplayGuard.proforma number).Permits request r) :
    replayProformaVerdict request (queryOutcome r) = .ok () := by
  obtain ⟨found, rfl, hcarries, htype, hlive⟩ := h
  simp [queryOutcome, replayProformaVerdict, hcarries, htype, hlive]

/-- A permitted hint passes. -/
theorem replayHintVerdict_of_permits (h : ReplayGuard.hint.Permits request r) :
    replayHintVerdict request r = .ok () := by
  rcases h with rfl | ⟨found, rfl, hpermits⟩
  · rfl
  · simp [replayHintVerdict, hpermits]

/-- A slot that permits the create does not stop it. -/
theorem replayHolder_of_permitsSend
    (h : PermitsSend request r) :
    replayHolder request (classifySeen request.order request.kind r) = none := by
  unfold PermitsSend at h
  split at h
  · rename_i hreversed
    subst h
    simp [classifySeen, replayHolder, hreversed]
  · rename_i hreversed
    obtain ⟨found, rfl, hours, -, rfl, hlive⟩ := h
    rw [classifySeen_eq_reversed.mpr ⟨rfl, hours, hlive⟩]
    simp [replayHolder, hreversed]

end Guards

/-- The vendor passes every fresh read of the create. -/
def FrozenVendor.Passes (v : FrozenVendor) (ns : Namespace) (request : CreateStepRequest) : Prop :=
  ∀ g ∈ replayGuards request, g.Permits request (v.shows (g.selector ns request.order))

namespace FrozenVendor

/-- The slots are passed where each of them permits the create. -/
theorem gives_checkReplaySlots {ns : Namespace} {request : CreateStepRequest}
    {kinds : List DocumentKind} (h : ∀ kind ∈ kinds, (ReplayGuard.slot kind).Permits request
      (v.shows ((ReplayGuard.slot kind).selector ns request.order))) :
    v.Gives (checkReplaySlots ns request kinds) (.ok ()) := by
  induction kinds with
  | nil => exact gives_pure _
  | cons kind rest ih =>
    obtain ⟨hkind, hrest⟩ := List.forall_mem_cons.mp h
    have hverdict := replayKindVerdict_of_permits hkind
    rw [ReplayGuard.selector] at hverdict
    unfold checkReplaySlots
    rw [lookupOurs_bind]
    refine gives_query ?_
    rw [queryAnswer_answer, hverdict]
    exact ih hrest

omit [Unicode] in
/-- A reference is passed where what its number shows is. -/
theorem gives_checkReplayReference {number : Option String}
    {verdict : Except Unanswered QueryOutcome → Except WriteDiagnostic Unit}
    (h : ∀ n ∈ number, verdict (queryOutcome (v.shows (.invoiceNumber n))) = .ok ()) :
    v.Gives (checkReplayReference number verdict) (.ok ()) := by
  cases number with
  | none => exact gives_pure _
  | some n =>
    rw [checkReplayReference, verify_bind]
    refine gives_query ?_
    have hverdict := h n rfl
    rw [queryAnswer_answer, hverdict]
    exact gives_pure _

/-- **A vendor that passes the guards lets the create through.** -/
theorem gives_checkReplayCreate {ns : Namespace} {request : CreateStepRequest}
    (hns : Namespace.parse request.externalId.namespaceText = .ok ns)
    (hfinal : request.kind = .final → request.prepaymentNumber ≠ none)
    (h : v.Passes ns request) : v.Gives (checkReplayCreate request) (.ok ()) := by
  simp only [Passes, replayGuards, List.mem_append, List.mem_map, Option.mem_toList,
    List.mem_singleton] at h
  have hkinds : v.Gives (checkReplayCreateKinds request) (.ok ()) := by
    unfold checkReplayCreateKinds
    rw [hns]
    dsimp only
    rw [if_neg fun hmissing => hfinal hmissing.1 hmissing.2]
    exact gives_checkReplaySlots fun kind hkind =>
      h _ (Or.inl (Or.inl (Or.inl ⟨kind, hkind, rfl⟩)))
  have hprepayment : v.Gives
      (checkReplayReference request.prepaymentNumber (replayPrepaymentVerdict request)) (.ok ()) :=
    gives_checkReplayReference fun n hn => replayPrepaymentVerdict_of_permits n
      (h _ (Or.inl (Or.inl (Or.inr ⟨n, hn, rfl⟩))))
  have hproforma : v.Gives
      (checkReplayReference request.proformaNumber (replayProformaVerdict request)) (.ok ()) :=
    gives_checkReplayReference fun n hn => replayProformaVerdict_of_permits n
      (h _ (Or.inl (Or.inr ⟨n, hn, rfl⟩)))
  have hhint : v.Gives (checkReplayCreateHint request) (.ok ()) := by
    have hverdict := replayHintVerdict_of_permits (h _ (Or.inr rfl))
    rw [ReplayGuard.selector] at hverdict
    unfold checkReplayCreateHint
    rw [hintRaw_bind]
    refine gives_query ?_
    rw [queryAnswer_answer, hverdict]
    exact gives_pure _
  have hreferences : v.Gives (checkReplayCreateReferences request) (.ok ()) :=
    hprepayment.bind hproforma
  exact hkinds.bind (hreferences.bind hhint)

/-- **A replay-enabled create sends** where its slot and every fresh read permit it. -/
theorem sends_createReplayEnabled {ns : Namespace} {request : CreateStepRequest}
    (hcontract : request.replayContract ≠ none) (hbase : request.correctedNumber = none)
    (hns : Namespace.parse request.externalId.namespaceText = .ok ns)
    (hfinal : request.kind = .final → request.prepaymentNumber ≠ none)
    (hsend : PermitsSend request (v.shows (.externalId request.externalId.text)))
    (h : v.Passes ns request) : v.Sends (createReplayEnabled request) := by
  unfold createReplayEnabled
  rw [if_neg (by simp [hcontract, hbase]), seen_bind]
  refine sends_query ?_
  have hholder := replayHolder_of_permitsSend hsend
  rw [queryAnswer_answer, hholder]
  exact (gives_checkReplayCreate hns hfinal h).sends
    ((v.sends_createSend request .retainedWithDuplicateEvidence).map _)

end FrozenVendor

end Create

/-! ### The deletion -/

section Delete

variable [Unicode] {v : FrozenVendor}

/-- **A protected deletion sends** where the number still shows what was pinned. -/
theorem FrozenVendor.sends_deleteProforma {pinned : FoundDocument} {order : OrderKey} {force : Bool}
    (h : PermitsDeletion pinned order force (v.shows (.invoiceNumber pinned.number))) :
    v.Sends (deleteProforma pinned order force) := by
  have hguard := deletionGuard_eq_none.mpr h
  unfold deleteProforma
  rw [queryRaw_bind]
  refine sends_query ?_
  rw [queryAnswer_answer, hguard]
  refine Prog.under_call.mpr fun reply _ => Prog.under_ret.mpr ?_
  exact sendsOnce_cons rfl readOnly_nil

/-- The slot of the proforma still holds the pinned one. -/
def HoldsPinned (pinned : FoundDocument) (order : OrderKey)
    (r : Except QueryError FoundDocument) : Prop :=
  r = .ok pinned ∧ pinned.isOurs order .proforma = true

/-- The slot that holds the pinned proforma does not stop its deletion. -/
theorem deletionNamespace_of_holdsPinned {pinned : FoundDocument} {order : OrderKey}
    {r : Except QueryError FoundDocument} (h : HoldsPinned pinned order r) :
    deletionNamespace pinned (ownership (classifySeen order .proforma r)) = none := by
  obtain ⟨rfl, hours⟩ := h
  cases hlive : pinned.isLive with
  | true =>
    rw [classifySeen_eq_live.mpr ⟨rfl, hours, hlive⟩]
    simp [ownership, deletionNamespace]
  | false =>
    rw [classifySeen_eq_reversed.mpr ⟨rfl, hours, hlive⟩]
    simp [ownership, deletionNamespace]

/-- **A replay-enabled deletion sends** where, besides, the slot holds the pinned proforma
if it was selected there. -/
theorem FrozenVendor.sends_deleteReplayEnabled {externalId : ExternalId} {marker : UnresolvedWrite}
    {found : FoundDocument} {request : DeleteProformaRequest}
    (hretains : retainsDelete marker found request = true)
    (hholder : request.mode = .namespaceOwned →
      HoldsPinned found marker.order (v.shows (.externalId externalId.text)))
    (h : PermitsDeletion found marker.order request.force (v.shows (.invoiceNumber found.number))) :
    v.Sends (deleteReplayEnabled externalId marker found request) := by
  unfold deleteReplayEnabled
  rw [if_neg (by simp [hretains])]
  split_ifs with hmode
  · have hnamespace := deletionNamespace_of_holdsPinned (hholder hmode)
    rw [lookupOurs_bind]
    refine sends_query ?_
    rw [queryAnswer_answer, hnamespace]
    exact (sends_deleteProforma h).map _
  · exact (sends_deleteProforma h).map _

end Delete

/-! ### The reversal -/

section Storno

variable [Unicode] {v : FrozenVendor}

/-- A reversal under the marker of its operation goes out. -/
theorem FrozenVendor.sends_stornoSend (v : FrozenVendor) [Transport] (account : Account)
    {request : StornoStepRequest} {marker : UnresolvedWrite}
    (hop : marker.operation = .storno request.invoiceNumber) :
    v.Sends (stornoSend account request (some marker)) := by
  unfold stornoSend
  rw [Prog.perform_bind]
  refine Prog.under_call.mpr fun reply _ => ?_
  refine ((settleStornoReply_spec hop reply).mono fun post _ hsettled => ?_).under _
  exact sendsOnce_cons rfl hsettled.readOnly

/-- A vacant reversal slot is seen as vacant. -/
theorem FrozenVendor.gives_lookupOrderStornoChecked {externalId : ExternalId} {order : OrderKey}
    {number : String} (h : v.shows (.externalId externalId.text) = .error .notFound) :
    v.Gives (lookupOrderStornoChecked externalId order number) (.ok .absent) := by
  unfold lookupOrderStornoChecked
  rw [queryRaw_bind]
  refine gives_query ?_
  rw [queryAnswer_answer, h]
  exact gives_pure _

/-- The document is the original a reversal was admitted for, and can be reversed. -/
structure PermitsReversal (pinned : FoundDocument) (request : StornoStepRequest) (order : OrderKey)
    (r : Except QueryError FoundDocument) : Prop where
  shown : r = .ok pinned
  carriesOrder : pinned.carriesOrder order = true
  stornoable : pinned.isStornoable = true
  live : pinned.isLive = true
  fulfillmentDate : pinned.fulfillmentDate = some request.fulfillmentDate

variable [Transport] {account : Account} {request : StornoStepRequest} {marker : UnresolvedWrite}

/-- **A protected reversal sends** where its slot is vacant. -/
theorem FrozenVendor.sends_protectedStorno
    (hop : marker.operation = .storno request.invoiceNumber)
    (h : v.shows (.externalId request.externalId.text) = .error .notFound) :
    v.Sends (protectedStorno account request marker) :=
  (gives_lookupOrderStornoChecked h).sends ((v.sends_stornoSend account hop).map _)

/-- **A replay-enabled reversal sends** where, besides, the original is as it was pinned. -/
theorem FrozenVendor.sends_stornoReplayEnabled {pinned : FoundDocument}
    (hretains : retainsStorno request marker pinned = true)
    (h : v.shows (.externalId request.externalId.text) = .error .notFound)
    (hpinned : PermitsReversal pinned request marker.order
      (v.shows (.invoiceNumber request.invoiceNumber))) :
    v.Sends (stornoReplayEnabled account request marker pinned) := by
  have hop : marker.operation = .storno request.invoiceNumber := by
    simp only [retainsStorno, Bool.and_eq_true, decide_eq_true_eq] at hretains
    exact hretains.1.2
  unfold stornoReplayEnabled
  rw [if_neg (by simp [hretains])]
  refine (gives_lookupOrderStornoChecked h).sends ?_
  dsimp only
  rw [verify_bind]
  refine sends_query ?_
  have hshown := hpinned.shown
  rw [queryAnswer_answer, hshown]
  have hsame : differsFromPinned pinned pinned request marker.order = false := by
    simp [differsFromPinned, hpinned.carriesOrder, hpinned.stornoable, hpinned.fulfillmentDate]
  simp only [queryOutcome, replayStornoOriginal, hsame, hpinned.live]
  exact (v.sends_stornoSend account hop).map _

end Storno

end Szamlazz
