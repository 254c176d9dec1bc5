import Szamlazz.Service.Frozen

/-!
# What a create reads of a vendor that stands still

A create is admitted on a lookup of its slot and of the newest document of the order, and on
the references it resolves: the kinds that exclude it, the prepayment a final invoice closes
and the proforma it converts. A replay-enabled write reads each of them again. `Resolved`
collects what the references of an admitted create show of the vendor, and
`Resolved.passes` that it is all the write asks for.
-/

namespace Szamlazz

open Durable

section Creates

variable [Unicode] {v : FrozenVendor}

/-! ## The lookup -/

/-- The hint does not stop the lookup. -/
def HintPasses (v : FrozenVendor) (request : LookupRequest) (blockProforma : Bool)
    (reversed : Option FoundDocument) : Prop :=
  request.kind = .corrective ∨ v.shows (.orderNumber request.order.text) = .error .notFound
    ∨ ∃ newest, v.shows (.orderNumber request.order.text) = .ok newest
      ∧ hintIsForeign request blockProforma reversed newest = false

/-- What an outcome of the lookup that may be gone past shows of the vendor. -/
def LookupShows (v : FrozenVendor) (request : LookupRequest) (blockProforma : Bool) :
    LookupOutcome → Prop
  | .absent => v.shows (.externalId request.externalId.text) = .error .notFound
      ∧ HintPasses v request blockProforma none
  | .reversed document _ => v.shows (.externalId request.externalId.text) = .ok document
      ∧ document.isOurs request.order request.kind = true ∧ document.isLive = false
      ∧ HintPasses v request blockProforma (some document)
  | .live _ | .collision _ | .foreign _ | .credentialsRejected _ | .api _ => True

/-- The result of a lookup whose hint passed. -/
theorem lookupShows_result {request : LookupRequest} {blockProforma : Bool}
    {reversed : Option FoundDocument}
    (hholder : classifySeen request.order request.kind
      (v.shows (.externalId request.externalId.text)) = .ok (reversed.elim .absent .reversed))
    (hhint : HintPasses v request blockProforma reversed) (stornoNumber : Option String) :
    LookupShows v request blockProforma (lookupResult reversed stornoNumber) := by
  cases reversed with
  | none => exact ⟨classifySeen_eq_absent.mp hholder, hhint⟩
  | some document =>
    obtain ⟨hshown, hours, hlive⟩ := classifySeen_eq_reversed.mp hholder
    exact ⟨hshown, hours, hlive, hhint⟩

/-- The second query of the lookup, once the slot was classified. -/
theorem under_lookupHint {request : LookupRequest} {blockProforma : Bool}
    {reversed : Option FoundDocument}
    (hholder : classifySeen request.order request.kind
      (v.shows (.externalId request.externalId.text)) = .ok (reversed.elim .absent .reversed)) :
    Prog.Under v.Tells (lookupHint request blockProforma reversed) fun _ r =>
      ∀ outcome, r = .ok outcome → LookupShows v request blockProforma outcome := by
  unfold lookupHint
  split_ifs with hkind
  · rw [hintRaw_bind]
    refine Prog.under_call.mpr ?_
    rintro _ rfl
    rcases v.shows_cases (.orderNumber request.order.text) with hmiss | ⟨newest, hnewest⟩
    · rw [FrozenVendor.queryAnswer_answer, hmiss]
      refine Prog.under_ret.mpr ?_
      rintro _ ⟨⟩
      exact lookupShows_result hholder (Or.inr (Or.inl hmiss)) none
    · rw [FrozenVendor.queryAnswer_answer, hnewest]
      dsimp only
      split_ifs with hforeign
      · refine Prog.under_ret.mpr ?_
        rintro _ ⟨⟩
        trivial
      · refine Prog.under_ret.mpr ?_
        rintro _ ⟨⟩
        exact lookupShows_result hholder
          (Or.inr (Or.inr ⟨newest, hnewest, by simpa using hforeign⟩)) _
  · refine Prog.under_ret.mpr ?_
    rintro _ ⟨⟩
    exact lookupShows_result hholder (Or.inl (not_not.mp hkind)) none

/-- **What the lookup shows of the vendor.** -/
theorem under_lookupInner (request : LookupRequest) (blockProforma : Bool) :
    Prog.Under v.Tells (lookupInner request blockProforma) fun _ r =>
      ∀ outcome, r = .ok outcome → LookupShows v request blockProforma outcome := by
  have hlookup : ∀ reversed : Option FoundDocument, classifySeen request.order request.kind
      (v.shows (.externalId request.externalId.text)) = .ok (reversed.elim .absent .reversed) →
      Prog.Under v.Tells (lookupHint request blockProforma reversed)
        fun _ r => ∀ outcome, r = .ok outcome → LookupShows v request blockProforma outcome :=
    fun reversed hholder => under_lookupHint hholder
  unfold lookupInner
  rw [seen_bind]
  refine Prog.under_call.mpr ?_
  rintro _ rfl
  rw [FrozenVendor.queryAnswer_answer]
  split
  · refine Prog.under_ret.mpr ?_
    rintro _ ⟨⟩
    trivial
  · refine Prog.under_ret.mpr ?_
    rintro _ ⟨⟩
    trivial
  · rename_i found hholder
    exact hlookup (some found) hholder
  · rename_i hholder
    exact hlookup none hholder
  · rename_i error hholder
    -- no query of the vendor fails, and a miss is a classification
    rcases v.shows_cases (.externalId request.externalId.text) with hmiss | ⟨found, hfound⟩
    · rw [hmiss] at hholder
      cases hholder
    · rw [hfound] at hholder
      unfold classifySeen at hholder
      dsimp only at hholder
      split_ifs at hholder

/-- The base of the document a lookup goes past is the intended one, where it was compared. -/
def BaseSeen (identity : Identity) (correctedNumber : Option String) : LookupOutcome → Prop
  | .reversed document _ => matchesCreateBase document identity.kind correctedNumber = true
  | .absent | .live _ | .collision _ | .foreign _ | .credentialsRejected _ | .api _ => True

omit [Unicode] in
/-- The comparison leaves a reversed document only with the intended base. -/
theorem baseSeen_withCreateBase (identity : Identity) (correctedNumber : Option String)
    (outcome : LookupOutcome) :
    BaseSeen identity correctedNumber (withCreateBase identity.kind correctedNumber outcome) := by
  cases outcome with
  | live document =>
    unfold withCreateBase
    dsimp only
    split_ifs <;> trivial
  | reversed document stornoNumber =>
    unfold withCreateBase
    dsimp only
    split_ifs with hbase
    · exact hbase
    · trivial
  | absent | collision | foreign | credentialsRejected | api => trivial

/-- The comparison of bases takes nothing from what the lookup shows. -/
theorem lookupShows_withCreateBase {request : LookupRequest} {blockProforma : Bool}
    {outcome : LookupOutcome} (h : LookupShows v request blockProforma outcome) (kind : IssuedKind)
    (correctedNumber : Option String) :
    LookupShows v request blockProforma (withCreateBase kind correctedNumber outcome) := by
  cases outcome with
  | live document =>
    unfold withCreateBase
    dsimp only
    split_ifs <;> trivial
  | reversed document stornoNumber =>
    unfold withCreateBase
    dsimp only
    split_ifs
    · exact h
    · trivial
  | absent | collision | foreign | credentialsRejected | api => exact h

section Intents

variable [Transport] [Clock] [FaultText] [RustDecimal]

/-- What the lookup step of an intent looks for. -/
def Intent.looksFor (intent : Intent) (order : OrderKey) : LookupRequest where
  externalId := intent.identity.externalId
  kind := intent.identity.kind
  order := order
  ourNumbers := intent.ourNumbers

omit [RustDecimal] in
/-- What the step learns, in each execution mode: a protected one compares the bases as
well. -/
theorem learns_lookupStep (exec : Execution) (order : OrderKey) (intent : Intent) :
    (exec.lookupStep order intent).Learns v fun outcome =>
      LookupShows v (intent.looksFor order) exec.config.orderExecution.permitsReplay outcome
        ∧ (exec.config.orderExecution.permitsReplay = false →
          BaseSeen intent.identity intent.correctedNumber outcome) := by
  refine answers_runReading ?_
  unfold Intent.lookupCall
  dsimp only
  split_ifs with hreplay
  · rw [hreplay]
    refine Prog.Ensures.mono (under_lookupInner (v := v) (intent.looksFor order) true)
      fun tr r hlooked outcome houtcome htells => ?_
    exact ⟨hlooked htells outcome houtcome, fun h => by cases h⟩
  · rw [Bool.not_eq_true] at hreplay
    rw [hreplay]
    refine Prog.Ensures.bind (under_lookupInner (v := v) (intent.looksFor order) false)
      fun tr r hlooked => Prog.ensures_ret.mpr fun outcome houtcome htells => ?_
    rw [List.append_nil] at htells
    cases r with
    | error cause => cases houtcome
    | ok looked =>
      cases houtcome
      exact ⟨lookupShows_withCreateBase (hlooked htells looked rfl) _ _,
        fun _ => baseSeen_withCreateBase _ _ _⟩

end Intents

/-! ## The decision on the lookup -/

section Decide

variable [RustDecimal] {identity : Identity}

omit [Unicode] in
/-- What a lookup that is gone past has found: nothing, or the reversed document. -/
theorem decideLookup_eq_inr {outcome : LookupOutcome} {reissue : Option Reissue}
    {reversed : Option String} (h : decideLookup outcome reissue identity = .ok (.inr reversed)) :
    (outcome = .absent ∧ reversed = none)
      ∨ ∃ document stornoNumber, outcome = .reversed document stornoNumber
        ∧ reversed = some document.number := by
  unfold decideLookup at h
  cases outcome with
  | absent =>
    dsimp only at h
    split at h
    · cases h
    · cases h
      exact Or.inl ⟨rfl, rfl⟩
  | reversed document stornoNumber =>
    dsimp only at h
    split at h
    · cases h
    · split_ifs at h
      · cases h
      · cases h
        exact Or.inr ⟨document, stornoNumber, rfl, rfl⟩
  | live document =>
    dsimp only at h
    split at h
    · cases h
    · split_ifs at h <;> cases h
  | collision | foreign | api | credentialsRejected => cases h

omit [Unicode] in
/-- What the mode adds to the decision only stops more. -/
theorem decideLookup_of_execution {outcome : LookupOutcome} {reissue : Option Reissue}
    {execution : OrderExecution} {reversed : Option String}
    (h : decideLookupForExecution outcome reissue identity execution = .ok (.inr reversed)) :
    decideLookup outcome reissue identity = .ok (.inr reversed) := by
  unfold decideLookupForExecution at h
  dsimp only at h
  split at h
  · split_ifs at h
    · cases h
    · exact h
  · exact h

end Decide

/-- **The holder a create goes past**: nobody, or the reversed document of the order and the
kind, with the hint that did not stop at it. -/
def GoesPast (v : FrozenVendor) (request : LookupRequest) (blockProforma : Bool)
    (reversed : Option String) : Prop :=
  (reversed = none ∧ v.shows (.externalId request.externalId.text) = .error .notFound
      ∧ HintPasses v request blockProforma none)
    ∨ ∃ document, reversed = some document.number
      ∧ v.shows (.externalId request.externalId.text) = .ok document
      ∧ document.isOurs request.order request.kind = true ∧ document.isLive = false
      ∧ HintPasses v request blockProforma (some document)

omit [Unicode] in
theorem matchesCreateBase_none {found : FoundDocument} {kind : IssuedKind}
    (h : kind ≠ .corrective) : matchesCreateBase found kind none = true := by
  cases kind <;> first | rfl | exact absurd rfl h

/-- **The holder that was gone past permits the create**, under the create's own names. -/
theorem GoesPast.permitsSend {request : CreateStepRequest} {looked : LookupRequest}
    {blockProforma : Bool} (h : GoesPast v looked blockProforma request.reversed)
    (hid : looked.externalId = request.externalId) (horder : looked.order = request.order)
    (hkind : looked.kind = request.kind)
    (hbase : ∀ found, v.shows (.externalId request.externalId.text) = .ok found →
      matchesCreateBase found request.kind request.correctedNumber = true) :
    PermitsSend request (v.shows (.externalId request.externalId.text)) := by
  unfold PermitsSend
  rw [GoesPast, hid, horder, hkind] at h
  rcases h with ⟨hreversed, hmiss, -⟩ | ⟨found, hreversed, hshown, hours, hlive, -⟩
  · rw [hreversed]
    exact hmiss
  · rw [hreversed]
    exact ⟨found, hshown, hours, hbase found hshown, rfl, hlive⟩

/-! ## The fresh reads -/

/-- A slot that holds no live document: nothing, or a reversed one of the order and the kind. -/
def Vacates (order : OrderKey) (kind : IssuedKind) (r : Except QueryError FoundDocument) : Prop :=
  r = .error .notFound ∨ ∃ found, r = .ok found ∧ found.isOurs order kind = true
    ∧ found.isLive = false

/-- What the vendor shows in the slot of a kind. -/
def FrozenVendor.slot (v : FrozenVendor) (ns : Namespace) (order : OrderKey) (kind : DocumentKind) :
    Except QueryError FoundDocument :=
  v.shows (.externalId (ExternalId.forKind ns order kind).text)

/-- The proforma's slot: vacant, or held by the linked one. -/
def LinkedOrVacant (v : FrozenVendor) (ns : Namespace) (order : OrderKey) (refs : Refs) : Prop :=
  Vacates order .proforma (v.slot ns order .proforma)
    ∨ ∃ found, v.slot ns order .proforma = .ok found ∧ found.isOurs order .proforma = true
      ∧ refs.proforma = some found.number

/-- **What the references of a replay-enabled create show of the vendor**: the kinds that
exclude it are vacant, and what it refers to is there and live. -/
structure Resolved (v : FrozenVendor) (ns : Namespace) (order : OrderKey) (kind : DocumentKind)
    (refs : Refs) : Prop where
  exclusive : ∀ other ∈ exclusiveWith kind,
    Vacates order other.1.issued (v.slot ns order other.1)
  invoiced : kind = .final → Vacates order .invoice (v.slot ns order .invoice)
  prepaid : kind = .final → ∃ found, v.slot ns order .prepayment = .ok found
    ∧ found.isOurs order .prepayment = true ∧ found.isLive = true
    ∧ refs.prepayment = some found.number
  unprepaid : kind ≠ .final → refs.prepayment = none
  unlinked : kind = .proforma → refs.proforma = none
  proforma : ∀ n ∈ refs.proforma, ∃ found, v.shows (.invoiceNumber n) = .ok found
    ∧ found.carriesOrder order = true ∧ found.documentType = .proforma ∧ found.isLive = true
  linked : kind ≠ .proforma → LinkedOrVacant v ns order refs
  ours : ∀ n ∈ refs.ourNumbers, refs.proforma = some n ∨ refs.prepayment = some n

/-- A vacant slot permits the create, unless it has to hold the prepayment. -/
theorem Vacates.permits {order : OrderKey} {kind : DocumentKind} {request : CreateStepRequest}
    {r : Except QueryError FoundDocument} (h : Vacates order kind.issued r)
    (horder : request.order = order) (hkind : ¬ (kind = .prepayment ∧ request.kind = .final)) :
    (ReplayGuard.slot kind).Permits request r := by
  subst horder
  rw [ReplayGuard.Permits, if_neg hkind]
  rcases h with hmiss | hreversed
  · exact Or.inl hmiss
  · exact Or.inr (Or.inl hreversed)

section Passes

variable {ns : Namespace} {order : OrderKey} {kind : DocumentKind} {refs : Refs}
  {request : CreateStepRequest}

/-- The prepayment a create refers to is live, under its number. -/
theorem Resolved.prepayment (h : Resolved v ns order kind refs) {n : String}
    (hn : refs.prepayment = some n) : ∃ found, v.shows (.invoiceNumber n) = .ok found
      ∧ found.isOurs order .prepayment = true ∧ found.isLive = true := by
  have hfinal : kind = .final := by
    by_contra hother
    rw [h.unprepaid hother] at hn
    cases hn
  obtain ⟨found, hslot, hours, hlive, hnumber⟩ := h.prepaid hfinal
  obtain rfl : found.number = n := Option.some.inj (hnumber.symm.trans hn)
  exact ⟨found, FrozenVendor.shows_number hslot, hours, hlive⟩

/-- **The slots pass.** -/
theorem Resolved.permits_slot (h : Resolved v ns order kind refs) (horder : request.order = order)
    (hkind : request.kind = kind.issued) (hproforma : request.proformaNumber = refs.proforma)
    (hprepayment : request.prepaymentNumber = refs.prepayment) {other : DocumentKind}
    (hother : other ∈ replayGuarded kind.issued) :
    (ReplayGuard.slot other).Permits request (v.slot ns order other) := by
  have hlinked : other = .proforma → LinkedOrVacant v ns order refs →
      (ReplayGuard.slot other).Permits request (v.slot ns order other) := by
    rintro rfl (hvacant | ⟨found, hslot, hours, hnumber⟩)
    · exact hvacant.permits horder (by simp)
    · subst horder
      rw [ReplayGuard.Permits, if_neg (by simp)]
      exact Or.inr (Or.inr ⟨found, hslot, hours, rfl, hproforma.trans hnumber⟩)
  -- A slot that the kind excludes is vacant, and only a final invoice needs a prepayment in one.
  have hexcluded : ∀ reason, (other, reason) ∈ exclusiveWith kind → kind ≠ .final →
      (ReplayGuard.slot other).Permits request (v.slot ns order other) := by
    intro reason hmem hfinal
    refine (h.exclusive (other, reason) hmem).permits horder ?_
    rintro ⟨-, hrequest⟩
    rw [hkind] at hrequest
    cases kind with
    | final => exact hfinal rfl
    | invoice | prepayment | proforma => cases hrequest
  cases kind with
  | proforma =>
    simp only [replayGuarded, DocumentKind.issued, List.mem_cons, List.not_mem_nil,
      or_false] at hother
    rcases hother with rfl | rfl | rfl <;>
      exact hexcluded .orderInvoiced (by simp [exclusiveWith]) (by simp)
  | invoice =>
    simp only [replayGuarded, DocumentKind.issued, List.mem_cons, List.not_mem_nil,
      or_false] at hother
    rcases hother with rfl | rfl | rfl
    · exact hexcluded .prepaidChain (by simp [exclusiveWith]) (by simp)
    · exact hexcluded .prepaidChain (by simp [exclusiveWith]) (by simp)
    · exact hlinked rfl (h.linked (by simp))
  | prepayment =>
    simp only [replayGuarded, DocumentKind.issued, List.mem_cons, List.not_mem_nil,
      or_false] at hother
    rcases hother with rfl | rfl | rfl
    · exact hexcluded .prepaidChain (by simp [exclusiveWith]) (by simp)
    · exact hexcluded .prepaidChain (by simp [exclusiveWith]) (by simp)
    · exact hlinked rfl (h.linked (by simp))
  | final =>
    simp only [replayGuarded, DocumentKind.issued, List.mem_cons, List.not_mem_nil,
      or_false] at hother
    rcases hother with rfl | rfl | rfl
    · exact (h.invoiced rfl).permits horder (by simp)
    · obtain ⟨found, hslot, hours, hlive, hnumber⟩ := h.prepaid rfl
      subst horder
      rw [ReplayGuard.Permits, if_pos ⟨rfl, hkind⟩]
      exact ⟨found, hslot, hours, hlive, hprepayment.trans hnumber⟩
    · exact hlinked rfl (h.linked (by simp))

/-- **The hint passes**: a live invoice or proforma that did not stop the lookup is one the
create refers to. -/
theorem Resolved.permits_hint (h : Resolved v ns order kind refs) (horder : request.order = order)
    (hproforma : request.proformaNumber = refs.proforma)
    (hprepayment : request.prepaymentNumber = refs.prepayment) {looked : LookupRequest}
    (hours : looked.ourNumbers = refs.ourNumbers) (hkind : looked.kind ≠ .corrective)
    (hlooked : looked.order = order) {reversed : Option String}
    (hpast : GoesPast v looked true reversed) :
    ReplayGuard.hint.Permits request (v.shows (.orderNumber request.order.text)) := by
  subst horder
  have hhint : ∃ document : Option FoundDocument, HintPasses v looked true document
      ∧ ∀ found ∈ document, v.shows (.externalId looked.externalId.text) = .ok found
        ∧ found.isLive = false := by
    rcases hpast with ⟨-, -, hhint⟩ | ⟨found, -, hshown, -, hlive, hhint⟩
    · exact ⟨none, hhint, fun _ hnone => by cases hnone⟩
    · exact ⟨some found, hhint, fun _ hsome => by cases hsome; exact ⟨hshown, hlive⟩⟩
  obtain ⟨document, hhint, hdocument⟩ := hhint
  rw [HintPasses, hlooked] at hhint
  rcases hhint with hcorrective | hmiss | ⟨newest, hnewest, hforeign⟩
  · exact absurd hcorrective hkind
  · exact Or.inl hmiss
  refine Or.inr ⟨newest, hnewest, ?_⟩
  cases hlive : newest.isLive with
  | false => simp [replayHintPermits, hlive]
  | true =>
    -- a number known to be ours is the number of a document the create refers to
    have hknown : newest.number ∈ looked.ourNumbers →
        (newest.documentType = .proforma ∧ newest.carriesOrder request.order = true
            ∧ request.proformaNumber = some newest.number)
          ∨ (newest.isOurs request.order .prepayment = true
            ∧ request.prepaymentNumber = some newest.number) := by
      intro hmem
      rw [hours] at hmem
      rcases h.ours _ hmem with hlinked | hprepaid
      · obtain ⟨found, hfound, hcarries, htype, -⟩ := h.proforma _ hlinked
        have hnumber := (number_of_queryAnswer hfound).2 _ rfl
        obtain rfl := FrozenVendor.eq_of_number hfound hnewest hnumber
        exact Or.inl ⟨htype, hcarries, hproforma.trans hlinked⟩
      · obtain ⟨found, hfound, hfoundOurs, -⟩ := h.prepayment hprepaid
        have hnumber := (number_of_queryAnswer hfound).2 _ rfl
        obtain rfl := FrozenVendor.eq_of_number hfound hnewest hnumber
        exact Or.inr ⟨hfoundOurs, hprepayment.trans hprepaid⟩
    have hpermitted : newest.number ∈ looked.ourNumbers →
        replayHintPermits request newest = true := by
      intro hmem
      rcases hknown hmem with ⟨htype, hcarries, hnumber⟩ | ⟨hnewestOurs, hnumber⟩
      · simp [replayHintPermits, htype, hcarries, hnumber]
      · simp [replayHintPermits, hnewestOurs, hnumber]
    by_cases hmem : newest.number ∈ looked.ourNumbers
    · exact hpermitted hmem
    · have hother : newest.isInvoiceFamily = true →
          document.map FoundDocument.number = some newest.number := by
        intro hfamily
        by_contra hseen
        simp [hintIsForeign, isForeign, hlive, hmem, hfamily, Ne.symm hseen] at hforeign
      have htype : newest.documentType ≠ .proforma := by
        intro htype
        simp [hintIsForeign, hlive, hmem, htype] at hforeign
      have hfamily : newest.isInvoiceFamily = false := by
        by_contra hfamily
        obtain ⟨found, hsome, hnumber⟩ := Option.map_eq_some_iff.mp
          (hother (by simpa using hfamily))
        obtain ⟨hfound, hreversed⟩ := hdocument found hsome
        obtain rfl := FrozenVendor.eq_of_number hfound hnewest hnumber
        rw [hlive] at hreversed
        cases hreversed
      simp [replayHintPermits, htype, hfamily]

end Passes

end Creates

section Passes

variable [Unicode] {v : FrozenVendor} {ns : Namespace} {order : OrderKey} {kind : DocumentKind}
  {refs : Refs} {request : CreateStepRequest}

/-- **Every fresh read of the write passes.** -/
theorem Resolved.passes (h : Resolved v ns order kind refs) (horder : request.order = order)
    (hkind : request.kind = kind.issued) (hproforma : request.proformaNumber = refs.proforma)
    (hprepayment : request.prepaymentNumber = refs.prepayment) {looked : LookupRequest}
    (hours : looked.ourNumbers = refs.ourNumbers) (hlookedKind : looked.kind = kind.issued)
    (hlooked : looked.order = order) {reversed : Option String}
    (hpast : GoesPast v looked true reversed) : v.Passes ns request := by
  intro g hg
  simp only [replayGuards, List.mem_append, List.mem_map, Option.mem_toList,
    List.mem_singleton] at hg
  rcases hg with ((⟨other, hother, rfl⟩ | ⟨n, hn, rfl⟩) | ⟨n, hn, rfl⟩) | rfl
  · rw [hkind] at hother
    have hslot := h.permits_slot horder hkind hproforma hprepayment hother
    rw [← horder] at hslot
    exact hslot
  · obtain ⟨found, hfound, hfoundOurs, hlive⟩ := h.prepayment (hprepayment ▸ hn)
    rw [← horder] at hfoundOurs
    exact ⟨found, hfound, hfoundOurs, hlive⟩
  · obtain ⟨found, hfound, hcarries, htype, hlive⟩ := h.proforma n (hproforma ▸ hn)
    rw [← horder] at hcarries
    exact ⟨found, hfound, hcarries, htype, hlive⟩
  · refine h.permits_hint horder hproforma hprepayment hours ?_ hlooked hpast
    rw [hlookedKind]
    cases kind <;> simp [DocumentKind.issued]

end Passes

/-! ## The references -/

section References

variable [Unicode] {v : FrozenVendor}

section Decide

variable {order : OrderKey} {identity : Identity} {r : Except QueryError FoundDocument}
  {outcome : OwnershipOutcome} {refs refs' : Refs}

/-- An exclusion that is passed was vacant. -/
theorem vacates_of_decideExclusivity {kind : IssuedKind} {reason : Contract.ConflictReason}
    (howned : ownership (classifySeen order kind r) = .ok outcome)
    (h : decideExclusivity outcome reason identity = .ok none) : Vacates order kind r := by
  obtain ⟨-, hreversed, habsent⟩ := ownership_cases howned
  unfold decideExclusivity at h
  cases outcome with
  | absent => exact Or.inl (habsent rfl)
  | reversed document => exact Or.inr ⟨document, hreversed document rfl⟩
  | live | collision | api | credentialsRejected => cases h

/-- The prepayment of a final invoice is the live one in its slot. -/
theorem prepaid_of_decidePrepaymentForFinal
    (howned : ownership (classifySeen order .prepayment r) = .ok outcome)
    (h : decidePrepaymentForFinal outcome identity refs = .ok (.inr refs')) :
    ∃ found, r = .ok found ∧ found.isOurs order .prepayment = true ∧ found.isLive = true
      ∧ refs' = { refs with prepayment := some found.number
                            ourNumbers := refs.ourNumbers ++ [found.number] } := by
  obtain ⟨hlive, -, -⟩ := ownership_cases howned
  unfold decidePrepaymentForFinal at h
  cases outcome with
  | live document =>
    cases h
    obtain ⟨hr, hours, hdocument⟩ := hlive document rfl
    exact ⟨document, hr, hours, hdocument, rfl⟩
  | absent | reversed | collision | api | credentialsRejected => cases h

/-- The references with a linked proforma. -/
def Refs.linking (refs : Refs) (number : String) : Refs :=
  { refs with proforma := some number, ourNumbers := refs.ourNumbers ++ [number] }

/-- A link that was looked up: a vacant slot, or the live proforma in it. -/
theorem linked_of_decideProformaLink {link : ProformaLink}
    (howned : ownership (classifySeen order .proforma r) = .ok outcome)
    (h : decideProformaLink outcome link identity refs = .ok (.inr refs')) :
    (refs' = refs ∧ Vacates order .proforma r)
      ∨ ∃ found, r = .ok found ∧ found.isOurs order .proforma = true ∧ found.isLive = true
        ∧ refs' = refs.linking found.number := by
  obtain ⟨hlive, hreversed, habsent⟩ := ownership_cases howned
  unfold decideProformaLink at h
  cases outcome with
  | live document =>
    cases link with
    | none => cases h
    | auto | number _ =>
      cases h
      obtain ⟨hr, hours, hdocument⟩ := hlive document rfl
      exact Or.inr ⟨document, hr, hours, hdocument, rfl⟩
  | absent =>
    cases h
    exact Or.inl ⟨rfl, Or.inl (habsent rfl)⟩
  | reversed document =>
    cases h
    exact Or.inl ⟨rfl, Or.inr ⟨document, hreversed document rfl⟩⟩
  | collision | api | credentialsRejected => cases h

/-- A link that was named, in replay-enabled mode: a live proforma of the order. -/
theorem named_of_decideProformaForExecution {outcome : QueryOutcome} {number : String}
    {execution : OrderExecution} (hreplay : execution.permitsReplay = true)
    (hnumber : ∀ found, outcome = .found found → found.number = number)
    (h : decideProformaForExecution outcome number order identity execution refs
      = .ok (.inr refs')) :
    ∃ found, outcome = .found found ∧ found.carriesOrder order = true
      ∧ found.documentType = .proforma ∧ found.isLive = true ∧ refs' = refs.linking number := by
  unfold decideProformaForExecution decideProformaByNumber at h
  cases outcome with
  | found document =>
    obtain rfl := hnumber document rfl
    dsimp only at h
    split_ifs at h with hreversed hcarries htype
    · cases h
    · cases h
    · cases h
      simp only [Bool.not_eq_true', Bool.not_eq_false, ne_eq, not_not] at hcarries htype
      simp only [hreplay, hcarries, htype, Bool.true_and, decide_true, Bool.not_eq_true',
        Bool.not_eq_false] at hreversed
      exact ⟨document, rfl, hcarries, htype, hreversed, rfl⟩
  | notFound | api | credentialsRejected =>
    dsimp only at h
    split_ifs at h <;> cases h

end Decide

variable [Transport] [Clock] [FaultText] {order : OrderKey} {identity : Identity}

/-- One exclusion. -/
theorem learns_exclusivity (exec : Execution) (other : DocumentKind)
    (reason : Contract.ConflictReason) :
    (exec.exclusivity order identity other reason).Learns v fun early =>
      early = none → Vacates order other.issued (v.slot exec.config.namespace order other) := by
  refine (learns_lookup _ _ _ _).bind fun outcome howned => Handler.learns_lift ?_
  rintro _ hearly rfl
  exact vacates_of_decideExclusivity howned (Except.mapError_eq_ok.mp hearly)

/-- All of them, in the order they are asked about. -/
theorem learns_exclusivities (exec : Execution)
    (others : List (DocumentKind × Contract.ConflictReason)) :
    (exec.exclusivities order identity others).Learns v fun early =>
      early = none → ∀ other ∈ others,
        Vacates order other.1.issued (v.slot exec.config.namespace order other.1) := by
  induction others with
  | nil => exact Handler.learns_pure fun _ _ h => by cases h
  | cons other others ih =>
    refine (learns_exclusivity exec other.1 other.2).bind fun early hfree => ?_
    cases early with
    | some response => exact Handler.learns_pure fun h => by cases h
    | none => exact ih.mono fun tr early hrest htells hnone =>
        List.forall_mem_cons.mpr ⟨hfree rfl, hrest htells hnone⟩

theorem learns_prepaymentForFinal (exec : Execution) (refs : Refs) :
    (exec.prepaymentForFinal order identity refs).Learns v fun decided =>
      ∀ refs', decided = .inr refs' → ∃ found,
        v.slot exec.config.namespace order .prepayment = .ok found
          ∧ found.isOurs order .prepayment = true ∧ found.isLive = true
          ∧ refs' = { refs with prepayment := some found.number
                                ourNumbers := refs.ourNumbers ++ [found.number] } := by
  refine (learns_lookup _ _ _ _).bind fun outcome howned => Handler.learns_lift ?_
  rintro _ hdecided refs' rfl
  exact prepaid_of_decidePrepaymentForFinal howned (Except.mapError_eq_ok.mp hdecided)

/-- What a resolved link shows of the vendor: no proforma, or a live one of the order, which
the slot holds if it was looked up there. -/
def Linked (v : FrozenVendor) (ns : Namespace) (prepared : Prepared) (refs refs' : Refs) : Prop :=
  (refs' = refs ∧ Vacates prepared.order .proforma (v.slot ns prepared.order .proforma))
    ∨ ∃ found, v.shows (.invoiceNumber found.number) = .ok found
      ∧ found.carriesOrder prepared.order = true ∧ found.documentType = .proforma
      ∧ found.isLive = true ∧ refs' = refs.linking found.number
      ∧ (prepared.proforma.isNumber = false →
        v.slot ns prepared.order .proforma = .ok found
          ∧ found.isOurs prepared.order .proforma = true)

/-- What resolving the link learns, named or looked up. -/
theorem learns_proformaLink {exec : Execution}
    (hreplay : exec.config.orderExecution.permitsReplay = true) (prepared : Prepared)
    (refs : Refs) :
    (exec.proformaLink prepared identity refs).Learns v fun decided =>
      ∀ refs', decided = .inr refs' →
        Linked v exec.config.namespace prepared refs refs' := by
  have hslot : (exec.proformaLink prepared identity refs
      = do
        let found ← Handler.lookup "lookup-proforma"
          (.forKind exec.config.namespace prepared.order .proforma) prepared.order .proforma
        Handler.lift ((decideProformaLink found prepared.proforma identity refs).mapError
          (identity.about prepared.order))) →
      (exec.proformaLink prepared identity refs).Learns v fun decided =>
        ∀ refs', decided = .inr refs' → Linked v exec.config.namespace prepared refs refs' := by
    intro heq
    rw [heq]
    refine (learns_lookup _ _ _ _).bind fun outcome howned => Handler.learns_lift ?_
    rintro _ hdecided refs' rfl
    rcases linked_of_decideProformaLink howned (Except.mapError_eq_ok.mp hdecided) with
      hvacant | ⟨found, hfound, hours, hlive, hrefs⟩
    · exact Or.inl hvacant
    · exact Or.inr ⟨found, FrozenVendor.shows_number hfound,
        FoundDocument.carriesOrder_of_isOurs hours, FoundDocument.documentType_of_isOurs hours,
        hlive, hrefs, fun _ => ⟨hfound, hours⟩⟩
  cases hlink : prepared.proforma with
  | auto => exact hslot (by rw [Execution.proformaLink, hlink])
  | none => exact hslot (by rw [Execution.proformaLink, hlink])
  | number number =>
    rw [Execution.proformaLink, hlink]
    refine (learns_verify _ _).mapFault.bind fun outcome hfound => Handler.learns_lift ?_
    rintro _ hdecided refs' rfl
    obtain ⟨found, rfl, hcarries, htype, hlive, hrefs⟩ := named_of_decideProformaForExecution
      hreplay (fun found h => (number_of_queryAnswer (hfound found h)).2 _ rfl) hdecided
    have hshown := hfound found rfl
    rw [← (number_of_queryAnswer hshown).2 _ rfl] at hrefs
    refine Or.inr ⟨found, FrozenVendor.shows_number hshown, hcarries, htype, hlive, hrefs,
      fun hnumber => ?_⟩
    rw [hlink] at hnumber
    cases hnumber

/-- What the check of the slot learns beside a link that was named. -/
theorem learns_proformaSlot (exec : Execution) (refs : Refs) :
    (exec.proformaSlot order identity refs).Learns v fun early =>
      early = none → LinkedOrVacant v exec.config.namespace order refs := by
  unfold Execution.proformaSlot
  refine (learns_lookup _ _ _ _).bind fun outcome howned => ?_
  have hvacant : Handler.Learns v
      (Handler.lift ((decideExclusivity outcome .proformaLive identity).mapError
        (identity.about order)))
      fun early => early = none → LinkedOrVacant v exec.config.namespace order refs := by
    refine Handler.learns_lift ?_
    rintro _ hearly rfl
    exact Or.inl (vacates_of_decideExclusivity howned (Except.mapError_eq_ok.mp hearly))
  cases outcome with
  | live document =>
    dsimp only
    split_ifs with hlinked
    · obtain ⟨hlive, -, -⟩ := ownership_cases howned
      obtain ⟨hshown, hours, -⟩ := hlive document rfl
      exact Handler.learns_pure fun _ => Or.inr ⟨document, hshown, hours, by simpa using hlinked⟩
    · exact hvacant
  | absent | reversed | collision | api | credentialsRejected => exact hvacant

/-- The references of a final invoice. -/
theorem learns_references_final {exec : Execution}
    (hreplay : exec.config.orderExecution.permitsReplay = true) (prepared : Prepared) :
    (exec.references prepared identity .final).Learns v fun decided =>
      ∀ refs, decided = .inr refs →
        Resolved v exec.config.namespace prepared.order .final refs := by
  unfold Execution.references
  refine (learns_exclusivities exec (exclusiveWith .final)).bind fun excluded hfree => ?_
  cases excluded with
  | some response => exact Handler.learns_pure fun _ h => by cases h
  | none =>
  dsimp only
  rw [if_pos rfl]
  refine (learns_prepaymentForFinal exec {}).bind fun prepaid hprepaid => ?_
  cases prepaid with
  | inl response => exact Handler.learns_pure fun _ h => by cases h
  | inr refs =>
  obtain ⟨found, hslot, hours, hlive, rfl⟩ := hprepaid refs rfl
  dsimp only
  rw [if_pos ⟨hreplay, rfl⟩]
  refine (learns_exclusivity exec _ _).bind fun invoiced hinvoiced => ?_
  cases invoiced with
  | some response => exact Handler.learns_pure fun _ h => by cases h
  | none =>
  dsimp only
  rw [if_neg (by decide), pure_bind]
  dsimp only
  rw [if_pos ⟨hreplay, Or.inl rfl⟩]
  refine (learns_proformaSlot exec _).bind fun slot hlinked => ?_
  cases slot with
  | some response => exact Handler.learns_pure fun _ h => by cases h
  | none =>
  refine Handler.learns_pure ?_
  rintro _ ⟨⟩
  exact {
    exclusive := hfree rfl
    invoiced := fun _ => hinvoiced rfl
    prepaid := fun _ => ⟨found, hslot, hours, hlive, rfl⟩
    unprepaid := fun hother => absurd rfl hother
    unlinked := fun h => by cases h
    proforma := fun _ hn => by cases hn
    linked := fun _ => hlinked rfl
    ours := fun n hn => Or.inr (by simpa [eq_comm] using hn) }

omit [Transport] [Clock] [FaultText] in
/-- The references of a create that may convert a proforma are resolved. -/
theorem Linked.resolved {ns : Namespace} {prepared : Prepared} {refs : Refs} {kind : DocumentKind}
    (h : Linked v ns prepared {} refs) (hfinal : kind ≠ .final)
    (hproforma : kind ≠ .proforma) (hexclusive : ∀ other ∈ exclusiveWith kind,
      Vacates prepared.order other.1.issued (v.slot ns prepared.order other.1))
    (hslot : prepared.proforma.isNumber = true → LinkedOrVacant v ns prepared.order refs) :
    Resolved v ns prepared.order kind refs := by
  rcases h with ⟨rfl, hvacant⟩ | ⟨found, hshown, hcarries, htype, hlive, rfl, hheld⟩
  · exact {
      exclusive := hexclusive
      invoiced := fun h => absurd h hfinal
      prepaid := fun h => absurd h hfinal
      unprepaid := fun _ => rfl
      unlinked := fun h => absurd h hproforma
      proforma := fun _ hn => by cases hn
      linked := fun _ => Or.inl hvacant
      ours := fun _ hn => by cases hn }
  · refine {
      exclusive := hexclusive
      invoiced := fun h => absurd h hfinal
      prepaid := fun h => absurd h hfinal
      unprepaid := fun _ => rfl
      unlinked := fun h => absurd h hproforma
      proforma := ?_
      linked := fun _ => ?_
      ours := fun n hn => Or.inl (by simpa [Refs.linking, eq_comm] using hn) }
    · rintro _ ⟨⟩
      exact ⟨found, hshown, hcarries, htype, hlive⟩
    · cases hnumber : prepared.proforma.isNumber with
      | true => exact hslot hnumber
      | false =>
        obtain ⟨hfound, hours⟩ := hheld hnumber
        exact Or.inr ⟨found, hfound, hours, rfl⟩

/-- The references of a create that converts a proforma. -/
theorem learns_references_linked {exec : Execution}
    (hreplay : exec.config.orderExecution.permitsReplay = true) (prepared : Prepared)
    {kind : DocumentKind} (hlinks : linksProforma kind = true) :
    (exec.references prepared identity kind).Learns v fun decided =>
      ∀ refs, decided = .inr refs →
        Resolved v exec.config.namespace prepared.order kind refs := by
  have hfinal : kind ≠ .final := by
    rintro rfl
    cases hlinks
  have hproforma : kind ≠ .proforma := by
    rintro rfl
    cases hlinks
  unfold Execution.references
  refine (learns_exclusivities exec (exclusiveWith kind)).bind fun excluded hfree => ?_
  cases excluded with
  | some response => exact Handler.learns_pure fun _ h => by cases h
  | none =>
  dsimp only
  rw [if_neg hfinal, pure_bind]
  dsimp only
  rw [if_neg fun h => hfinal h.2, pure_bind]
  dsimp only
  rw [if_pos hlinks]
  refine (learns_proformaLink hreplay prepared {}).bind fun linked hlinked => ?_
  cases linked with
  | inl response => exact Handler.learns_pure fun _ h => by cases h
  | inr refs =>
  have hlinked := hlinked refs rfl
  dsimp only
  split_ifs with hslot
  · refine (learns_proformaSlot exec refs).bind fun slot hheld => ?_
    cases slot with
    | some response => exact Handler.learns_pure fun _ h => by cases h
    | none =>
    refine Handler.learns_pure ?_
    rintro _ ⟨⟩
    exact hlinked.resolved hfinal hproforma (hfree rfl) fun _ => hheld rfl
  · rw [pure_bind]
    refine Handler.learns_pure ?_
    rintro _ ⟨⟩
    exact hlinked.resolved hfinal hproforma (hfree rfl) fun hnumber =>
      absurd ⟨hreplay, Or.inr hnumber⟩ hslot

/-- A proforma refers to nothing. -/
theorem learns_references_proforma (exec : Execution) (prepared : Prepared) :
    (exec.references prepared identity .proforma).Learns v fun decided =>
      ∀ refs, decided = .inr refs →
        Resolved v exec.config.namespace prepared.order .proforma refs := by
  unfold Execution.references
  refine (learns_exclusivities exec (exclusiveWith .proforma)).bind fun excluded hfree => ?_
  cases excluded with
  | some response => exact Handler.learns_pure fun _ h => by cases h
  | none =>
  have hresolved : Resolved v exec.config.namespace prepared.order .proforma {} := {
    exclusive := hfree rfl
    invoiced := fun h => by cases h
    prepaid := fun h => by cases h
    unprepaid := fun _ => rfl
    unlinked := fun _ => rfl
    proforma := fun _ hn => by cases hn
    linked := fun h => absurd rfl h
    ours := fun _ hn => by cases hn }
  dsimp only
  rw [if_neg (by decide), pure_bind]
  dsimp only
  rw [if_neg (by simp), pure_bind]
  dsimp only
  rw [if_neg (by decide), pure_bind]
  dsimp only
  split
  · refine (Handler.learns_true _).bind fun slot _ => ?_
    cases slot with
    | some response => exact Handler.learns_pure fun _ h => by cases h
    | none =>
    refine Handler.learns_pure ?_
    rintro _ ⟨⟩
    exact hresolved
  · rw [pure_bind]
    refine Handler.learns_pure ?_
    rintro _ ⟨⟩
    exact hresolved

/-- **What the references of a replay-enabled create show of the vendor.** -/
theorem learns_references {exec : Execution}
    (hreplay : exec.config.orderExecution.permitsReplay = true) (prepared : Prepared)
    (kind : DocumentKind) :
    (exec.references prepared identity kind).Learns v fun decided =>
      ∀ refs, decided = .inr refs →
        Resolved v exec.config.namespace prepared.order kind refs := by
  cases kind with
  | proforma => exact learns_references_proforma exec prepared
  | invoice => exact learns_references_linked hreplay prepared rfl
  | prepayment => exact learns_references_linked hreplay prepared rfl
  | final => exact learns_references_final hreplay prepared

end References

end Szamlazz
