import Szamlazz.Service.OrderRuns
import Szamlazz.Service.Vendor

/-!
# Nothing is billed twice

Behind a protected order, a lawful szamlazz.hu holds at most one live document of a kind,
and no live invoice beside a live prepayment or final invoice. Nothing but reads stands
between the decision to send and the send, so what keeps this true is that nothing else can
be in flight then: whatever was sent and may still land has left its marker behind, and the
marker is cleared only when a reply or a document shows that nothing is left to land.
-/

namespace Szamlazz

open Durable

/-! ## What fades -/

section Fading

variable {kind : DocumentKind} {l l' : List VendorDocument}

/-- Nothing comes to life. -/
theorem Fading.live (h : Fading kind l l') {d' : VendorDocument} (hmem : d' ∈ l')
    (hlive : d'.live = true) : ∃ d ∈ l, d.live = true := by
  induction h with
  | nil => cases hmem
  | @kept d l l' rest ih =>
    rcases List.mem_cons.mp hmem with rfl | hmem
    · exact ⟨d', List.mem_cons_self, hlive⟩
    · obtain ⟨c, hc, hclive⟩ := ih hmem
      exact ⟨c, List.mem_cons_of_mem _ hc, hclive⟩
  | reversed rest ih =>
    rcases List.mem_cons.mp hmem with rfl | hmem
    · cases hlive
    · obtain ⟨c, hc, hclive⟩ := ih hmem
      exact ⟨c, List.mem_cons_of_mem _ hc, hclive⟩
  | converted proforma rest ih =>
    obtain ⟨c, hc, hclive⟩ := ih hmem
    exact ⟨c, List.mem_cons_of_mem _ hc, hclive⟩

theorem Fading.pairwise (h : Fading kind l l') (hl : l.Pairwise fun _ older => older.live = false) :
    l'.Pairwise fun _ older => older.live = false := by
  have hdead : ∀ {l l' : List VendorDocument}, Fading kind l l' → (∀ d ∈ l, d.live = false) →
      ∀ d ∈ l', d.live = false := by
    intro l l' h hl d hd
    by_contra hlive
    obtain ⟨c, hc, hclive⟩ := h.live hd (by simpa using hlive)
    simp [hl c hc] at hclive
  induction h with
  | nil => exact .nil
  | kept rest ih | reversed rest ih =>
    obtain ⟨holder, hl⟩ := List.pairwise_cons.mp hl
    exact List.pairwise_cons.mpr ⟨hdead rest holder, ih hl⟩
  | converted proforma rest ih => exact ih (List.pairwise_cons.mp hl).2

/-- **What is not live stays the newest.** -/
theorem Fading.newest (h : Fading kind l l') (hl : ∀ d ∈ l, d.live = false) :
    l'.head?.map VendorDocument.number = l.head?.map VendorDocument.number := by
  cases h with
  | nil | kept | reversed => rfl
  | converted => cases hl _ List.mem_cons_self

end Fading

/-! ## Moves of the vendor -/

namespace Vendor

variable {w w' : Vendor} {kind other : DocumentKind} {number : String}

theorem liveIn_land : (w.land kind number).LiveIn other ↔ other = kind ∨ w.LiveIn other := by
  by_cases h : other = kind
  · subst h
    simp [LiveIn, land]
  · simp [LiveIn, land, h]

theorem sublist_remove (w : Vendor) (number : String) (kind : DocumentKind) :
    ((w.remove number).slot kind).Sublist (w.slot kind) := by
  by_cases h : kind = .proforma
  · subst h
    simp [remove]
  · simp [remove, h]

theorem LiveIn.of_remove (h : (w.remove number).LiveIn kind) : w.LiveIn kind := by
  obtain ⟨d, hmem, hlive⟩ := h
  exact ⟨d, (sublist_remove w number kind).subset hmem, hlive⟩

theorem excludes_comm (kind other : DocumentKind) : kind.excludes other = other.excludes kind := by
  cases kind <;> cases other <;> rfl

/-- Only the newest document can be live. -/
theorem Sound.not_liveIn (hs : w.Sound) (h : ∀ d, w.newest kind = some d → d.live = false) :
    ¬ w.LiveIn kind := by
  rintro ⟨d, hmem, hlive⟩
  have hsingle := hs.single kind
  cases hslot : w.slot kind with
  | nil => simp [hslot] at hmem
  | cons newest older =>
    rw [hslot] at hmem hsingle
    rcases List.mem_cons.mp hmem with rfl | hmem
    · have := h d (by simp [newest, hslot])
      simp [hlive] at this
    · have := (List.pairwise_cons.mp hsingle).1 d hmem
      simp [hlive] at this

/-- A document may come to be where nothing live stands against it. -/
theorem Sound.land (hs : w.Sound) (hclear : ¬ w.LiveIn kind)
    (hapart : ∀ other, kind.excludes other = true → ¬ w.LiveIn other) :
    (w.land kind number).Sound where
  single other := by
    by_cases h : other = kind
    · subst h
      have holder : ∀ d ∈ w.slot other, d.live = false := by
        intro d hmem
        by_contra hlive
        exact hclear ⟨d, hmem, by simpa using hlive⟩
      simpa [Vendor.land, List.pairwise_cons] using ⟨holder, hs.single other⟩
    · simpa [Vendor.land, h] using hs.single other
  apart k k' hexcludes hlive hlive' := by
    rw [liveIn_land] at hlive hlive'
    rcases hlive with rfl | hlive
    · rcases hlive' with rfl | hlive'
      · cases k' <;> cases hexcludes
      · exact hapart k' hexcludes hlive'
    · rcases hlive' with rfl | hlive'
      · exact hapart k (by rwa [excludes_comm]) hlive
      · exact hs.apart k k' hexcludes hlive hlive'

theorem Sound.remove (hs : w.Sound) (number : String) : (w.remove number).Sound where
  single kind := (hs.single kind).sublist (sublist_remove w number kind)
  apart kind other hexcludes hlive hlive' :=
    hs.apart kind other hexcludes hlive.of_remove hlive'.of_remove

/-! ### What is in flight -/

/-- The newest document of the kind is the one expected, or there is none. -/
def Standing (w : Vendor) (kind : DocumentKind) (expected : Option String) : Prop :=
  (w.newest kind).map VendorDocument.number = expected

theorem Fades.refl (w : Vendor) : w.Fades w := by
  refine ⟨rfl, fun kind => ?_⟩
  induction w.slot kind with
  | nil => exact .nil
  | cons d l ih => exact .kept ih

theorem Fades.liveIn (h : w.Fades w') (hlive : w'.LiveIn kind) : w.LiveIn kind := by
  obtain ⟨d, hmem, hd⟩ := hlive
  exact (h.2 kind).live hmem hd

theorem Fades.standing {expected : Option String} (h : w.Fades w') (hclear : ¬ w.LiveIn kind)
    (hstanding : w.Standing kind expected) : w'.Standing kind expected := by
  have hdead : ∀ d ∈ w.slot kind, d.live = false := by
    intro d hmem
    by_contra hlive
    exact hclear ⟨d, hmem, by simpa using hlive⟩
  exact ((h.2 kind).newest hdead).trans hstanding

theorem Sound.fades (hs : w.Sound) (h : w.Fades w') : w'.Sound where
  single kind := (h.2 kind).pairwise (hs.single kind)
  apart kind other hexcludes hlive hlive' :=
    hs.apart kind other hexcludes (h.liveIn hlive) (h.liveIn hlive')

theorem Lands.flights (h : w.Lands kind number w') : w'.flights = w.flights := by
  obtain ⟨faded, hfades, rfl⟩ := h
  exact hfades.1

theorem Sound.lands (hs : w.Sound) (h : w.Lands kind number w') (hclear : ¬ w.LiveIn kind)
    (hapart : ∀ other, kind.excludes other = true → ¬ w.LiveIn other) : w'.Sound := by
  obtain ⟨faded, hfades, rfl⟩ := h
  exact (hs.fades hfades).land (fun hlive => hclear (hfades.liveIn hlive))
    fun other hexcludes hlive => hapart other hexcludes (hfades.liveIn hlive)

/-- **What happens by itself** while at most one request is in flight: documents fade, or that
request comes to its end. -/
theorem Drift.single (hd : Drift w w') (hone : w.flights.length ≤ 1) :
    w.Fades w' ∨ (w'.flights = [] ∧ ∃ flight, w.flights = [flight]
      ∧ ((∃ kind number, flight.change = .create kind ∧ Lands ⟨w.slot, []⟩ kind number w')
        ∨ (∃ number, flight.change = .delete number ∧ w' = remove ⟨w.slot, []⟩ number)
        ∨ w' = ⟨w.slot, []⟩)) := by
  have hends : ∀ {before after : List Flight} {flight : Flight},
      (before ++ flight :: after).length ≤ 1 → before = [] ∧ after = [] := by
    intro before after flight h
    rw [List.length_append, List.length_cons] at h
    exact ⟨List.length_eq_zero_iff.mp (by omega), List.length_eq_zero_iff.mp (by omega)⟩
  cases hd with
  | landed number lands =>
    obtain ⟨rfl, rfl⟩ := hends hone
    exact Or.inr ⟨lands.flights, _, rfl, Or.inl ⟨_, number, rfl, lands⟩⟩
  | deleted =>
    obtain ⟨rfl, rfl⟩ := hends hone
    exact Or.inr ⟨rfl, _, rfl, Or.inr (Or.inl ⟨_, rfl, rfl⟩)⟩
  | dropped =>
    obtain ⟨rfl, rfl⟩ := hends hone
    exact Or.inr ⟨rfl, _, rfl, Or.inr (Or.inr rfl)⟩
  | faded h => exact Or.inl h

/-- With nothing in flight documents only fade. -/
theorem Drift.of_flights_nil (hd : Drift w w') (h : w.flights = []) : w.Fades w' := by
  rcases hd.single (by simp [h]) with hfades | ⟨-, flight, heq, -⟩
  · exact hfades
  · rw [h] at heq
    cases heq

/-- Nothing takes flight by itself. -/
theorem Drift.flights_subset (hd : Drift w w') : w'.flights ⊆ w.flights := by
  cases hd with
  | landed number lands =>
    rw [lands.flights]
    exact fun flight => by simp +contextual [or_imp]
  | deleted | dropped => exact fun flight => by simp +contextual [remove, or_imp]
  | faded h =>
    rw [h.1]
    exact List.Subset.refl _

end Vendor

/-! ## The invariant -/

section Billing

variable [Unicode] {ns : Namespace} {order : OrderKey} {token externalId : String}
  {operation : WriteOperation} {w w' : Vendor}

/-- A request in flight is the one the operation retains, and nothing live stands against
what it may still make. -/
def InFlight (ns : Namespace) (order : OrderKey) (externalId : String) (operation : WriteOperation)
    (w : Vendor) : Change → Prop
  | .create kind => externalId = (ExternalId.forKind ns order kind).text
      ∧ (∃ expected base, operation = .create kind.issued expected base ∧ w.Standing kind expected)
      ∧ ¬ w.LiveIn kind ∧ ∀ other, kind.excludes other = true → ¬ w.LiveIn other
  | .delete number => operation = .delete number

/-- **At most one request is in flight, and a marker with this token, id and operation
retains it.** -/
structure OwnFlights (ns : Namespace) (order : OrderKey) (token externalId : String)
    (operation : WriteOperation) (w : Vendor) : Prop where
  one : w.flights.length ≤ 1
  own : ∀ flight ∈ w.flights, flight.owner.text = token
  change : ∀ flight ∈ w.flights, InFlight ns order externalId operation w flight.change

/-- **The invariant**: nothing is billed twice, and what may still land is retained by the
stored marker. -/
def Billed (ns : Namespace) (order : OrderKey) {I : Type} [Transport] [Clock]
    (h : List (OrderEvent I)) (w : Vendor) : Prop :=
  w.Sound ∧ (w.flights ≠ [] → ∃ marker, storedAt h = some marker
    ∧ OwnFlights ns order marker.token marker.externalId marker.operation w)

theorem ownFlights_nil (h : w.flights = []) : OwnFlights ns order token externalId operation w where
  one := by simp [h]
  own _ hmem := by simp [h] at hmem
  change _ hmem := by simp [h] at hmem

theorem ownFlights_single {flight : Flight} (h : w.flights = [flight])
    (hown : flight.owner.text = token)
    (hchange : InFlight ns order externalId operation w flight.change) :
    OwnFlights ns order token externalId operation w where
  one := by simp [h]
  own := by simpa [h] using hown
  change := by simpa [h] using hchange

theorem InFlight.fades {change : Change} (h : InFlight ns order externalId operation w change)
    (hfades : w.Fades w') : InFlight ns order externalId operation w' change := by
  cases change with
  | create kind =>
    obtain ⟨hid, ⟨expected, base, hop, hstanding⟩, hclear, hapart⟩ := h
    exact ⟨hid, ⟨expected, base, hop, hfades.standing hclear hstanding⟩,
      fun hlive => hclear (hfades.liveIn hlive),
      fun other hexcludes hlive => hapart other hexcludes (hfades.liveIn hlive)⟩
  | delete number => exact h

theorem OwnFlights.drift (h : OwnFlights ns order token externalId operation w)
    (hd : Vendor.Drift w w') : OwnFlights ns order token externalId operation w' := by
  rcases hd.single h.one with hfades | ⟨hnil, -⟩
  · exact ⟨by rw [hfades.1]; exact h.one, by rw [hfades.1]; exact h.own,
      by rw [hfades.1]; exact fun flight hmem => (h.change flight hmem).fades hfades⟩
  · exact ownFlights_nil hnil

/-- **What lands keeps the vendor sound.** -/
theorem OwnFlights.sound (h : OwnFlights ns order token externalId operation w) (hs : w.Sound)
    (hd : Vendor.Drift w w') : w'.Sound := by
  have hslots : Vendor.Sound ⟨w.slot, []⟩ := ⟨hs.single, hs.apart⟩
  rcases hd.single h.one with hfades | ⟨-, flight, hflights, hend⟩
  · exact hs.fades hfades
  · rcases hend with ⟨kind, number, hchange, hlands⟩ | ⟨number, -, rfl⟩ | rfl
    · have hflight := h.change flight (by simp [hflights])
      rw [hchange] at hflight
      obtain ⟨-, -, hclear, hapart⟩ := hflight
      exact hslots.lands hlands hclear hapart
    · exact hslots.remove number
    · exact hslots

/-- A storno leaves nothing in flight that its documents could suffer from. -/
theorem OwnFlights.nil_of_storno {number : String}
    (h : OwnFlights ns order token externalId (.storno number) w) : w.flights = [] := by
  cases hflights : w.flights with
  | nil => rfl
  | cons flight rest =>
    have hflight := h.change flight (by simp [hflights])
    cases hchange : flight.change with
    | create kind =>
      rw [hchange] at hflight
      obtain ⟨-, ⟨expected, base, hop, -⟩, -⟩ := hflight
      cases hop
    | delete number' =>
      rw [hchange] at hflight
      cases hflight

/-- **A document past the expected one has landed.** -/
theorem OwnFlights.nil_of_newest {kind : IssuedKind} {expected base : Option String}
    (h : OwnFlights ns order token externalId (.create kind expected base) w)
    (hnewest : ∀ k : DocumentKind, externalId = (ExternalId.forKind ns order k).text →
      ∃ d, w.newest k = some d ∧ expected ≠ some d.number) : w.flights = [] := by
  cases hflights : w.flights with
  | nil => rfl
  | cons flight rest =>
    have hflight := h.change flight (by simp [hflights])
    cases hchange : flight.change with
    | create kind' =>
      rw [hchange] at hflight
      obtain ⟨hid, ⟨expected', base', hop, hstanding⟩, -⟩ := hflight
      cases hop
      obtain ⟨d, hd, hne⟩ := hnewest kind' hid
      refine absurd ?_ hne
      rw [← hstanding, hd]
      rfl
    | delete number =>
      rw [hchange] at hflight
      cases hflight

/-! ## What the answers show -/

/-- A correction stands under no kind's id. -/
theorem forCorrective_text_ne {correction : CorrectionId} (kind : DocumentKind) :
    (ExternalId.forCorrective ns order correction).text ≠ (ExternalId.forKind ns order kind).text := by
  intro h
  have heq := Composition.eq_of_externalId_eq (c := .corrective ns order correction)
    (d := .kind ns order kind) rfl rfl (congrArg ExternalId.mk h)
  cases heq

section Truthful

variable {newest : Option VendorDocument} {selector : InvoiceSelector}
  {answer : Except ClientError InvoiceDocument}

omit [Unicode] in
theorem Truthful.of_notFound (h : Truthful newest answer)
    (hanswer : queryAnswer selector answer = .error .notFound) : newest = none := by
  unfold queryAnswer at hanswer
  split at hanswer
  · split at hanswer <;> cases hanswer
  · split_ifs at hanswer with hcode
    · exact h hcode
    all_goals cases hanswer
  · split at hanswer <;> cases hanswer

omit [Unicode] in
theorem Truthful.of_found {found : FoundDocument} (h : Truthful newest answer)
    (hanswer : queryAnswer selector answer = .ok found) :
    ∃ d, newest = some d ∧ d.number = found.number ∧ d.live = found.isLive := by
  unfold queryAnswer at hanswer
  split at hanswer
  · split at hanswer <;> cases hanswer
    exact h
  · split_ifs at hanswer
  · split at hanswer <;> cases hanswer

omit [Unicode] in
theorem Vendor.Sound.not_liveIn_of_holder {kind : DocumentKind} (hs : w.Sound)
    (h : Truthful (w.newest kind) answer) (hholder : HoldsNoLive (queryAnswer selector answer)) :
    ¬ w.LiveIn kind := by
  refine hs.not_liveIn fun d hd => ?_
  rcases hholder with hnone | ⟨found, hfound, hlive⟩
  · rw [h.of_notFound hnone] at hd
    cases hd
  · obtain ⟨d', hd', -, hdlive⟩ := h.of_found hfound
    obtain rfl := Option.some.inj (hd.symm.trans hd')
    exact hdlive.trans hlive

omit [Unicode] in
theorem Vendor.liveIn_of_holder {kind : DocumentKind} (h : Truthful (w.newest kind) answer)
    (hholder : HoldsLive (queryAnswer selector answer)) : w.LiveIn kind := by
  obtain ⟨found, hfound, hlive⟩ := hholder
  obtain ⟨d, hd, -, hdlive⟩ := h.of_found hfound
  exact ⟨d, List.mem_of_mem_head? hd, hdlive.trans hlive⟩

end Truthful

section Answers

variable [Transport] [Clock] {W : Type} {P : Provider W} {id : InvocationId}

/-- A read changes nothing. -/
theorem Provider.Lawful.eq_of_reads (hP : P.Lawful ns order) {w w' : W} {request : ServiceRequest}
    {x : request.Answer} (h : P.answersTo id w request x w') (hread : request.Reads) : w' = w := by
  cases request with
  | agent request => exact hP.reads h hread
  | gateway | now | resolve => exact h

end Answers

/-! ## The calls -/

section Calls

/-- A reply after which a create can no longer land. -/
def CreateStepRequest.Concludes (request : CreateStepRequest) :
    Except ClientError CreationOutcome → Prop
  | .ok (.issued created) => request.reversed ≠ some created.invoiceNumber
  | .ok .preview => False
  | .error error => error.refusesCreate = true

/-- A reply after which a deletion can no longer land. -/
def DeletionConcludes : Except ClientError Unit → Prop
  | .ok () => True
  | .error error => error.refusesDelete = true

omit [Unicode] in
theorem refusesCreate_of_classifyFailure (operation : String) {error : ClientError}
    (h : error.refusesCreate = false) :
    (∃ answer, classifyFailure operation error = .unknown answer)
      ∨ (∃ message, classifyFailure operation error = .unavailable message)
      ∨ ∃ message, classifyFailure operation error = .transport message := by
  unfold classifyFailure
  split
  · rename_i api
    simp only [ClientError.refusesCreate, Bool.or_eq_false_iff, decide_eq_false_iff_not,
      ne_eq, not_not] at h
    rw [if_neg (by simp [h.1]), h.2]
    exact Or.inl ⟨_, rfl⟩
  · cases h
  · split
    · exact Or.inr (Or.inl ⟨_, rfl⟩)
    · exact Or.inr (Or.inr ⟨_, rfl⟩)

/-- **The send of a create is settled by nothing but a concluding reply.** -/
theorem createSend_concludes (request : CreateStepRequest) :
    Prog.Ensures (createSend request .retained) fun tr sent =>
      ∃ (reply : Except ClientError CreationOutcome) (post : List _),
        tr = ⟨AgentRequest.create request.create, reply⟩ :: post ∧ ReadOnly post
          ∧ ∀ outcome, sent = .ok outcome → request.Concludes reply := by
  have hunsettled : ∀ (reply : Except ClientError CreationOutcome) unconfirmed,
      Prog.Ensures (settleUnconfirmedCreate request .retained unconfirmed) fun tr sent =>
        ReadOnly tr ∧ ∀ outcome, sent = .ok outcome → request.Concludes reply :=
    fun reply unconfirmed => Prog.ensures_ret.mpr ⟨readOnly_nil, fun _ h => by cases h⟩
  have hsettled : ∀ (reply : Except ClientError CreationOutcome) (outcome : CreateOutcome),
      request.Concludes reply →
      Prog.Ensures (pure (.ok outcome) : Call (Except Unconfirmed CreateOutcome)) fun tr sent =>
        ReadOnly tr ∧ ∀ outcome, sent = .ok outcome → request.Concludes reply :=
    fun reply outcome h => Prog.ensures_ret.mpr ⟨readOnly_nil, fun _ _ => h⟩
  unfold createSend
  rw [Prog.perform_bind, Prog.ensures_call]
  intro reply
  suffices h : Prog.Ensures _ fun tr (sent : Except Unconfirmed CreateOutcome) =>
      ReadOnly tr ∧ ∀ outcome, sent = .ok outcome → request.Concludes reply from
    h.mono (fun post _ hpost => ⟨reply, post, rfl, hpost⟩)
  split
  · split_ifs with hecho
    · exact hunsettled _ _
    · exact hsettled _ _ hecho
  · exact hunsettled _ _
  · rename_i error
    cases hrefuses : error.refusesCreate with
    | false =>
      rcases refusesCreate_of_classifyFailure "create" hrefuses with
        ⟨answer, heq⟩ | ⟨message, heq⟩ | ⟨message, heq⟩ <;> rw [heq]
      all_goals exact hunsettled _ _
    | true =>
      split
      · exact hsettled _ _ hrefuses
      · exact hsettled _ _ hrefuses
      · exact hunsettled _ _
      · exact hunsettled _ _
      · exact hunsettled _ _
      · refine (afterDuplicate_readOnly _ _).bind fun tr outcome hro => ?_
        exact Prog.ensures_ret.mpr ⟨by simpa using hro, fun _ _ => hrefuses⟩

/-- **A create behind a marker is settled by nothing but a concluding reply.** -/
theorem protectedCreate_concludes (request : CreateStepRequest) :
    Prog.Ensures (protectedCreate request) fun tr result => result.isUnresolved = false →
      ∀ reply : Except ClientError CreationOutcome,
        (⟨.create request.create, reply⟩ : Exchange AgentRequest.Answer) ∈ tr →
          request.Concludes reply := by
  have hsend : ∀ answer : Except ClientError InvoiceDocument, Prog.Ensures
      (createSend request .retained >>= fun sent => pure (protectedCreateResult sent))
      fun tr result => result.isUnresolved = false →
        ∀ reply : Except ClientError CreationOutcome,
          (⟨.create request.create, reply⟩ : Exchange AgentRequest.Answer)
              ∈ (⟨.query (.externalId request.externalId.text), answer⟩ :: tr : List _) →
            request.Concludes reply := by
    intro answer
    refine (createSend_concludes request).bind ?_
    rintro tr sent ⟨reply, post, rfl, hpost, hsettled⟩
    refine Prog.ensures_ret.mpr fun hresolved reply' hmem => ?_
    cases sent with
    | error cause => cases hresolved
    | ok outcome =>
      rw [List.append_nil] at hmem
      rcases List.mem_cons.mp hmem with heq | hmem
      · cases heq
      rcases List.mem_cons.mp hmem with heq | hmem
      · cases heq
        exact hsettled outcome rfl
      · have := hpost _ hmem
        simp [AgentRequest.isMutation] at this
  have hnothing : ∀ (answer : Except ClientError InvoiceDocument) (result : WriteResult),
      Prog.Ensures (pure result : Call WriteResult) fun tr result =>
        result.isUnresolved = false → ∀ reply : Except ClientError CreationOutcome,
          (⟨.create request.create, reply⟩ : Exchange AgentRequest.Answer)
              ∈ (⟨.query (.externalId request.externalId.text), answer⟩ :: tr : List _) →
            request.Concludes reply := by
    refine fun answer result => Prog.ensures_ret.mpr fun _ reply hmem => ?_
    cases List.mem_singleton.mp hmem
  unfold protectedCreate
  rw [settledByQuery_bind, Prog.ensures_call]
  intro answer
  split
  case h_2 | h_3 => exact hsend answer
  all_goals exact hnothing answer _

/-- **A deletion behind a marker is settled by nothing but a concluding reply.** -/
theorem protectedDelete_concludes [Transport] [Clock] (found : FoundDocument) (order : OrderKey)
    (force : Bool) : Prog.Ensures (protectedDelete found order force) fun tr result =>
      result.isUnresolved = false → ∀ reply : Except ClientError Unit,
        (⟨.deleteProforma found.number, reply⟩ : Exchange AgentRequest.Answer) ∈ tr →
          DeletionConcludes reply := by
  refine (deleteProforma_gated found order force).bind ?_
  rintro tr outcome (⟨hro, -⟩ | ⟨answer, reply, rfl, -, rfl⟩)
  · refine Prog.ensures_ret.mpr fun _ reply hmem => ?_
    rw [List.append_nil] at hmem
    have := hro _ hmem
    simp [AgentRequest.isMutation] at this
  · refine Prog.ensures_ret.mpr fun hresolved reply' hmem => ?_
    obtain rfl : reply' = reply := by
      rcases List.mem_cons.mp hmem with heq | hmem
      · cases heq
      · cases List.mem_singleton.mp hmem
        rfl
    cases reply' with
    | ok => trivial
    | error error =>
      cases error with
      | api api =>
        show ClientError.refusesDelete (.api api) = true
        unfold deletionReply DeleteOutcome.ofApi at hresolved
        dsimp only at hresolved
        split_ifs at hresolved with hgone hcredentials hrejected
        · simp [ClientError.refusesDelete, hgone]
        · simp [ClientError.refusesDelete, hcredentials]
        · rcases hrejected with h | h <;> simp [ClientError.refusesDelete, h]
        · cases hresolved
      | request error => rfl
      | _ => cases hresolved

end Calls

/-! ## The invariant, kept -/

section Kept

variable [Transport] [Clock] {W : Type} {P : Provider W} {id : InvocationId}

/-- Only requests in flight and the stored marker matter. -/
theorem Billed.later {I : Type} {h : List (OrderEvent I)} {e : OrderEvent I}
    (hJ : Billed ns order h w) (he : e.effect (storedAt h) = storedAt h) :
    Billed ns order (h ++ [e]) w := by
  refine ⟨hJ.1, ?_⟩
  rw [storedAt_snoc, he]
  exact hJ.2

theorem Billed.of_flights_nil {I : Type} {h : List (OrderEvent I)} (hs : w.Sound)
    (hnil : w.flights = []) : Billed ns order h w := ⟨hs, fun hne => absurd hnil hne⟩

/-- The invariant, at a provider. -/
abbrev BilledAt (P : Provider W) (ns : Namespace) (order : OrderKey) :
    OrderCondition OrderInput W := fun h w => Billed ns order h (P.holds w)

/-- Nothing is in flight there. -/
abbrev Clear (P : Provider W) : OrderCondition OrderInput W := fun _ w => (P.holds w).flights = []

variable [FaultText] [RustDecimal]

theorem billed_kept (hP : P.Lawful ns order) :
    Kept (orderHost order.text (P.outside ns)) (BilledAt P ns order) where
  initial h := .of_flights_nil h.1 h.2
  drift := by
    rintro h w w' ⟨hs, hown⟩ hd
    have hd := hP.drifts hd
    by_cases hnil : (P.holds w).flights = []
    · have hfades := hd.of_flights_nil hnil
      exact .of_flights_nil (hs.fades hfades) (hfades.1.trans hnil)
    · obtain ⟨marker, hstored, hown⟩ := hown hnil
      exact ⟨hown.sound hs hd, fun _ => ⟨marker, hstored, hown.drift hd⟩⟩
  neutral e he h := by
    refine h.later ?_
    cases e with
    | asked | stored | cleared => cases he
    | _ => rfl

/-- What a read of a slot shows while nothing is in flight: a slot found without a live
document stays so, and so do those that a live one excludes. -/
def SlotFact (P : Provider W) (ns : Namespace) (order : OrderKey)
    (e : Exchange ServiceRequest.Answer) : OrderCondition OrderInput W :=
  fun _ w => (P.holds w).flights = [] ∧ ∀ kind (answer : Except ClientError InvoiceDocument),
    e = ⟨.agent (.query (.externalId (ExternalId.forKind ns order kind).text)), answer⟩ →
      (HoldsNoLive (queryAnswer (.externalId (ExternalId.forKind ns order kind).text) answer) →
        ¬ (P.holds w).LiveIn kind)
      ∧ (HoldsLive (queryAnswer (.externalId (ExternalId.forKind ns order kind).text) answer) →
        ∀ other, kind.excludes other = true → ¬ (P.holds w).LiveIn other)

theorem enduring_clear (hP : P.Lawful ns order) :
    Enduring (orderHost order.text (P.outside ns)) (Clear P) where
  drift h hd := ((hP.drifts hd).of_flights_nil h).1.trans h
  quiet _ _ h := h

/-- **Reading while nothing is in flight.** -/
theorem reading_clear (hP : P.Lawful ns order) :
    ReadingAt (orderHost order.text (P.outside ns)) (BilledAt P ns order) id ServiceRequest.Reads
      (Clear P) (SlotFact P ns order) where
  lasting := (enduring_clear hP).lasting
  facts e :=
    { drift := by
        rintro b h w w' ⟨hnil, hslots⟩ hd
        have hfades := (hP.drifts hd).of_flights_nil hnil
        refine ⟨hfades.1.trans hnil, fun kind answer he => ?_⟩
        obtain ⟨hfree, hexcluded⟩ := hslots kind answer he
        exact ⟨fun hholder hlive => hfree hholder (hfades.liveIn hlive),
          fun hholder other hexcludes hlive =>
            hexcluded hholder other hexcludes (hfades.liveIn hlive)⟩
      quiet := fun _ _ h => h
      lost := fun h => h }
  keeps hr hnil hJ hanswer := by
    obtain rfl := hP.eq_of_reads hanswer hr
    exact ⟨hJ.later rfl, hnil⟩
  keepsFact hr _ _ hfact hanswer := by
    obtain rfl := hP.eq_of_reads hanswer hr
    exact hfact
  establishes := by
    rintro b h w w' r x hr hnil hJ hanswer
    obtain rfl := hP.eq_of_reads hanswer hr
    refine ⟨hnil, fun kind answer he => ?_⟩
    cases he
    have htruth := hP.newestHolder hanswer
    exact ⟨fun hholder => hJ.1.not_liveIn_of_holder htruth hholder,
      fun hholder other hexcludes => hJ.1.apart kind other hexcludes
        (Vendor.liveIn_of_holder htruth hholder)⟩

/-- The exchange is evidence that the create the operation retains has landed. -/
def Evidences (externalId : String) (operation : WriteOperation)
    (e : Exchange ServiceRequest.Answer) : Prop :=
  ∃ (answer : Except ClientError InvoiceDocument) (found : FoundDocument) (kind : IssuedKind)
    (expected base : Option String),
    e = ⟨.agent (.query (.externalId externalId)), answer⟩
      ∧ queryAnswer (.externalId externalId) answer = .ok found
      ∧ operation = .create kind expected base ∧ expected ≠ some found.number

/-- What evidence shows. -/
def LandedFact (P : Provider W) (externalId : String) (operation : WriteOperation)
    (e : Exchange ServiceRequest.Answer) : OrderCondition OrderInput W :=
  fun _ w => Evidences externalId operation e → (P.holds w).flights = []

/-- The own request may be in flight there, and no other. -/
abbrev OwnFlightsAt (P : Provider W) (ns : Namespace) (order : OrderKey) (token externalId : String)
    (operation : WriteOperation) : OrderCondition OrderInput W :=
  fun _ w => OwnFlights ns order token externalId operation (P.holds w)

/-- **Reading while the own request may be in flight.** -/
theorem reading_own (hP : P.Lawful ns order) :
    ReadingAt (orderHost order.text (P.outside ns)) (BilledAt P ns order) id ServiceRequest.Reads
      (OwnFlightsAt P ns order token externalId operation)
      (LandedFact P externalId operation) where
  lasting := { drift := fun h hd => h.drift (hP.drifts hd)
               quiet := fun _ _ h => h
               lost := fun h => h }
  facts e := { drift := fun h hd he => ((hP.drifts hd).of_flights_nil (h he)).1.trans (h he)
               quiet := fun _ _ h => h
               lost := fun h => h }
  keeps hr hown hJ hanswer := by
    obtain rfl := hP.eq_of_reads hanswer hr
    exact ⟨hJ.later rfl, hown⟩
  keepsFact hr _ _ hfact hanswer := by
    obtain rfl := hP.eq_of_reads hanswer hr
    exact hfact
  establishes := by
    rintro b h w w' r x hr hown hJ hanswer
    obtain rfl := hP.eq_of_reads hanswer hr
    rintro ⟨answer, found, kind, expected, base, he, hfound, rfl, hne⟩
    cases he
    refine hown.nil_of_newest fun k hid => ?_
    subst hid
    obtain ⟨d, hd, hnumber, -⟩ := (hP.newestHolder hanswer).of_found hfound
    exact ⟨d, hd, by rwa [hnumber]⟩

omit [FaultText] [RustDecimal] in
/-- **What settles a marker leaves nothing in flight behind it.** -/
theorem nil_of_settledBy {marker : UnresolvedWrite} {t : List (Exchange AgentRequest.Answer)}
    {result : WriteResult} {h : List (OrderEvent OrderInput)} {w : W}
    (hown : OwnFlights ns order marker.token marker.externalId marker.operation (P.holds w))
    (hfacts : ∀ e ∈ t, LandedFact P marker.externalId marker.operation ⟨.agent e.1, e.2⟩ h w)
    (hsettled : SettledBy marker t result) : (P.holds w).flights = [] := by
  unfold SettledBy at hsettled
  cases hop : marker.operation with
  | create kind expected base =>
    rw [hop] at hsettled
    obtain ⟨found, ⟨answer, hmem, hfound⟩, hevidence, -⟩ := hsettled
    exact hfacts _ hmem ⟨answer, found, kind, expected, base, rfl, hfound, hop, hevidence.number_ne⟩
  | storno number =>
    rw [hop] at hown
    exact hown.nil_of_storno
  | delete number =>
    rw [hop] at hsettled
    exact hsettled.elim

/-! ## The writes -/

/-- A call that may send as long as it stands at `R`, and has exchanged `t`: a concluding
reply to its send leaves nothing in flight. -/
def Launched (P : Provider W) (ns : Namespace) (order : OrderKey) (token externalId : String)
    (operation : WriteOperation) (R : List (Exchange AgentRequest.Answer) → Vendor → Prop)
    (send : AgentRequest) (C : send.Answer → Prop) (t : List (Exchange AgentRequest.Answer)) :
    OrderCondition OrderInput W :=
  fun _ w => OwnFlights ns order token externalId operation (P.holds w)
    ∧ (ReadOnly t → R t (P.holds w))
    ∧ ((∃ reply, (⟨send, reply⟩ : Exchange AgentRequest.Answer) ∈ t ∧ C reply) →
      (P.holds w).flights = [])

/-- **What there is to show about a call that sends once**: what holds before its send, and
what its send does to the vendor from there. -/
structure Launch (P : Provider W) (ns : Namespace) (order : OrderKey) (id : InvocationId)
    (token externalId : String) (operation : WriteOperation)
    (R : List (Exchange AgentRequest.Answer) → Vendor → Prop) (send : AgentRequest)
    (C : send.Answer → Prop) (call : Call WriteResult) : Prop where
  mutation : send.isMutation = true
  one : Prog.Ensures call fun tr _ => OneSend send tr
  clear : ∀ t w, R t w → w.flights = []
  drift : ∀ t w w', R t w → Vendor.Drift w w' → R t w'
  reads : ∀ t r (x : AgentRequest.Answer r) w, r.isMutation = false → R t (P.holds w) →
    (P.holds w).Sound → P.answers id w r x w → R (t ++ [⟨r, x⟩]) (P.holds w)
  sends : ∀ t k (x : send.Answer) w w', Prog.Steps call t (.call send k) → R t (P.holds w) →
    (P.holds w).Sound → P.answers id w send x w' → (P.holds w').Sound
      ∧ OwnFlights ns order token externalId operation (P.holds w') ∧ (C x → (P.holds w').flights = [])
  concludes : Prog.Ensures call fun tr result => result.isUnresolved = false →
    ∀ reply, (⟨send, reply⟩ : Exchange AgentRequest.Answer) ∈ tr → C reply

section Launch

variable {R : List (Exchange AgentRequest.Answer) → Vendor → Prop} {send : AgentRequest}
  {C : send.Answer → Prop} {call : Call WriteResult}

/-- **A call that sends once, behind its marker**, keeps the vendor sound. -/
theorem Launch.writes {marker : UnresolvedWrite} (hP : P.Lawful ns order)
    (hL : Launch P ns order id token externalId operation R send C call)
    (htoken : marker.token = token) (hid : marker.externalId = externalId)
    (hop : marker.operation = operation) :
    Writes (orderHost order.text (P.outside ns)) (BilledAt P ns order) id
      (OwnFlightsAt P ns order token externalId operation) (LandedFact P externalId operation)
      (Launched P ns order token externalId operation R send C) (fun _ => Clear P) marker
      call where
  reading := reading_own hP
  sending t :=
    { drift := fun h hd => ⟨h.1.drift (hP.drifts hd),
        fun hro => hL.drift _ _ _ (h.2.1 hro) (hP.drifts hd),
        fun hreply => ((hP.drifts hd).of_flights_nil (h.2.2 hreply)).1.trans (h.2.2 hreply)⟩
      quiet := fun _ _ h => h }
  settling _ := enduring_clear hP
  during_of_sent _ _ _ h := h.1
  opens := by
    intro h w w' x hsent hJ hanswer
    obtain rfl : w' = w := hanswer
    exact ⟨hJ.later rfl, hsent⟩
  asks := by
    rintro t r k hs x h w w' ⟨hown, hR, hreplied⟩ hJ hstored hanswer
    cases hr : r.isMutation with
    -- a query leaves the vendor as it is
    | false =>
      obtain rfl : w' = w := hP.reads hanswer hr
      refine ⟨hJ.later rfl, hown, fun hro => ?_, ?_⟩
      · exact hL.reads t r x w' hr (hR (readOnly_append.mp hro).1) hJ.1 hanswer
      · rintro ⟨reply, hmem, hC⟩
        rcases List.mem_append.mp hmem with hmem | hmem
        · exact hreplied ⟨reply, hmem, hC⟩
        · cases List.mem_singleton.mp hmem
          exact absurd (hr.symm.trans hL.mutation) (by decide)
    -- the only mutation is the send, and nothing but queries came before it
    | true =>
      have hcut : OneSend send (t ++ [⟨r, x⟩]) :=
        hL.one.steps (fun t t' h => h.of_append) (hs.snoc x)
      obtain ⟨rfl, hro⟩ := hcut.last hr
      obtain ⟨hsound, hown', hnil⟩ := hL.sends t k x w w' hs (hR hro) hJ.1 hanswer
      refine ⟨⟨hsound, fun _ => ⟨marker, ?_, ?_⟩⟩, hown', fun hro' => ?_, ?_⟩
      · rw [storedAt_snoc]
        exact hstored
      · rwa [htoken, hid, hop]
      · have := (readOnly_append.mp hro').2 _ List.mem_cons_self
        simp [hr] at this
      · rintro ⟨reply, hmem, hC⟩
        rcases List.mem_append.mp hmem with hmem | hmem
        · have := hro _ hmem
          simp [hr] at this
        · cases List.mem_singleton.mp hmem
          exact hnil hC
  settles t result hr hresolved name h w hsent hJ := by
    obtain ⟨-, hR, hreplied⟩ := hsent
    by_cases hro : ReadOnly t
    · exact hL.clear t _ (hR hro)
    · obtain ⟨e, hmem, he⟩ : ∃ e ∈ t, e.1.isMutation = true := by
        simpa [ReadOnly] using hro
      -- the send was answered, and its answer concludes
      obtain ⟨before, after, rfl⟩ := List.append_of_mem hmem
      obtain ⟨rfl, -⟩ := hL.one _ result hr before e after rfl he
      exact hreplied ⟨e.2, hmem, hL.concludes _ result hr hresolved e.2 hmem⟩
  reconciles diagnostic t result hr hresolved name h w hread hJ := by
    subst htoken hid hop
    exact nil_of_settledBy hread.1 hread.2
      ((reconcileWriteDiagnostic_spec marker diagnostic t result hr).2 hresolved)
  clears result h w hnil hJ hstored := .of_flights_nil hJ.1 hnil

/-- **A protected write that launches** keeps the vendor sound. -/
theorem obeys_launch {exec : Execution} {write : OrderWrite} {seen : Readings} {ctx : Context}
    {send : AgentRequest} {C : send.Answer → Prop} (hP : P.Lawful ns order)
    (hctx : ctx.invocationId = id) (hmode : exec.config.orderExecution = .protected)
    (hinit : ∀ h w, Known (Clear P) (SlotFact P ns order) seen h w → R [] (P.holds w))
    (hL : ∀ marker : UnresolvedWrite, marker.operation = write.operation →
      Launch P ns order id id.text write.externalId.text write.operation R send C
        (write.call exec order marker)) :
    (write.handler exec ctx order).Obeys (orderHost order.text (P.outside ns)) (BilledAt P ns order)
      id (fun m => m = none) false (Holds (Known (Clear P) (SlotFact P ns order) seen)) := by
  subst hctx
  have hfirst := hL (exec.writeMarker ctx order write.externalId write.operation) rfl
  unfold OrderWrite.handler
  rw [if_neg (by simp [hmode, OrderExecution.permitsReplay])]
  have harmed : Enduring (orderHost order.text (P.outside ns))
      (fun (_ : List (OrderEvent OrderInput)) w => R [] (P.holds w)) :=
    { drift := fun h hd => hfirst.drift _ _ _ h (hP.drifts hd)
      quiet := fun _ _ h => h }
  have hwrites : ∀ marker : UnresolvedWrite, (∃ time, marker = { exec.writeMarker ctx order
      write.externalId write.operation with createdAt := Clock.display time }) →
      Writes (orderHost order.text (P.outside ns)) (BilledAt P ns order) ctx.invocationId
        (OwnFlightsAt P ns order ctx.invocationId.text write.externalId.text write.operation)
        (LandedFact P write.externalId.text write.operation)
        (Launched P ns order ctx.invocationId.text write.externalId.text write.operation R send C)
        (fun _ => Clear P) marker (write.call exec order marker) := by
    rintro marker ⟨time, rfl⟩
    exact (hL _ rfl).writes hP rfl rfl rfl
  refine obeys_protectedWrite (reading_clear hP) harmed ?_ hinit ?_ hwrites
  · exact fun marker h w _ hknown hJ _ => .of_flights_nil hJ.1 hknown.1
  · exact fun h w hR =>
      ⟨ownFlights_nil (hfirst.clear _ _ hR), fun _ => hR, fun hmem => by simp at hmem⟩

end Launch

/-! ### Each write -/

section Writes

variable {exec : Execution} {marker : UnresolvedWrite} {write : OrderWrite}

omit [Transport] [Clock] [FaultText] [RustDecimal] in
theorem InFlight.send {change : Change} {flight : Flight}
    (h : InFlight ns order externalId operation w change) :
    InFlight ns order externalId operation (w.send flight) change := by
  cases change with
  | create kind => exact h
  | delete number => exact h

omit [Transport] [Clock] [FaultText] [RustDecimal] in
/-- The request just sent is the one in flight. -/
theorem ownFlights_send {flight : Flight} (hnil : w.flights = []) (hown : flight.owner.text = token)
    (hchange : InFlight ns order externalId operation w flight.change) :
    OwnFlights ns order token externalId operation (w.send flight) :=
  ownFlights_single (by simp [Vendor.send, hnil]) hown hchange.send

omit [Transport] [Clock] [FaultText] [RustDecimal] in
/-- A request that may come, where nothing else is in flight, is the one in flight. -/
theorem ownFlights_mayCome {flight : Flight} (hs : w.Sound) (hnil : w.flights = [])
    (hown : flight.owner.text = token)
    (hchange : InFlight ns order externalId operation w flight.change)
    (h : w.MayCome flight w') : w'.Sound ∧ OwnFlights ns order token externalId operation w' := by
  have hsound : (w.send flight).Sound := ⟨hs.single, hs.apart⟩
  have hsent := ownFlights_send hnil hown hchange
  rcases h with rfl | hd
  · exact ⟨hsound, hsent⟩
  · exact ⟨hsent.sound hsound hd, hsent.drift hd⟩

omit [FaultText] [RustDecimal] in
/-- A send after which documents fade, and that is all. -/
theorem launch_fading (hop : marker.operation = write.operation)
    (hsend : ∀ x w w', P.answers id w (write.send exec) x w' → (P.holds w).Fades (P.holds w')) :
    Launch P ns order id id.text externalId operation (fun _ w => w.flights = []) (write.send exec)
      (fun _ => True) (write.call exec order marker) where
  mutation := by cases write <;> rfl
  one := write.call_oneSend hop
  clear _ _ h := h
  drift _ _ _ h hd := (hd.of_flights_nil h).1.trans h
  reads _ _ _ _ _ h _ _ := h
  sends t k x w w' _ hnil hs hanswer := by
    have hfades := hsend x w w' hanswer
    have hnil' := hfades.1.trans hnil
    exact ⟨hs.fades hfades, ownFlights_nil hnil', fun _ => hnil'⟩
  concludes _ _ _ _ _ _ := trivial

omit [FaultText] [RustDecimal] in
/-- **A deletion** takes the proforma away, or stays in flight behind its marker. -/
theorem launch_delete {externalId : ExternalId} {found : FoundDocument}
    {request : DeleteProformaRequest} (hP : P.Lawful ns order) :
    Launch P ns order id id.text externalId.text (.delete found.number) (fun _ w => w.flights = [])
      (.deleteProforma found.number) DeletionConcludes (protectedDelete found order request.force) where
  mutation := rfl
  one := protectedDelete_oneSend found order request.force
  clear _ _ h := h
  drift _ _ _ h hd := (hd.of_flights_nil h).1.trans h
  reads _ _ _ _ _ h _ _ := h
  sends t k x w w' _ hnil hs hanswer := by
    have hdeleted : Deleted id found.number (P.holds w) x (P.holds w') := hP.deletes hanswer
    cases x with
    | ok =>
      have hremoved : P.holds w' = (P.holds w).remove found.number := hdeleted
      rw [hremoved]
      exact ⟨hs.remove _, ownFlights_nil hnil, fun _ => hnil⟩
    | error error =>
      simp only [Deleted] at hdeleted
      split_ifs at hdeleted with hrefuses
      · rw [hdeleted]
        exact ⟨hs, ownFlights_nil hnil, fun _ => hnil⟩
      · have hflight : InFlight ns order externalId.text (.delete found.number) (P.holds w)
            (.delete found.number) := rfl
        obtain ⟨hsound, hown⟩ := ownFlights_mayCome hs hnil rfl hflight hdeleted
        exact ⟨hsound, hown, fun hC => absurd hC hrefuses⟩
  concludes := protectedDelete_concludes found order request.force

omit [Transport] [Clock] [FaultText] [RustDecimal] in
/-- **What the gate's answer shows**: no live document of the kind, and the expected one, or
none, as the newest. -/
theorem PermitsSend.shows {request : CreateStepRequest} {kind : DocumentKind}
    {selector : InvoiceSelector} {answer : Except ClientError InvoiceDocument}
    (h : PermitsSend request (queryAnswer selector answer)) (hs : w.Sound)
    (htruth : Truthful (w.newest kind) answer) :
    ¬ w.LiveIn kind ∧ w.Standing kind request.reversed := by
  unfold PermitsSend at h
  cases hreversed : request.reversed with
  | none =>
    rw [hreversed] at h
    exact ⟨hs.not_liveIn_of_holder htruth (Or.inl h),
      by simp [Vendor.Standing, htruth.of_notFound h]⟩
  | some expected =>
    rw [hreversed] at h
    obtain ⟨found, hfound, -, -, hnumber, hlive⟩ := h
    refine ⟨hs.not_liveIn_of_holder htruth (Or.inr ⟨found, hfound, hlive⟩), ?_⟩
    obtain ⟨d, hd, hdnumber, -⟩ := htruth.of_found hfound
    simp [Vendor.Standing, hd, hdnumber, hnumber]

/-- Where a create of a kind stands before its send. -/
def Poised (kind : DocumentKind) (request : CreateStepRequest)
    (t : List (Exchange AgentRequest.Answer)) (w : Vendor) : Prop :=
  w.flights = [] ∧ (∀ other, kind.excludes other = true → ¬ w.LiveIn other)
    ∧ ∀ answer : Except ClientError InvoiceDocument,
      (⟨.query (.externalId request.externalId.text), answer⟩ : Exchange AgentRequest.Answer) ∈ t →
        PermitsSend request (queryAnswer (.externalId request.externalId.text) answer) →
          ¬ w.LiveIn kind ∧ w.Standing kind request.reversed

omit [Transport] [Clock] [FaultText] [RustDecimal] in
/-- **A create of a kind** makes the one live document of it, or stays in flight behind its
marker. -/
theorem launch_create {kind : DocumentKind} {request : CreateStepRequest} (hP : P.Lawful ns order)
    (hkind : request.kind = kind.issued) (hid : request.externalId = .forKind ns order kind) :
    Launch P ns order id id.text request.externalId.text request.operation (Poised kind request)
      (.create request.create) request.Concludes (protectedCreate request) where
  mutation := rfl
  one := protectedCreate_oneSend request
  clear _ _ h := h.1
  drift t w w' h hd := by
    obtain ⟨hnil, hapart, hpermitted⟩ := h
    have hfades := hd.of_flights_nil hnil
    refine ⟨hfades.1.trans hnil,
      fun other hexcludes hlive => hapart other hexcludes (hfades.liveIn hlive),
      fun answer hmem hpermits => ?_⟩
    obtain ⟨hclear, hstanding⟩ := hpermitted answer hmem hpermits
    exact ⟨fun hlive => hclear (hfades.liveIn hlive), hfades.standing hclear hstanding⟩
  reads t r x w hr h hs hanswer := by
    obtain ⟨hnil, hapart, hpermitted⟩ := h
    refine ⟨hnil, hapart, fun answer hmem hpermits => ?_⟩
    rcases List.mem_append.mp hmem with hmem | hmem
    · exact hpermitted answer hmem hpermits
    · cases List.mem_singleton.mp hmem
      rw [hid] at hanswer
      exact hpermits.shows hs (hP.newestHolder hanswer)
  -- the gate: the newest query permits the send, so the slot is clear behind it
  sends t k x w w' hsteps h hs hanswer := by
    have hgated : GatedSend request (fun guards => guards = [])
        (t ++ [⟨.create request.create, x⟩]) :=
      ((protectedCreate_ledByGate request).mono (fun _ _ h => h.gatedSend)).steps
        (fun t t' h => h.of_append) (hsteps.snoc x)
    obtain ⟨-, -, -, answer, guards, rfl, hpermits, -⟩ := hgated t _ [] rfl rfl
    obtain ⟨hnil, hapart, hpermitted⟩ := h
    obtain ⟨hclear, hstanding⟩ := hpermitted answer List.mem_cons_self hpermits
    have hflight : InFlight ns order request.externalId.text request.operation (P.holds w)
        (.create kind) :=
      ⟨by rw [hid], ⟨request.reversed, request.correctedNumber, by rw [← hkind]; rfl, hstanding⟩,
        hclear, hapart⟩
    have hcome : (P.holds w).MayCome ⟨id, .create kind⟩ (P.holds w') → (P.holds w').Sound
        ∧ OwnFlights ns order id.text request.externalId.text request.operation (P.holds w') :=
      ownFlights_mayCome hs hnil rfl hflight
    have hcreated : Created id kind (P.holds w) x (P.holds w') :=
      hP.creates hanswer (by rw [← hid, request.agreement.1])
    cases x with
    | ok outcome =>
      cases outcome with
      | issued created =>
        rcases hcreated with hlands | hsame | ⟨⟨d, hd, hnumber⟩, hmay⟩
        · have hnil' := hlands.flights.trans hnil
          exact ⟨hs.lands hlands hclear hapart, ownFlights_nil hnil', fun _ => hnil'⟩
        · rw [hsame]
          exact ⟨hs, ownFlights_nil hnil, fun _ => hnil⟩
        · -- an echo of the expected document concludes nothing
          refine ⟨(hcome hmay).1, (hcome hmay).2, fun hC => absurd ?_ hC⟩
          rw [← hstanding, hd, ← hnumber]
          rfl
      | preview => exact ⟨(hcome hcreated).1, (hcome hcreated).2, fun hC => hC.elim⟩
    | error error =>
      simp only [Created] at hcreated
      split_ifs at hcreated with hrefuses
      · rw [hcreated]
        exact ⟨hs, ownFlights_nil hnil, fun _ => hnil⟩
      · exact ⟨(hcome hcreated).1, (hcome hcreated).2, fun hC => absurd hC hrefuses⟩
  concludes := protectedCreate_concludes request

omit [FaultText] [RustDecimal] in
/-- **What the slots read before a create of a kind show**: nothing live stands against it. -/
theorem not_liveIn_excluded {kind : DocumentKind} {seen : Readings}
    {h : List (OrderEvent OrderInput)} {w : W}
    (hknown : Known (Clear P) (SlotFact P ns order) seen h w)
    (hfree : ∀ other ∈ exclusiveWith kind, SlotSeen HoldsNoLive ns order other.1 seen)
    (hprepaid : kind = .final → SlotSeen HoldsLive ns order .prepayment seen) :
    ∀ other, kind.excludes other = true → ¬ (P.holds w).LiveIn other := by
  have hread : ∀ other, SlotSeen HoldsNoLive ns order other seen →
      ¬ (P.holds w).LiveIn other := by
    rintro other ⟨answer, hmem, hholder⟩
    exact ((hknown.2 _ hmem).2 other answer rfl).1 hholder
  intro other hexcludes
  cases kind with
  | proforma => cases hexcludes
  | invoice =>
    cases other with
    | prepayment => exact hread _ (hfree (.prepayment, .prepaidChain) (by simp [exclusiveWith]))
    | final => exact hread _ (hfree (.final, .prepaidChain) (by simp [exclusiveWith]))
    | proforma | invoice => cases hexcludes
  | prepayment =>
    cases other with
    | invoice => exact hread _ (hfree (.invoice, .prepaidChain) (by simp [exclusiveWith]))
    | proforma | prepayment | final => cases hexcludes
  | final =>
    -- a final invoice reads no other slot; the live prepayment it settles excludes the invoice
    obtain ⟨answer, hmem, hholder⟩ := hprepaid rfl
    cases other with
    | invoice => exact ((hknown.2 _ hmem).2 .prepayment answer rfl).2 hholder .invoice rfl
    | proforma | prepayment | final => cases hexcludes

/-- **Every protected write** keeps the vendor sound. -/
theorem obeys_billed {seen : Readings} {ctx : Context} (hP : P.Lawful ns order)
    (hctx : ctx.invocationId = id) (hmode : exec.config.orderExecution = .protected)
    (hjustified : Justified ns order seen write) :
    (write.handler exec ctx order).Obeys (orderHost order.text (P.outside ns)) (BilledAt P ns order)
      id (fun m => m = none) false
      (Holds (Known (Clear P) (SlotFact P ns order) seen)) := by
  cases write with
  | create request =>
    obtain ⟨-, ⟨kind, hkind, hid, hfree, hprepaid⟩ | ⟨-, correction, hid⟩, -⟩ := hjustified
    · refine obeys_launch hP hctx hmode
        (fun h w hknown => ⟨hknown.1, ?_, fun _ hmem => by simp at hmem⟩)
        (fun marker _ => launch_create hP hkind hid)
      exact not_liveIn_excluded hknown hfree hprepaid
    · refine obeys_launch hP hctx hmode (fun h w hknown => hknown.1)
        (fun marker hop => launch_fading hop fun x w w' hanswer =>
          hP.elsewhere hanswer fun kind heq => ?_)
      rw [request.agreement.1, hid] at heq
      exact forCorrective_text_ne kind (Option.some.inj heq)
  | storno request original =>
    exact obeys_launch hP hctx hmode (fun h w hknown => hknown.1)
      (fun marker hop => launch_fading hop fun x w w' hanswer => hP.stornos hanswer)
  | delete externalId found request =>
    exact obeys_launch hP hctx hmode (fun h w hknown => hknown.1) (fun marker _ => launch_delete hP)

end Writes

/-! ## The recovery -/

/-- What a recovery is admitted with: an attestation is true of what is in flight. -/
def RecoveryAdmitted (P : Provider W) (input : OrderInput) : OrderCondition OrderInput W :=
  fun _ w => ∀ body, input.request = .recover (.ok body) →
    (∀ number, body.request.evidence ≠ .document number) →
      ∀ flight ∈ (P.holds w).flights, flight.owner.text ≠ body.request.marker.token

/-- What a recovery knows once it has found its marker. -/
def RecoveryFound (P : Provider W) (ns : Namespace) (order : OrderKey) (request : RecoveryRequest) :
    OrderCondition OrderInput W :=
  fun _ w => OwnFlights ns order request.marker.token request.marker.externalId
      request.marker.operation (P.holds w)
    ∧ ((∀ number, request.evidence ≠ .document number) → (P.holds w).flights = [])

omit [FaultText] [RustDecimal] in
theorem recoveryFound_of_billed {input : OrderInput} {body : RecoveryBody}
    {h : List (OrderEvent OrderInput)} {w : W} (hrequest : input.request = .recover (.ok body))
    (hstart : RecoveryAdmitted P input h w) (hJ : BilledAt P ns order h w)
    (hstored : storedAt h = some body.request.marker) :
    RecoveryFound P ns order body.request h w := by
  by_cases hnil : (P.holds w).flights = []
  · exact ⟨ownFlights_nil hnil, fun _ => hnil⟩
  · obtain ⟨marker, hmarker, hown⟩ := hJ.2 hnil
    obtain rfl := Option.some.inj (hstored.symm.trans hmarker)
    refine ⟨hown, fun hattested => ?_⟩
    rw [List.eq_nil_iff_forall_not_mem]
    exact fun flight hmem => hstart body hrequest hattested flight hmem (hown.own flight hmem)

theorem enduring_found {request : RecoveryRequest} (hP : P.Lawful ns order) :
    Enduring (orderHost order.text (P.outside ns)) (RecoveryFound P ns order request) where
  drift h hd := ⟨h.1.drift (hP.drifts hd),
    fun ha => ((hP.drifts hd).of_flights_nil (h.2 ha)).1.trans (h.2 ha)⟩
  quiet _ _ h := h

theorem reading_found {request : RecoveryRequest} (hP : P.Lawful ns order) :
    ReadingAt (orderHost order.text (P.outside ns)) (BilledAt P ns order) id ServiceRequest.Reads
      (RecoveryFound P ns order request)
      (LandedFact P request.marker.externalId request.marker.operation) := by
  have hown : ReadingAt (orderHost order.text (P.outside ns)) (BilledAt P ns order) id
      ServiceRequest.Reads (OwnFlightsAt P ns order request.marker.token
        request.marker.externalId request.marker.operation)
      (LandedFact P request.marker.externalId request.marker.operation) := reading_own hP
  exact
    { lasting := (enduring_found hP).lasting
      facts := hown.facts
      keeps := fun hr h hJ hanswer => by
        obtain ⟨hJ', hown'⟩ := hown.keeps (b := false) hr h.1 hJ hanswer
        obtain rfl := hP.eq_of_reads hanswer hr
        exact ⟨hJ', hown', h.2⟩
      keepsFact := fun hr h => hown.keepsFact (b := false) hr h.1
      establishes := fun hr h => hown.establishes (b := false) hr h.1 }

/-- **A recovery clears a marker with nothing in flight behind it.** -/
theorem recovers_billed {request : RecoveryRequest} (hP : P.Lawful ns order) :
    Recovers (orderHost order.text (P.outside ns)) (BilledAt P ns order) id
      (RecoveryFound P ns order request)
      (LandedFact P request.marker.externalId request.marker.operation)
      (Clear P) (Clear P) request where
  reading := reading_found hP
  verifying := enduring_clear hP
  recovering := enduring_clear hP
  documents number t result hnumber hr hok name h w hread hJ := by
    have hevidence : result.isEvidence = true := by
      cases result with
      | create | storno | delete => rfl
      | answered | unresolved => cases hok
    have hsettled := (reconcileWriteChecked_spec _ _ t _ hr).2 result rfl hevidence
    exact nil_of_settledBy hread.1.1 hread.2 hsettled
  attestations hother _ h w hfound := hfound.2 hother
  records h w hnil := hnil
  clears h w hnil hJ _ := .of_flights_nil hJ.1 hnil

/-! ## Runs -/

/-- **Every exclusive handler** of a protected order keeps the vendor sound. -/
theorem obeys_billing {input : OrderInput} (hP : P.Lawful ns order)
    (hmode : input.config.orderExecution = .protected) (hns : input.config.namespace = ns) :
    (input.request.handler input.config ⟨input.scope, order.text, id⟩).Obeys
      (orderHost order.text (P.outside ns)) (BilledAt P ns order) id (fun _ => True) false
      (Holds (RecoveryAdmitted P input)) := by
  refine obeys_request (reading_clear hP) ?_ ?_ ?_
  · intro h w _ hJ hstored
    by_contra hne
    obtain ⟨marker, hmarker, -⟩ := hJ.2 hne
    cases hstored.symm.trans hmarker
  · intro order' exec write seen hkey hconfig hjustified
    obtain rfl : order' = order := OrderKey.ext hkey
    rw [hns] at hjustified
    exact obeys_billed hP rfl (by rw [hconfig]; exact hmode) hjustified
  · exact fun body hrequest => obeys_recoverMarker (fun _ => recovers_billed hP)
      (enduring_found hP) (fun h w hs hJ hstored => recoveryFound_of_billed hrequest hs hJ hstored)

section Reachable

variable {s : OrderSystem W}

theorem billed_of_reachable (hP : P.Lawful ns order)
    (hs : Reachable (orderHost order.text (P.outside ns)) s) :
    Billed ns order s.history (P.holds s.world) ∧ storedAt s.history = s.stored := by
  refine reachable_invariant (billed_kept hP) (fun id input h w _ _ hadmits => ?_) hs
  obtain ⟨hmode, hns, hrecovery⟩ := hadmits
  refine ⟨Holds (RecoveryAdmitted P input), ?_, hrecovery, obeys_billing hP hmode hns⟩
  exact { drift := fun h hd body hrequest hattested flight hmem =>
            h body hrequest hattested flight ((hP.drifts hd).flights_subset hmem)
          quiet := fun _ _ h => h
          lost := fun h => h }

omit [Unicode] [Transport] [Clock] [FaultText] [RustDecimal] in
theorem length_live_le_one {l : List VendorDocument}
    (h : l.Pairwise fun _ older => older.live = false) : (l.filter fun d => d.live).length ≤ 1 := by
  cases l with
  | nil => exact Nat.zero_le 1
  | cons newest older =>
    have hdead : older.filter (fun d => d.live) = [] :=
      List.filter_eq_nil_iff.mpr fun d hmem => by simp [(List.pairwise_cons.mp h).1 d hmem]
    rw [List.filter_cons, hdead]
    split <;> simp

/-- **A protected order is billed once**, whatever is lost, replayed, cancelled or lands
late: of each kind at most one document is live, and no live invoice stands beside a live
prepayment or final invoice. -/
theorem billed_once (hP : P.Lawful ns order)
    (hs : Reachable (orderHost order.text (P.outside ns)) s) :
    (∀ kind, (((P.holds s.world).slot kind).filter fun d => d.live).length ≤ 1)
      ∧ ∀ kind other, kind.excludes other = true → (P.holds s.world).LiveIn kind →
        ¬ (P.holds s.world).LiveIn other :=
  ⟨fun kind => length_live_le_one ((billed_of_reachable hP hs).1.1.single kind),
    (billed_of_reachable hP hs).1.1.apart⟩

/-- **What may still land is never forgotten**: at most one request is in flight, and the
stored marker is its owner's and retains it. -/
theorem flights_retained (hP : P.Lawful ns order)
    (hs : Reachable (orderHost order.text (P.outside ns)) s) :
    (P.holds s.world).flights.length ≤ 1 ∧ ∀ flight ∈ (P.holds s.world).flights,
      ∃ marker, s.stored = some marker ∧ marker.token = flight.owner.text
        ∧ InFlight ns order marker.externalId marker.operation (P.holds s.world) flight.change := by
  obtain ⟨⟨-, hretained⟩, hstored⟩ := billed_of_reachable hP hs
  by_cases hnil : (P.holds s.world).flights = []
  · simp [hnil]
  · obtain ⟨marker, hmarker, hown⟩ := hretained hnil
    exact ⟨hown.one, fun flight hmem =>
      ⟨marker, hstored.symm.trans hmarker, (hown.own flight hmem).symm, hown.change flight hmem⟩⟩

end Reachable

end Kept

end Billing

/-! ## The conversion of a proforma -/

section Sample

local instance billedUnicode : Unicode := sampleUnicode

local instance billedTransport : Transport := sampleTransport

local instance billedClock : Clock := observedClock

local instance billedFaultText : FaultText := observedFaultText

local instance billedDecimal : RustDecimal := RustDecimal.exact

/-- The provider that does whatever the laws allow. -/
def permissive (ns : Namespace) (order : OrderKey) : Provider Vendor where
  answers id w
    | .query selector, answer, w' => w' = w ∧ ∀ kind,
        selector = .externalId (ExternalId.forKind ns order kind).text →
          Truthful (w.newest kind) answer
    | .create create, reply, w' =>
        (∀ kind, create.externalId = some (ExternalId.forKind ns order kind).text →
          Created id kind w reply w')
        ∧ ((∀ kind, create.externalId ≠ some (ExternalId.forKind ns order kind).text) → w.Fades w')
    | .storno _, _, w' => w.Fades w'
    | .deleteProforma number, reply, w' => Deleted id number w reply w'
  drift := Vendor.Drift
  holds w := w

theorem lawful_permissive (ns : Namespace) (order : OrderKey) :
    (permissive ns order).Lawful ns order where
  reads {id w request x w'} h hr := by
    cases request with
    | query => exact h.1
    | create | storno | deleteProforma => cases hr
  newestHolder h := h.2 _ rfl
  creates h hid := h.1 _ hid
  elsewhere h hid := h.2 hid
  stornos h := h
  deletes h := h
  drifts h := h

/-- The live proforma `D-1`, and nothing else. -/
def proformaOnly : Vendor where
  slot kind := if kind = .proforma then [⟨"D-1", true⟩] else []
  flights := []

theorem sound_proformaOnly : proformaOnly.Sound where
  single kind := by
    unfold proformaOnly
    dsimp only
    split_ifs <;> simp
  apart kind other hexcludes hlive := by
    obtain ⟨d, hmem, -⟩ := hlive
    cases kind with
    | proforma => cases hexcludes
    | invoice | prepayment | final => cases hmem

/-- `D-1` is gone. -/
def proformaGone : Vendor := ⟨fun _ => [], []⟩

theorem fades_proformaGone : proformaOnly.Fades proformaGone := by
  refine ⟨rfl, fun kind => ?_⟩
  cases kind with
  | proforma => exact .converted rfl .nil
  | invoice | prepayment | final => exact .nil

def plusTen : Decimal := ⟨false, 10, 0, Decimal.ten_lt_bound, Decimal.zero_le_places⟩

def plusOne : Decimal := ⟨false, 1, 0, Decimal.one_lt_bound, Decimal.zero_le_places⟩

/-- One row of ten. -/
def invoicedDocument : DocumentInput where
  buyer := { name := "Buyer", zip := "1000", city := "Budapest", address := "Main street 1" }
  items := [
    { name := "Row"
      quantity := plusOne
      unit := "pcs"
      unitPrice := plusTen
      vatRate := "AAM"
      amounts := some ⟨plusTen, .zero, plusTen⟩ }]
  fulfillmentDate := sampleDate
  dueDate := sampleDate
  paymentMethod := .transfer

/-- The create of an invoice for the order. -/
def invoicedInput : OrderInput where
  config := correctedConfig
  scope := none
  request := .create .invoice (.ok { document := invoicedDocument })

abbrev invoicedSlot : ExternalId := .forKind correctedConfig.namespace correctedOrder .invoice

/-- What it refers to. -/
abbrev invoicedRefs : Refs := { proforma := some "D-1", ourNumbers := ["D-1"] }

/-- The create is built, and sent as it is. -/
theorem invoiced_build : ∃ create request,
    correctedExecution.build .invoice invoicedDocument correctedOrder invoicedSlot
        { proforma := some "D-1" } = .ok create
      ∧ CreateStepRequest.new invoicedSlot .invoice correctedOrder create none none
        = .ok request := by
  have hbuilt : (match correctedExecution.account.buildCreate .invoice invoicedDocument
      correctedOrder invoicedSlot { proforma := some "D-1" } with
      | .ok create => create.sendable
        && (CreateStepRequest.new invoicedSlot .invoice correctedOrder create none none).isOk
      | .error _ => false) = true := by decide +kernel
  split at hbuilt
  · rename_i create hcreate
    obtain ⟨hsendable, hrequest⟩ := Bool.and_eq_true_iff.mp hbuilt
    cases hnew : CreateStepRequest.new invoicedSlot .invoice correctedOrder create none none with
    | error error =>
      rw [hnew] at hrequest
      cases hrequest
    | ok request =>
      exact ⟨create, request, Execution.build_of_sendable hcreate hsendable, hnew⟩
  · cases hbuilt

/-- The document is one the handler accepts. -/
theorem invoiced_prepare : correctedExecution.prepare correctedOrder .invoice
    { document := invoicedDocument }
      = .ok ⟨correctedOrder, invoicedDocument, none, .auto⟩ := by
  have hsendable : (match correctedExecution.account.buildCreate .invoice invoicedDocument
      correctedOrder ⟨"-"⟩ { prepayment := some "-", corrected := some "-" } with
      | .ok create => create.sendable
      | .error _ => false) = true := by decide +kernel
  split at hsendable
  · rename_i create hcreate
    have hbuild := Execution.build_of_sendable hcreate hsendable
    have hvalid : correctedExecution.validateDocument .invoice invoicedDocument correctedOrder
        = .ok () := by
      unfold Execution.validateDocument
      rw [if_neg (by decide +kernel), hbuild]
      rfl
    unfold Execution.prepare
    rw [if_neg (by decide)]
    show (correctedExecution.validateDocument .invoice invoicedDocument correctedOrder
      >>= fun _ => pure _) = _
    rw [hvalid]
    rfl
  · cases hsendable

/-- szamlazz.hu behind the order. -/
abbrev invoicedWorld : Outside Vendor :=
  (permissive correctedConfig.namespace correctedOrder).outside correctedConfig.namespace

/-- The answer that an external id has no holder. -/
def noHolder : Except ClientError InvoiceDocument := .error (.api ⟨.missingData, ""⟩)

theorem serves_proformaOnly : ServesDeletion invoicedWorld proformaOnly where
  gateway := rfl
  resolve := rfl
  now := rfl
  query := ⟨rfl, fun kind h => by cases h⟩

theorem forKind_text_inj {ns : Namespace} {order : OrderKey} {kind other : DocumentKind}
    (h : (ExternalId.forKind ns order kind).text = (ExternalId.forKind ns order other).text) :
    kind = other := by
  have heq := Composition.eq_of_externalId_eq (c := .kind ns order kind) (d := .kind ns order other)
    rfl rfl (congrArg ExternalId.mk h)
  cases heq
  rfl

/-- What the slot of a kind answers. -/
theorem answers_slot {kind : DocumentKind} {answer : Except ClientError InvoiceDocument}
    (h : Truthful (proformaOnly.newest kind) answer) :
    invoicedWorld.answers deletionId proformaOnly (.agent (.query (.externalId
      (ExternalId.forKind correctedConfig.namespace correctedOrder kind).text))) answer
      proformaOnly := by
  refine ⟨rfl, fun other heq => ?_⟩
  obtain rfl := forKind_text_inj (InvoiceSelector.externalId.inj heq)
  exact h

/-- A read that the world answers. -/
theorem passes_reading {T : Type} [Journaled T] {name : String} {p : Call (Except Unanswered T)}
    {tr : List (Exchange AgentRequest.Answer)} {value : T} (hrun : Prog.Runs p tr (.ok value))
    (hanswers : ∀ e ∈ tr, invoicedWorld.answers deletionId proformaOnly (.agent e.1) e.2 proformaOnly) :
    Passes invoicedWorld proformaOnly (runReading name p) value := by
  refine passes_run ?_
  rintro ⟨flag, stored, h, world⟩ rfl
  exact ⟨_, carries_gateway (.ok ()) rfl ((carries_call hrun hanswers).bind .ret), rfl⟩

/-- The lookup of a slot. -/
theorem passes_lookup {name : String} {kind : DocumentKind} {outcome : OwnershipOutcome}
    {answer : Except ClientError InvoiceDocument}
    (htruth : Truthful (proformaOnly.newest kind) answer)
    (houtcome : ownership (classifySeen correctedOrder kind.issued (queryAnswer (.externalId
      (ExternalId.forKind correctedConfig.namespace correctedOrder kind).text) answer))
      = .ok outcome) :
    Passes invoicedWorld proformaOnly (Handler.lookup name
      (.forKind correctedConfig.namespace correctedOrder kind) correctedOrder kind.issued) outcome := by
  intro σ hσ
  have hrun : Prog.Runs (lookupOurs (.forKind correctedConfig.namespace correctedOrder kind)
      correctedOrder kind.issued) [⟨.query (.externalId
        (ExternalId.forKind correctedConfig.namespace correctedOrder kind).text), answer⟩]
      (.ok outcome) := Prog.runs_call.mpr ⟨answer, _, rfl, Prog.runs_ret.mpr ⟨rfl, houtcome⟩⟩
  have hreading : Passes invoicedWorld proformaOnly (runReading name (lookupOurs
      (.forKind correctedConfig.namespace correctedOrder kind) correctedOrder kind.issued))
      outcome := by
    refine passes_reading hrun fun e he => ?_
    obtain rfl := List.mem_singleton.mp he
    exact answers_slot htruth
  obtain ⟨σ', hpasses, hkept⟩ := hreading σ hσ
  exact ⟨σ', hpasses.mapFault _, hkept⟩

/-- A slot without a document. -/
theorem passes_absent {name : String} {kind : DocumentKind} (hkind : kind ≠ .proforma) :
    Passes invoicedWorld proformaOnly (Handler.lookup name
      (.forKind correctedConfig.namespace correctedOrder kind) correctedOrder kind.issued)
      .absent := by
  have hnone : Truthful (proformaOnly.newest kind) noHolder := by
    intro _
    simp [Vendor.newest, proformaOnly, hkind]
  refine passes_lookup hnone ?_
  cases kind <;> rfl

theorem passes_existing : Passes invoicedWorld proformaOnly
    (existingTarget correctedOrder (.ofKind correctedConfig.namespace correctedOrder .invoice) none)
    none :=
  (passes_absent (by decide)).bind ((passes_lift rfl).bind (passes_pure none))

/-- The invoice is to convert `D-1`. -/
theorem passes_references : Passes invoicedWorld proformaOnly
    (correctedExecution.references ⟨correctedOrder, invoicedDocument, none, .auto⟩
      (.ofKind correctedConfig.namespace correctedOrder .invoice) .invoice) (.inr invoicedRefs) := by
  have hfree : ∀ {other : DocumentKind} {reason : Contract.ConflictReason}, other ≠ .proforma →
      Passes invoicedWorld proformaOnly (correctedExecution.exclusivity correctedOrder
        (.ofKind correctedConfig.namespace correctedOrder .invoice) other reason) none :=
    fun hother => (passes_absent hother).bind (passes_lift rfl)
  have hexcluded : Passes invoicedWorld proformaOnly (correctedExecution.exclusivities correctedOrder
      (.ofKind correctedConfig.namespace correctedOrder .invoice) (exclusiveWith .invoice)) none :=
    (hfree (by decide)).bind ((hfree (by decide)).bind (passes_pure none))
  have htruth : Truthful (proformaOnly.newest .proforma) (.ok deletedDocument) :=
    ⟨⟨"D-1", true⟩, rfl, rfl, by decide⟩
  have hproforma : Passes invoicedWorld proformaOnly (Handler.lookup "lookup-proforma"
      (.forKind correctedConfig.namespace correctedOrder .proforma) correctedOrder .proforma)
      (.live deletedFound) := passes_lookup htruth (by decide +kernel)
  have hlinked : Passes invoicedWorld proformaOnly (correctedExecution.proformaLink
      ⟨correctedOrder, invoicedDocument, none, .auto⟩
      (.ofKind correctedConfig.namespace correctedOrder .invoice) {}) (.inr invoicedRefs) :=
    hproforma.bind (passes_lift (by decide +kernel))
  exact hexcluded.bind ((passes_pure _).bind ((passes_pure _).bind (hlinked.bind
    ((passes_pure _).bind (passes_pure _)))))

/-- The create of an invoice, as it is to be issued. -/
def invoicedIntent (create : CreateInvoice) : Intent where
  identity := .ofKind correctedConfig.namespace correctedOrder .invoice
  create := create
  correctedNumber := none
  reissue := none
  ourNumbers := ["D-1"]

/-- The newest document under the order is the proforma, which is ours. -/
theorem passes_lookupStep (create : CreateInvoice) : Passes invoicedWorld proformaOnly
    (correctedExecution.lookupStep correctedOrder (invoicedIntent create)) .absent := by
  have hrun : Prog.Runs ((invoicedIntent create).lookupCall correctedOrder .protected)
      [⟨.query (.externalId invoicedSlot.text), noHolder⟩,
        ⟨.query (.orderNumber "A-1"), .ok deletedDocument⟩] (.ok .absent) :=
    Prog.runs_call.mpr ⟨noHolder, _, rfl, Prog.runs_call.mpr ⟨.ok deletedDocument, _, rfl,
      Prog.runs_ret.mpr ⟨rfl, rfl⟩⟩⟩
  refine passes_reading hrun fun e he => ?_
  rcases List.mem_cons.mp he with rfl | he
  · exact answers_slot (fun _ => rfl)
  · obtain rfl := List.mem_singleton.mp he
    exact ⟨rfl, fun kind h => by cases h⟩

/-- The marker of the create. -/
def invoicedMarker : UnresolvedWrite :=
  { correctedExecution.writeMarker sampleContext correctedOrder invoicedSlot
      (.create .invoice none none) with createdAt := "2024-01-01T00:00:00Z" }

/-- Where nothing holds the id, a new document is sent. -/
theorem protectedCreate_sends {request : CreateStepRequest} (hreversed : request.reversed = none) :
    ∃ k, protectedCreate request
        = Prog.call (AgentRequest.query (.externalId request.externalId.text)) k
      ∧ ∃ k', k noHolder = Prog.call (AgentRequest.create request.create) k' := by
  have hpermits : PermitsSend request
      (queryAnswer (.externalId request.externalId.text) noHolder) := by
    rw [PermitsSend, hreversed]
    rfl
  unfold protectedCreate
  rw [settledByQuery_bind]
  refine ⟨_, rfl, ?_⟩
  rw [(settledBy_eq_none_iff _).mpr hpermits]
  exact ⟨_, rfl⟩

/-- **An execution with the permission sends**, once its guard has been read. -/
theorem reachable_of_permitted {i : OrderInput} {name : String} {body : Closure ServiceRequest.Answer Journal TerminalError}
    {kont : Except TerminalError Journal → Flow ServiceRequest.Answer UnresolvedWrite Journal
      TerminalError (Except HandlerError OrderAnswer)}
    {σ : OrderSpot OrderInput Vendor} {write : Call WriteResult} {read send : AgentRequest}
    {k : read.Answer → Call WriteResult} {k' : send.Answer → Call WriteResult} {x : read.Answer}
    {reply : send.Answer} {w' : Vendor}
    (h : CanRun (orderHost "A-1" invoicedWorld) deletionId i name body kont
      (Handler.closure (protectedClosure write)) σ) (hflag : σ.flag = true)
    (hgateway : invoicedWorld.answers deletionId σ.world .gateway (Except.ok () : Except Fault Unit)
      σ.world)
    (hwrite : write = Prog.call read k)
    (hread : invoicedWorld.answers deletionId σ.world (.agent read) x σ.world)
    (hsend : k x = Prog.call send k')
    (hreply : invoicedWorld.answers deletionId σ.world (.agent send) reply w') :
    ∃ c more, Reachable (orderHost "A-1" invoicedWorld) ⟨σ.stored, c,
      σ.history ++ more ++ [.asked deletionId (.agent send) reply], w'⟩ := by
  obtain ⟨flag, stored, history, w⟩ := σ
  subst hflag hwrite
  have hopened := h.swapped.asked (Except.ok () : Except Fault Unit) hgateway
  have hguarded : CanRun (orderHost "A-1" invoicedWorld) deletionId i name body kont
      (Handler.closure (Inside.call (k x) >>= fun result => pure (Closed.done result))) _ :=
    hopened.asked x hread
  rw [hsend] at hguarded
  obtain ⟨j, hs⟩ := hguarded.asked reply hreply
  exact ⟨_, [.asked deletionId .gateway (Except.ok () : Except Fault Unit),
    .asked deletionId (.agent read) x], by simpa [Spot.add, Event.effect] using hs⟩

/-- **The create is sent**, behind its marker. -/
theorem reach_invoiced : ∃ request : CreateStepRequest, request.externalId = invoicedSlot
    ∧ ∀ (reply : Except ClientError CreationOutcome) (w' : Vendor),
      invoicedWorld.answers deletionId proformaOnly (.agent (.create request.create)) reply w' →
        ∃ c h, Reachable (orderHost "A-1" invoicedWorld) ⟨some invoicedMarker, c, h, w'⟩ := by
  obtain ⟨create, request, hbuild, hnew⟩ := invoiced_build
  obtain ⟨hid, hkind, horder, -, hreversed, hcorrected⟩ := CreateStepRequest.of_new hnew
  have hoperation : request.operation = .create .invoice none none := by
    rw [CreateStepRequest.operation, hkind, hreversed, hcorrected]
  have hinitial : (orderHost "A-1" invoicedWorld).initial proformaOnly :=
    ⟨sound_proformaOnly, rfl⟩
  -- the run up to the send, one read after another in the world that has a proforma only
  have hstart : CanReach (orderHost "A-1" invoicedWorld) deletionId invoicedInput
      ((orderHost "A-1" invoicedWorld).program deletionId invoicedInput)
      ⟨false, none, [.invoked deletionId invoicedInput], proformaOnly⟩ :=
    canReach_start (.start hinitial) (fun _ he => by cases he)
      ⟨rfl, rfl, fun body h => by cases h⟩
  have hguard : guard.Conducts (orderHost "A-1" invoicedWorld) deletionId
      ⟨false, none, [.invoked deletionId invoicedInput], proformaOnly⟩ () _ :=
    Handler.conducts_stored.bind Handler.conducts_pure
  obtain ⟨σ₁, hprologue, hstored₁, hw₁, -⟩ := passes_prologue serves_proformaOnly correctedConfig
    ⟨false, none, [.invoked deletionId invoicedInput], proformaOnly⟩ rfl
  obtain ⟨σ₂, hexisting, hstored₂, hw₂, -⟩ := passes_existing σ₁ hw₁
  obtain ⟨σ₃, hreferences, hstored₃, hw₃, -⟩ := passes_references σ₂ hw₂
  obtain ⟨σ₄, hlookup, hstored₄, hw₄, -⟩ := passes_lookupStep create σ₃ hw₃
  rw [← Flow.bind_ret ((orderHost "A-1" invoicedWorld).program deletionId invoicedInput)] at hstart
  have hhandler : CanReach (orderHost "A-1" invoicedWorld) deletionId invoicedInput
      (ExceptT.run (createKind .invoice correctedConfig sampleContext
          (.ok { document := invoicedDocument }))
        >>= fun x => ExceptT.bindCont (fun response => pure (OrderAnswer.create response)) x
          >>= Flow.ret) _ := Handler.reach_inner hstart
  have hrequest := (Handler.conducts_lift (a := ({ document := invoicedDocument } : CreateRequest))
    rfl).reach hhandler
  have hkeyed := (Handler.conducts_lift (a := correctedOrder) rfl).reach hrequest
  have hadmitted := hprologue.reach (hguard.reach hkeyed)
  have hprepared := (Handler.conducts_lift invoiced_prepare).reach hadmitted
  have hreferred := hreferences.reach (hexisting.reach hprepared)
  have hbuilt := (Handler.conducts_lift hbuild).reach hreferred
  have hlooked := (hlookup.mapFault _).reach hbuilt
  have hdecided := (Handler.conducts_lift (a := (.inr none : Contract.CreateResponse ⊕ Option String))
    rfl).reach hlooked
  have hstep := Handler.reach_inner hdecided
  have hwrite := (Handler.conducts_lift (congrArg (Except.mapError _) hnew)).reach hstep
  have hprotected := Handler.reach_inner hwrite
  have hprepare : ∀ σ : OrderSpot OrderInput Vendor, Carries (orderHost "A-1" invoicedWorld)
      deletionId (prepareClosure (correctedExecution.writeMarker sampleContext request.order
        request.externalId request.operation)) σ (.done invoicedMarker)
        (σ.add (.asked deletionId .now "2024-01-01T00:00:00Z")) := by
    intro σ
    rw [horder, hid, hoperation]
    exact carries_now "2024-01-01T00:00:00Z" rfl .ret
  have hnow := (Handler.conducts_run (hprepare _)).reach hprotected
  have hstored := (Handler.conducts_store invoicedMarker).reach hnow
  have harmed := (Handler.conducts_run (T := Unit) (.swap .ret)).reach hstored
  obtain ⟨k, hquery, k', hsend⟩ := protectedCreate_sends hreversed
  have hholder : invoicedWorld.answers deletionId σ₄.world (.agent (.query (.externalId
      request.externalId.text))) noHolder σ₄.world := by
    have hnone : Truthful (proformaOnly.newest .invoice) noHolder := fun _ => rfl
    rw [hw₄, hid]
    exact answers_slot hnone
  refine ⟨request, hid, fun reply w' hreply => ?_⟩
  rw [← hw₄] at hreply
  obtain ⟨c, more, hs⟩ := reachable_of_permitted (CanReach.begun harmed) rfl rfl hquery hholder
    hsend hreply
  exact ⟨c, _, hs⟩

/-- How the create is answered. -/
theorem answers_invoiced {request : CreateStepRequest} (hid : request.externalId = invoicedSlot)
    {reply : Except ClientError CreationOutcome} {w' : Vendor}
    (h : Created deletionId .invoice proformaOnly reply w') :
    invoicedWorld.answers deletionId proformaOnly (.agent (.create request.create)) reply w' := by
  have hattached : request.create.externalId = some invoicedSlot.text := by
    rw [request.agreement.1, hid]
  refine ⟨fun kind hkind => ?_, fun hnone => absurd hattached (hnone .invoice)⟩
  obtain rfl := forKind_text_inj (Option.some.inj (hattached.symm.trans hkind))
  exact h

/-- The invoice `INV-1`. -/
def invoicedCreated : CreatedInvoice where
  invoiceNumber := "INV-1"
  nonblank := by decide
  documentId := some 6
  netTotal := some plusTen
  grossTotal := some plusTen
  outstanding := some plusTen
  customerAccountUrl := none
  notificationDeliveryFailed := false

/-- **A proforma is converted**: `INV-1` is live and `D-1` is gone. -/
theorem billed_once_sample : ∃ s : OrderSystem Vendor, Reachable
    (orderHost correctedOrder.text
      ((permissive correctedConfig.namespace correctedOrder).outside correctedConfig.namespace)) s
      ∧ s.world.LiveIn .invoice ∧ s.world.slot .proforma = []
      ∧ ((s.world.slot .invoice).filter fun d => d.live).length ≤ 1
      ∧ ¬ s.world.LiveIn .prepayment := by
  obtain ⟨request, hid, hsent⟩ := reach_invoiced
  have hlands : Created deletionId .invoice proformaOnly (.ok (.issued invoicedCreated))
      (proformaGone.land .invoice "INV-1") := Or.inl ⟨proformaGone, fades_proformaGone, rfl⟩
  obtain ⟨c, h, hs⟩ := hsent _ _ (answers_invoiced hid hlands)
  have hs : Reachable (orderHost correctedOrder.text ((permissive correctedConfig.namespace
      correctedOrder).outside correctedConfig.namespace)) _ := hs
  have hlive : (proformaGone.land .invoice "INV-1").LiveIn .invoice :=
    ⟨_, List.mem_cons_self, rfl⟩
  obtain ⟨hone, hapart⟩ := billed_once (lawful_permissive correctedConfig.namespace correctedOrder) hs
  exact ⟨_, hs, hlive, rfl, hone .invoice, hapart .invoice .prepayment rfl hlive⟩

/-- Its create, the reply lost, may still land, and its marker retains it. -/
theorem flights_retained_sample : ∃ s : OrderSystem Vendor, Reachable
    (orderHost correctedOrder.text
      ((permissive correctedConfig.namespace correctedOrder).outside correctedConfig.namespace)) s
      ∧ ⟨deletionId, .create .invoice⟩ ∈ s.world.flights
      ∧ ∃ marker, s.stored = some marker ∧ marker.token = deletionId.text
        ∧ InFlight correctedConfig.namespace correctedOrder marker.externalId marker.operation
          s.world (.create .invoice) := by
  obtain ⟨request, hid, hsent⟩ := reach_invoiced
  have hlost : Created deletionId .invoice proformaOnly (.error (.incompleteResponse 200))
      (proformaOnly.send ⟨deletionId, .create .invoice⟩) := Or.inl rfl
  obtain ⟨c, h, hs⟩ := hsent _ _ (answers_invoiced hid hlost)
  have hs : Reachable (orderHost correctedOrder.text ((permissive correctedConfig.namespace
      correctedOrder).outside correctedConfig.namespace)) _ := hs
  have hretained :=
    (flights_retained (lawful_permissive correctedConfig.namespace correctedOrder) hs).2
  exact ⟨_, hs, List.mem_cons_self, hretained _ List.mem_cons_self⟩

end Sample

end Szamlazz
