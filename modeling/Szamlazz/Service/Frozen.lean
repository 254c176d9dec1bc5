import Szamlazz.Service.Admission
import Szamlazz.Gateway.Frozen

/-!
# Handlers on a vendor that stands still

A handler reads the vendor before it stores a marker; the write run behind the marker reads
it again. Where the vendor stands still, what the handler learned is what the write finds.
`Learns` says what a handler has learned where it answers, `Agrees` that the write run
behind whatever marker it comes to store makes its one request for a change. The rules here
derive the second from the first along a handler.
-/

namespace Szamlazz

open Durable

/-! ## Runs on a frozen vendor -/

section Runs

variable [Transport] [Clock]

/-- **A run that is served**: its credentials are had, the permission it consumes is held,
and the vendor answers its queries. -/
def FrozenVendor.Serves (v : FrozenVendor) : Exchange (Act.Ans ServiceRequest.Answer) → Prop
  | ⟨.ask (.agent request), answer⟩ => v.Tells ⟨request, answer⟩
  | ⟨.ask .gateway, answer⟩ => answer = (.ok () : Except Fault Unit)
  | ⟨.ask .now, _⟩ | ⟨.ask (.resolve _), _⟩ => True
  | ⟨.swap _, permitted⟩ => permitted = true

/-- The run can be served, and served it makes one request for a change. -/
def FrozenVendor.SendsIn (v : FrozenVendor) {R : Type}
    (body : Closure ServiceRequest.Answer R TerminalError) : Prop :=
  (∃ t closed, Prog.Runs body t closed ∧ ∀ e ∈ t, v.Serves e)
    ∧ Prog.Under v.Serves body fun t _ => SendsOnce (agentExchanges t)

variable {v : FrozenVendor}

/-- What serves a run answers its requests to the vendor. -/
theorem FrozenVendor.tells_of_serves {t : List (Exchange (Act.Ans ServiceRequest.Answer))}
    (h : ∀ e ∈ t, v.Serves e) : ∀ e ∈ agentExchanges t, v.Tells e := by
  intro e he
  exact h _ (mem_agentExchanges he)

/-- A call inside a run that is served. -/
theorem FrozenVendor.under_call {α : Type} {p : Call α} (h : v.Sends p) :
    Prog.Under v.Serves (Inside.call p) fun t _ => SendsOnce (agentExchanges t) := by
  intro t a hr ht
  obtain ⟨tr, hstands, hr'⟩ := Prog.runs_embed hr
  have htells := tells_of_serves ht
  obtain rfl := agentExchanges_of_stands hstands
  exact h _ a hr' htells

/-- A write with its credentials sends as the call does. -/
theorem FrozenVendor.under_attemptWrite {unavailable : String} {write : Call WriteResult}
    (h : v.Sends write) :
    Prog.Under v.Serves (attemptWrite unavailable write)
      fun t _ => SendsOnce (agentExchanges t) := by
  refine Prog.under_call.mpr ?_
  rintro _ rfl
  refine (under_call h).bind fun t result hsent => ?_
  refine Prog.under_ret.mpr ?_
  rwa [agentExchanges_gateway, agentExchanges_append, agentExchanges_nil, List.append_nil]

/-- What the run of a write asks for. -/
def InWrite : Act ServiceRequest → Prop
  | .ask (.agent _) | .ask .gateway | .swap _ => True
  | .ask .now | .ask (.resolve _) => False

omit [Transport] [Clock] in
theorem onlyAsks_true {α : Type} (p : Call α) : p.OnlyAsks fun _ => True := by
  induction p with
  | ret a => trivial
  | call r k ih => exact ⟨trivial, ih⟩

/-- A write asks for its credentials, its permission and the vendor. -/
theorem onlyAsks_attemptWrite (unavailable : String) (write : Call WriteResult) :
    (attemptWrite unavailable write).OnlyAsks InWrite := by
  refine ⟨trivial, fun acquired => ?_⟩
  cases acquired with
  | error fault => trivial
  | ok _ => exact ((onlyAsks_true write).embed fun _ _ => trivial).bind fun _ => trivial

/-- Everything such a run asks for can be served. -/
theorem FrozenVendor.exists_serves (v : FrozenVendor) (act : Act ServiceRequest) (h : InWrite act) :
    ∃ x, v.Serves ⟨act, x⟩ := by
  cases act with
  | swap permit => exact ⟨true, rfl⟩
  | ask request =>
    cases request with
    | agent request => exact v.exists_tells request
    | gateway => exact ⟨.ok (), rfl⟩
    | now => exact h.elim
    | resolve scope => exact h.elim

/-- A closure sends where its body does. -/
theorem FrozenVendor.sendsIn_closure {T : Type} [Unicode] [Journaled T]
    {body : Inside (Closed T TerminalError)} (hasks : body.OnlyAsks InWrite)
    (h : Prog.Under v.Serves body fun t _ => SendsOnce (agentExchanges t)) :
    v.SendsIn (Handler.closure body) := by
  refine ⟨Prog.OnlyAsks.exists_run v.exists_serves (hasks.bind fun _ => trivial), ?_⟩
  refine Prog.Under.bind h fun t closed hsent => Prog.under_ret.mpr ?_
  rwa [List.append_nil]

end Runs

/-! ## Handlers on a frozen vendor -/

section Handlers

variable [Unicode] [Transport] [Clock]

/-- **What is behind the marker sends**: after the barrier, whatever it recorded, comes the
write run, and on the vendor it makes one request for a change. -/
def FrozenVendor.SendsBehind (v : FrozenVendor) {α : Type} (flow : HandlerFlow α) : Prop :=
  ∃ (barrier : String) (arm : Closure ServiceRequest.Answer Journal TerminalError)
    (rest : Except TerminalError Journal → HandlerFlow α), flow = .run barrier arm rest
      ∧ (∃ t entry, Prog.Runs arm t (.done entry))
      ∧ ∀ t entry, Prog.Runs arm t (.done entry) →
        ∃ name body settle, rest (.ok entry) = .run name body settle ∧ v.SendsIn body

/-- **What is behind the marker is refused**: the write run, served by the vendor, asks for
no change. -/
def FrozenVendor.RefusesBehind (v : FrozenVendor) {α : Type} (flow : HandlerFlow α) : Prop :=
  ∀ (barrier : String) (arm : Closure ServiceRequest.Answer Journal TerminalError)
    (rest : Except TerminalError Journal → HandlerFlow α), flow = .run barrier arm rest →
      ∀ t entry, Prog.Runs arm t (.done entry) → ∀ name body settle,
        rest (.ok entry) = .run name body settle →
          Prog.Under v.Serves body fun t _ => ReadOnly (agentExchanges t)

omit [Unicode] in
/-- What sends is not refused. -/
theorem FrozenVendor.SendsBehind.not_refuses [Unicode] {v : FrozenVendor} {α : Type}
    {flow : HandlerFlow α} (h : v.SendsBehind flow) : ¬ v.RefusesBehind flow := by
  intro hrefuses
  obtain ⟨barrier, arm, rest, rfl, ⟨t, entry, ht⟩, hsends⟩ := h
  obtain ⟨name, body, settle, hrest, ⟨t', closed, hrun, hserves⟩, honce⟩ := hsends t entry ht
  have hro := hrefuses barrier arm rest rfl t entry ht name body settle hrest t' closed hrun hserves
  obtain ⟨send, hsend⟩ := honce t' closed hrun hserves
  rw [mutations_eq_nil.mpr hro] at hsend
  cases hsend

omit [Unicode] in
/-- What follows the write does not matter to it. -/
theorem FrozenVendor.SendsBehind.bind [Unicode] {v : FrozenVendor} {α β : Type}
    {flow : HandlerFlow α} (h : v.SendsBehind flow) (g : α → HandlerFlow β) : v.SendsBehind (flow >>= g) := by
  obtain ⟨barrier, arm, rest, rfl, hrecords, harm⟩ := h
  refine ⟨barrier, arm, _, rfl, hrecords, fun t entry ht => ?_⟩
  obtain ⟨name, body, settle, hrest, hsends⟩ := harm t entry ht
  exact ⟨name, body, fun x => settle x >>= g, by rw [hrest]; rfl, hsends⟩

namespace Handler

variable {α β T : Type}

/-- The handler stores no marker. -/
def StoresNothing (handler : Handler α) : Prop := (ExceptT.run handler).StoresNothing

theorem OnlyReads.storesNothing {handler : Handler α} (h : handler.OnlyReads) :
    handler.StoresNothing :=
  Flow.OnlyReads.storesNothing h

/-- **What the handler learns of the vendor**, where it answers. -/
def Learns (v : FrozenVendor) (handler : Handler α) (Q : α → Prop) : Prop :=
  handler.Answers fun tr a => (∀ e ∈ tr, v.Tells e) → Q a

/-- **The handler agrees with its write**: if what it reads of the vendor lets it come to
store a marker, the vendor is sent what is behind it. -/
def Agrees (v : FrozenVendor) (handler : Handler α) : Prop :=
  ∀ t marker next, (ExceptT.run handler).Reaches t (.set marker next) →
    (∀ e ∈ agentExchanges t, v.Tells e) → v.SendsBehind next

variable {v : FrozenVendor} {handler : Handler α} {next : α → Handler β} {Q : α → Prop}

theorem learns_true (handler : Handler α) : handler.Learns v fun _ => True :=
  fun _ _ _ _ _ _ => trivial

theorem learns_pure {a : α} (h : Q a) : (pure a : Handler α).Learns v Q :=
  answers_pure fun _ => h

/-- A decision contributes what its success means. -/
theorem learns_lift {result : Except Fault α} (h : ∀ a, result = .ok a → Q a) :
    (lift result).Learns v Q :=
  answers_lift fun a ha _ => h a ha

theorem Learns.mapFault {f : Fault → Fault} (h : handler.Learns v Q) :
    (mapFault f handler).Learns v Q :=
  answers_mapFault h

/-- What was learned first can be used to learn more. -/
theorem Learns.bind {P : β → Prop} (h : handler.Learns v Q)
    (hnext : ∀ a, Q a → (next a).Learns v P) : (handler >>= next).Learns v P := by
  refine Answers.bind h fun tr a ha => ?_
  intro tr' b hr c hc htells
  obtain ⟨ht, ht'⟩ := List.forall_mem_append.mp htells
  exact hnext a (ha ht) tr' b hr c hc ht'

/-- A handler that stores nothing has no write to agree with. -/
theorem agrees_of_storesNothing (h : handler.StoresNothing) : handler.Agrees v :=
  fun _ _ _ hr _ => absurd hr h.not_reaches

/-- **What was learned is gone on with.** -/
theorem Learns.agrees (h : handler.Learns v Q) (hstores : handler.StoresNothing)
    (hnext : ∀ a, Q a → (next a).Agrees v) : (handler >>= next).Agrees v := by
  intro t marker flow hr htells
  obtain ⟨t₁, result, t₂, rfl, hreturns, hrest⟩ := hstores.reaches_set hr
  rw [agentExchanges_append] at htells
  obtain ⟨ht₁, ht₂⟩ := List.forall_mem_append.mp htells
  cases result with
  | ok a => exact hnext a (h t₁ _ hreturns a rfl ht₁) t₂ marker flow hrest ht₂
  | error error => cases hrest

/-- A decision is gone on with where it succeeds. -/
theorem agrees_lift_bind {result : Except Fault α}
    (h : ∀ a, result = .ok a → (next a).Agrees v) : (lift result >>= next).Agrees v :=
  (learns_lift h).agrees (onlyReads_lift result).storesNothing fun _ ha => ha

/-- What follows the write stores nothing. -/
theorem Agrees.bind (h : handler.Agrees v) (hnext : ∀ a, (next a).StoresNothing) :
    (handler >>= next).Agrees v := by
  intro t marker flow hr htells
  obtain ⟨flow', hreaches, rfl⟩ := Flow.reaches_set_bind (fun result => by
    cases result with
    | ok a => exact hnext a
    | error error => trivial) hr
  exact (h t marker flow' hreaches htells).bind _

end Handler

end Handlers

/-! ## The writes -/

section Writes

variable [Unicode] [Transport] [Clock]

namespace Handler

variable {v : FrozenVendor} {α : Type}

theorem StoresNothing.bind {handler : Handler α} {β : Type} {next : α → Handler β}
    (h : handler.StoresNothing) (hnext : ∀ a, (next a).StoresNothing) :
    (handler >>= next).StoresNothing :=
  Flow.StoresNothing.bind h fun result => by
    cases result with
    | ok a => exact hnext a
    | error error => trivial

theorem storesNothing_run {T : Type} [Journaled T] (name : String)
    (fault : TerminalError → HandlerError) (body : Inside (Closed T TerminalError)) :
    (run name fault body).StoresNothing :=
  fun _ => trivial

theorem storesNothing_settle (name : String) (uncertain : TerminalError → HandlerError)
    (marker : UnresolvedWrite) (result : WriteResult) :
    (settle name uncertain marker result).StoresNothing := by
  cases result with
  | unresolved original => exact storesNothing_run _ _ _
  | create | storno | delete | answered => trivial

/-- **Behind the stored marker**: the barrier, the write run, and what stores no other. -/
theorem agrees_store {marker : UnresolvedWrite} {barrier name : String}
    {faults : TerminalError → HandlerError} {arm : Inside (Closed Unit TerminalError)}
    {body : Inside (Closed WriteResult TerminalError)} {rest : WriteResult → Handler α}
    (harm : ∃ t, Prog.Runs arm t (.done ())) (hasks : body.OnlyAsks InWrite)
    (hsends : Prog.Under v.Serves body fun t _ => SendsOnce (agentExchanges t))
    (hrest : ∀ result, (rest result).StoresNothing) :
    (Handler.store marker >>= fun _ => run (T := Unit) barrier faults arm >>= fun _ =>
      run (T := WriteResult) name faults body >>= rest).Agrees v := by
  have hbehind : StoresNothing (run (T := Unit) barrier faults arm >>= fun _ =>
      run (T := WriteResult) name faults body >>= rest) :=
    (storesNothing_run _ _ _).bind fun _ => (storesNothing_run _ _ _).bind hrest
  intro t m flow hr _
  cases hr with
  | set hr => exact absurd hr hbehind.not_reaches
  | refl =>
    obtain ⟨armed, harmed⟩ := harm
    refine ⟨barrier, closure arm, _, rfl, ⟨_, _, Prog.runs_bind.mpr
      ⟨armed, _, [], rfl, harmed, Prog.runs_ret.mpr ⟨rfl, rfl⟩⟩⟩, fun t entry ht => ?_⟩
    have hentry := ensures_closure (P := fun _ _ => True) (fun _ _ _ _ _ => trivial) t _ ht
    obtain ⟨⟨⟩, rfl, -⟩ := hentry entry rfl
    exact ⟨name, closure body, _, rfl, FrozenVendor.sendsIn_closure hasks hsends⟩

end Handler

variable {v : FrozenVendor} {write : UnresolvedWrite → Call WriteResult} {order : OrderKey}
  {externalId : ExternalId} {marker : UnresolvedWrite}

/-- **A protected write** agrees with itself where its call sends, at whatever time the
marker was prepared. -/
theorem agrees_protectedWrite {exec : Execution} {ctx : Context} {operation : WriteOperation}
    {name : String} (hsends : ∀ time, v.Sends (write
      { exec.writeMarker ctx order externalId operation with createdAt := time })) :
    (exec.protectedWrite ctx order externalId operation name write).Agrees v := by
  have hprepare : (Handler.run (T := UnresolvedWrite) "prepare-write"
      (fun error => .fault (readFault error))
      (prepareClosure (exec.writeMarker ctx order externalId operation))).Learns v
      fun marker => ∃ time,
        marker = { exec.writeMarker ctx order externalId operation with createdAt := time } := by
    refine Handler.answers_run (Prog.ensures_call.mpr (fun time => Prog.ensures_ret.mpr ?_))
    rintro _ ⟨⟩ -
    exact ⟨_, rfl⟩
  unfold Execution.protectedWrite
  refine hprepare.agrees (Handler.storesNothing_run _ _ _) ?_
  rintro _ ⟨time, rfl⟩
  refine Handler.agrees_store ⟨[⟨.swap true, false⟩], .call (.refl _)⟩
    ⟨trivial, fun permitted => ?_⟩ ?_ fun result =>
    (Handler.storesNothing_settle _ _ _ result).bind fun _ => trivial
  · cases permitted with
    | true => exact onlyAsks_attemptWrite _ _
    | false => trivial
  · refine Prog.under_call.mpr ?_
    rintro _ rfl
    exact FrozenVendor.under_attemptWrite (hsends time)

/-- **A replay-enabled write** likewise: its contract is the one it was prepared with. -/
theorem agrees_replayEnabledWrite {operation : ReplayWrite}
    (hsends : ∀ time, v.Sends (write { marker with createdAt := time })) :
    (replayEnabledWrite order externalId marker operation write).Agrees v := by
  unfold replayEnabledWrite
  refine Handler.agrees_lift_bind fun intent hintent => ?_
  have hmarker : intent.marker = marker := by
    unfold ReplayIntent.new at hintent
    split_ifs at hintent
    · cases hintent
      rfl
    · cases hintent
  subst hmarker
  have hprepare : (Handler.run (T := ReplayIntent) ("prepare-" ++ operation.step ++ "-write")
      (fun error => .fault (readFault error)) (prepareIntentClosure intent)).Learns v
      fun prepared => ∃ time, prepared = intent.preparedAt time := by
    refine Handler.answers_run (Prog.ensures_call.mpr (fun time => Prog.ensures_ret.mpr ?_))
    rintro _ ⟨⟩ -
    exact ⟨_, rfl⟩
  refine hprepare.agrees (Handler.storesNothing_run _ _ _) ?_
  rintro _ ⟨time, rfl⟩
  have hbody : replayClosure (intent.preparedAt time).marker.executionContract
      intent.marker.executionContract (write (intent.preparedAt time).marker)
      = attemptWrite "pinned account unavailable inside replay-enabled write"
        (write { intent.marker with createdAt := time }) := if_pos rfl
  dsimp only
  rw [hbody]
  exact Handler.agrees_store ⟨[], .refl _⟩ (onlyAsks_attemptWrite _ _)
    (FrozenVendor.under_attemptWrite (hsends time)) fun result =>
      (Handler.storesNothing_settle _ _ _ result).bind fun _ => trivial

end Writes

/-! ## The reads -/

section Reads

variable [Unicode] [Transport] [Clock] [FaultText] {v : FrozenVendor}

/-- A lookup learns who holds the slot. -/
theorem learns_lookup (name : String) (externalId : ExternalId) (order : OrderKey)
    (kind : IssuedKind) :
    (Handler.lookup name externalId order kind).Learns v fun outcome =>
      ownership (classifySeen order kind (v.shows (.externalId externalId.text))) = .ok outcome := by
  refine (answers_lookup_holder name externalId order kind).mono ?_
  rintro _ outcome ⟨answer, rfl, howned⟩ htells
  obtain rfl : answer = v.answer (.externalId externalId.text) := htells _ List.mem_cons_self
  exact howned

/-- A verification learns what the number shows. -/
theorem learns_verify (name number : String) :
    (Handler.verify name number).Learns v fun outcome =>
      ∀ found, outcome = .found found → v.shows (.invoiceNumber number) = .ok found := by
  refine answers_runReading ?_
  rw [← Prog.bind_ret (verify number), verify_bind, Prog.ensures_call]
  intro answer
  refine Prog.ensures_ret.mpr ?_
  rintro outcome houtcome htells found rfl
  obtain rfl : answer = v.answer (.invoiceNumber number) := htells _ List.mem_cons_self
  exact queryOutcome_eq_found.mp houtcome

end Reads

end Szamlazz
