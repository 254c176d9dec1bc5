import Szamlazz.Lib.DurableRun
import Szamlazz.Service.Write

/-!
# What a handler answers

`Handler.Answers handler Q` says that every answer the handler can give satisfies
`Q`, together with what its recorded attempts exchanged with szamlazz.hu; a fault
is no answer. There is one rule for each thing a handler is written with, so the
proofs about a handler follow its text.
-/

namespace Szamlazz

open Durable

section Exchanges

variable [Transport] [Clock]

/-- The exchanges with szamlazz.hu among the requests of a handler. -/
def agentExchanges : List (Exchange (Act.Ans ServiceRequest.Answer)) →
    List (Exchange AgentRequest.Answer)
  | [] => []
  | ⟨.ask (.agent request), answer⟩ :: tr => ⟨request, answer⟩ :: agentExchanges tr
  | ⟨.ask .gateway, _⟩ :: tr => agentExchanges tr
  | ⟨.ask .now, _⟩ :: tr => agentExchanges tr
  | ⟨.ask (.resolve _), _⟩ :: tr => agentExchanges tr
  | ⟨.swap _, _⟩ :: tr => agentExchanges tr

/-- There is nothing in nothing. -/
@[simp] theorem agentExchanges_nil : agentExchanges [] = [] := rfl

/-- Asking for the gateway is none. -/
@[simp] theorem agentExchanges_gateway (answer : Except Fault Unit)
    (tr : List (Exchange (Act.Ans ServiceRequest.Answer))) :
    agentExchanges (⟨.ask .gateway, answer⟩ :: tr) = agentExchanges tr := rfl

/-- Nor is asking for the time. -/
@[simp] theorem agentExchanges_now (time : Clock.Timestamp)
    (tr : List (Exchange (Act.Ans ServiceRequest.Answer))) :
    agentExchanges (⟨.ask .now, time⟩ :: tr) = agentExchanges tr := rfl

/-- Nor is resolving an account. -/
@[simp] theorem agentExchanges_resolve (scope : Option String)
    (answer : Except ResolveError Account)
    (tr : List (Exchange (Act.Ans ServiceRequest.Answer))) :
    agentExchanges (⟨.ask (.resolve scope), answer⟩ :: tr) = agentExchanges tr := rfl

/-- Nor is exchanging the permit. -/
@[simp] theorem agentExchanges_swap (permit old : Bool)
    (tr : List (Exchange (Act.Ans ServiceRequest.Answer))) :
    agentExchanges (⟨.swap permit, old⟩ :: tr) = agentExchanges tr := rfl

/-- Exchanges are collected in two parts. -/
@[simp] theorem agentExchanges_append (t t' : List (Exchange (Act.Ans ServiceRequest.Answer))) :
    agentExchanges (t ++ t') = agentExchanges t ++ agentExchanges t' := by
  induction t with
  | nil => rfl
  | cons e t ih =>
    obtain ⟨act, answer⟩ := e
    cases act with
    | swap permit => exact ih
    | ask request =>
      cases request with
      | agent request => exact congrArg (⟨request, answer⟩ :: ·) ih
      | gateway | now | resolve scope => exact ih

/-- An exchange with the agent was asked through the service. -/
theorem mem_agentExchanges {t : List (Exchange (Act.Ans ServiceRequest.Answer))}
    {e : Exchange AgentRequest.Answer} (h : e ∈ agentExchanges t) :
    (⟨.ask (.agent e.1), e.2⟩ : Exchange (Act.Ans ServiceRequest.Answer)) ∈ t := by
  induction t with
  | nil => exact by cases h
  | cons d t ih =>
    obtain ⟨act, answer⟩ := d
    cases act with
    | swap permit => exact List.mem_cons_of_mem _ (ih h)
    | ask request =>
      cases request with
      | agent request =>
        rcases List.mem_cons.mp h with rfl | h
        · exact List.mem_cons_self
        · exact List.mem_cons_of_mem _ (ih h)
      | gateway | now | resolve scope => exact List.mem_cons_of_mem _ (ih h)

/-- And what was asked of the agent is one. -/
theorem agentExchanges_mem {t : List (Exchange (Act.Ans ServiceRequest.Answer))}
    {request : AgentRequest} {answer : request.Answer}
    (h : (⟨.ask (.agent request), answer⟩ : Exchange (Act.Ans ServiceRequest.Answer)) ∈ t) :
    ⟨request, answer⟩ ∈ agentExchanges t := by
  obtain ⟨before, after, rfl⟩ := List.append_of_mem h
  rw [agentExchanges_append]
  exact List.mem_append_right _ List.mem_cons_self

/-- The exchanges of a call inside a handler are those of the call. -/
theorem agentExchanges_of_stands {t : List (Exchange (Act.Ans ServiceRequest.Answer))}
    {tr : List (Exchange AgentRequest.Answer)}
    (h : List.Forall₂ (@Prog.Stands _ _ AgentRequest.Answer (Act.Ans ServiceRequest.Answer)
      (fun request => Act.ask (.agent request)) (fun _ answer => answer)) t tr) :
    agentExchanges t = tr := by
  induction h with
  | nil => rfl
  | cons he _ ih =>
    obtain ⟨request, answer, rfl, rfl⟩ := he
    exact congrArg (⟨request, answer⟩ :: ·) ih

/-- **A call inside a run is the call**: the same exchanges, the same result. -/
theorem Inside.ensures_call {α : Type} {p : Call α}
    {Q : List (Exchange AgentRequest.Answer) → α → Prop} (h : Prog.Ensures p Q) :
    Prog.Ensures (Inside.call p) (fun t a => Q (agentExchanges t) a) := by
  intro t a hr
  obtain ⟨tr, hstands, hr'⟩ := Prog.runs_embed hr
  obtain rfl := agentExchanges_of_stands hstands
  exact h _ a hr'

end Exchanges

section Answers

variable [Unicode] [Transport] [Clock]

/-- `Q`, where there is an answer. -/
def Answered {α : Type} (Q : List (Exchange AgentRequest.Answer) → α → Prop)
    (tr : List (Exchange (Act.Ans ServiceRequest.Answer))) (result : Except HandlerError α) : Prop :=
  ∀ a, result = .ok a → Q (agentExchanges tr) a

/-- **Every answer of the handler satisfies `Q`.** -/
def Handler.Answers {α : Type} (handler : Handler α)
    (Q : List (Exchange AgentRequest.Answer) → α → Prop) : Prop :=
  Flow.Ensures (ExceptT.run handler) (Answered Q)

namespace Handler

variable {α β T : Type} {Q Q' : List (Exchange AgentRequest.Answer) → α → Prop}

/-- What follows from an answer holds of it. -/
theorem Answers.mono {handler : Handler α} (h : handler.Answers Q)
    (hQ : ∀ tr a, Q tr a → Q' tr a) : handler.Answers Q' :=
  Flow.Ensures.mono h (fun _ _ hr a ha => hQ _ a (hr a ha))

/-- Two things that hold of every answer hold together. -/
theorem Answers.and {handler : Handler α} (h : handler.Answers Q) (h' : handler.Answers Q') :
    handler.Answers (fun tr a => Q tr a ∧ Q' tr a) :=
  fun tr result hr a ha => ⟨h tr result hr a ha, h' tr result hr a ha⟩

/-- A handler that is done. -/
theorem answers_pure {a : α} (h : Q [] a) : (pure a : Handler α).Answers Q := by
  refine Flow.ensures_ret.mpr ?_
  rintro _ ⟨⟩
  exact h

/-- A handler that fails answers nothing. -/
theorem answers_raise (fault : Fault) : (raise fault : Handler α).Answers Q :=
  Flow.ensures_ret.mpr (fun _ h => by cases h)

/-- A result that was computed. -/
theorem answers_lift {result : Except Fault α} (h : ∀ a, result = .ok a → Q [] a) :
    (lift result).Answers Q := by
  cases result with
  | ok a => exact answers_pure (h a rfl)
  | error fault => exact answers_raise fault

/-- A decision, its fault completed. -/
theorem answers_liftAbout {ε : Type} {result : Except ε α} {f : ε → Fault}
    (h : ∀ a, result = .ok a → Q [] a) : (lift (result.mapError f)).Answers Q := by
  cases result with
  | ok a => exact answers_pure (h a rfl)
  | error fault => exact answers_raise (f fault)

/-- Nothing is said of the answer. -/
theorem answers_true (handler : Handler α) : handler.Answers (fun _ _ => True) :=
  fun _ _ _ _ _ => trivial

/-- **A sequence is verified by its parts.** -/
theorem Answers.bind {handler : Handler α} {next : α → Handler β}
    {P : List (Exchange AgentRequest.Answer) → β → Prop} (h : handler.Answers Q)
    (hnext : ∀ tr a, Q tr a → (next a).Answers (fun tr' b => P (tr ++ tr') b)) :
    (handler >>= next).Answers P := by
  refine Flow.Ensures.bind h (fun tr result hresult => ?_)
  cases result with
  | error error => exact Flow.ensures_ret.mpr (fun _ h => by cases h)
  | ok a =>
    refine Flow.Ensures.mono (hnext _ a (hresult a rfl)) (fun tr' _ hr b hb => ?_)
    rw [agentExchanges_append]
    exact hr b hb

/-- What asks nothing leaves the transcript to what follows. -/
theorem Answers.silent {handler : Handler α} {next : α → Handler β} {R : α → Prop}
    {P : List (Exchange AgentRequest.Answer) → β → Prop}
    (h : handler.Answers (fun tr a => tr = [] ∧ R a)) (hnext : ∀ a, R a → (next a).Answers P) :
    (handler >>= next).Answers P := by
  refine h.bind ?_
  rintro _ a ⟨rfl, ha⟩
  exact hnext a ha

/-- Renaming faults keeps the answers. -/
theorem answers_mapFault {handler : Handler α} {f : Fault → Fault} (h : handler.Answers Q) :
    (mapFault f handler).Answers Q := by
  refine Flow.Ensures.bind h (fun tr result hresult => ?_)
  cases result with
  | ok a =>
    refine Flow.ensures_ret.mpr ?_
    rintro _ ⟨⟩
    rw [List.append_nil]
    exact hresult a rfl
  | error error =>
    cases error with
    | fault fault => exact Flow.ensures_ret.mpr (fun _ h => by cases h)
    | terminal error => exact Flow.ensures_ret.mpr (fun _ h => by cases h)

/-- What a closure ends with, as it is recorded. -/
theorem ensures_closure [Journaled T] {body : Inside (Closed T TerminalError)}
    {P : List (Exchange AgentRequest.Answer) → T → Prop}
    (h : Prog.Ensures body (fun t closed =>
      ∀ value, closed = .done value → P (agentExchanges t) value)) :
    Prog.Ensures (closure body) (fun t closed => ∀ entry, closed = .done entry →
      ∃ value, entry = Journaled.encode value ∧ P (agentExchanges t) value) := by
  refine Prog.Ensures.bind h (fun t closed hclosed => ?_)
  refine Prog.ensures_ret.mpr ?_
  rw [List.append_nil]
  cases closed with
  | done value =>
    rintro _ ⟨⟩
    exact ⟨value, rfl, hclosed value rfl⟩
  | failed error => exact fun _ h => by cases h
  | retry => exact fun _ h => by cases h

/-- **A run** answers with the result its closure ends with. -/
theorem answers_run [Journaled T] {name : String} {fault : TerminalError → HandlerError}
    {body : Inside (Closed T TerminalError)}
    {P : List (Exchange AgentRequest.Answer) → T → Prop}
    (h : Prog.Ensures body (fun t closed =>
      ∀ value, closed = .done value → P (agentExchanges t) value)) :
    (run name fault body).Answers P := by
  refine Flow.ensures_run (ensures_closure h) ?_ ?_
  · intro t entry hentry
    obtain ⟨value, rfl, hvalue⟩ := hentry entry rfl
    refine Flow.ensures_ret.mpr ?_
    intro a ha
    rw [ofEntry, Journaled.decode_encode] at ha
    cases ha
    rw [List.append_nil]
    exact hvalue
  · exact fun error => Flow.ensures_ret.mpr (fun _ h => by cases h)

/-- Reading the state. -/
theorem answers_stored {Q : List (Exchange AgentRequest.Answer) → Option UnresolvedWrite → Prop}
    (h : ∀ marker, Q [] marker) : stored.Answers Q := by
  refine Flow.ensures_get.mpr (fun result => ?_)
  cases result with
  | ok marker =>
    refine Flow.ensures_ret.mpr ?_
    rintro _ ⟨⟩
    exact h marker
  | error error => exact Flow.ensures_ret.mpr (fun _ h => by cases h)

/-- Storing a marker. -/
theorem answers_store {marker : UnresolvedWrite}
    {Q : List (Exchange AgentRequest.Answer) → Unit → Prop} (h : Q [] ()) :
    (store marker).Answers Q :=
  Flow.ensures_set.mpr (Flow.ensures_ret.mpr (fun _ _ => h))

/-- Clearing the state. -/
theorem answers_clear {Q : List (Exchange AgentRequest.Answer) → Unit → Prop} (h : Q [] ()) :
    clear.Answers Q :=
  Flow.ensures_clear.mpr (Flow.ensures_ret.mpr (fun _ _ => h))

end Handler

/-! ## Single answers -/

section Returns

/-- **The handler can answer `a`**, its recorded attempts having exchanged `tr`. -/
def Handler.Returns (handler : Handler α) (tr : List (Exchange AgentRequest.Answer)) (a : α) :
    Prop :=
  ∃ t, (ExceptT.run handler).Returns t (.ok a) ∧ agentExchanges t = tr

namespace Handler

/-- A handler that is done returns its value. -/
theorem returns_pure (a : α) : (pure a : Handler α).Returns [] a := ⟨[], .refl _, rfl⟩

/-- A result that was computed is returned. -/
theorem returns_lift {result : Except Fault α} {a : α} (h : result = .ok a) :
    (lift result).Returns [] a := by
  subst h
  exact returns_pure a

/-- One return after another. -/
theorem Returns.bind {handler : Handler α} {next : α → Handler β}
    {t t' : List (Exchange AgentRequest.Answer)} {a : α} {b : β} (h : handler.Returns t a)
    (h' : (next a).Returns t' b) : (handler >>= next).Returns (t ++ t') b := by
  obtain ⟨tr, hr, rfl⟩ := h
  obtain ⟨tr', hr', rfl⟩ := h'
  exact ⟨tr ++ tr', (Flow.Reaches.bind hr _).trans hr', agentExchanges_append tr tr'⟩

/-- Renaming faults keeps what is returned. -/
theorem Returns.mapFault {handler : Handler α} {t : List (Exchange AgentRequest.Answer)} {a : α}
    (h : handler.Returns t a) (f : Fault → Fault) : (mapFault f handler).Returns t a := by
  obtain ⟨tr, hr, rfl⟩ := h
  exact ⟨tr ++ [], (Flow.Reaches.bind hr _).trans (.refl _), by rw [List.append_nil]⟩

/-- A run answers with a result of its closure. -/
theorem returns_run [Journaled T] {name : String} {fault : TerminalError → HandlerError}
    {body : Inside (Closed T TerminalError)}
    {t : List (Exchange (Act.Ans ServiceRequest.Answer))} {value : T}
    (h : Prog.Runs body t (.done value)) : (run name fault body).Returns (agentExchanges t) value := by
  have hclosure : Prog.Runs (closure body) (t ++ []) (.done (Journaled.encode value)) :=
    Prog.runs_bind.mpr ⟨t, _, [], rfl, h, Prog.runs_ret.mpr ⟨rfl, rfl⟩⟩
  rw [List.append_nil] at hclosure
  refine ⟨t ++ [], .done hclosure ?_, by rw [List.append_nil]⟩
  rw [ofEntry, Journaled.decode_encode]
  exact .refl _

/-- Any state may be read. -/
theorem returns_stored (marker : Option UnresolvedWrite) : stored.Returns [] marker :=
  ⟨[], .get (x := .ok marker) (.refl _), rfl⟩

end Handler

end Returns

/-! ## The runs -/

omit [Unicode] in
/-- Unanswered credentials apart, a gated closure exchanges what its call does. -/
theorem ensures_gateway {α : Type} {failed : Fault → α} {succeed : Inside α}
    {Q : List (Exchange AgentRequest.Answer) → α → Prop} (hfailed : ∀ fault, Q [] (failed fault))
    (h : Prog.Ensures succeed (fun t a => Q (agentExchanges t) a)) :
    Prog.Ensures (do
      let acquired ← Inside.gateway
      match acquired with
      | .error fault => return failed fault
      | .ok () => succeed) (fun t a => Q (agentExchanges t) a) := by
  refine Prog.ensures_call.mpr (fun acquired => ?_)
  cases acquired with
  | error fault => exact Prog.ensures_ret.mpr (hfailed fault)
  | ok _ => exact h

variable [FaultText]

/-- **A read answers with what its call read.** -/
theorem answers_runReading {T : Type} [Journaled T] {name : String}
    {p : Call (Except Unanswered T)} {Q : List (Exchange AgentRequest.Answer) → T → Prop}
    (h : Prog.Ensures p (fun tr r => ∀ value, r = .ok value → Q tr value)) :
    (runReading name p).Answers Q := by
  refine Handler.answers_run ?_
  refine ensures_gateway (Q := fun tr closed => ∀ value, closed = Closed.done value → Q tr value)
    (fun _ _ h => by cases h) ?_
  refine (Inside.ensures_call h).bind (fun t answer hanswer => ?_)
  cases answer with
  | error cause => exact Prog.ensures_ret.mpr (fun _ h => by cases h)
  | ok value =>
    refine Prog.ensures_ret.mpr ?_
    rintro _ ⟨⟩
    rw [List.append_nil]
    exact hanswer value rfl

omit [FaultText] in
/-- The prologue asks szamlazz.hu nothing. -/
theorem answers_runPrologue (ctx : Context) (config : WorkerConfig) :
    (runPrologue ctx config).Answers fun tr exec => tr = [] ∧ exec.config = config := by
  have hpin : (runOnce "namespace" config.namespace).Answers
      fun tr ns => tr = [] ∧ ns = config.namespace := by
    refine Handler.answers_run (Prog.ensures_ret.mpr ?_)
    rintro _ ⟨⟩
    exact ⟨rfl, rfl⟩
  have hresolve : (Handler.run (T := Resolution) "account"
      (fun error => .fault (resolveExhausted error)) (resolveClosure ctx.scope)).Answers
      fun tr _ => tr = [] := by
    rw [resolveClosure_eq]
    exact Handler.answers_run (Prog.ensures_call.mpr (fun answer =>
      Prog.ensures_ret.mpr (fun _ _ => rfl)))
  unfold runPrologue
  refine hpin.bind ?_
  rintro _ _ ⟨rfl, rfl⟩
  refine hresolve.bind ?_
  rintro _ resolved rfl
  exact (Handler.answers_lift (Q := fun tr _ => tr = []) (fun _ _ => rfl)).bind
    (by rintro _ account rfl; exact Handler.answers_pure ⟨rfl, rfl⟩)

omit [FaultText] in
/-- The guard asks nothing of the agent. -/
theorem answers_guard : guard.Answers fun tr _ => tr = [] := by
  refine Handler.Answers.bind (Handler.answers_stored (Q := fun tr _ => tr = []) (fun _ => rfl)) ?_
  rintro _ marker rfl
  cases marker with
  | none => exact Handler.answers_pure rfl
  | some marker => exact Handler.answers_raise _

/-! ## The writes -/

section Writes

omit [FaultText]

variable {P : List (Exchange AgentRequest.Answer) → WriteResult → Prop} {marker : UnresolvedWrite}

omit [Unicode] in
/-- An attempt closes with a reason or with what the write gives. -/
theorem ensures_attemptWrite {unavailable : String} {write : Call WriteResult}
    (hbecause : ∀ message, P [] (.because message)) (hwrite : Prog.Ensures write P) :
    Prog.Ensures (attemptWrite unavailable write) (fun t closed =>
      ∀ result, closed = .done result → P (agentExchanges t) result) := by
  refine ensures_gateway (Q := fun tr closed => ∀ result, closed = Closed.done result → P tr result)
    ?_ ?_
  · rintro fault _ ⟨⟩
    exact hbecause _
  · refine (Inside.ensures_call hwrite).bind (fun t result hresult => ?_)
    refine Prog.ensures_ret.mpr ?_
    rintro _ ⟨⟩
    rw [List.append_nil]
    exact hresult

/-- **What a write leaves unresolved, only reconciliation settles.** -/
theorem answers_settle {name : String} {uncertain : TerminalError → HandlerError}
    {t : List (Exchange AgentRequest.Answer)} {result : WriteResult} (hresult : P t result)
    (hsettled : ∀ t' settled, SettledBy marker t' settled → P (t ++ t') settled) :
    (settle name uncertain marker result).Answers (fun tr settled => P (t ++ tr) settled) := by
  cases result with
  | unresolved original =>
    refine Handler.answers_run ?_
    refine ensures_gateway (Q := fun tr closed =>
      ∀ settled, closed = Closed.done settled → P (t ++ tr) settled)
      (fun _ _ h => by cases h) ?_
    refine (Inside.ensures_call (reconcileWriteDiagnostic_spec marker original)).bind
      (fun t' settled hspec => ?_)
    have hdone : settled.isUnresolved = false →
        ∀ value, Closed.done (E := TerminalError) settled = Closed.done value →
          P (t ++ agentExchanges (t' ++ [])) value := by
      rintro hresolved _ ⟨⟩
      rw [List.append_nil]
      exact hsettled _ _ (hspec.2 hresolved)
    cases settled with
    | unresolved diagnostic => exact Prog.ensures_ret.mpr (fun _ h => by cases h)
    | create outcome | storno outcome | delete outcome | answered credentials answer =>
      exact Prog.ensures_ret.mpr (hdone rfl)
  | create outcome | storno outcome | delete outcome | answered credentials answer =>
    refine Handler.answers_pure ?_
    rw [List.append_nil]
    exact hresult

/-- **The protected write** ends with what its write or its reconciliation says. -/
theorem answers_protectedWrite {exec : Execution} {ctx : Context} {order : OrderKey}
    {externalId : ExternalId} {operation : WriteOperation} {name : String}
    {write : UnresolvedWrite → Call WriteResult}
    (hbecause : ∀ message, P [] (.because message)) (hwrite : ∀ marker, Prog.Ensures (write marker) P)
    (hsettled : ∀ time t t' settled,
      SettledBy { exec.writeMarker ctx order externalId operation with createdAt := time } t' settled →
        P (t ++ t') settled) :
    (exec.protectedWrite ctx order externalId operation name write).Answers P := by
  have hprepare : (Handler.run (T := UnresolvedWrite) "prepare-write"
      (fun error => .fault (readFault error))
      (prepareClosure (exec.writeMarker ctx order externalId operation))).Answers
      fun tr marker => tr = [] ∧ ∃ time,
        marker = { exec.writeMarker ctx order externalId operation with createdAt := time } := by
    refine Handler.answers_run (Prog.ensures_call.mpr (fun time => Prog.ensures_ret.mpr ?_))
    rintro _ ⟨⟩
    exact ⟨rfl, _, rfl⟩
  unfold Execution.protectedWrite
  refine hprepare.bind ?_
  rintro _ _ ⟨rfl, time, rfl⟩
  refine (Handler.answers_store (Q := fun tr _ => tr = []) rfl).bind ?_
  rintro _ - rfl
  have harm : (Handler.run (T := Unit) "arm-write"
      (protectedUncertain order externalId operation) armClosure).Answers fun tr _ => tr = [] :=
    Handler.answers_run (Prog.ensures_call.mpr (fun _ => Prog.ensures_ret.mpr (fun _ _ => rfl)))
  refine harm.bind ?_
  rintro _ - rfl
  have hrun : (Handler.run (T := WriteResult) name (protectedUncertain order externalId operation)
      (protectedClosure (write { exec.writeMarker ctx order externalId operation with
        createdAt := time }))).Answers P := by
    refine Handler.answers_run (Prog.ensures_call.mpr (fun permitted => ?_))
    cases permitted with
    | true => exact ensures_attemptWrite hbecause (hwrite _)
    | false =>
      refine Prog.ensures_ret.mpr ?_
      rintro _ ⟨⟩
      exact hbecause _
  refine hrun.bind (fun t result hresult => ?_)
  refine (answers_settle hresult (hsettled time t)).bind (fun t' settled hp => ?_)
  refine (Handler.answers_clear (Q := fun tr _ => tr = []) rfl).bind ?_
  rintro _ - rfl
  refine Handler.answers_pure ?_
  simpa using hp

/-- **So does the replay-enabled write.** -/
theorem answers_replayEnabledWrite {order : OrderKey} {externalId : ExternalId}
    {operation : ReplayWrite} {write : UnresolvedWrite → Call WriteResult}
    (hbecause : ∀ message, P [] (.because message)) (hwrite : ∀ marker, Prog.Ensures (write marker) P)
    (hsettled : ∀ time t t' settled,
      SettledBy { marker with createdAt := time } t' settled → P (t ++ t') settled) :
    (replayEnabledWrite order externalId marker operation write).Answers P := by
  unfold replayEnabledWrite
  refine (Handler.answers_lift (Q := fun tr (intent : ReplayIntent) => tr = [] ∧
    intent.marker = marker) ?_).bind ?_
  · intro intent hintent
    unfold ReplayIntent.new at hintent
    split_ifs at hintent
    · cases hintent
      exact ⟨rfl, rfl⟩
    · cases hintent
  rintro _ intent ⟨rfl, rfl⟩
  have hprepare : (Handler.run (T := ReplayIntent) ("prepare-" ++ operation.step ++ "-write")
      (fun error => .fault (readFault error)) (prepareIntentClosure intent)).Answers
      fun tr prepared => tr = [] ∧ ∃ time, prepared = intent.preparedAt time := by
    refine Handler.answers_run (Prog.ensures_call.mpr (fun time => Prog.ensures_ret.mpr ?_))
    rintro _ ⟨⟩
    exact ⟨rfl, _, rfl⟩
  refine hprepare.bind ?_
  rintro _ _ ⟨rfl, time, rfl⟩
  refine (Handler.answers_store (Q := fun tr _ => tr = []) rfl).bind ?_
  rintro _ - rfl
  refine (Handler.answers_run (P := fun tr _ => tr = [])
    (Prog.ensures_ret.mpr (fun _ _ => rfl))).bind ?_
  rintro _ - rfl
  refine (Handler.answers_run (P := P) ?_).bind (fun t result hresult => ?_)
  · unfold replayClosure
    split_ifs
    · exact ensures_attemptWrite hbecause (hwrite _)
    · refine Prog.ensures_ret.mpr ?_
      rintro _ ⟨⟩
      exact hbecause _
  · refine (answers_settle hresult (hsettled time t)).bind (fun t' settled hp => ?_)
    refine (Handler.answers_clear (Q := fun tr _ => tr = []) rfl).bind ?_
    rintro _ - rfl
    refine Handler.answers_pure ?_
    simpa using hp

end Writes

end Answers

end Szamlazz
