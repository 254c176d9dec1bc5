import Szamlazz.Service.Admission
import Szamlazz.Service.Recovery

/-!
# Rules for the writes

What it takes for a write to respect an invariant of the object, whatever the
invariant is. `Writes` lists what there is to show about one call that sends: what
its exchanges do to the invariant, and what a settled result leaves behind. Everything
else – the marker before, the permission, the reconciliation, the clearing – is the
same for all of them, and verified here once for each of the two protocols.
-/

namespace Szamlazz

open Durable

section Rules

variable [Unicode] [Transport] [Clock]
variable {I O W : Type}
  {H : Host ServiceRequest.Answer UnresolvedWrite Journal TerminalError InvocationId I O W}
  {J : List (Event ServiceRequest.Answer UnresolvedWrite Journal TerminalError InvocationId I) →
    W → Prop}
  {id : InvocationId}

/-! ## Handlers -/

/-- What the history of an order is made of. -/
abbrev OrderEvent (I : Type) : Type :=
  Event ServiceRequest.Answer UnresolvedWrite Journal TerminalError InvocationId I

/-- A property of the history of an order and the world. -/
abbrev OrderCondition (I W : Type) : Type :=
  Condition ServiceRequest.Answer UnresolvedWrite Journal TerminalError InvocationId I W

/-- What a handler of an order rests on. -/
abbrev OrderAssertion (I W : Type) : Type :=
  Assertion ServiceRequest.Answer UnresolvedWrite Journal TerminalError InvocationId I W

/-- **A handler that respects the invariant**; where it returns, nothing is owed. -/
def Handler.Obeys
    (H : Host ServiceRequest.Answer UnresolvedWrite Journal TerminalError InvocationId I O W)
    (J : List (OrderEvent I) → W → Prop) (id : InvocationId) {α : Type} (handler : Handler α)
    (K : Option UnresolvedWrite → Prop) (dirty : Bool) (κ : OrderAssertion I W) : Prop :=
  Durable.Obeys H J id (fun _ _ _ _ => True) (ExceptT.run handler) K dirty κ

namespace Handler

variable {α β T : Type} {K : Option UnresolvedWrite → Prop} {dirty : Bool}
  {κ : OrderAssertion I W}

theorem obeys_pure (a : α) : (pure a : Handler α).Obeys H J id K dirty κ := trivial

theorem obeys_raise (fault : Fault) : (raise fault : Handler α).Obeys H J id K dirty κ := trivial

theorem obeys_lift_bind {result : Except Fault α} {next : α → Handler β}
    (h : ∀ a, result = .ok a → (next a).Obeys H J id K dirty κ) :
    (lift result >>= next).Obeys H J id K dirty κ := by
  cases result with
  | ok a => exact h a rfl
  | error fault => trivial

/-- What only answers can follow anything. -/
theorem Obeys.answering {handler : Handler α} {respond : α → Handler β}
    (h : handler.Obeys H J id K dirty κ) (hrespond : Answering respond) :
    (handler >>= respond).Obeys H J id K dirty κ := by
  refine Durable.Obeys.bind h (fun result K dirty κ _ => ?_)
  cases result with
  | error error => trivial
  | ok a =>
    obtain ⟨result, hresult⟩ := hrespond a
    show Durable.Obeys H J id _ (ExceptT.run (respond a)) K dirty κ
    rw [hresult]
    trivial

theorem obeys_stored_bind {next : Option UnresolvedWrite → Handler α}
    (h : ∀ m, ∃ P : OrderCondition I W, Enduring H P
      ∧ (∀ b h w, κ b h w → J h w → storedAt h = m → K m → P h w)
      ∧ (next m).Obeys H J id (fun m' => m' = m) false (Holds P)) :
    (stored >>= next).Obeys H J id K false κ := by
  refine ⟨rfl, fun e => trivial, fun m => ?_⟩
  obtain ⟨P, hP, himp, hnext⟩ := h m
  exact ⟨Holds P, hP.lasting, himp, hnext⟩

theorem obeys_store_bind {marker : UnresolvedWrite} {next : Unit → Handler α}
    (hstore : ∀ b h w, κ b h w → J h w → K (storedAt h) → J (h ++ [.stored id marker]) w)
    (hnext : (next ()).Obeys H J id (fun m => m = some marker) true κ) :
    (store marker >>= next).Obeys H J id K dirty κ := ⟨hstore, hnext⟩

theorem obeys_clear_bind {next : Unit → Handler α}
    (hclear : ∀ b h w, κ b h w → J h w → K (storedAt h) → J (h ++ [.cleared id]) w)
    (hnext : (next ()).Obeys H J id (fun m => m = none) true κ) :
    (clear >>= next).Obeys H J id K dirty κ := ⟨hclear, hnext⟩

/-- **A run, and what its recorded value lets follow**; an error ends the handler. -/
theorem obeys_run_bind [Journaled T] {name : String} {fault : TerminalError → HandlerError}
    {body : Inside (Closed T TerminalError)} {next : T → Handler α}
    (κs : T → OrderAssertion I W) (hκs : ∀ value, Lasting H (κs value)) {θ : OrderAssertion I W}
    (hwithin : Within H κ θ) (hstart : ∀ b h w, κ b h w → θ b (h ++ [.began id name]) w)
    (hsafe : Safe H J id K dirty κ name
      (fun entry κ' => ∃ value, entry = Journaled.encode value ∧ κ' = κs value) (closure body) θ)
    (hnext : ∀ value, (next value).Obeys H J id K false (κs value)) :
    (run name fault body >>= next).Obeys H J id K dirty κ := by
  refine ⟨fun e => trivial, fun e => trivial, _, ⟨?_, θ, hwithin, hstart, hsafe⟩, ?_⟩
  · rintro entry κ' ⟨value, rfl, rfl⟩
    exact hκs value
  · rintro entry κ' ⟨value, rfl, rfl⟩
    have hentry : ofEntry fault (.ok (Journaled.encode value)) = .ok value := by
      rw [ofEntry, Journaled.decode_encode]
    show Durable.Obeys H J id _ (ExceptT.bindCont next (ofEntry fault (.ok _))) K false _
    rw [hentry]
    exact hnext value

/-- **A run that only reads** keeps what was seen. -/
theorem obeys_reading_bind [Journaled T] {P : OrderCondition I W}
    {fact : Exchange ServiceRequest.Answer → OrderCondition I W} {seen : Readings} {name : String}
    {fault : TerminalError → HandlerError} {body : Inside (Closed T TerminalError)}
    {next : T → Handler α} (hR : ReadingAt H J id ServiceRequest.Reads P fact)
    (hbody : Closure.ReadsOnly ServiceRequest.Reads (closure body))
    (hnext : ∀ t value, Prog.Runs (closure body) t (.done (Journaled.encode value)) →
      (next value).Obeys H J id K false (Holds (Known P fact seen))) :
    (run name fault body >>= next).Obeys H J id K false (Holds (Known P fact seen)) := by
  have hlasting := (hR.enduring_known seen).lasting
  refine ⟨fun e => trivial, fun e => trivial, _,
    ⟨?_, Holds (Known P fact seen), hlasting.within, fun b h w => hlasting.quiet _ rfl,
      hR.safe_keep hbody⟩, ?_⟩
  · rintro entry κ' ⟨-, rfl⟩
    exact hlasting
  · rintro entry κ' ⟨⟨t, hr⟩, rfl⟩
    obtain ⟨value, rfl⟩ : ∃ value, entry = Journaled.encode value := by
      obtain ⟨t', closed, t'', -, -, hclosed⟩ := Prog.runs_bind.mp hr
      obtain ⟨-, hend⟩ := Prog.runs_ret.mp hclosed
      cases closed with
      | done value =>
        cases hend
        exact ⟨value, rfl⟩
      | failed error => cases hend
      | retry => cases hend
    have hentry : ofEntry fault (.ok (Journaled.encode value)) = .ok value := by
      rw [ofEntry, Journaled.decode_encode]
    show Durable.Obeys H J id _ (ExceptT.bindCont next (ofEntry fault (.ok _))) K false _
    rw [hentry]
    exact hnext t value hr

theorem closure_call {β : Type} [Journaled T] (p : Call β)
    (f : β → Inside (Closed T TerminalError)) :
    closure (Inside.call p >>= f) = Inside.call p >>= fun a => closure (f a) :=
  Prog.bind_assoc _ _ _

end Handler

/-! ## A call that sends -/

/-- What the exchanges of a call established, `during` holding. -/
def ReadAt (during : OrderCondition I W)
    (fact : Exchange ServiceRequest.Answer → OrderCondition I W)
    (t : List (Exchange AgentRequest.Answer)) : OrderCondition I W :=
  fun h w => during h w ∧ ∀ e ∈ t, fact ⟨.agent e.1, e.2⟩ h w

theorem ReadAt.enduring {P : OrderCondition I W}
    {fact : Exchange ServiceRequest.Answer → OrderCondition I W}
    (hR : ReadingAt H J id ServiceRequest.Reads P fact)
    (t : List (Exchange AgentRequest.Answer)) : Enduring H (ReadAt P fact t) where
  drift h hw := ⟨hR.enduring.drift h.1 hw, fun e he => (hR.enduring_fact _).drift (h.2 e he) hw⟩
  quiet e hq h := ⟨hR.enduring.quiet e hq h.1,
    fun d hd => (hR.enduring_fact _).quiet e hq (h.2 d hd)⟩

/-- **A call that only reads**, with what its reads established at its end. -/
theorem safe_reading_call {P : OrderCondition I W}
    {fact : Exchange ServiceRequest.Answer → OrderCondition I W} {T β : Type} [Journaled T]
    {K : Option UnresolvedWrite → Prop} {name : String}
    {Post : Journal → OrderAssertion I W → Prop} {p : Call β}
    {next : β → Inside (Closed T TerminalError)}
    (hR : ReadingAt H J id ServiceRequest.Reads P fact)
    (hreads : Prog.Ensures p fun t _ => ReadOnly t)
    (hnext : ∀ t a, Prog.Runs p t a → Safe H J id K false (Holds P) name Post
      (Handler.closure (next a)) (Holds (ReadAt P fact t))) :
    Safe H J id K false (Holds P) name Post (Handler.closure (Inside.call p >>= next)) (Holds P) := by
  rw [Handler.closure_call]
  have hnil : ∀ b h w, Holds P b h w → Holds (ReadAt P fact []) b h w :=
    fun b h w hP => ⟨hP, fun _ he => by cases he⟩
  refine safe_mono (safe_embed_bind (fun t => Holds (ReadAt P fact t))
    (fun t => (ReadAt.enduring hR t).within (fun h w hr => hr.1)) ?_ hnext) hnil
    (fun _ κ' hpost => ⟨κ', hpost, fun _ _ _ h => h⟩)
  rintro t r k hs x b h w w' ⟨hP, hfacts⟩ hJ - hanswer
  have hread : ServiceRequest.Reads (.agent r) :=
    hreads.steps (fun t t' h => (readOnly_append.mp h).1) (hs.snoc x) _
      (List.mem_append_right _ List.mem_cons_self)
  obtain ⟨hJ', hP'⟩ := hR.keeps (b := b) hread hP hJ hanswer
  refine ⟨hJ', hP', List.forall_mem_append.mpr ⟨fun e he => ?_, ?_⟩⟩
  · exact hR.keepsFact (b := b) hread hP hJ (hfacts e he) hanswer
  · exact List.forall_mem_singleton.mpr (hR.establishes (b := b) hread hP hJ hanswer)

/-- What a recorded result leaves behind. -/
def Outcome (during : OrderCondition I W) (settled : WriteResult → OrderCondition I W)
    (result : WriteResult) : OrderCondition I W :=
  fun h w => during h w ∧ (result.isUnresolved = false → settled result h w)

/-- A recorded result that settles the write. -/
def Settling (settled : WriteResult → OrderCondition I W) (result : WriteResult) :
    OrderCondition I W :=
  fun h w => result.isUnresolved = false ∧ settled result h w

theorem outcome_unresolved {during : OrderCondition I W} {settled : WriteResult → OrderCondition I W}
    (diagnostic : WriteDiagnostic) :
    Outcome during settled (.unresolved diagnostic) = during := by
  funext h w
  simp [Outcome, WriteResult.isUnresolved]

/-- **What there is to show about a call that sends under a marker.** `during` is what
holds from the first send on, `sent t` what holds of a call that has exchanged `t`,
`settled` what a settled result leaves behind. -/
structure Writes
    (H : Host ServiceRequest.Answer UnresolvedWrite Journal TerminalError InvocationId I O W)
    (J : List (OrderEvent I) → W → Prop) (id : InvocationId) (during : OrderCondition I W)
    (fact : Exchange ServiceRequest.Answer → OrderCondition I W)
    (sent : List (Exchange AgentRequest.Answer) → OrderCondition I W)
    (settled : WriteResult → OrderCondition I W) (marker : UnresolvedWrite)
    (call : Call WriteResult) : Prop where
  reading : ReadingAt H J id ServiceRequest.Reads during fact
  sending : ∀ t, Enduring H (sent t)
  settling : ∀ result, Enduring H (settled result)
  during_of_sent : ∀ t h w, sent t h w → during h w
  /-- The credentials are fetched before anything else. -/
  opens : ∀ {h w w'} {x : ServiceRequest.Answer .gateway}, sent [] h w → J h w →
    H.answers id w .gateway x w' → J (h ++ [.asked id .gateway x]) w'
      ∧ sent [] (h ++ [.asked id .gateway x]) w'
  asks : ∀ t r k, Prog.Steps call t (.call r k) → ∀ (x : r.Answer) h w w', sent t h w → J h w →
    storedAt h = some marker → H.answers id w (.agent r) x w' →
      J (h ++ [.asked id (.agent r) x]) w' ∧ sent (t ++ [⟨r, x⟩]) (h ++ [.asked id (.agent r) x]) w'
  settles : ∀ t result, Prog.Runs call t result → result.isUnresolved = false →
    ∀ name h w, sent t h w → J h w → settled result (h ++ [.recorded id name (.ok (.write result))]) w
  reconciles : ∀ diagnostic t result, Prog.Runs (reconcileWriteDiagnostic marker diagnostic) t result →
    result.isUnresolved = false → ∀ name h w, ReadAt during fact t h w → J h w →
      settled result (h ++ [.recorded id name (.ok (.write result))]) w
  clears : ∀ result h w, settled result h w → J h w → storedAt h = some marker →
    J (h ++ [.cleared id]) w

namespace Writes

variable {during : OrderCondition I W}
  {fact : Exchange ServiceRequest.Answer → OrderCondition I W}
  {sent : List (Exchange AgentRequest.Answer) → OrderCondition I W}
  {settled : WriteResult → OrderCondition I W} {marker : UnresolvedWrite}
  {call : Call WriteResult}

theorem enduring_outcome (hW : Writes H J id during fact sent settled marker call)
    (result : WriteResult) : Enduring H (Outcome during settled result) where
  drift h hw := ⟨hW.reading.enduring.drift h.1 hw, fun hr => (hW.settling result).drift (h.2 hr) hw⟩
  quiet e hq h := ⟨hW.reading.enduring.quiet e hq h.1,
    fun hr => (hW.settling result).quiet e hq (h.2 hr)⟩

theorem enduring_settling (hW : Writes H J id during fact sent settled marker call)
    (result : WriteResult) : Enduring H (Settling settled result) where
  drift h hw := ⟨h.1, (hW.settling result).drift h.2 hw⟩
  quiet e hq h := ⟨h.1, (hW.settling result).quiet e hq h.2⟩

/-- A result for a reason and nothing else settles nothing. -/
theorem outcome_because (hW : Writes H J id during fact sent settled marker call) {name : String}
    {reason : String} {h : List (OrderEvent I)} {w : W} (hduring : during h w) :
    Outcome during settled (.because reason)
      (h ++ [.recorded id name (.ok (.write (.because reason)))]) w :=
  ⟨hW.reading.enduring.quiet _ rfl hduring, fun hr => by cases hr⟩

/-- **The attempt**: the credentials, the call, and its result. -/
theorem safe_attempt (hW : Writes H J id during fact sent settled marker call)
    {κ : OrderAssertion I W} {φ : Bool → Prop} (hwithin : ∀ t, Within H κ (Under φ (sent t))) (unavailable name : String) :
    Safe H J id (fun m => m = some marker) false κ name
      (fun entry κ' => ∃ result, entry = Journaled.encode result
        ∧ κ' = Holds (Outcome during settled result))
      (Handler.closure (attemptWrite unavailable call)) (Under φ (sent [])) := by
  refine ⟨rfl, fun acquired => ⟨Under φ (sent []), hwithin [], ?_, ?_⟩⟩
  · rintro b h w w' ⟨hb, hsent⟩ hJ - hanswer
    obtain ⟨hJ', hsent'⟩ := hW.opens hsent hJ hanswer
    exact ⟨hJ', hb, hsent'⟩
  cases acquired with
  | error fault =>
    refine ⟨_, ⟨_, rfl, rfl⟩, fun b h w hsent hJ => ?_⟩
    exact hW.outcome_because (hW.during_of_sent _ _ _ hsent.2)
  | ok _ =>
    show Safe H J id _ false κ name _
      (Handler.closure (T := WriteResult) (Inside.call call >>= fun result => pure (.done result))) _
    rw [Handler.closure_call]
    refine safe_embed_bind (fun t => Under φ (sent t)) hwithin ?_ ?_
    · rintro t r k hs x b h w w' ⟨hb, hsent⟩ hJ hstored hanswer
      obtain ⟨hJ', hsent'⟩ := hW.asks t r k hs x h w w' hsent hJ hstored hanswer
      exact ⟨hJ', hb, hsent'⟩
    · intro t result hr
      refine ⟨_, ⟨result, rfl, rfl⟩, fun b h w hsent hJ => ⟨?_, fun hresolved => ?_⟩⟩
      · exact hW.reading.enduring.quiet _ rfl (hW.during_of_sent _ _ _ hsent.2)
      · exact hW.settles t result hr hresolved name h w hsent.2 hJ

/-- **The reconciliation** only reads, and what settles it was read. -/
theorem safe_reconcile (hW : Writes H J id during fact sent settled marker call)
    (diagnostic : WriteDiagnostic) (name : String) :
    Safe H J id (fun m => m = some marker) false (Holds during) name
      (fun entry κ' => ∃ result, entry = Journaled.encode result
        ∧ κ' = Holds (Settling settled result))
      (Handler.closure (reconcileClosure marker diagnostic)) (Holds during) := by
  refine ⟨rfl, fun acquired => ⟨Holds during, hW.reading.lasting.within, ?_, ?_⟩⟩
  · intro b h w w' hduring hJ _ hanswer
    exact hW.reading.keeps (b := b) (r := .gateway) rfl hduring hJ hanswer
  cases acquired with
  | error fault => trivial
  | ok _ =>
    refine safe_reading_call (T := WriteResult) hW.reading
      ((reconcileWriteDiagnostic_spec marker diagnostic).mono (fun _ _ h => h.1)) ?_
    intro t result hr
    cases hunresolved : result.isUnresolved with
    | true =>
      cases result with
      | unresolved diagnostic' => trivial
      | create | storno | delete | answered => cases hunresolved
    | false =>
      have hrecorded : ∀ h w, ReadAt during fact t h w → J h w →
          Settling settled result (h ++ [.recorded id name (.ok (.write result))]) w :=
        fun h w hread hJ =>
          ⟨hunresolved, hW.reconciles diagnostic t result hr hunresolved name h w hread hJ⟩
      cases result with
      | unresolved diagnostic' => cases hunresolved
      | create outcome => exact ⟨_, ⟨_, rfl, rfl⟩, fun b h w => hrecorded h w⟩
      | storno outcome => exact ⟨_, ⟨_, rfl, rfl⟩, fun b h w => hrecorded h w⟩
      | delete outcome => exact ⟨_, ⟨_, rfl, rfl⟩, fun b h w => hrecorded h w⟩
      | answered credentials answer => exact ⟨_, ⟨_, rfl, rfl⟩, fun b h w => hrecorded h w⟩

/-- **The settlement**: what is unresolved is reconciled, and the marker cleared. -/
theorem obeys_settle (hW : Writes H J id during fact sent settled marker call)
    (name : String) (uncertain : TerminalError → HandlerError) (result : WriteResult) :
    Handler.Obeys H J id (do
        let result ← settle name uncertain marker result
        Handler.clear
        return result) (fun m => m = some marker) false (Holds (Outcome during settled result)) := by
  have hclear : ∀ (result : WriteResult) (P : OrderCondition I W),
      (∀ h w, P h w → settled result h w) → Handler.Obeys H J id (do
        Handler.clear
        return result) (fun m => m = some marker) false (Holds P) :=
    fun result P himp => Handler.obeys_clear_bind
      (fun b h w hP hJ hstored => hW.clears result h w (himp h w hP) hJ hstored)
      (Handler.obeys_pure result)
  cases result with
  | unresolved diagnostic =>
    rw [outcome_unresolved]
    exact Handler.obeys_run_bind (fun result => Holds (Settling settled result))
      (fun result => (hW.enduring_settling result).lasting) hW.reading.lasting.within (fun b h w => hW.reading.lasting.quiet _ rfl)
      (safe_reconcile hW diagnostic name) (fun result => hclear result _ (fun h w hs => hs.2))
  | create outcome => exact hclear _ _ (fun h w hs => hs.2 rfl)
  | storno outcome => exact hclear _ _ (fun h w hs => hs.2 rfl)
  | delete outcome => exact hclear _ _ (fun h w hs => hs.2 rfl)
  | answered credentials answer => exact hclear _ _ (fun h w hs => hs.2 rfl)

end Writes

/-! ## The two protocols -/

section Protocols

variable {P during armed : OrderCondition I W}
  {fact fact' : Exchange ServiceRequest.Answer → OrderCondition I W} {seen : Readings}
  {sent : List (Exchange AgentRequest.Answer) → OrderCondition I W}
  {settled : WriteResult → OrderCondition I W}

/-- **The protected write respects the invariant** if its call does: what held before it
is what the permission carries to the send. -/
theorem obeys_protectedWrite {exec : Execution} {ctx : Context} {order : OrderKey}
    {externalId : ExternalId} {operation : WriteOperation} {name : String}
    {write : UnresolvedWrite → Call WriteResult}
    (hR : ReadingAt H J id ServiceRequest.Reads P fact) (harmed : Enduring H armed)
    (hstore : ∀ marker h w, (∃ time, marker
        = { exec.writeMarker ctx order externalId operation with createdAt := Clock.display time }) →
      Known P fact seen h w → J h w → storedAt h = none → J (h ++ [.stored id marker]) w)
    (harm : ∀ h w, Known P fact seen h w →
      armed (h ++ [.recorded id "arm-write" (.ok .unit)]) w)
    (hstart : ∀ h w, armed h w → sent [] h w)
    (hwrites : ∀ marker, (∃ time, marker
        = { exec.writeMarker ctx order externalId operation with createdAt := Clock.display time }) →
      Writes H J id during fact' sent settled marker (write marker)) :
    (exec.protectedWrite ctx order externalId operation name write).Obeys H J id
      (fun m => m = none) false (Holds (Known P fact seen)) := by
  have hlasting := (hR.enduring_known seen).lasting
  unfold Execution.protectedWrite
  refine Handler.obeys_reading_bind hR ⟨rfl, fun time => trivial⟩ fun t marker hr => ?_
  -- The reading of the clock is the only thing that is not yet fixed in the marker.
  have hmarker : ∃ time, marker
      = { exec.writeMarker ctx order externalId operation with createdAt := Clock.display time } := by
    obtain ⟨time, t', -, hend⟩ := Prog.runs_call.mp hr
    obtain ⟨-, hend⟩ := Prog.runs_ret.mp hend
    cases hend
    exact ⟨_, rfl⟩
  have hW := hwrites marker hmarker
  have hduring : ∀ h w, armed h w → during h w :=
    fun h w ha => hW.during_of_sent [] h w (hstart h w ha)
  refine Handler.obeys_store_bind (fun b h w => hstore marker h w hmarker) ?_
  refine Handler.obeys_run_bind (fun _ => Armed during armed)
    (fun _ => hW.reading.enduring.armed harmed) hlasting.within
    (fun b h w => hlasting.quiet _ rfl) ?_ fun _ => ?_
  · -- the permission is armed
    refine fun old => ⟨_, hlasting.within, fun h w hs => hs, _, ⟨(), rfl, rfl⟩, fun b h w hs _ => ?_⟩
    have ha := harm h w hs
    exact ⟨hduring _ _ ha, fun _ => ha⟩
  refine Handler.obeys_run_bind (fun result => Holds (Outcome during settled result))
    (fun result => (hW.enduring_outcome result).lasting)
    (hW.reading.enduring.armed harmed).within
    (fun b h w => (hW.reading.enduring.armed harmed).quiet _ rfl) ?_ fun result => ?_
  · -- the permission is consumed by the send
    intro permitted
    cases permitted with
    | true =>
      refine ⟨Under (fun b => b = false) (sent []),
        (hW.sending []).within_lowered (hW.during_of_sent []),
        fun h w ha => ⟨rfl, hstart h w (ha.2 rfl)⟩, ?_⟩
      exact hW.safe_attempt (fun t => (hW.sending t).within_lowered (hW.during_of_sent t)) _ _
    | false =>
      refine ⟨Under (fun b => b = false) during,
        hW.reading.enduring.within_lowered (fun h w hd => hd), fun h w ha => ⟨rfl, ha.1⟩, ?_⟩
      exact ⟨_, ⟨_, rfl, rfl⟩, fun b h w hd _ => hW.outcome_because hd.2⟩
  · exact hW.obeys_settle _ _ result

/-- The markers a replay-enabled write can store. -/
structure ReplayMarker (prepared marker : UnresolvedWrite) : Prop where
  prepared : ∃ time, marker = { prepared with createdAt := Clock.display time }
  contract : marker.executionContract.isSome = true
  valid : marker.validExecutionContract = true

/-- **The replay-enabled write respects the invariant** if every execution of its call
does, from what the barrier established. -/
theorem obeys_replayEnabledWrite {order : OrderKey} {externalId : ExternalId}
    {prepared : UnresolvedWrite} {operation : ReplayWrite}
    {write : UnresolvedWrite → Call WriteResult}
    (hR : ReadingAt H J id ServiceRequest.Reads P fact)
    (hstore : ∀ marker h w, ReplayMarker prepared marker → Known P fact seen h w → J h w →
      storedAt h = none → J (h ++ [.stored id marker]) w)
    (hbarrier : ∀ h w, Known P fact seen h w →
      during (h ++ [.recorded id (operation.step ++ "-marker-committed") (.ok .unit)]) w)
    (hstart : ∀ name h w, during h w → sent [] (h ++ [.began id name]) w)
    (hwrites : ∀ marker, ReplayMarker prepared marker →
      Writes H J id during fact' sent settled marker (write marker)) :
    (replayEnabledWrite order externalId prepared operation write).Obeys H J id
      (fun m => m = none) false (Holds (Known P fact seen)) := by
  have hlasting := (hR.enduring_known seen).lasting
  unfold replayEnabledWrite
  refine Handler.obeys_lift_bind fun intent hintent => ?_
  -- The check of the intent leaves the marker as it was prepared.
  have hprepared : intent.marker = prepared := by
    have hnew := Except.mapError_eq_ok.mp hintent
    unfold ReplayIntent.new at hnew
    split_ifs at hnew
    cases hnew
    rfl
  refine Handler.obeys_reading_bind hR ⟨rfl, fun time => trivial⟩ fun t intent' hr => ?_
  have hmarker : ReplayMarker prepared intent'.marker := by
    obtain ⟨time, t', -, hend⟩ := Prog.runs_call.mp hr
    obtain ⟨-, hend⟩ := Prog.runs_ret.mp hend
    cases hend
    exact ⟨⟨time, by rw [← hprepared]; rfl⟩, intent.contract, intent.valid⟩
  have hW := hwrites _ hmarker
  refine Handler.obeys_store_bind (fun b h w => hstore _ h w hmarker) ?_
  refine Handler.obeys_run_bind (fun _ => Holds during) (fun _ => hW.reading.lasting)
    hlasting.within (fun b h w => hlasting.quiet _ rfl) ?_ fun _ => ?_
  · exact ⟨_, ⟨(), rfl, rfl⟩, fun b h w hs _ => hbarrier h w hs⟩
  refine Handler.obeys_run_bind (fun result => Holds (Outcome during settled result))
    (fun result => (hW.enduring_outcome result).lasting)
    ((hW.sending []).within_under (φ := fun _ => True) (hW.during_of_sent []))
    (fun b h w hd => ⟨trivial, hstart _ h w hd⟩) ?_ fun result => ?_
  · -- each execution of the write starts from the barrier again
    unfold replayClosure
    split_ifs
    · exact hW.safe_attempt (fun t => (hW.sending t).within_under (hW.during_of_sent t)) _ _
    · exact ⟨_, ⟨_, rfl, rfl⟩, fun b h w hs _ =>
        hW.outcome_because (hW.during_of_sent _ _ _ hs.2)⟩
  · exact hW.obeys_settle _ _ result

end Protocols

/-! ## The handlers -/

section Handlers

variable [FaultText] {P : OrderCondition I W}
  {fact : Exchange ServiceRequest.Answer → OrderCondition I W}

omit [FaultText] in
/-- **A handler behind the guard** respects the invariant if its write does, with what was
read before it. -/
theorem obeys_guarded {α : Type} {config : WorkerConfig} {ctx : Context} {order : OrderKey}
    {start : OrderCondition I W} {serve : Execution → Handler α}
    (hR : ReadingAt H J id ServiceRequest.Reads P fact)
    (hfree : ∀ h w, start h w → J h w → storedAt h = none → P h w)
    (hserve : ∀ exec seen, exec.config = config → (serve exec).Admits config ctx order seen)
    (hwrite : ∀ exec write seen, exec.config = config → Justified config.namespace order seen write →
      (write.handler exec ctx order).Obeys H J id (fun m => m = none) false
        (Holds (Known P fact seen))) :
    Handler.Obeys H J id (do
      guard
      let exec ← runPrologue ctx config
      serve exec) (fun _ => True) false (Holds start) := by
  have hadmits : Handler.Admits config ctx order (runPrologue ctx config >>= serve) [] :=
    (onlyReads_runPrologue ctx config).admits (answers_runPrologue ctx config)
      fun t exec hexec => hserve exec _ hexec.2
  unfold guard
  rw [bind_assoc]
  refine Handler.obeys_stored_bind fun m => ?_
  cases m with
  | some marker =>
    exact ⟨fun _ _ => True, ⟨fun _ _ => trivial, fun _ _ _ => trivial⟩, fun _ _ _ _ _ _ _ => trivial,
      trivial⟩
  | none =>
    refine ⟨Known P fact [], hR.enduring_known [], ?_, ?_⟩
    · exact fun b h w hs hJ hm _ => ⟨hfree h w hs hJ hm, fun _ he => by cases he⟩
    · refine hR.obeys hadmits (fun _ _ _ => trivial) fun seen g hg => ?_
      obtain ⟨exec, write, respond, hconfig, hjustified, hrespond, rfl⟩ := hg
      exact (hwrite exec write seen hconfig hjustified).answering hrespond

/-- **What there is to show about a recovery**: `verified` is what good evidence leaves
behind, `recovered` what its record does. -/
structure Recovers
    (H : Host ServiceRequest.Answer UnresolvedWrite Journal TerminalError InvocationId I O W)
    (J : List (OrderEvent I) → W → Prop) (id : InvocationId) (P : OrderCondition I W)
    (fact : Exchange ServiceRequest.Answer → OrderCondition I W)
    (verified recovered : OrderCondition I W) (request : RecoveryRequest) : Prop where
  reading : ReadingAt H J id ServiceRequest.Reads P fact
  verifying : Enduring H verified
  recovering : Enduring H recovered
  /-- The named document was read, and settles the write. -/
  documents : ∀ (number : ProviderDocumentNumber) t result, request.evidence = .document number →
    Prog.Runs (reconcileWriteChecked request.marker (some number.text)) t (.ok result) →
    checkVerified result = .ok () → ∀ name h w, ReadAt P fact t h w → J h w →
      verified (h ++ [.recorded id name (.ok (.write result))]) w
  /-- An attestation is taken as given. -/
  attestations : (∀ number, request.evidence ≠ .document number) →
    checkEvidence request.marker.operation request.evidence = .ok () → ∀ h w, P h w → verified h w
  records : ∀ h w, verified h w → recovered (h ++ [.recorded id "record-recovery"
    (.ok (.recovery { token := request.marker.token, operator := request.operator
                      evidence := request.evidence.toJson }))]) w
  clears : ∀ h w, recovered h w → J h w → storedAt h = some request.marker →
    J (h ++ [.cleared id]) w

omit [FaultText] in
theorem exactMarker_eq_ok {ctx : Context} {request : RecoveryRequest} {exact : Json}
    {stored : Option UnresolvedWrite} {marker : UnresolvedWrite}
    (h : exactMarker ctx request exact stored = .ok marker) :
    stored = some request.marker ∧ marker = request.marker
      ∧ Json.sameValue marker.toJson exact = true := by
  unfold exactMarker at h
  split at h
  · cases h
  · rename_i stored
    split at h
    · cases h
    · rename_i decoded hdecoded
      split_ifs at h with hdiffers
      cases h
      rw [not_or, not_not, Bool.not_eq_false] at hdiffers
      obtain rfl := eq_of_decodeMarker_toJson hdecoded
      exact ⟨by rw [hdiffers.1], hdiffers.1, hdiffers.2⟩

theorem verifyEvidence_document {marker : UnresolvedWrite} {evidence : RecoveryEvidence}
    {number : ProviderDocumentNumber} (h : evidence = .document number) :
    verifyEvidence marker evidence = (do
      let result ← Handler.run "verify-recovery" (fun error => .fault (readFault error))
        (verifyClosure marker number)
      Handler.lift (checkVerified result)) := by
  subst h
  rfl

theorem verifyEvidence_attested {marker : UnresolvedWrite} {evidence : RecoveryEvidence}
    (h : ∀ number, evidence ≠ .document number) : verifyEvidence marker evidence = pure () := by
  cases evidence with
  | document number => exact absurd rfl (h number)
  | notExecuted | completed => rfl

section Recovers

variable {verified recovered : OrderCondition I W} {request : RecoveryRequest}

omit [FaultText] in
theorem Recovers.enduring_checked (hR : Recovers H J id P fact verified recovered request)
    (result : WriteResult) :
    Enduring H (fun h w => checkVerified result = .ok () → verified h w) where
  drift h hw hok := hR.verifying.drift (h hok) hw
  quiet e hq h hok := hR.verifying.quiet e hq (h hok)

/-- The read of the document an operator named. -/
theorem Recovers.safe_verify (hR : Recovers H J id P fact verified recovered request)
    {number : ProviderDocumentNumber} (hnumber : request.evidence = .document number)
    {name : String} : Safe H J id (fun m => m = some request.marker) false (Holds P) name
      (fun entry κ' => ∃ result, entry = Journaled.encode result
        ∧ κ' = Holds fun h w => checkVerified result = .ok () → verified h w)
      (Handler.closure (verifyClosure request.marker number)) (Holds P) := by
  refine ⟨rfl, fun acquired => ⟨Holds P, hR.reading.lasting.within, ?_, ?_⟩⟩
  · exact fun b h w w' hs hJ _ hanswer => hR.reading.keeps (b := b) (r := .gateway) rfl hs hJ hanswer
  cases acquired with
  | error fault =>
    show Safe H J id _ false _ name _ (Handler.closure (T := WriteResult) (pure fault.toClosed)) _
    unfold Fault.toClosed
    cases fault.code.status <;> trivial
  | ok _ =>
    refine safe_reading_call (T := WriteResult) hR.reading
      ((reconcileWriteChecked_spec request.marker (some number.text)).mono (fun _ _ h => h.1)) ?_
    intro t answer hr
    cases answer with
    | error cause => trivial
    | ok result =>
      exact ⟨_, ⟨result, rfl, rfl⟩, fun b h w hread hJ hok =>
        hR.documents number t result hnumber hr hok name h w hread hJ⟩

end Recovers

/-- **The recovery respects the invariant** if its evidence and its record do, from what
its beginning says of the marker it finds. -/
theorem obeys_recoverMarker {ctx : Context} {request : RecoveryRequest} {exact : Json}
    {start verified recovered : OrderCondition I W}
    (hR : Json.sameValue request.marker.toJson exact = true →
      Recovers H J id P fact verified recovered request) (hP : Enduring H P)
    (hfound : ∀ h w, start h w → J h w → storedAt h = some request.marker → P h w) :
    (recoverMarker ctx request exact).Obeys H J id (fun _ => True) false (Holds start) := by
  unfold recoverMarker
  refine Handler.obeys_stored_bind fun m => ?_
  by_cases hm : m = some request.marker
  case neg =>
    -- another marker, or none, is refused
    refine ⟨fun _ _ => True, ⟨fun _ _ => trivial, fun _ _ _ => trivial⟩,
      fun _ _ _ _ _ _ _ => trivial, ?_⟩
    refine Handler.obeys_lift_bind fun marker hmarker => ?_
    exact absurd (exactMarker_eq_ok hmarker).1 hm
  subst hm
  refine ⟨P, hP, fun _ h w hs hJ hstored _ => hfound h w hs hJ hstored, ?_⟩
  refine Handler.obeys_lift_bind fun marker hmarker => ?_
  obtain ⟨-, rfl, hexact⟩ := exactMarker_eq_ok hmarker
  refine Handler.obeys_lift_bind fun account _ => ?_
  refine Handler.obeys_lift_bind fun _ hevidence => ?_
  have hR := hR hexact
  -- what follows the evidence, whatever it was
  have htail : ∀ Q : OrderCondition I W, Enduring H Q → (∀ h w, Q h w → verified h w) →
      Handler.Obeys H J id (do
        let receipt ← Handler.run (T := RecoveryResponse) "record-recovery"
          (fun error => .fault (readFault error))
          (pure (.done { token := request.marker.token, operator := request.operator
                         evidence := request.evidence.toJson }))
        Handler.clear
        return receipt) (fun m => m = some request.marker) false (Holds Q) := by
    intro Q hQ hverified
    refine Handler.obeys_run_bind (fun _ => Holds recovered) (fun _ => hR.recovering.lasting)
      hQ.lasting.within (fun b h w => hQ.quiet _ rfl) ?_ fun receipt => ?_
    · exact ⟨_, ⟨_, rfl, rfl⟩, fun b h w hs _ => hR.records h w (hverified h w hs)⟩
    · exact Handler.obeys_clear_bind (fun b h w => hR.clears h w) (Handler.obeys_pure receipt)
  by_cases hdocument : ∃ number, request.evidence = .document number
  · obtain ⟨number, hnumber⟩ := hdocument
    rw [verifyEvidence_document hnumber, bind_assoc]
    refine Handler.obeys_run_bind
      (fun result => Holds fun h w => checkVerified result = .ok () → verified h w)
      (fun result => (hR.enduring_checked result).lasting) hP.lasting.within
      (fun b h w => hP.quiet _ rfl) (hR.safe_verify hnumber) fun result => ?_
    refine Handler.obeys_lift_bind fun _ hok => ?_
    exact htail _ (hR.enduring_checked result) (fun h w hs => hs hok)
  · have hother : ∀ number, request.evidence ≠ .document number :=
      fun number hnumber => hdocument ⟨number, hnumber⟩
    rw [verifyEvidence_attested hother]
    exact htail P hP (hR.attestations hother hevidence)

end Handlers

end Rules

end Szamlazz
