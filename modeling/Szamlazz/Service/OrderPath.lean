import Szamlazz.Lib.DurablePath
import Szamlazz.Service.Write

/-!
# Leading an order along its handlers

The law of an order says what no run does; that an order comes anywhere at all is shown
by a run. `Handler.Conducts` says where a handler leads when every command succeeds, with
one rule for each thing a handler does.
-/

namespace Szamlazz

open Durable

section Paths

variable [Unicode] [Transport] [Clock] {I O W : Type}
  {H : Host ServiceRequest.Answer UnresolvedWrite Journal TerminalError InvocationId I O W}
  {id : InvocationId}

/-- Where an execution of an order stands. -/
abbrev OrderSpot (I W : Type) : Type :=
  Spot ServiceRequest.Answer UnresolvedWrite Journal TerminalError InvocationId I W

/-- Where a handler that returns leads. -/
def Handler.Conducts
    (H : Host ServiceRequest.Answer UnresolvedWrite Journal TerminalError InvocationId I O W)
    (id : InvocationId) {α : Type} (handler : Handler α) (σ : OrderSpot I W) (a : α)
    (σ' : OrderSpot I W) : Prop :=
  Durable.Conducts H id (ExceptT.run handler) σ (.ok a) σ'

namespace Handler

variable {α β T : Type} {σ σ' σ'' : OrderSpot I W}

theorem conducts_pure {a : α} : (pure a : Handler α).Conducts H id σ a σ := conducts_ret

theorem conducts_lift {result : Except Fault α} {a : α} (h : result = .ok a) :
    (lift result).Conducts H id σ a σ := by
  subst h
  exact conducts_ret

theorem Conducts.bind {handler : Handler α} {next : α → Handler β} {a : α} {b : β}
    (h : handler.Conducts H id σ a σ') (h' : (next a).Conducts H id σ' b σ'') :
    (handler >>= next).Conducts H id σ b σ'' :=
  Durable.Conducts.bind h h'

/-- A first part led through leaves the rest. -/
theorem Conducts.reach {handler : Handler α} {next : α → Handler β} {i : I} {a : α}
    {g : Except HandlerError β → Flow ServiceRequest.Answer UnresolvedWrite Journal TerminalError O}
    (h : handler.Conducts H id σ a σ')
    (hr : CanReach H id i (ExceptT.run (handler >>= next) >>= g) σ) :
    CanReach H id i (ExceptT.run (next a) >>= g) σ' := by
  refine h i (fun x => ExceptT.bindCont next x >>= g) ?_
  rw [← Flow.bind_assoc]
  exact hr

/-- What is left of a first part is left of the whole. -/
theorem reach_inner {handler : Handler α} {next : α → Handler β} {i : I}
    {g : Except HandlerError β → Flow ServiceRequest.Answer UnresolvedWrite Journal TerminalError O}
    (hr : CanReach H id i (ExceptT.run (handler >>= next) >>= g) σ) :
    CanReach H id i (ExceptT.run handler >>= fun x => ExceptT.bindCont next x >>= g) σ := by
  rw [← Flow.bind_assoc]
  exact hr

theorem Conducts.mapFault {handler : Handler α} {a : α} (h : handler.Conducts H id σ a σ')
    (f : Fault → Fault) : (mapFault f handler).Conducts H id σ a σ' :=
  Durable.Conducts.bind h conducts_ret

theorem conducts_stored : stored.Conducts H id σ σ.stored σ := conducts_get conducts_ret

theorem conducts_store (marker : UnresolvedWrite) :
    (store marker).Conducts H id σ () (σ.add (.stored id marker)) := conducts_set conducts_ret

theorem conducts_clear : clear.Conducts H id σ () (σ.add (.cleared id)) :=
  Durable.conducts_clear conducts_ret

theorem conducts_run [Journaled T] {name : String} {fault : TerminalError → HandlerError}
    {body : Inside (Closed T TerminalError)} {value : T}
    (hbody : Carries H id body (σ.add (.began id name)) (.done value) σ') :
    (run name fault body).Conducts H id σ value
      (σ'.add (.recorded id name (.ok (Journaled.encode value)))) := by
  have hclosure : Carries H id (closure body) (σ.add (.began id name))
      (.done (Journaled.encode value)) σ' := hbody.bind .ret
  refine Durable.conducts_run hclosure ?_
  rw [ofEntry, Journaled.decode_encode]
  exact conducts_ret

end Handler

variable {γ : Type} {σ σ' : OrderSpot I W} {c : γ}

/-- The place after a call. -/
def exchanged (id : InvocationId) (σ : OrderSpot I W) (tr : List (Exchange AgentRequest.Answer)) :
    OrderSpot I W :=
  { σ with history := σ.history ++ tr.map fun e => .asked id (.agent e.1) e.2 }

/-- A call is carried through by any of its runs the world allows. -/
theorem carries_call {p : Call γ} {tr : List (Exchange AgentRequest.Answer)}
    (hr : Prog.Runs p tr c)
    (hanswers : ∀ e ∈ tr, H.answers id σ.world (.agent e.1) e.2 σ.world) :
    Carries H id (Inside.call p) σ c (exchanged id σ tr) := by
  induction p generalizing σ tr with
  | ret a =>
    obtain ⟨rfl, rfl⟩ := Prog.runs_ret.mp hr
    rw [exchanged, List.map_nil, List.append_nil]
    exact .ret
  | call r k ih =>
    obtain ⟨x, t, rfl, hk⟩ := Prog.runs_call.mp hr
    have hrest := ih x (σ := { σ with history := σ.history ++ [.asked id (.agent r) x] }) hk
      (fun e he => hanswers e (List.mem_cons_of_mem _ he))
    rw [exchanged, List.append_assoc] at hrest
    exact .ask x σ.world (hanswers _ List.mem_cons_self) hrest

theorem carries_gateway {k : Except Fault Unit → Inside γ} (x : Except Fault Unit)
    (hanswer : H.answers id σ.world .gateway x σ.world)
    (hk : Carries H id (k x) (σ.add (.asked id .gateway x)) c σ') :
    Carries H id (Inside.gateway >>= k) σ c σ' := .ask x σ.world hanswer hk

theorem carries_resolve {scope : Option String} {k : Except ResolveError Account → Inside γ}
    (x : Except ResolveError Account) (hanswer : H.answers id σ.world (.resolve scope) x σ.world)
    (hk : Carries H id (k x) (σ.add (.asked id (.resolve scope) x)) c σ') :
    Carries H id (Inside.resolve scope >>= k) σ c σ' := .ask x σ.world hanswer hk

theorem carries_now {k : Clock.Timestamp → Inside γ} (x : Clock.Timestamp)
    (hanswer : H.answers id σ.world .now x σ.world)
    (hk : Carries H id (k x) (σ.add (.asked id .now x)) c σ') :
    Carries H id (Inside.now >>= k) σ c σ' := .ask x σ.world hanswer hk

end Paths

end Szamlazz
