import Szamlazz.Lib.Exchange

/-!
# Durable handlers

A handler of a keyed object, run by a host that journals it. `Flow` is its
text: it reads, sets and clears the one value stored under the key, and runs
closures (`Closure`) whose results the host records. A closure talks to the
outside and may exchange a flag that lives in the memory of the execution.

`Step` is what can happen to the object. Handlers of one key exclude each
other. An execution can be lost at any moment, and with it the flag, the
closure it was running and the commands not yet acknowledged (`pending`); the
next execution replays the journal, so a recorded result is never computed
again and an unrecorded closure starts over. A closure can be ended with an
error at any moment, which is how the host cancels, and the whole invocation
can be dropped. Meanwhile others may read, and the world moves on its own.

An execution that the host gives up stops here. That it may go on where it runs, and make
its requests after all, is the subject of `Durable.Outlived`, whose runs come back to these.
-/

/-! ## Translating requests -/

namespace Prog

variable {Req Req' : Type} {Ans : Req → Type} {Ans' : Req' → Type} {α β : Type}

/-- The same program over other requests. -/
def embed (f : Req → Req') (g : ∀ r, Ans' (f r) → Ans r) : Prog Ans α → Prog Ans' α
  | ret a => ret a
  | call r k => call (f r) (fun x => (k (g r x)).embed f g)

/-- The exchange over the other requests that stands for an exchange. -/
def Stands (f : Req → Req') (g : ∀ r, Ans' (f r) → Ans r) (e' : Exchange Ans')
    (e : Exchange Ans) : Prop :=
  ∃ r x, e' = ⟨f r, x⟩ ∧ e = ⟨r, g r x⟩

/-- **A run of the translated program is a run of the program.** -/
theorem runs_embed {f : Req → Req'} {g : ∀ r, Ans' (f r) → Ans r} {p : Prog Ans α}
    {tr' : List (Exchange Ans')} {a : α} (h : Runs (p.embed f g) tr' a) :
    ∃ tr, List.Forall₂ (Stands f g) tr' tr ∧ Runs p tr a := by
  induction p generalizing tr' with
  | ret b =>
    obtain ⟨rfl, rfl⟩ := runs_ret.mp h
    exact ⟨[], List.Forall₂.nil, Steps.refl _⟩
  | call r k ih =>
    obtain ⟨x, tr'', rfl, hr⟩ := runs_call.mp h
    obtain ⟨tr, hs, hr'⟩ := ih (g r x) hr
    exact ⟨⟨r, g r x⟩ :: tr, List.Forall₂.cons ⟨r, x, rfl, rfl⟩ hs, Steps.call hr'⟩

end Prog

namespace Durable

/-! ## The text of a handler -/

/-- What a closure does next: ask the outside, or exchange the flag. -/
inductive Act (Req : Type) : Type where
  | ask (r : Req)
  | swap (b : Bool)

/-- What it gets: the answer, or the value the flag had. -/
def Act.Ans {Req : Type} (Ans : Req → Type) : Act Req → Type
  | ask r => Ans r
  | swap _ => Bool

/-- How a closure ends: with a result to record, with an error to record, or
with a failure the host retries. -/
inductive Closed (R E : Type) : Type where
  | done (r : R)
  | failed (e : E)
  | retry
deriving DecidableEq

/-- The closure of a run. -/
abbrev Closure {Req : Type} (Ans : Req → Type) (R E : Type) : Type :=
  Prog (Act.Ans Ans) (Closed R E)

/-- **The text of a handler**: `V` is the type of the stored value, `R` of the
recorded results, `E` of the errors. -/
inductive Flow {Req : Type} (Ans : Req → Type) (V R E α : Type) : Type where
  /-- The handler has returned. -/
  | ret (a : α)
  /-- It waits for the stored value. -/
  | get (k : Except E (Option V) → Flow Ans V R E α)
  /-- It stores a value, and goes on without waiting. -/
  | set (v : V) (next : Flow Ans V R E α)
  /-- It clears the value, and goes on without waiting. -/
  | clear (next : Flow Ans V R E α)
  /-- It runs a closure and waits for its recorded result. -/
  | run (name : String) (body : Closure Ans R E) (k : Except E R → Flow Ans V R E α)

namespace Flow

variable {Req : Type} {Ans : Req → Type} {V R E α β γ : Type}

/-- Sequencing. -/
def bind (p : Flow Ans V R E α) (f : α → Flow Ans V R E β) : Flow Ans V R E β :=
  match p with
  | ret a => f a
  | get k => get (fun x => (k x).bind f)
  | set v next => set v (next.bind f)
  | clear next => clear (next.bind f)
  | run name body k => run name body (fun x => (k x).bind f)

instance : Monad (Flow Ans V R E) where
  pure := ret
  bind := bind

@[simp] theorem pure_eq (a : α) : (pure a : Flow Ans V R E α) = ret a := rfl

@[simp] theorem ret_bind (a : α) (f : α → Flow Ans V R E β) : (ret a >>= f) = f a := rfl

@[simp] theorem get_bind (k : Except E (Option V) → Flow Ans V R E α)
    (f : α → Flow Ans V R E β) : (get k >>= f) = get (fun x => k x >>= f) := rfl

@[simp] theorem set_bind (v : V) (next : Flow Ans V R E α) (f : α → Flow Ans V R E β) :
    (set v next >>= f) = set v (next >>= f) := rfl

@[simp] theorem clear_bind (next : Flow Ans V R E α) (f : α → Flow Ans V R E β) :
    (clear next >>= f) = clear (next >>= f) := rfl

@[simp] theorem run_bind (name : String) (body : Closure Ans R E)
    (k : Except E R → Flow Ans V R E α) (f : α → Flow Ans V R E β) :
    (run name body k >>= f) = run name body (fun x => k x >>= f) := rfl

/-- Whether the handler comes to a clearing, for some answers to its waiting. -/
def Clears : Flow Ans V R E α → Prop
  | ret _ => False
  | get k => ∃ x, (k x).Clears
  | set _ next => next.Clears
  | clear _ => True
  | run _ _ k => ∃ x, (k x).Clears

end Flow

/-! ## The journal -/

/-- One entry of a journal. -/
inductive Entry (V R E : Type) : Type where
  | got (x : Except E (Option V))
  | set (v : V)
  | cleared
  | ran (x : Except E R)

section Replay

variable {Req : Type} {Ans : Req → Type} {V R E α : Type}

/-- Where a handler stands after an entry; an entry of another command is a
mismatch. -/
def Flow.next : Flow Ans V R E α → Entry V R E → Option (Flow Ans V R E α)
  | get k, .got x => some (k x)
  | set _ next, .set _ => some next
  | clear next, .cleared => some next
  | run _ _ k, .ran x => some (k x)
  | _, _ => none

/-- **Where a handler stands after a journal.** -/
def Flow.replay : Flow Ans V R E α → List (Entry V R E) → Option (Flow Ans V R E α)
  | f, [] => some f
  | f, e :: j => (f.next e).bind (fun g => g.replay j)

theorem Flow.replay_snoc {f g g' : Flow Ans V R E α} {j : List (Entry V R E)}
    {e : Entry V R E} (h : f.replay j = some g) (he : g.next e = some g') :
    f.replay (j ++ [e]) = some g' := by
  induction j generalizing f with
  | nil =>
    obtain rfl : f = g := by simpa [replay] using h
    simp [replay, he]
  | cons d j ih =>
    rw [List.cons_append, replay]
    rw [replay] at h
    cases hd : f.next d with
    | none => simp [hd] at h
    | some f' =>
      rw [hd, Option.bind_some] at h
      rw [Option.bind_some]
      exact ih h

end Replay

/-! ## What happened -/

/-- One thing that happened to the object. -/
inductive Event {Req : Type} (Ans : Req → Type) (V R E Id I : Type) : Type where
  /-- An invocation started with an input. -/
  | invoked (id : Id) (i : I)
  /-- It started to execute the closure of a run. -/
  | began (id : Id) (name : String)
  /-- It made a request, answered so. -/
  | asked (id : Id) (r : Req) (x : Ans r)
  /-- Somebody who does not hold the key made a request, answered so. -/
  | observed (r : Req) (x : Ans r)
  /-- The result of its run was recorded. -/
  | recorded (id : Id) (name : String) (x : Except E R)
  /-- Its value took effect. -/
  | stored (id : Id) (v : V)
  /-- Its clearing took effect. -/
  | cleared (id : Id)

namespace Event

variable {Req : Type} {Ans : Req → Type} {V R E Id I : Type}

/-- Whose event it is. -/
def owner : Event Ans V R E Id I → Option Id
  | invoked id _ | began id _ | asked id _ _ | recorded id _ _ | stored id _ | cleared id => some id
  | observed _ _ => none

/-- An event that neither asks the outside nor starts an invocation. -/
def isQuiet : Event Ans V R E Id I → Bool
  | invoked _ _ | asked _ _ _ => false
  | _ => true

/-- An event that neither asks the outside nor touches the stored value. -/
def isNeutral : Event Ans V R E Id I → Bool
  | asked _ _ _ | stored _ _ | cleared _ => false
  | _ => true

/-- What an event does to the stored value. -/
def effect : Event Ans V R E Id I → Option V → Option V
  | stored _ v, _ => some v
  | cleared _, _ => none
  | _, m => m

end Event

section History

variable {Req : Type} {Ans : Req → Type} {V R E Id I : Type}

/-- **The value stored after a history.** -/
def storedAt (h : List (Event Ans V R E Id I)) : Option V :=
  h.foldl (fun m e => e.effect m) none

@[simp] theorem storedAt_nil : storedAt ([] : List (Event Ans V R E Id I)) = none := rfl

@[simp] theorem storedAt_snoc (h : List (Event Ans V R E Id I)) (e : Event Ans V R E Id I) :
    storedAt (h ++ [e]) = e.effect (storedAt h) := by
  simp [storedAt]

/-- An id no event belongs to. -/
def Fresh (id : Id) (h : List (Event Ans V R E Id I)) : Prop := ∀ e ∈ h, e.owner ≠ some id

end History

/-! ## The object and its steps -/

/-- What an execution of an invocation holds in memory: the commands that are
not yet durable, where the handler stands after them, the flag, and the closure
it is running. -/
structure Execution {Req : Type} (Ans : Req → Type) (V R E O : Type) : Type where
  pending : List (Entry V R E)
  flow : Flow Ans V R E O
  flag : Bool
  closure : Option (Closure Ans R E)

/-- An invocation: its durable journal, and its execution while there is one. -/
structure Invocation {Req : Type} (Ans : Req → Type) (V R E Id I O : Type) : Type where
  id : Id
  input : I
  journal : List (Entry V R E)
  execution : Option (Execution Ans V R E O)

/-- The object: the stored value, the invocation that holds the key, and
everything that happened, in a world. -/
structure System {Req : Type} (Ans : Req → Type) (V R E Id I O W : Type) : Type where
  stored : Option V
  current : Option (Invocation Ans V R E Id I O)
  history : List (Event Ans V R E Id I)
  world : W

/-- **A host**: the handlers, the invocations that may start, how the world
answers a request of an invocation and one of a bystander, and how it moves by
itself. -/
structure Host {Req : Type} (Ans : Req → Type) (V R E Id I O W : Type) : Type where
  program : Id → I → Flow Ans V R E O
  admits : I → W → Prop
  answers : Id → W → (r : Req) → Ans r → W → Prop
  observes : W → (r : Req) → Ans r → Prop
  drift : W → W → Prop
  initial : W → Prop

section Steps

variable {Req : Type} {Ans : Req → Type} {V R E Id I O W : Type}

/-- What a durable entry does to the stored value. -/
def Entry.effect : Entry V R E → Option V → Option V
  | set v, _ => some v
  | cleared, _ => none
  | _, m => m

/-- What history keeps of an entry that becomes durable. -/
def Entry.events (id : Id) : Entry V R E → List (Event Ans V R E Id I)
  | set v => [.stored id v]
  | cleared => [.cleared id]
  | _ => []

/-- **One step of the object.** -/
inductive Step (H : Host Ans V R E Id I O W) :
    System Ans V R E Id I O W → System Ans V R E Id I O W → Prop where
  /-- An invocation takes the free key. -/
  | invoke {m id i h w} (fresh : Fresh id h) (admitted : H.admits i w) :
      Step H ⟨m, none, h, w⟩ ⟨m, some ⟨id, i, [], none⟩, h ++ [.invoked id i], w⟩
  /-- An execution replays the journal; its memory is new. -/
  | resume {m id i j f h w} (replay : (H.program id i).replay j = some f) :
      Step H ⟨m, some ⟨id, i, j, none⟩, h, w⟩ ⟨m, some ⟨id, i, j, some ⟨[], f, false, none⟩⟩, h, w⟩
  /-- The stored value is read. -/
  | get {m id i j k b h w} :
      Step H ⟨m, some ⟨id, i, j, some ⟨[], .get k, b, none⟩⟩, h, w⟩
        ⟨m, some ⟨id, i, j ++ [.got (.ok m)], some ⟨[], k (.ok m), b, none⟩⟩, h, w⟩
  /-- Reading it fails. -/
  | getFailed {m id i j k b h w} (e : E) :
      Step H ⟨m, some ⟨id, i, j, some ⟨[], .get k, b, none⟩⟩, h, w⟩
        ⟨m, some ⟨id, i, j ++ [.got (.error e)], some ⟨[], k (.error e), b, none⟩⟩, h, w⟩
  /-- A value is sent to be stored. -/
  | set {m id i j p v f b h w} :
      Step H ⟨m, some ⟨id, i, j, some ⟨p, .set v f, b, none⟩⟩, h, w⟩
        ⟨m, some ⟨id, i, j, some ⟨p ++ [.set v], f, b, none⟩⟩, h, w⟩
  /-- A clearing is sent. -/
  | clear {m id i j p f b h w} :
      Step H ⟨m, some ⟨id, i, j, some ⟨p, .clear f, b, none⟩⟩, h, w⟩
        ⟨m, some ⟨id, i, j, some ⟨p ++ [.cleared], f, b, none⟩⟩, h, w⟩
  /-- The oldest unacknowledged command becomes durable, and takes effect. -/
  | commit {m id i j e p f b c h w} :
      Step H ⟨m, some ⟨id, i, j, some ⟨e :: p, f, b, c⟩⟩, h, w⟩
        ⟨e.effect m, some ⟨id, i, j ++ [e], some ⟨p, f, b, c⟩⟩, h ++ e.events id, w⟩
  /-- The closure of a run starts. -/
  | begin {m id i j p n body k b h w} :
      Step H ⟨m, some ⟨id, i, j, some ⟨p, .run n body k, b, none⟩⟩, h, w⟩
        ⟨m, some ⟨id, i, j, some ⟨p, .run n body k, b, some body⟩⟩, h ++ [.began id n], w⟩
  /-- The closure makes a request. -/
  | ask {m id i j p f b r k h w} (x : Ans r) (w' : W) (answered : H.answers id w r x w') :
      Step H ⟨m, some ⟨id, i, j, some ⟨p, f, b, some (.call (.ask r) k)⟩⟩, h, w⟩
        ⟨m, some ⟨id, i, j, some ⟨p, f, b, some (k x)⟩⟩, h ++ [.asked id r x], w'⟩
  /-- The closure exchanges the flag. -/
  | swap {m id i j p f b v k h w} :
      Step H ⟨m, some ⟨id, i, j, some ⟨p, f, b, some (.call (.swap v) k)⟩⟩, h, w⟩
        ⟨m, some ⟨id, i, j, some ⟨p, f, v, some (k b)⟩⟩, h, w⟩
  /-- The result of a run is recorded; every earlier command is durable. -/
  | done {m id i j n body k b r h w} :
      Step H ⟨m, some ⟨id, i, j, some ⟨[], .run n body k, b, some (.ret (.done r))⟩⟩, h, w⟩
        ⟨m, some ⟨id, i, j ++ [.ran (.ok r)], some ⟨[], k (.ok r), b, none⟩⟩,
          h ++ [.recorded id n (.ok r)], w⟩
  /-- The error of a run is recorded. -/
  | failed {m id i j n body k b e h w} :
      Step H ⟨m, some ⟨id, i, j, some ⟨[], .run n body k, b, some (.ret (.failed e))⟩⟩, h, w⟩
        ⟨m, some ⟨id, i, j ++ [.ran (.error e)], some ⟨[], k (.error e), b, none⟩⟩,
          h ++ [.recorded id n (.error e)], w⟩
  /-- The host ends a run with an error of its own, wherever its closure stands. -/
  | interrupt {m id i j p n body k b c h w} (e : E) :
      Step H ⟨m, some ⟨id, i, j, some ⟨p, .run n body k, b, c⟩⟩, h, w⟩
        ⟨m, some ⟨id, i, j, some ⟨p ++ [.ran (.error e)], k (.error e), b, none⟩⟩, h, w⟩
  /-- The handler returns. -/
  | finish {m id i j o b h w} :
      Step H ⟨m, some ⟨id, i, j, some ⟨[], .ret o, b, none⟩⟩, h, w⟩ ⟨m, none, h, w⟩
  /-- The execution is lost with everything in memory. -/
  | crash {m id i j x h w} :
      Step H ⟨m, some ⟨id, i, j, x⟩, h, w⟩ ⟨m, some ⟨id, i, j, none⟩, h, w⟩
  /-- The invocation is dropped. -/
  | kill {m v h w} : Step H ⟨m, some v, h, w⟩ ⟨m, none, h, w⟩
  /-- Somebody else asks. -/
  | observe {m c h w} (r : Req) (x : Ans r) (observed : H.observes w r x) :
      Step H ⟨m, c, h, w⟩ ⟨m, c, h ++ [.observed r x], w⟩
  /-- The world moves. -/
  | drift {m c h w w'} (moved : H.drift w w') : Step H ⟨m, c, h, w⟩ ⟨m, c, h, w'⟩

/-- **The states of the object in any run.** -/
inductive Reachable (H : Host Ans V R E Id I O W) : System Ans V R E Id I O W → Prop where
  | start {w} (initial : H.initial w) : Reachable H ⟨none, none, [], w⟩
  | step {s s'} (before : Reachable H s) (step : Step H s s') : Reachable H s'

end Steps

end Durable
