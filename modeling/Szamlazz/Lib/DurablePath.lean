import Szamlazz.Lib.DurableRules

/-!
# Runs that exist

An invariant says what no run does. That there are runs, and how far one comes, is
shown by leading the object along the text of a handler: every command is executed and
acknowledged at once, and a closure gets the answers it is given. `Conducts` says where
a part of the text leads, and composes as the text does.
-/

namespace Durable

variable {Req : Type} {Ans : Req → Type} {V R E Id I O W α β : Type}

/-- Where an execution stands, besides its text. -/
structure Spot {Req : Type} (Ans : Req → Type) (V R E Id I W : Type) : Type where
  flag : Bool
  stored : Option V
  history : List (Event Ans V R E Id I)
  world : W

/-- The same place after one more event. -/
def Spot.add (σ : Spot Ans V R E Id I W) (e : Event Ans V R E Id I) : Spot Ans V R E Id I W :=
  { σ with stored := e.effect σ.stored, history := σ.history ++ [e] }

section Path

variable (H : Host Ans V R E Id I O W) (id : Id)

/-- **The object can come to a place** where `f` is left of the handler, and all that was
commanded before is durable. -/
def CanReach (i : I) (f : Flow Ans V R E O) (σ : Spot Ans V R E Id I W) : Prop :=
  ∃ j, Reachable H ⟨σ.stored, some ⟨id, i, j, some ⟨[], f, σ.flag, none⟩⟩, σ.history, σ.world⟩

/-- The same, within the closure of a run. -/
def CanRun (i : I) (name : String) (body : Closure Ans R E) (k : Except E R → Flow Ans V R E O)
    (c : Closure Ans R E) (σ : Spot Ans V R E Id I W) : Prop :=
  ∃ j, Reachable H ⟨σ.stored, some ⟨id, i, j, some ⟨[], .run name body k, σ.flag, some c⟩⟩,
    σ.history, σ.world⟩

/-- **What the text of a closure comes to**, with answers the world allows. -/
inductive Carries {γ : Type} : Prog (Act.Ans Ans) γ → Spot Ans V R E Id I W → γ →
    Spot Ans V R E Id I W → Prop where
  | ret {c σ} : Carries (.ret c) σ c σ
  | ask {r k σ c σ'} (x : Ans r) (w' : W) (answered : H.answers id σ.world r x w')
      (rest : Carries (k x) { σ.add (.asked id r x) with world := w' } c σ') :
      Carries (.call (.ask r) k) σ c σ'
  | swap {v k σ c σ'} (rest : Carries (k σ.flag) { σ with flag := v } c σ') :
      Carries (.call (.swap v) k) σ c σ'

/-- **Where a part of a handler leads**, whatever follows it. -/
def Conducts (f : Flow Ans V R E α) (σ : Spot Ans V R E Id I W) (a : α)
    (σ' : Spot Ans V R E Id I W) : Prop :=
  ∀ i (g : α → Flow Ans V R E O), CanReach H id i (f >>= g) σ → CanReach H id i (g a) σ'

variable {H id}

theorem canReach_start {i : I} {m : Option V} {h : List (Event Ans V R E Id I)} {w : W}
    (hs : Reachable H ⟨m, none, h, w⟩) (fresh : Fresh id h) (admitted : H.admits i w) :
    CanReach H id i (H.program id i) ⟨false, m, h ++ [.invoked id i], w⟩ :=
  ⟨[], (hs.step (.invoke fresh admitted)).step (.resume rfl)⟩

theorem CanReach.reachable {i : I} {f : Flow Ans V R E O} {σ : Spot Ans V R E Id I W}
    (h : CanReach H id i f σ) : ∃ c, Reachable H ⟨σ.stored, c, σ.history, σ.world⟩ := by
  obtain ⟨j, hs⟩ := h
  exact ⟨_, hs⟩

section Closure

variable {i : I} {name : String} {body : Closure Ans R E} {k : Except E R → Flow Ans V R E O}
  {σ σ' : Spot Ans V R E Id I W}

theorem CanReach.begun (h : CanReach H id i (.run name body k) σ) :
    CanRun H id i name body k body (σ.add (.began id name)) := by
  obtain ⟨j, hs⟩ := h
  exact ⟨j, hs.step .begin⟩

theorem CanRun.asked {r : Req} {c : Ans r → Closure Ans R E} {w' : W}
    (h : CanRun H id i name body k (.call (.ask r) c) σ) (x : Ans r)
    (answered : H.answers id σ.world r x w') :
    CanRun H id i name body k (c x) { σ.add (.asked id r x) with world := w' } := by
  obtain ⟨j, hs⟩ := h
  exact ⟨j, hs.step (.ask x w' answered)⟩

theorem CanRun.swapped {v : Bool} {c : Bool → Closure Ans R E}
    (h : CanRun H id i name body k (.call (.swap v) c) σ) :
    CanRun H id i name body k (c σ.flag) { σ with flag := v } := by
  obtain ⟨j, hs⟩ := h
  exact ⟨j, hs.step .swap⟩

/-- A closure is carried through, wherever it is run. -/
theorem CanRun.carried {c : Closure Ans R E} {closed : Closed R E} (hc : Carries H id c σ closed σ')
    (h : CanRun H id i name body k c σ) : CanRun H id i name body k (.ret closed) σ' := by
  induction hc with
  | ret => exact h
  | ask x w' answered rest ih => exact ih (h.asked x answered)
  | swap rest ih => exact ih h.swapped

end Closure

theorem conducts_ret {a : α} {σ : Spot Ans V R E Id I W} :
    Conducts H id (.ret a : Flow Ans V R E α) σ a σ := fun _ _ h => h

/-- **Parts lead on.** -/
theorem Conducts.bind {f : Flow Ans V R E α} {g : α → Flow Ans V R E β} {a : α} {b : β}
    {σ σ' σ'' : Spot Ans V R E Id I W} (hf : Conducts H id f σ a σ')
    (hg : Conducts H id (g a) σ' b σ'') : Conducts H id (f >>= g) σ b σ'' := by
  intro i l h
  rw [Flow.bind_assoc] at h
  exact hg i l (hf i _ h)

theorem conducts_get {k : Except E (Option V) → Flow Ans V R E α} {a : α}
    {σ σ' : Spot Ans V R E Id I W} (hk : Conducts H id (k (.ok σ.stored)) σ a σ') :
    Conducts H id (.get k) σ a σ' := by
  rintro i g ⟨j, hs⟩
  exact hk i g ⟨_, hs.step .get⟩

theorem conducts_set {v : V} {next : Flow Ans V R E α} {a : α} {σ σ' : Spot Ans V R E Id I W}
    (hnext : Conducts H id next (σ.add (.stored id v)) a σ') :
    Conducts H id (.set v next) σ a σ' := by
  rintro i g ⟨j, hs⟩
  exact hnext i g ⟨_, (hs.step .set).step .commit⟩

theorem conducts_clear {next : Flow Ans V R E α} {a : α} {σ σ' : Spot Ans V R E Id I W}
    (hnext : Conducts H id next (σ.add (.cleared id)) a σ') :
    Conducts H id (.clear next) σ a σ' := by
  rintro i g ⟨j, hs⟩
  exact hnext i g ⟨_, (hs.step .clear).step .commit⟩

theorem conducts_run {name : String} {body : Closure Ans R E}
    {k : Except E R → Flow Ans V R E α} {r : R} {a : α} {σ σ' σ'' : Spot Ans V R E Id I W}
    (hbody : Carries H id body (σ.add (.began id name)) (.done r) σ')
    (hk : Conducts H id (k (.ok r)) (σ'.add (.recorded id name (.ok r))) a σ'') :
    Conducts H id (.run name body k) σ a σ'' := by
  rintro i g ⟨j, hs⟩
  obtain ⟨j', hs'⟩ := CanRun.carried (k := fun x => k x >>= g) hbody ⟨j, hs.step .begin⟩
  exact hk i g ⟨_, hs'.step .done⟩

theorem Carries.bind {γ δ : Type} {p : Prog (Act.Ans Ans) γ} {f : γ → Prog (Act.Ans Ans) δ}
    {σ σ' σ'' : Spot Ans V R E Id I W} {c : γ} {d : δ} (hp : Carries H id p σ c σ')
    (hf : Carries H id (f c) σ' d σ'') : Carries H id (p >>= f) σ d σ'' := by
  induction hp with
  | ret => exact hf
  | ask x w' answered rest ih => exact .ask x w' answered (ih hf)
  | swap rest ih => exact .swap (ih hf)

/-- A closure only adds to the history, and stores nothing. -/
theorem Carries.extends {γ : Type} {p : Prog (Act.Ans Ans) γ} {σ σ' : Spot Ans V R E Id I W} {c : γ}
    (h : Carries H id p σ c σ') : σ'.stored = σ.stored ∧ ∃ more, σ'.history = σ.history ++ more := by
  induction h with
  | ret => exact ⟨rfl, [], (List.append_nil _).symm⟩
  | @ask r k σ c σ' x w' answered rest ih =>
    obtain ⟨hstored, more, hmore⟩ := ih
    exact ⟨hstored, .asked id r x :: more, by simp [hmore, Spot.add]⟩
  | swap rest ih => exact ih

end Path

end Durable
