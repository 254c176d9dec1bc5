import Mathlib.Data.List.Forall2
import Mathlib.Data.List.Induction
import Szamlazz.Lib.DurableRules

/-!
# Executions that outlive their replacement

`Step` lets an execution vanish when the host gives it up. A host can do less than that:
it stops listening, starts another execution in its place, and the first one goes on where
it runs, in its own memory. What it waits for the host for, it waits for for ever: no value
is read, no command takes effect, no result is recorded. But the closure it is in runs on,
and makes its requests, however late. `Outlived.Step` is `Step` with such survivors.

Two readings bring its runs back to those of `Step`. If what the survivors did is left out,
a run is left (`Outlived.Reachable.timely`): to everybody else a survivor is part of the
world. And whatever a survivor does after it was given up, it could have done just before,
for the world answers as it likes (`Outlived.Reachable.anticipated`). What holds in every
run of `Step` holds of a survivor, therefore, as of the moment it was given up.
-/

namespace Durable

variable {Req : Type} {Ans : Req → Type} {V R E Id I O W : Type}

/-- The same handlers in a world that may do anything. -/
def Host.free (H : Host Ans V R E Id I O W) : Host Ans V R E Id I O Unit where
  program := H.program
  admits _ _ := True
  answers _ _ _ _ _ := True
  observes _ _ _ := True
  drift _ _ := True
  initial _ := True

variable {H : Host Ans V R E Id I O W}

/-- **A step is possible after another history**, in a world that may do anything, if
the ids that were new still are. -/
theorem Step.moved {s s' : System Ans V R E Id I O W} (hstep : Step H s s') :
    ∃ more, s'.history = s.history ++ more ∧ ∀ h, (∀ id, Fresh id s.history → Fresh id h) →
      Step H.free ⟨s.stored, s.current, h, ()⟩ ⟨s'.stored, s'.current, h ++ more, ()⟩ := by
  have hsame : ∀ {m c m' c'}, (∀ h, Step H.free ⟨m, c, h, ()⟩ ⟨m', c', h, ()⟩) →
      ∀ h : List (Event Ans V R E Id I), Step H.free ⟨m, c, h, ()⟩ ⟨m', c', h ++ [], ()⟩ := by
    intro m c m' c' h l
    rw [List.append_nil]
    exact h l
  cases hstep with
  | @invoke m id i h w fresh admitted =>
    exact ⟨_, rfl, fun l hl => .invoke (hl id fresh) trivial⟩
  | commit => exact ⟨_, rfl, fun l _ => .commit⟩
  | begin => exact ⟨_, rfl, fun l _ => .begin⟩
  | ask x w' answered => exact ⟨_, rfl, fun l _ => .ask x () trivial⟩
  | done => exact ⟨_, rfl, fun l _ => .done⟩
  | failed => exact ⟨_, rfl, fun l _ => .failed⟩
  | observe r x observed => exact ⟨_, rfl, fun l _ => .observe r x trivial⟩
  | resume replay =>
    exact ⟨[], (List.append_nil _).symm, fun l _ => hsame (fun _ => .resume replay) l⟩
  | get => exact ⟨[], (List.append_nil _).symm, fun l _ => hsame (fun _ => .get) l⟩
  | getFailed e => exact ⟨[], (List.append_nil _).symm, fun l _ => hsame (fun _ => .getFailed e) l⟩
  | set => exact ⟨[], (List.append_nil _).symm, fun l _ => hsame (fun _ => .set) l⟩
  | clear => exact ⟨[], (List.append_nil _).symm, fun l _ => hsame (fun _ => .clear) l⟩
  | swap => exact ⟨[], (List.append_nil _).symm, fun l _ => hsame (fun _ => .swap) l⟩
  | interrupt e => exact ⟨[], (List.append_nil _).symm, fun l _ => hsame (fun _ => .interrupt e) l⟩
  | finish => exact ⟨[], (List.append_nil _).symm, fun l _ => hsame (fun _ => .finish) l⟩
  | crash => exact ⟨[], (List.append_nil _).symm, fun l _ => hsame (fun _ => .crash) l⟩
  | kill => exact ⟨[], (List.append_nil _).symm, fun l _ => hsame (fun _ => .kill) l⟩
  | drift moved => exact ⟨[], (List.append_nil _).symm, fun l _ => hsame (fun _ => .drift trivial) l⟩

/-! ## Survivors -/

namespace Outlived

/-- One thing that happened, and which survivor did it, if one did. -/
structure Happened {Req : Type} (Ans : Req → Type) (V R E Id I : Type) : Type where
  event : Event Ans V R E Id I
  survivor : Option ℕ

/-- The object, and the executions that were given up, in the order in which they were. -/
structure State {Req : Type} (Ans : Req → Type) (V R E Id I O W : Type) : Type where
  stored : Option V
  current : Option (Invocation Ans V R E Id I O)
  history : List (Happened Ans V R E Id I)
  world : W
  survivors : List (Id × Execution Ans V R E O)

/-- Everything that happened, in the order in which it did. -/
def told (h : List (Happened Ans V R E Id I)) : List (Event Ans V R E Id I) :=
  h.map Happened.event

/-- What happened, the survivors left out. -/
def timely (h : List (Happened Ans V R E Id I)) : List (Event Ans V R E Id I) :=
  told (h.filter (fun e => e.survivor.isNone))

/-- What one survivor did. -/
def lateBy (k : ℕ) (h : List (Happened Ans V R E Id I)) : List (Event Ans V R E Id I) :=
  told (h.filter (fun e => e.survivor = some k))

/-- What is done by the invocation's present execution, or by nobody. -/
def onTime (l : List (Event Ans V R E Id I)) : List (Happened Ans V R E Id I) :=
  l.map (⟨·, none⟩)

/-- What is done by a survivor. -/
def late (k : ℕ) (l : List (Event Ans V R E Id I)) : List (Happened Ans V R E Id I) :=
  l.map (⟨·, some k⟩)

/-- **What an execution does without the host**, and what history keeps of it. -/
inductive Alone (H : Host Ans V R E Id I O W) (id : Id) :
    Execution Ans V R E O → W → List (Event Ans V R E Id I) → Execution Ans V R E O → W → Prop where
  | set {p v f b w} : Alone H id ⟨p, .set v f, b, none⟩ w [] ⟨p ++ [.set v], f, b, none⟩ w
  | clear {p f b w} : Alone H id ⟨p, .clear f, b, none⟩ w [] ⟨p ++ [.cleared], f, b, none⟩ w
  | begin {p n body k b w} : Alone H id ⟨p, .run n body k, b, none⟩ w [.began id n]
      ⟨p, .run n body k, b, some body⟩ w
  | ask {p f b r k w} (x : Ans r) (w' : W) (answered : H.answers id w r x w') :
      Alone H id ⟨p, f, b, some (.call (.ask r) k)⟩ w [.asked id r x] ⟨p, f, b, some (k x)⟩ w'
  | swap {p f b v k w} :
      Alone H id ⟨p, f, b, some (.call (.swap v) k)⟩ w [] ⟨p, f, v, some (k b)⟩ w
  | interrupt {p n body k b c w} (e : E) : Alone H id ⟨p, .run n body k, b, c⟩ w []
      ⟨p ++ [.ran (.error e)], k (.error e), b, none⟩ w

/-- **One step of the object and its survivors.** -/
inductive Step (H : Host Ans V R E Id I O W) :
    State Ans V R E Id I O W → State Ans V R E Id I O W → Prop where
  /-- A step of the object. -/
  | object {m c h w m' c' more w' S}
      (step : Durable.Step H ⟨m, c, told h, w⟩ ⟨m', c', told h ++ more, w'⟩) :
      Step H ⟨m, c, h, w, S⟩ ⟨m', c', h ++ onTime more, w', S⟩
  /-- The execution is given up, and goes on; another one may take its place. -/
  | givenUp {m id i j x h w S} : Step H ⟨m, some ⟨id, i, j, some x⟩, h, w, S⟩
      ⟨m, some ⟨id, i, j, none⟩, h, w, S ++ [(id, x)]⟩
  /-- So does that of an invocation that is dropped. -/
  | dropped {m id i j x h w S} : Step H ⟨m, some ⟨id, i, j, some x⟩, h, w, S⟩
      ⟨m, none, h, w, S ++ [(id, x)]⟩
  /-- A survivor goes on. -/
  | survivor {m c h w S id x l x' w' S'} (alone : Alone H id x w l x' w') :
      Step H ⟨m, c, h, w, S ++ (id, x) :: S'⟩
        ⟨m, c, h ++ late S.length l, w', S ++ (id, x') :: S'⟩

/-- **The states in any run with survivors.** -/
inductive Reachable (H : Host Ans V R E Id I O W) : State Ans V R E Id I O W → Prop where
  | start {w} (initial : H.initial w) : Reachable H ⟨none, none, [], w, []⟩
  | step {s s'} (before : Reachable H s) (step : Step H s s') : Reachable H s'

/-! ## Histories -/

section Histories

variable {h h' : List (Happened Ans V R E Id I)} {l : List (Event Ans V R E Id I)} {k : ℕ}

@[simp] theorem told_nil : told ([] : List (Happened Ans V R E Id I)) = [] := rfl

@[simp] theorem told_append : told (h ++ h') = told h ++ told h' := List.map_append

@[simp] theorem told_onTime : told (onTime l) = l := by
  simp [told, onTime, Function.comp_def]

@[simp] theorem told_late : told (late k l) = l := by
  simp [told, late, Function.comp_def]

@[simp] theorem timely_nil : timely ([] : List (Happened Ans V R E Id I)) = [] := rfl

@[simp] theorem timely_append : timely (h ++ h') = timely h ++ timely h' := by
  simp [timely]

@[simp] theorem timely_onTime : timely (onTime l) = l := by
  rw [timely, List.filter_eq_self.mpr, told_onTime]
  simp [onTime]

@[simp] theorem timely_late : timely (late k l) = [] := by
  rw [timely, List.filter_eq_nil_iff.mpr, told_nil]
  simp [late]

@[simp] theorem lateBy_append : lateBy k (h ++ h') = lateBy k h ++ lateBy k h' := by
  simp [lateBy]

@[simp] theorem lateBy_onTime : lateBy k (onTime l) = [] := by
  rw [lateBy, List.filter_eq_nil_iff.mpr, told_nil]
  simp [onTime]

@[simp] theorem lateBy_late : lateBy k (late k l) = l := by
  rw [lateBy, List.filter_eq_self.mpr, told_late]
  simp [late]

theorem lateBy_late_ne {k' : ℕ} (hk : k' ≠ k) : lateBy k (late k' l) = [] := by
  rw [lateBy, List.filter_eq_nil_iff.mpr, told_nil]
  simpa [late] using fun _ _ => hk

theorem mem_timely {e : Event Ans V R E Id I} : e ∈ timely h ↔ ⟨e, none⟩ ∈ h := by
  simp only [timely, told, List.mem_map, List.mem_filter, Option.isNone_iff_eq_none]
  constructor
  · rintro ⟨⟨_, _⟩, ⟨hmem, rfl⟩, rfl⟩
    exact hmem
  · exact fun hmem => ⟨_, ⟨hmem, rfl⟩, rfl⟩

theorem mem_told_of_mem_timely {e : Event Ans V R E Id I} (he : e ∈ timely h) : e ∈ told h :=
  List.mem_map_of_mem (mem_timely.mp he)

theorem timely_cons {e : Event Ans V R E Id I} : timely (⟨e, none⟩ :: h) = e :: timely h := rfl

end Histories

/-- **A run in which no execution outlives another is one of these.** -/
theorem Reachable.of_reachable {s : System Ans V R E Id I O W} (hs : Durable.Reachable H s) :
    Reachable H ⟨s.stored, s.current, onTime s.history, s.world, []⟩ := by
  induction hs with
  | start initial => exact .start initial
  | @step s s' before step ih =>
    obtain ⟨more, hmore, -⟩ := step.moved
    obtain ⟨m, c, h, w⟩ := s
    obtain ⟨m', c', h', w'⟩ := s'
    obtain rfl : h' = h ++ more := hmore
    have hobject : onTime (h ++ more) = onTime h ++ onTime more := List.map_append
    rw [hobject]
    refine ih.step (.object ?_)
    rwa [told_onTime]

/-- An execution that asks was about to ask. -/
theorem pending_of_asked {s : System Ans V R E Id I O W} (hs : Durable.Reachable H s) {id : Id}
    {r : Req} {x : Ans r} {before after : List (Event Ans V R E Id I)}
    (hhistory : s.history = before ++ .asked id r x :: after) :
    ∃ m i j p f b k w w', H.answers id w r x w'
      ∧ Durable.Reachable H ⟨m, some ⟨id, i, j, some ⟨p, f, b, some (.call (.ask r) k)⟩⟩, before, w⟩ := by
  induction hs generalizing after with
  | start initial => simp at hhistory
  | step earlier step ih =>
    cases step with
    | ask x' w' answered =>
      rcases snoc_eq_append_cons.mp hhistory with ⟨-, rfl, heq⟩ | ⟨rest, -, hrest⟩
      · cases heq
        exact ⟨_, _, _, _, _, _, _, _, _, answered, earlier⟩
      · exact ih hrest
    | invoke | begin | done | failed | observe =>
      rcases snoc_eq_append_cons.mp hhistory with ⟨-, -, heq⟩ | ⟨rest, -, hrest⟩
      · cases heq
      · exact ih hrest
    | @commit m id' i j e p f b c h w =>
      cases e with
      | got | ran =>
        have hsame : h = before ++ .asked id r x :: after := by
          simpa [Entry.events] using hhistory
        exact ih hsame
      | set | cleared =>
        rcases snoc_eq_append_cons.mp hhistory with ⟨-, -, heq⟩ | ⟨rest, -, hrest⟩
        · cases heq
        · exact ih hrest
    | resume | get | getFailed | set | clear | swap | interrupt | finish | crash | kill | drift =>
      exact ih hhistory

/-- **What an execution asks, it can as well ask when its invocation is gone.** -/
theorem Reachable.asked_late {s : System Ans V R E Id I O W} (hs : Durable.Reachable H s) {id : Id}
    {r : Req} {x : Ans r} {before after : List (Event Ans V R E Id I)}
    (hhistory : s.history = before ++ .asked id r x :: after) :
    ∃ c : State Ans V R E Id I O W, Reachable H c ∧ c.current = none
      ∧ c.history = onTime before ++ late 0 [.asked id r x] := by
  obtain ⟨m, i, j, p, f, b, k, w, w', answered, hpending⟩ := pending_of_asked hs hhistory
  have hdropped : Reachable H ⟨m, none, onTime before, w,
      [] ++ (id, ⟨p, f, b, some (.call (.ask r) k)⟩) :: []⟩ :=
    (Reachable.of_reachable hpending).step .dropped
  exact ⟨_, hdropped.step (.survivor (.ask x w' answered)), rfl, rfl⟩

/-! ## The survivors left out -/

/-- **What is left of a run when its survivors are left out is a run.** -/
theorem Reachable.timely {c : State Ans V R E Id I O W} (hc : Reachable H c) :
    Durable.Reachable H.free ⟨c.stored, c.current, timely c.history, ()⟩ := by
  induction hc with
  | start initial => exact .start trivial
  | step before step ih =>
    cases step with
    | object step =>
      obtain ⟨more, hmore, hstep⟩ := step.moved
      obtain rfl := List.append_cancel_left hmore
      rw [timely_append, timely_onTime]
      exact ih.step (hstep _ fun id hfresh e he => hfresh e (mem_told_of_mem_timely he))
    | givenUp => exact ih.step .crash
    | dropped => exact ih.step .kill
    | survivor alone =>
      rw [timely_append, timely_late, List.append_nil]
      exact ih

/-! ## What survivors do, done before -/

/-- An event of an execution without the host. -/
def IsTry (id : Id) (e : Event Ans V R E Id I) : Prop :=
  (∃ name, e = .began id name) ∨ ∃ r x, e = .asked id r x

/-- What an execution can do without the host, in a world that may do anything. -/
inductive Goes (H : Host Ans V R E Id I O W) (id : Id) :
    Execution Ans V R E O → List (Event Ans V R E Id I) → Execution Ans V R E O → Prop where
  | refl (x : Execution Ans V R E O) : Goes H id x [] x
  | step {x y z l l'} (alone : Alone H.free id x () l y ()) (rest : Goes H id y l' z) :
      Goes H id x (l ++ l') z

/-- **The history `t` anticipates `h`**: what a survivor did stands where it was given up,
together with what it is still to do (`F`, by survivor). -/
inductive Anticipates : List (Happened Ans V R E Id I) → List (List (Event Ans V R E Id I)) →
    List (Event Ans V R E Id I) → Prop where
  | start : Anticipates [] [] []
  | object {h F t} (more : List (Event Ans V R E Id I)) (rest : Anticipates h F t) :
      Anticipates (h ++ onTime more) F (t ++ more)
  | givenUp {h F t} {id : Id} {l : List (Event Ans V R E Id I)} (known : ¬ Fresh id (told h))
      (tries : ∀ e ∈ l, IsTry id e) (rest : Anticipates h F t) :
      Anticipates h (F ++ [l]) (t ++ l)
  | survivor {h F F' t} {l l' : List (Event Ans V R E Id I)}
      (rest : Anticipates h (F ++ (l ++ l') :: F') t) :
      Anticipates (h ++ late F.length l) (F ++ l' :: F') t

theorem Alone.free {id : Id} {x y : Execution Ans V R E O} {w w' : W}
    {l : List (Event Ans V R E Id I)} (h : Alone H id x w l y w') :
    Alone H.free id x () l y () := by
  cases h with
  | set => exact .set
  | clear => exact .clear
  | begin => exact .begin
  | ask x w' answered => exact .ask x () trivial
  | swap => exact .swap
  | interrupt e => exact .interrupt e

theorem Alone.tries {id : Id} {x y : Execution Ans V R E O} {w w' : W}
    {l : List (Event Ans V R E Id I)} (h : Alone H id x w l y w') : ∀ e ∈ l, IsTry id e := by
  cases h with
  | begin => exact List.forall_mem_singleton.mpr (Or.inl ⟨_, rfl⟩)
  | ask x w' answered => exact List.forall_mem_singleton.mpr (Or.inr ⟨_, x, rfl⟩)
  | set | clear | swap | interrupt => exact fun e he => by cases he

theorem Goes.tries {id : Id} {x z : Execution Ans V R E O} {l : List (Event Ans V R E Id I)}
    (h : Goes H id x l z) : ∀ e ∈ l, IsTry id e := by
  induction h with
  | refl => exact fun e he => by cases he
  | step alone rest ih => exact List.forall_mem_append.mpr ⟨alone.tries, ih⟩

/-- While the host still listens, it is a step of the object. -/
theorem Alone.listened {id : Id} {x y : Execution Ans V R E O} {l t : List (Event Ans V R E Id I)}
    {m : Option V} {i : I} {j : List (Entry V R E)} (h : Alone H.free id x () l y ()) :
    Durable.Step H.free ⟨m, some ⟨id, i, j, some x⟩, t, ()⟩
      ⟨m, some ⟨id, i, j, some y⟩, t ++ l, ()⟩ := by
  cases h with
  | begin => exact .begin
  | ask x w' answered => exact .ask x () trivial
  | set =>
    rw [List.append_nil]
    exact .set
  | clear =>
    rw [List.append_nil]
    exact .clear
  | swap =>
    rw [List.append_nil]
    exact .swap
  | interrupt e =>
    rw [List.append_nil]
    exact .interrupt e

theorem Goes.listened {id : Id} {x z : Execution Ans V R E O} {l t : List (Event Ans V R E Id I)}
    {m : Option V} {i : I} {j : List (Entry V R E)} (h : Goes H id x l z)
    (hs : Durable.Reachable H.free ⟨m, some ⟨id, i, j, some x⟩, t, ()⟩) :
    Durable.Reachable H.free ⟨m, some ⟨id, i, j, some z⟩, t ++ l, ()⟩ := by
  induction h generalizing t with
  | refl =>
    rw [List.append_nil]
    exact hs
  | step alone rest ih =>
    rw [← List.append_assoc]
    exact ih (hs.step alone.listened)

section Anticipates

variable {h : List (Happened Ans V R E Id I)} {F : List (List (Event Ans V R E Id I))}
  {t : List (Event Ans V R E Id I)}

/-- **Nothing is added and nothing is lost** by telling it in another order. -/
theorem Anticipates.perm (ha : Anticipates h F t) : t.Perm (told h ++ F.flatten) := by
  induction ha with
  | start => exact .refl _
  | @object h F t more rest ih =>
    rw [told_append, told_onTime, List.append_assoc]
    exact (ih.append_right more).trans (by
      rw [List.append_assoc]
      exact List.perm_append_comm.append_left _)
  | @givenUp h F t id l known tries rest ih =>
    rw [List.flatten_append, List.flatten_singleton, ← List.append_assoc]
    exact ih.append_right l
  | @survivor h F F' t l l' rest ih =>
    refine ih.trans ?_
    rw [told_append, told_late, List.append_assoc, List.flatten_append, List.flatten_append,
      List.flatten_cons, List.flatten_cons, List.append_assoc]
    refine List.Perm.append_left _ ?_
    rw [← List.append_assoc, ← List.append_assoc l]
    exact List.perm_append_comm.append_right _

/-- What is still to come is of invocations that are known. -/
theorem Anticipates.pending (ha : Anticipates h F t) :
    ∀ e ∈ F.flatten, ∃ id, IsTry id e ∧ ¬ Fresh id (told h) := by
  have hlater : ∀ {h h' : List (Happened Ans V R E Id I)} {id : Id}, ¬ Fresh id (told h) →
      ¬ Fresh id (told (h ++ h')) := by
    intro h h' id hknown hfresh
    rw [told_append] at hfresh
    exact hknown fun e he => hfresh e (List.mem_append_left _ he)
  induction ha with
  | start => exact fun e he => by cases he
  | object more rest ih =>
    intro e he
    obtain ⟨id, htry, hknown⟩ := ih e he
    exact ⟨id, htry, hlater hknown⟩
  | givenUp known tries rest ih =>
    rw [List.flatten_append, List.flatten_singleton]
    refine List.forall_mem_append.mpr ⟨ih, fun e he => ⟨_, tries e he, known⟩⟩
  | @survivor h F F' t l l' rest ih =>
    intro e he
    have hmem : e ∈ (F ++ (l ++ l') :: F').flatten := by
      simp only [List.flatten_append, List.flatten_cons, List.mem_append] at he ⊢
      tauto
    obtain ⟨id, htry, hknown⟩ := ih e hmem
    exact ⟨id, htry, hlater hknown⟩

theorem Anticipates.fresh (ha : Anticipates h F t) {id : Id} (hfresh : Fresh id (told h)) :
    Fresh id t := by
  intro e he howner
  rcases List.mem_append.mp (ha.perm.mem_iff.mp he) with he | he
  · exact hfresh e he howner
  · obtain ⟨id', htry, hknown⟩ := ha.pending e he
    rcases htry with ⟨name, rfl⟩ | ⟨r, x, rfl⟩
    all_goals
      cases howner
      exact hknown hfresh

/-- What an execution does without the host stores nothing. -/
theorem storedAt_tries {l : List (Event Ans V R E Id I)} (h : List (Event Ans V R E Id I))
    (hl : ∀ e ∈ l, ∃ id, IsTry id e) : storedAt (h ++ l) = storedAt h := by
  induction l using List.reverseRecOn with
  | nil => rw [List.append_nil]
  | append_singleton l e ih =>
    rw [← List.append_assoc, storedAt_snoc, ih fun d hd => hl d (List.mem_append_left _ hd)]
    obtain ⟨id, ⟨name, rfl⟩ | ⟨r, x, rfl⟩⟩ := hl e (by simp)
    all_goals rfl

theorem storedAt_append_congr {h h' : List (Event Ans V R E Id I)} (heq : storedAt h = storedAt h')
    (l : List (Event Ans V R E Id I)) : storedAt (h ++ l) = storedAt (h' ++ l) := by
  rw [storedAt, storedAt, List.foldl_append, List.foldl_append]
  exact congrArg (fun m => l.foldl _ m) heq

/-- **The stored value is the same in every telling**, survivors or not. -/
theorem Anticipates.storedAt (ha : Anticipates h F t) :
    storedAt t = storedAt (timely h) ∧ storedAt (told h) = storedAt (timely h) := by
  induction ha with
  | start => exact ⟨rfl, rfl⟩
  | object more rest ih =>
    rw [timely_append, timely_onTime, told_append, told_onTime]
    exact ⟨storedAt_append_congr ih.1 more, storedAt_append_congr ih.2 more⟩
  | @givenUp h F t id l known tries rest ih =>
    exact ⟨(storedAt_tries t fun e he => ⟨id, tries e he⟩).trans ih.1, ih.2⟩
  | @survivor h F F' t l l' rest ih =>
    rw [timely_append, timely_late, List.append_nil, told_append, told_late]
    refine ⟨ih.1, (storedAt_tries _ fun e he => ?_).trans ih.2⟩
    obtain ⟨id, htry, -⟩ := rest.pending e (by
      rw [List.flatten_append, List.flatten_cons]
      exact List.mem_append_right _ (List.mem_append_left _ (List.mem_append_left _ he)))
    exact ⟨id, htry⟩

/-- Where an event still to come is anticipated. -/
theorem Anticipates.located_pending (ha : Anticipates h F t) {l l' : List (Event Ans V R E Id I)}
    {e : Event Ans V R E Id I} (hl : l ++ e :: l' ∈ F) :
    ∃ h' F' t₁ t₂, h' <+: h ∧ Anticipates h' F' t₁ ∧ t = t₁ ++ e :: t₂ := by
  induction ha generalizing l l' with
  | start => cases hl
  | object more rest ih =>
    obtain ⟨h', F', t₁, t₂, hprefix, ha, rfl⟩ := ih hl
    exact ⟨h', F', t₁, t₂ ++ more, hprefix.trans (List.prefix_append _ _), ha, by simp⟩
  | @givenUp h F t id last known tries rest ih =>
    rcases List.mem_append.mp hl with hl | hl
    · obtain ⟨h', F', t₁, t₂, hprefix, ha, rfl⟩ := ih hl
      exact ⟨h', F', t₁, t₂ ++ last, hprefix, ha, by simp⟩
    · obtain rfl := List.mem_singleton.mp hl
      -- what the survivor does first is anticipated before the rest of it
      refine ⟨h, F ++ [l], t ++ l, l', List.prefix_refl h,
        rest.givenUp known (fun d hd => tries d (List.mem_append_left _ hd)), by simp⟩
  | @survivor h F₁ F₂ t done left rest ih =>
    have hmem : (∃ l₀, l₀ ++ e :: l' ∈ F₁ ++ (done ++ left) :: F₂) := by
      rcases List.mem_append.mp hl with hl | hl
      · exact ⟨l, List.mem_append_left _ hl⟩
      · rcases List.mem_cons.mp hl with rfl | hl
        · exact ⟨done ++ l, by simp⟩
        · exact ⟨l, List.mem_append_right _ (List.mem_cons_of_mem _ hl)⟩
    obtain ⟨l₀, hl₀⟩ := hmem
    obtain ⟨h', F', t₁, t₂, hprefix, ha, rfl⟩ := ih hl₀
    exact ⟨h', F', t₁, t₂, hprefix.trans (List.prefix_append _ _), ha, rfl⟩

/-- Where an element stands in two lists put together. -/
theorem split_append {α : Type} {a b before after : List α} {e : α}
    (h : a ++ b = before ++ e :: after) :
    (∃ rest, a = before ++ e :: rest) ∨ ∃ l l', b = l ++ e :: l' ∧ before = a ++ l := by
  rcases List.append_eq_append_iff.mp h with ⟨l, rfl, hb⟩ | ⟨rest, ha, hb⟩
  · exact Or.inr ⟨l, after, hb, rfl⟩
  · cases rest with
    | nil => exact Or.inr ⟨[], after, by simpa using hb.symm, by simpa using ha.symm⟩
    | cons d rest =>
      obtain ⟨rfl, -⟩ := List.cons.inj hb
      exact Or.inl ⟨rest, ha⟩

/-- **Where an event is anticipated**: where it stands, or, if a survivor did it, at the
moment the survivor was given up. -/
theorem Anticipates.located (ha : Anticipates h F t) {before after : List (Happened Ans V R E Id I)}
    {d : Happened Ans V R E Id I} (hh : h = before ++ d :: after) :
    ∃ h' F' t₁ t₂, h' <+: before ∧ (d.survivor = none → h' = before) ∧ Anticipates h' F' t₁
      ∧ t = t₁ ++ d.event :: t₂ := by
  induction ha generalizing before after with
  | start => simp at hh
  | @object h F t more rest ih =>
    rcases split_append hh with ⟨rest', rfl⟩ | ⟨l, l', hmore, rfl⟩
    · obtain ⟨h', F', t₁, t₂, hprefix, hsame, ha, rfl⟩ := ih rfl
      exact ⟨h', F', t₁, t₂ ++ more, hprefix, hsame, ha, by simp⟩
    · obtain ⟨m, m', rfl, rfl, hl⟩ := List.map_eq_append_iff.mp hmore
      obtain ⟨e, m', rfl, rfl, rfl⟩ := List.map_eq_cons_iff.mp hl
      exact ⟨_, F, t ++ m, m', List.prefix_refl _, fun _ => rfl, rest.object m, by simp⟩
  | @givenUp h F t id l known tries rest ih =>
    obtain ⟨h', F', t₁, t₂, hprefix, hsame, ha, rfl⟩ := ih hh
    exact ⟨h', F', t₁, t₂ ++ l, hprefix, hsame, ha, by simp⟩
  | @survivor h F₁ F₂ t done left rest ih =>
    rcases split_append hh with ⟨rest', rfl⟩ | ⟨l, l', hdone, rfl⟩
    · exact ih rfl
    · obtain ⟨m, m', rfl, rfl, hl⟩ := List.map_eq_append_iff.mp hdone
      obtain ⟨e, m', rfl, rfl, rfl⟩ := List.map_eq_cons_iff.mp hl
      have hpending : m ++ e :: (m' ++ left) ∈ F₁ ++ ((m ++ e :: m') ++ left) :: F₂ := by simp
      obtain ⟨h', F', t₁, t₂, hprefix, ha, heq⟩ := rest.located_pending hpending
      exact ⟨h', F', t₁, t₂, hprefix.trans (List.prefix_append _ _), nofun, ha, heq⟩

/-- Whatever is told there and is no try, somebody else than a survivor did. -/
theorem Anticipates.mem_timely (ha : Anticipates h F t) {e : Event Ans V R E Id I} (he : e ∈ t)
    (hno : ∀ id, ¬ IsTry id e) : e ∈ timely h := by
  induction ha with
  | start => cases he
  | object more rest ih =>
    rw [timely_append, timely_onTime, List.mem_append]
    exact (List.mem_append.mp he).imp_left ih
  | givenUp known tries rest ih =>
    rcases List.mem_append.mp he with he | he
    · exact ih he
    · exact absurd (tries e he) (hno _)
  | survivor rest ih =>
    rw [timely_append, timely_late, List.append_nil]
    exact ih he

/-- A survivor that is still to be given up has done nothing. -/
theorem Anticipates.lateBy_eq_nil (ha : Anticipates h F t) {k : ℕ} (hk : F.length ≤ k) :
    lateBy k h = [] := by
  induction ha with
  | start => rfl
  | object more rest ih => rw [lateBy_append, lateBy_onTime, ih hk, List.nil_append]
  | givenUp known tries rest ih =>
    rw [List.length_append] at hk
    exact ih (Nat.le_of_add_right_le hk)
  | @survivor h F F' t l l' rest ih =>
    simp only [List.length_append, List.length_cons] at hk ih
    rw [lateBy_append, lateBy_late_ne (by omega), ih (by omega), List.nil_append]

/-- **What a survivor does stands together**, in its order. -/
theorem Anticipates.together (ha : Anticipates h F t) {k : ℕ} {l : List (Event Ans V R E Id I)}
    (hl : F[k]? = some l) : ∃ t₁ t₂, t = t₁ ++ ((lateBy k h ++ l) ++ t₂) := by
  induction ha generalizing l with
  | start => cases hl
  | object more rest ih =>
    obtain ⟨t₁, t₂, rfl⟩ := ih hl
    exact ⟨t₁, t₂ ++ more, by simp⟩
  | @givenUp h F t id last known tries rest ih =>
    rcases Nat.lt_or_ge k F.length with hk | hk
    · rw [List.getElem?_append_left hk] at hl
      obtain ⟨t₁, t₂, rfl⟩ := ih hl
      exact ⟨t₁, t₂ ++ last, by simp⟩
    · rw [List.getElem?_append_right hk, List.getElem?_singleton] at hl
      split_ifs at hl
      obtain rfl := Option.some.inj hl
      exact ⟨t, [], by rw [rest.lateBy_eq_nil hk, List.nil_append, List.append_nil]⟩
  | @survivor h F F' t done left rest ih =>
    by_cases hk : k = F.length
    · subst hk
      rw [List.getElem?_append_right (Nat.le_refl _), Nat.sub_self] at hl
      obtain rfl : left = l := Option.some.inj hl
      have hpending : (F ++ (done ++ left) :: F')[F.length]? = some (done ++ left) := by simp
      obtain ⟨t₁, t₂, rfl⟩ := ih hpending
      exact ⟨t₁, t₂, by rw [lateBy_append, lateBy_late, List.append_assoc _ done]⟩
    · rw [lateBy_append, lateBy_late_ne (Ne.symm hk), List.append_nil]
      refine ih ?_
      rw [← hl]
      rcases Nat.lt_or_gt_of_ne hk with hlt | hgt
      · rw [List.getElem?_append_left hlt, List.getElem?_append_left hlt]
      · obtain ⟨d, hd⟩ : ∃ d, k - F.length = d + 1 := ⟨k - F.length - 1, by omega⟩
        rw [List.getElem?_append_right (Nat.le_of_lt hgt), List.getElem?_append_right (Nat.le_of_lt hgt), hd,
          List.getElem?_cons_succ, List.getElem?_cons_succ]

end Anticipates

/-- An invocation that holds the key has started. -/
theorem known_of_current {s : System Ans V R E Id I O W} (hs : Durable.Reachable H s)
    {v : Invocation Ans V R E Id I O} (hv : s.current = some v) : ¬ Fresh v.id s.history := by
  have hlonger : ∀ {id : Id} {h h' : List (Event Ans V R E Id I)}, ¬ Fresh id h →
      ¬ Fresh id (h ++ h') :=
    fun hknown hfresh => hknown fun e he => hfresh e (List.mem_append_left _ he)
  induction hs generalizing v with
  | start initial => cases hv
  | step before step ih =>
    cases step with
    | invoke fresh admitted =>
      cases hv
      exact fun hfresh => hfresh _ (List.mem_append_right _ List.mem_cons_self) rfl
    | commit | begin | ask | done | failed =>
      cases hv
      have hknown := ih rfl
      exact hlonger hknown
    | resume | get | getFailed | set | clear | swap | interrupt | crash =>
      cases hv
      have hknown := ih rfl
      exact hknown
    | finish | kill => cases hv
    | observe => exact hlonger (ih hv)
    | drift => exact ih hv

theorem Reachable.known {c : State Ans V R E Id I O W} (hc : Reachable H c)
    {v : Invocation Ans V R E Id I O} (hv : c.current = some v) : ¬ Fresh v.id (told c.history) :=
  fun hfresh => known_of_current hc.timely hv fun e he => hfresh e (mem_told_of_mem_timely he)

/-- What goes with two lists put together goes with each of them. -/
theorem forall₂_split {α β : Type} {r : α → β → Prop} {as as' : List α} {bs : List β}
    (h : List.Forall₂ r (as ++ as') bs) :
    ∃ l l', bs = l ++ l' ∧ List.Forall₂ r as l ∧ List.Forall₂ r as' l' := by
  induction as generalizing bs with
  | nil => exact ⟨[], bs, rfl, .nil, h⟩
  | cons a as ih =>
    obtain ⟨b, bs', hb, hrest, rfl⟩ := List.forall₂_cons_left_iff.mp h
    obtain ⟨l, l', rfl, has, has'⟩ := ih hrest
    exact ⟨b :: l, l', rfl, .cons hb has, has'⟩

/-- **Whatever the survivors go on to do, it could all have been done before they were
given up.** -/
theorem Reachable.anticipated {c : State Ans V R E Id I O W} (hc : Reachable H c) :
    ∀ F, List.Forall₂ (fun s l => ∃ x, Goes H s.1 s.2 l x) c.survivors F →
      ∃ t, Durable.Reachable H.free ⟨c.stored, c.current, t, ()⟩ ∧ Anticipates c.history F t := by
  induction hc with
  | start initial =>
    intro F hF
    cases hF
    exact ⟨[], .start trivial, .start⟩
  | step before step ih =>
    cases step with
    | object step =>
      intro F hF
      obtain ⟨t, hs, ha⟩ := ih F hF
      obtain ⟨more, hmore, hstep⟩ := step.moved
      obtain rfl := List.append_cancel_left hmore
      exact ⟨_, hs.step (hstep t fun id hfresh => ha.fresh hfresh), ha.object _⟩
    | givenUp =>
      intro F hF
      obtain ⟨F, _, rfl, hothers, hlast⟩ := forall₂_split hF
      obtain ⟨l, _, ⟨y, hgoes⟩, hnil, rfl⟩ := List.forall₂_cons_left_iff.mp hlast
      cases hnil
      obtain ⟨t, hs, ha⟩ := ih F hothers
      exact ⟨_, (hgoes.listened hs).step .crash, ha.givenUp (before.known rfl) hgoes.tries⟩
    | dropped =>
      intro F hF
      obtain ⟨F, _, rfl, hothers, hlast⟩ := forall₂_split hF
      obtain ⟨l, _, ⟨y, hgoes⟩, hnil, rfl⟩ := List.forall₂_cons_left_iff.mp hlast
      cases hnil
      obtain ⟨t, hs, ha⟩ := ih F hothers
      exact ⟨_, (hgoes.listened hs).step .kill, ha.givenUp (before.known rfl) hgoes.tries⟩
    | @survivor m c h w S id x l x' w' S' alone =>
      intro F hF
      obtain ⟨F, _, rfl, hearlier, hlater⟩ := forall₂_split hF
      obtain ⟨l', F', ⟨y, hgoes⟩, hothers, rfl⟩ := List.forall₂_cons_left_iff.mp hlater
      -- what it has just done is the first it was going to do
      have hgoes' : Goes H id x (l ++ l') y := .step alone.free hgoes
      obtain ⟨t, hs, ha⟩ := ih (F ++ (l ++ l') :: F')
        (List.rel_append hearlier (.cons ⟨y, hgoes'⟩ hothers))
      rw [hearlier.length_eq]
      exact ⟨t, hs, ha.survivor⟩

/-- **A run with survivors told as one without.** -/
theorem Reachable.retold {c : State Ans V R E Id I O W} (hc : Reachable H c) :
    ∃ t, Durable.Reachable H.free ⟨c.stored, c.current, t, ()⟩
      ∧ Anticipates c.history (c.survivors.map fun _ => []) t := by
  refine hc.anticipated _ ?_
  rw [List.forall₂_map_right_iff]
  exact List.forall₂_same.mpr fun s _ => ⟨s.2, .refl s.2⟩

end Outlived

end Durable
