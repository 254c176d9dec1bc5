import Mathlib.Tactic.Common
import Mathlib.Data.List.Basic

/-!
# Programs that talk to a service

A call of a client is a tree: either it has returned, or it waits for the
answer to one request and goes on from there. `Prog` is that tree, over an
arbitrary type of requests and a type of answers for each of them.

What the service answers is not part of the program. `Steps p tr q` says that
`p`, answered as the transcript `tr` records, has become `q`; `Runs p tr a`
that it has returned `a`. A statement quantified over every transcript is
therefore a statement about every sequence of answers, chosen independently
and after seeing everything that was asked so far. A transcript of a call that
was cut short is a `Steps` whose right end has not returned, and `Steps.extend`
says that it is a prefix of some finished one.
-/

/-- A program over the requests `Req`, the answer to `r` being an `Ans r`. -/
inductive Prog {Req : Type} (Ans : Req → Type) (α : Type) : Type where
  /-- The program has returned. -/
  | ret (a : α) : Prog Ans α
  /-- The program waits for the answer to `r`. -/
  | call (r : Req) (k : Ans r → Prog Ans α) : Prog Ans α

/-- One request with the answer it got. -/
abbrev Exchange {Req : Type} (Ans : Req → Type) : Type := Sigma Ans

namespace Prog

variable {Req : Type} {Ans : Req → Type} {α β γ : Type}

/-- Sequencing: the second program starts from what the first returned. -/
def bind (p : Prog Ans α) (f : α → Prog Ans β) : Prog Ans β :=
  match p with
  | ret a => f a
  | call r k => call r (fun x => (k x).bind f)

instance : Monad (Prog Ans) where
  pure := ret
  bind := bind

/-- The program that makes one request and returns its answer. -/
def perform (r : Req) : Prog Ans (Ans r) := call r ret

@[simp] theorem pure_eq (a : α) : (pure a : Prog Ans α) = ret a := rfl

@[simp] theorem ret_bind (a : α) (f : α → Prog Ans β) : (ret a >>= f) = f a := rfl

@[simp] theorem call_bind (r : Req) (k : Ans r → Prog Ans α) (f : α → Prog Ans β) :
    (call r k >>= f) = call r (fun x => k x >>= f) := rfl

@[simp] theorem perform_bind (r : Req) (f : Ans r → Prog Ans β) :
    (perform r >>= f) = call r f := rfl

theorem bind_ret (p : Prog Ans α) : (p >>= ret) = p := by
  induction p with
  | ret a => rfl
  | call r k ih => exact congrArg (call r) (funext ih)

theorem bind_assoc (p : Prog Ans α) (f : α → Prog Ans β) (g : β → Prog Ans γ) :
    (p >>= f) >>= g = p >>= fun a => f a >>= g := by
  induction p with
  | ret a => rfl
  | call r k ih => exact congrArg (call r) (funext ih)

instance instLawfulMonad : LawfulMonad (Prog Ans) :=
  LawfulMonad.mk' (Prog Ans) (fun p => bind_ret p) (fun _ _ => rfl) (fun p f g => bind_assoc p f g)

/-! ## Transcripts -/

/-- **`p`, answered as `tr` records, has become `q`.** -/
inductive Steps : Prog Ans α → List (Exchange Ans) → Prog Ans α → Prop where
  | refl (p : Prog Ans α) : Steps p [] p
  | call {r : Req} {k : Ans r → Prog Ans α} {x : Ans r} {tr : List (Exchange Ans)}
      {q : Prog Ans α} (h : Steps (k x) tr q) : Steps (call r k) (⟨r, x⟩ :: tr) q

/-- **`p`, answered as `tr` records, has returned `a`.** -/
def Runs (p : Prog Ans α) (tr : List (Exchange Ans)) (a : α) : Prop := Steps p tr (ret a)

@[simp] theorem runs_ret {a b : α} {tr : List (Exchange Ans)} :
    Runs (ret a) tr b ↔ tr = [] ∧ a = b := by
  constructor
  · intro h
    cases h
    exact ⟨rfl, rfl⟩
  · rintro ⟨rfl, rfl⟩
    exact Steps.refl _

@[simp] theorem runs_call {r : Req} {k : Ans r → Prog Ans α}
    {tr : List (Exchange Ans)} {b : α} :
    Runs (call r k) tr b ↔ ∃ x tr', tr = ⟨r, x⟩ :: tr' ∧ Runs (k x) tr' b := by
  constructor
  · intro h
    cases h with
    | call h => exact ⟨_, _, rfl, h⟩
  · rintro ⟨x, tr', rfl, h⟩
    exact Steps.call h

/-- **A run of a sequence is a run of the first part and one of the second.** -/
theorem runs_bind {p : Prog Ans α} {f : α → Prog Ans β} {tr : List (Exchange Ans)}
    {b : β} :
    Runs (p >>= f) tr b ↔ ∃ tr₁ a tr₂, tr = tr₁ ++ tr₂ ∧ Runs p tr₁ a ∧ Runs (f a) tr₂ b := by
  induction p generalizing tr with
  | ret a =>
    simp only [ret_bind, runs_ret]
    constructor
    · intro h
      exact ⟨[], a, tr, rfl, ⟨rfl, rfl⟩, h⟩
    · rintro ⟨_, _, _, rfl, ⟨rfl, rfl⟩, h⟩
      exact h
  | call r k ih =>
    simp only [call_bind, runs_call, ih]
    constructor
    · rintro ⟨x, _, rfl, tr₁, a, tr₂, rfl, h₁, h₂⟩
      exact ⟨⟨r, x⟩ :: tr₁, a, tr₂, rfl, ⟨x, tr₁, rfl, h₁⟩, h₂⟩
    · rintro ⟨_, a, tr₂, rfl, ⟨x, tr₁, rfl, h₁⟩, h₂⟩
      exact ⟨x, tr₁ ++ tr₂, rfl, tr₁, a, tr₂, rfl, h₁, h₂⟩

theorem Steps.trans {p q s : Prog Ans α} {t₁ t₂ : List (Exchange Ans)}
    (h₁ : Steps p t₁ q) (h₂ : Steps q t₂ s) : Steps p (t₁ ++ t₂) s := by
  induction h₁ with
  | refl p => exact h₂
  | call _ ih => exact Steps.call (ih h₂)

/-- What a program becomes, a sequence that starts with it becomes with the rest of it. -/
theorem Steps.bind {p q : Prog Ans α} {tr : List (Exchange Ans)} (h : Steps p tr q)
    (f : α → Prog Ans β) : Steps (p >>= f) tr (q >>= f) := by
  induction h with
  | refl p => exact Steps.refl _
  | call _ ih => exact Steps.call ih

/-- One more answer extends a transcript at its end. -/
theorem Steps.snoc {p : Prog Ans α} {tr : List (Exchange Ans)} {r : Req}
    {k : Ans r → Prog Ans α} (h : Steps p tr (Prog.call r k)) (x : Ans r) :
    Steps p (tr ++ [⟨r, x⟩]) (k x) :=
  h.trans (Steps.call (Steps.refl _))

/-- Every program returns, whatever it is answered. -/
theorem exists_runs [∀ r, Nonempty (Ans r)] (p : Prog Ans α) : ∃ tr a, Runs p tr a := by
  induction p with
  | ret a => exact ⟨[], a, Steps.refl _⟩
  | call r k ih =>
    obtain ⟨tr, a, h⟩ := ih (Classical.choice inferInstance)
    exact ⟨_, a, Steps.call h⟩

/-- **A call cut short is a prefix of a finished one.** -/
theorem Steps.extend [∀ r, Nonempty (Ans r)] {p q : Prog Ans α}
    {tr : List (Exchange Ans)} (h : Steps p tr q) : ∃ tr' a, Runs p (tr ++ tr') a := by
  obtain ⟨tr', a, h'⟩ := exists_runs q
  exact ⟨tr', a, h.trans h'⟩

/-! ## Postconditions over every run

`Ensures p Q` says that whatever `p` is answered, the transcript and the result
satisfy `Q`. The rules follow the constructors and the bind, so a call is
verified along its own text. -/

/-- **Every run of `p` satisfies `Q`.** -/
def Ensures (p : Prog Ans α) (Q : List (Exchange Ans) → α → Prop) : Prop :=
  ∀ tr a, Runs p tr a → Q tr a

section Ensures

variable {Q Q' : List (Exchange Ans) → α → Prop}

@[simp] theorem ensures_ret {a : α} : Ensures (ret a) Q ↔ Q [] a := by
  constructor
  · intro h
    exact h [] a (Steps.refl _)
  · intro h tr b hr
    obtain ⟨rfl, rfl⟩ := runs_ret.mp hr
    exact h

@[simp] theorem ensures_call {r : Req} {k : Ans r → Prog Ans α} :
    Ensures (call r k) Q ↔ ∀ x, Ensures (k x) (fun tr a => Q (⟨r, x⟩ :: tr) a) := by
  constructor
  · intro h x tr a hr
    exact h _ a (Steps.call hr)
  · intro h tr a hr
    obtain ⟨x, tr', rfl, hr'⟩ := runs_call.mp hr
    exact h x tr' a hr'

theorem ensures_perform (r : Req) :
    Ensures (perform r) (fun tr (x : Ans r) => tr = [⟨r, x⟩]) :=
  ensures_call.mpr fun _ => ensures_ret.mpr rfl

theorem Ensures.mono {p : Prog Ans α} (h : Ensures p Q) (hQ : ∀ tr a, Q tr a → Q' tr a) :
    Ensures p Q' :=
  fun tr a hr => hQ tr a (h tr a hr)

theorem Ensures.and {p : Prog Ans α} (h : Ensures p Q) (h' : Ensures p Q') :
    Ensures p (fun tr a => Q tr a ∧ Q' tr a) :=
  fun tr a hr => ⟨h tr a hr, h' tr a hr⟩

/-- **A sequence is verified by its parts.** -/
theorem Ensures.bind {p : Prog Ans α} {f : α → Prog Ans β}
    {R : List (Exchange Ans) → β → Prop} (h : Ensures p Q)
    (hf : ∀ tr a, Q tr a → Ensures (f a) (fun tr' b => R (tr ++ tr') b)) :
    Ensures (p >>= f) R := by
  intro tr b hr
  obtain ⟨tr₁, a, tr₂, rfl, h₁, h₂⟩ := runs_bind.mp hr
  exact hf tr₁ a (h tr₁ a h₁) tr₂ b h₂

/-- A postcondition of the transcript that prefixes inherit holds of a call cut short. -/
theorem Ensures.steps [∀ r, Nonempty (Ans r)] {p q : Prog Ans α} {tr : List (Exchange Ans)}
    {P : List (Exchange Ans) → Prop} (h : Ensures p (fun tr _ => P tr))
    (hcut : ∀ t t', P (t ++ t') → P t) (hs : Steps p tr q) : P tr := by
  obtain ⟨tr', a, hr⟩ := hs.extend
  exact hcut tr tr' (h _ a hr)

end Ensures

/-! ## Postconditions under a service

A service need not give every answer. `Under A` asks for the postcondition of the runs
whose answers are all within `A`. -/

section Under

variable {A : Exchange Ans → Prop} {Q Q' : List (Exchange Ans) → α → Prop}

/-- **Every run of `p` that the service answers within `A` satisfies `Q`.** -/
def Under (A : Exchange Ans → Prop) (p : Prog Ans α) (Q : List (Exchange Ans) → α → Prop) : Prop :=
  Ensures p fun tr a => (∀ e ∈ tr, A e) → Q tr a

theorem Ensures.under {p : Prog Ans α} (h : Ensures p Q) (A : Exchange Ans → Prop) : Under A p Q :=
  h.mono fun _ _ hQ _ => hQ

theorem Under.mono {p : Prog Ans α} (h : Under A p Q) (hQ : ∀ tr a, Q tr a → Q' tr a) :
    Under A p Q' :=
  Ensures.mono h fun tr a hr htr => hQ tr a (hr htr)

@[simp] theorem under_ret {a : α} : Under A (ret a) Q ↔ Q [] a := by
  simp [Under]

/-- Only the answers within `A` are gone on with. -/
theorem under_call {r : Req} {k : Ans r → Prog Ans α} :
    Under A (call r k) Q ↔ ∀ x, A ⟨r, x⟩ → Under A (k x) fun tr a => Q (⟨r, x⟩ :: tr) a := by
  constructor
  · intro h x hx tr a hr htr
    exact h _ a (Steps.call hr) (List.forall_mem_cons.mpr ⟨hx, htr⟩)
  · intro h tr a hr htr
    obtain ⟨x, t, rfl, hk⟩ := runs_call.mp hr
    obtain ⟨hx, ht⟩ := List.forall_mem_cons.mp htr
    exact h x hx t a hk ht

theorem Under.bind {p : Prog Ans α} {f : α → Prog Ans β} {R : List (Exchange Ans) → β → Prop}
    (h : Under A p Q) (hf : ∀ tr a, Q tr a → Under A (f a) fun tr' b => R (tr ++ tr') b) :
    Under A (p >>= f) R := by
  intro tr b hr htr
  obtain ⟨t, a, t', rfl, hp, hk⟩ := runs_bind.mp hr
  obtain ⟨ht, ht'⟩ := List.forall_mem_append.mp htr
  exact hf t a (h t a hp ht) t' b hk ht'

end Under

/-! ## Answering from a function

To run a program on a concrete service, `answer` takes the next answer from a
function of the transcript so far. -/

/-- The transcript and the result of `p` answered by `o`, `past` being the
exchanges made before it. -/
def answer (o : List (Exchange Ans) → (r : Req) → Ans r) :
    Prog Ans α → List (Exchange Ans) → List (Exchange Ans) × α
  | ret a, _ => ([], a)
  | call r k, past =>
    let x := o past r
    let rest := (k x).answer o (past ++ [⟨r, x⟩])
    (⟨r, x⟩ :: rest.1, rest.2)

end Prog
