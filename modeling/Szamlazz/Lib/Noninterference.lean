import Szamlazz.Lib.Exchange

/-!
# Programs that do not look at part of their answers

Every answer has a part that is to stay without influence; `blur` takes it out. A
program is `Indifferent` if it makes the same requests and returns the same, up to a
blur of its results, when it is shown blurred answers. `Indifferent.bind` and
`indifferent_call` take a program apart along its own text, and `Indifferent.runs`
is what it comes to: two runs whose answers differ in that part only make the same
requests and return the same.
-/

namespace Prog

variable {Req : Type} {Ans : Req → Type} {α β : Type}

/-! ## Alike programs -/

/-- **The same requests, and results that are the same up to `c`**, whatever is
answered. -/
def Alike (c : α → β) (p q : Prog Ans α) : Prop :=
  (p >>= fun a => ret (c a)) = (q >>= fun a => ret (c a))

namespace Alike

variable {c : α → β} {p q s : Prog Ans α}

theorem refl (c : α → β) (p : Prog Ans α) : Alike c p p := rfl

theorem symm (h : Alike c p q) : Alike c q p := Eq.symm h

theorem trans (h : Alike c p q) (h' : Alike c q s) : Alike c p s := Eq.trans h h'

theorem of_eq (h : p = q) : Alike c p q := h ▸ rfl

theorem ret {a b : α} (h : c a = c b) : Alike c (ret a : Prog Ans α) (Prog.ret b) :=
  congrArg (fun v => (Prog.ret v : Prog Ans _)) h

theorem call {r : Req} {k k' : Ans r → Prog Ans α} (h : ∀ x, Alike c (k x) (k' x)) :
    Alike c (call r k) (Prog.call r k') :=
  congrArg (Prog.call r) (funext h)

/-- Alike programs go on alike, if what follows does not see the difference. -/
theorem bind {γ δ : Type} {e : α → α} {d : γ → δ} (h : Alike e p q) {f g : α → Prog Ans γ}
    (hfg : ∀ a, Alike d (f a) (g a)) (hf : ∀ a, Alike d (g (e a)) (g a)) :
    Alike d (p >>= f) (q >>= g) := by
  have hsee : ∀ t : Prog Ans α, (t >>= g) >>= (fun b => Prog.ret (d b))
      = (t >>= fun a => Prog.ret (e a)) >>= (fun a => g a >>= fun b => Prog.ret (d b)) := by
    intro t
    rw [bind_assoc, bind_assoc]
    exact congrArg (t >>= ·) (funext (fun a => (hf a).symm))
  have hleft : (p >>= f) >>= (fun b => Prog.ret (d b))
      = (p >>= g) >>= (fun b => Prog.ret (d b)) := by
    rw [bind_assoc, bind_assoc]
    exact congrArg (p >>= ·) (funext hfg)
  unfold Alike at h ⊢
  rw [hleft, hsee p, hsee q, h]

/-- **Alike programs have the same runs**, up to `c`. -/
theorem runs (h : Alike c p q) {tr : List (Exchange Ans)} {a : α} (hr : Runs p tr a) :
    ∃ b, Runs q tr b ∧ c b = c a := by
  have hrun : Runs (q >>= fun b => Prog.ret (c b)) tr (c a) := by
    rw [← h]
    exact runs_bind.mpr ⟨tr, a, [], (List.append_nil tr).symm, hr, Steps.refl _⟩
  obtain ⟨tr₁, b, tr₂, rfl, hb, hret⟩ := runs_bind.mp hrun
  obtain ⟨rfl, hc⟩ := runs_ret.mp hret
  rw [List.append_nil]
  exact ⟨b, hb, hc⟩

end Alike

/-! ## Blurred answers -/

section Blur

variable (blur : ∀ r, Ans r → Ans r)

/-- The program, shown blurred answers. -/
def blurred : Prog Ans α → Prog Ans α
  | ret a => ret a
  | call r k => call r (fun x => (k (blur r x)).blurred)

/-- **What the program does, and what it returns up to `c`, does not depend on what
the blur takes out.** -/
def Indifferent (c : α → β) (p : Prog Ans α) : Prop := Alike c (p.blurred blur) p

theorem blurred_bind (p : Prog Ans α) (f : α → Prog Ans β) :
    (p >>= f).blurred blur = p.blurred blur >>= fun a => (f a).blurred blur := by
  induction p with
  | ret a => rfl
  | call r k ih => exact congrArg (call r) (funext (fun x => ih (blur r x)))

variable {blur} {c : α → β}

theorem indifferent_ret (c : α → β) (a : α) : Indifferent blur c (ret a : Prog Ans α) := rfl

theorem indifferent_call {r : Req} {k : Ans r → Prog Ans α}
    (hk : ∀ x, Indifferent blur c (k x)) (hblur : ∀ x, Alike c (k (blur r x)) (k x)) :
    Indifferent blur c (call r k) :=
  Alike.call (fun x => (hk (blur r x)).trans (hblur x))

/-- **A sequence is indifferent if its parts are**, and the second does not see what
the first returns up to. -/
theorem Indifferent.bind {γ δ : Type} {e : α → α} {d : γ → δ} {p : Prog Ans α}
    {f : α → Prog Ans γ} (hp : Indifferent blur e p) (hf : ∀ a, Indifferent blur d (f a))
    (hsee : ∀ a, Alike d (f (e a)) (f a)) : Indifferent blur d (p >>= f) := by
  unfold Indifferent
  rw [blurred_bind]
  exact Alike.bind hp hf hsee

/-! ## Two runs -/

/-- An exchange with its answer blurred. -/
def blurExchange (blur : ∀ r, Ans r → Ans r) (e : Exchange Ans) : Exchange Ans :=
  ⟨e.1, blur e.1 e.2⟩

/-- **The answers differ in what the blur takes out only**, as long as the same is
asked. -/
def AnsweredAlike (blur : ∀ r, Ans r → Ans r) : List (Exchange Ans) → List (Exchange Ans) → Prop
  | e :: tr, e' :: tr' =>
    e.1 = e'.1 → blurExchange blur e = blurExchange blur e' ∧ AnsweredAlike blur tr tr'
  | _, _ => True

/-- Blurred, the two runs are one. -/
theorem runs_blurred {p : Prog Ans α} {tr tr' : List (Exchange Ans)} {a a' : α}
    (hr : Runs (p.blurred blur) tr a) (hr' : Runs (p.blurred blur) tr' a')
    (halike : AnsweredAlike blur tr tr') : tr.map Sigma.fst = tr'.map Sigma.fst ∧ a = a' := by
  induction p generalizing tr tr' with
  | ret b =>
    obtain ⟨rfl, rfl⟩ := runs_ret.mp hr
    obtain ⟨rfl, rfl⟩ := runs_ret.mp hr'
    exact ⟨rfl, rfl⟩
  | call r k ih =>
    obtain ⟨x, t, rfl, ht⟩ := runs_call.mp hr
    obtain ⟨x', t', rfl, ht'⟩ := runs_call.mp hr'
    obtain ⟨hblur, hrest⟩ := halike rfl
    have hanswer : blur r x = blur r x' := eq_of_heq (Sigma.mk.inj hblur).2
    rw [← hanswer] at ht'
    obtain ⟨hrequests, hresult⟩ := ih (blur r x) ht ht' hrest
    exact ⟨congrArg (r :: ·) hrequests, hresult⟩

/-- **Two runs of an indifferent program** whose answers differ in that part only make
the same requests and return the same. -/
theorem Indifferent.runs {p : Prog Ans α} (hp : Indifferent blur c p)
    {tr tr' : List (Exchange Ans)} {a a' : α} (hr : Runs p tr a) (hr' : Runs p tr' a')
    (halike : AnsweredAlike blur tr tr') :
    tr.map Sigma.fst = tr'.map Sigma.fst ∧ c a = c a' := by
  obtain ⟨b, hb, hc⟩ := hp.symm.runs hr
  obtain ⟨b', hb', hc'⟩ := hp.symm.runs hr'
  obtain ⟨hrequests, rfl⟩ := runs_blurred hb hb' halike
  exact ⟨hrequests, hc.symm.trans hc'⟩

end Blur

end Prog
