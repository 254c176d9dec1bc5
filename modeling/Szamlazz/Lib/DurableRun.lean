import Szamlazz.Lib.DurableLogic

/-!
# What a durable handler returns

An execution can be lost and start over, closures can run any number of times,
but what a handler goes on with is what the journal holds: each run of its text
contributes the result of the one attempt that was recorded, or an error.
`Returns f tr a` is the text of the handler read that way, `tr` being the
exchanges of the recorded attempts, one after the other. `Ensures` has a rule
for each constructor and for sequencing, so a handler's answer is verified along
its text, with no mention of executions.
-/

namespace Durable

variable {Req : Type} {Ans : Req → Type} {V R E Id I O W α β : Type}

/-! ## Reading the text of a handler -/

/-- **`f`, its recorded attempts having exchanged `tr`, has come to `g`.** -/
inductive Flow.Reaches : Flow Ans V R E α → List (Exchange (Act.Ans Ans)) →
    Flow Ans V R E α → Prop where
  | refl (f : Flow Ans V R E α) : Reaches f [] f
  | get {k : Except E (Option V) → Flow Ans V R E α} {x : Except E (Option V)}
      {tr : List (Exchange (Act.Ans Ans))} {g : Flow Ans V R E α} (h : Reaches (k x) tr g) :
      Reaches (.get k) tr g
  | set {v : V} {next : Flow Ans V R E α} {tr : List (Exchange (Act.Ans Ans))}
      {g : Flow Ans V R E α} (h : Reaches next tr g) : Reaches (.set v next) tr g
  | clear {next : Flow Ans V R E α} {tr : List (Exchange (Act.Ans Ans))}
      {g : Flow Ans V R E α} (h : Reaches next tr g) : Reaches (.clear next) tr g
  /-- The attempt whose result was recorded. -/
  | done {name : String} {body : Closure Ans R E} {k : Except E R → Flow Ans V R E α} {r : R}
      {t tr : List (Exchange (Act.Ans Ans))} {g : Flow Ans V R E α}
      (attempt : Prog.Runs body t (.done r)) (h : Reaches (k (.ok r)) tr g) :
      Reaches (.run name body k) (t ++ tr) g
  /-- An error was recorded, the closure's own or the host's. -/
  | failed {name : String} {body : Closure Ans R E} {k : Except E R → Flow Ans V R E α} {e : E}
      {tr : List (Exchange (Act.Ans Ans))} {g : Flow Ans V R E α}
      (h : Reaches (k (.error e)) tr g) : Reaches (.run name body k) tr g

/-- **`f`, its recorded attempts having exchanged `tr`, has returned `a`.** -/
def Flow.Returns (f : Flow Ans V R E α) (tr : List (Exchange (Act.Ans Ans))) (a : α) : Prop :=
  f.Reaches tr (.ret a)

theorem Flow.Reaches.trans {f g l : Flow Ans V R E α} {t t' : List (Exchange (Act.Ans Ans))}
    (h : f.Reaches t g) (h' : g.Reaches t' l) : f.Reaches (t ++ t') l := by
  induction h with
  | refl f => exact h'
  | get _ ih => exact .get (ih h')
  | set _ ih => exact .set (ih h')
  | clear _ ih => exact .clear (ih h')
  | done attempt _ ih =>
    rw [List.append_assoc]
    exact .done attempt (ih h')
  | failed _ ih => exact .failed (ih h')

/-- What `f` comes to, a sequence that starts with `f` comes to with the rest of it. -/
theorem Flow.Reaches.bind {f f' : Flow Ans V R E α} {t : List (Exchange (Act.Ans Ans))}
    (h : f.Reaches t f') (g : α → Flow Ans V R E β) : (f >>= g).Reaches t (f' >>= g) := by
  induction h with
  | refl f => exact .refl _
  | get _ ih => exact .get ih
  | set _ ih => exact .set ih
  | clear _ ih => exact .clear ih
  | done attempt _ ih => exact .done attempt ih
  | failed _ ih => exact .failed ih

/-! ## Postconditions -/

/-- **Whatever `f` returns satisfies `Q`**, together with what its recorded
attempts exchanged. -/
def Flow.Ensures (f : Flow Ans V R E α) (Q : List (Exchange (Act.Ans Ans)) → α → Prop) : Prop :=
  ∀ tr a, f.Returns tr a → Q tr a

namespace Flow

variable {Q Q' : List (Exchange (Act.Ans Ans)) → α → Prop}

@[simp] theorem ensures_ret {a : α} : (ret a : Flow Ans V R E α).Ensures Q ↔ Q [] a := by
  constructor
  · intro h
    exact h [] a (.refl _)
  · intro h tr b hr
    cases hr
    exact h

@[simp] theorem ensures_get {k : Except E (Option V) → Flow Ans V R E α} :
    (get k).Ensures Q ↔ ∀ x, (k x).Ensures Q := by
  constructor
  · intro h x tr a hr
    exact h tr a (.get hr)
  · intro h tr a hr
    cases hr with
    | get hr => exact h _ tr a hr

@[simp] theorem ensures_set {v : V} {next : Flow Ans V R E α} :
    (set v next).Ensures Q ↔ next.Ensures Q := by
  constructor
  · intro h tr a hr
    exact h tr a (.set hr)
  · intro h tr a hr
    cases hr with
    | set hr => exact h tr a hr

@[simp] theorem ensures_clear {next : Flow Ans V R E α} :
    (clear next).Ensures Q ↔ next.Ensures Q := by
  constructor
  · intro h tr a hr
    exact h tr a (.clear hr)
  · intro h tr a hr
    cases hr with
    | clear hr => exact h tr a hr

/-- **A run** is verified by the results its closure can end with, and by what
the handler does with an error. -/
theorem ensures_run {name : String} {body : Closure Ans R E}
    {k : Except E R → Flow Ans V R E α}
    {P : List (Exchange (Act.Ans Ans)) → Closed R E → Prop} (hbody : Prog.Ensures body P)
    (hok : ∀ t r, P t (.done r) → (k (.ok r)).Ensures (fun tr a => Q (t ++ tr) a))
    (herror : ∀ e, (k (.error e)).Ensures Q) : (run name body k).Ensures Q := by
  intro tr a hr
  cases hr with
  | done attempt hr => exact hok _ _ (hbody _ _ attempt) _ a hr
  | failed hr => exact herror _ tr a hr

theorem Ensures.mono {f : Flow Ans V R E α} (h : f.Ensures Q) (hQ : ∀ tr a, Q tr a → Q' tr a) :
    f.Ensures Q' :=
  fun tr a hr => hQ tr a (h tr a hr)

/-- A return of a sequence is a return of the first part and one of the second. -/
theorem returns_bind {f : Flow Ans V R E α} {g : α → Flow Ans V R E β}
    {tr : List (Exchange (Act.Ans Ans))} {b : β} (h : (f >>= g).Returns tr b) :
    ∃ t a t', tr = t ++ t' ∧ f.Returns t a ∧ (g a).Returns t' b := by
  induction f generalizing tr with
  | ret a => exact ⟨[], a, tr, rfl, .refl _, h⟩
  | get k ih =>
    cases h with
    | get h =>
      obtain ⟨t, a, t', rfl, hf, hg⟩ := ih _ h
      exact ⟨t, a, t', rfl, .get hf, hg⟩
  | set v next ih =>
    cases h with
    | set h =>
      obtain ⟨t, a, t', rfl, hf, hg⟩ := ih h
      exact ⟨t, a, t', rfl, .set hf, hg⟩
  | clear next ih =>
    cases h with
    | clear h =>
      obtain ⟨t, a, t', rfl, hf, hg⟩ := ih h
      exact ⟨t, a, t', rfl, .clear hf, hg⟩
  | run name body k ih =>
    cases h with
    | done attempt h =>
      obtain ⟨t, a, t', rfl, hf, hg⟩ := ih _ h
      exact ⟨_, a, t', (List.append_assoc ..).symm, .done attempt hf, hg⟩
    | failed h =>
      obtain ⟨t, a, t', rfl, hf, hg⟩ := ih _ h
      exact ⟨t, a, t', rfl, .failed hf, hg⟩

/-- **A sequence is verified by its parts.** -/
theorem Ensures.bind {f : Flow Ans V R E α} {g : α → Flow Ans V R E β}
    {P : List (Exchange (Act.Ans Ans)) → β → Prop} (h : f.Ensures Q)
    (hg : ∀ t a, Q t a → (g a).Ensures (fun tr b => P (t ++ tr) b)) : (f >>= g).Ensures P := by
  intro tr b hr
  obtain ⟨t, a, t', rfl, hf, hg'⟩ := returns_bind hr
  exact hg t a (h t a hf) t' b hg'

end Flow

/-! ## Entries and exchanges -/

theorem asks_append (t t' : List (Exchange (Act.Ans Ans))) :
    asks (t ++ t') = asks t ++ asks t' := by
  induction t with
  | nil => rfl
  | cons e t ih =>
    obtain ⟨a, x⟩ := e
    cases a with
    | ask r => simp [asks, ih]
    | swap b => simpa [asks] using ih

end Durable
