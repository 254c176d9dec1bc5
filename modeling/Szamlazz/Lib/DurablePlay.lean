import Szamlazz.Lib.DurableRun

/-!
# Everything a durable handler executes

`Reaches` reads a handler by what its journal keeps. What it executed is more: a
closure may have run any number of times before one of its results was recorded,
each time cut short anywhere, and an execution may have gone on from errors and
commands that were never acknowledged, only to be lost with them. `Plays` tells
all of it, one `Attempt` for every time a closure was started, in that order.

Two predicates on the text of a handler are inherited by its plays. `Throughout`
says of every attempt what holds of every closure, and `Commits` says of a
handler that either every attempt is harmless, or what it returns is within
bounds – which is what remains to be said of a handler that acts without a
record of its own.

`reachable_plays` is the adequacy: in every run of the object, the requests of an
invocation are those of a play, attempt by attempt.
-/

namespace Durable

variable {Req : Type} {Ans : Req → Type} {V R E Id I O W α β : Type}

/-! ## Plays -/

/-- One execution of the closure of a run, cut short or finished, and whether its
result was recorded. -/
structure Attempt {Req : Type} (Ans : Req → Type) : Type where
  name : String
  exchanges : List (Exchange (Act.Ans Ans))
  recorded : Bool

namespace Flow

/-- `a` is an execution of the run `f` stands at, which came to nothing. -/
inductive Tries : Flow Ans V R E α → Attempt Ans → Prop where
  | run {name : String} {body c : Closure Ans R E} {k : Except E R → Flow Ans V R E α}
      {t : List (Exchange (Act.Ans Ans))} (h : Prog.Steps body t c) :
      Tries (.run name body k) ⟨name, t, false⟩

/-- **What can be executed from `f` and lost**: attempts, and what follows errors and
commands that are not acknowledged. -/
inductive Strays : Flow Ans V R E α → List (Attempt Ans) → Prop where
  | stop (f : Flow Ans V R E α) : Strays f []
  | tried {f : Flow Ans V R E α} {a : Attempt Ans} {as : List (Attempt Ans)} (ha : f.Tries a)
      (h : Strays f as) : Strays f (a :: as)
  | ended {name : String} {body : Closure Ans R E} {k : Except E R → Flow Ans V R E α} {e : E}
      {as : List (Attempt Ans)} (h : Strays (k (.error e)) as) : Strays (.run name body k) as
  | set {v : V} {next : Flow Ans V R E α} {as : List (Attempt Ans)} (h : Strays next as) :
      Strays (.set v next) as
  | clear {next : Flow Ans V R E α} {as : List (Attempt Ans)} (h : Strays next as) :
      Strays (.clear next) as

/-- **`f`, its closures having been executed as the attempts tell, has come to `g`.** -/
inductive Plays : Flow Ans V R E α → List (Attempt Ans) → Flow Ans V R E α → Prop where
  | refl (f : Flow Ans V R E α) : Plays f [] f
  /-- The execution is lost, or the attempt is repeated. -/
  | lost {f g : Flow Ans V R E α} {as as' : List (Attempt Ans)} (stray : f.Strays as)
      (h : Plays f as' g) : Plays f (as ++ as') g
  | get {k : Except E (Option V) → Flow Ans V R E α} {x : Except E (Option V)}
      {as : List (Attempt Ans)} {g : Flow Ans V R E α} (h : Plays (k x) as g) : Plays (.get k) as g
  | set {v : V} {next g : Flow Ans V R E α} {as : List (Attempt Ans)} (h : Plays next as g) :
      Plays (.set v next) as g
  | clear {next g : Flow Ans V R E α} {as : List (Attempt Ans)} (h : Plays next as g) :
      Plays (.clear next) as g
  /-- The attempt whose result was recorded. -/
  | done {name : String} {body : Closure Ans R E} {k : Except E R → Flow Ans V R E α} {r : R}
      {t : List (Exchange (Act.Ans Ans))} {as : List (Attempt Ans)} {g : Flow Ans V R E α}
      (attempt : Prog.Runs body t (.done r)) (h : Plays (k (.ok r)) as g) :
      Plays (.run name body k) (⟨name, t, true⟩ :: as) g
  /-- An error was recorded, the closure's own or the host's. -/
  | failed {name : String} {body : Closure Ans R E} {k : Except E R → Flow Ans V R E α} {e : E}
      {as : List (Attempt Ans)} {g : Flow Ans V R E α} (h : Plays (k (.error e)) as g) :
      Plays (.run name body k) as g

theorem Plays.trans {f g l : Flow Ans V R E α} {as as' : List (Attempt Ans)} (h : f.Plays as g)
    (h' : g.Plays as' l) : f.Plays (as ++ as') l := by
  induction h with
  | refl f => exact h'
  | lost stray _ ih =>
    rw [List.append_assoc]
    exact .lost stray (ih h')
  | get _ ih => exact .get (ih h')
  | set _ ih => exact .set (ih h')
  | clear _ ih => exact .clear (ih h')
  | done attempt _ ih => exact .done attempt (ih h')
  | failed _ ih => exact .failed (ih h')

theorem Tries.bind {f : Flow Ans V R E α} {a : Attempt Ans} (h : f.Tries a)
    (g : α → Flow Ans V R E β) : (f >>= g).Tries a := by
  cases h with
  | run h => exact .run h

theorem Strays.bind {f : Flow Ans V R E α} {as : List (Attempt Ans)} (h : f.Strays as)
    (g : α → Flow Ans V R E β) : (f >>= g).Strays as := by
  induction h with
  | stop f => exact .stop _
  | tried ha _ ih => exact .tried (ha.bind g) ih
  | ended _ ih => exact .ended ih
  | set _ ih => exact .set ih
  | clear _ ih => exact .clear ih

/-- What `f` comes to, a sequence that starts with `f` comes to with the rest of it. -/
theorem Plays.bind {f f' : Flow Ans V R E α} {as : List (Attempt Ans)} (h : f.Plays as f')
    (g : α → Flow Ans V R E β) : (f >>= g).Plays as (f' >>= g) := by
  induction h with
  | refl f => exact .refl _
  | lost stray _ ih => exact .lost (stray.bind g) ih
  | get _ ih => exact .get ih
  | set _ ih => exact .set ih
  | clear _ ih => exact .clear ih
  | done attempt _ ih => exact .done attempt ih
  | failed _ ih => exact .failed ih

theorem strays_of_tries {f : Flow Ans V R E α} {as as' : List (Attempt Ans)}
    (h : ∀ a ∈ as, f.Tries a) (h' : f.Strays as') : f.Strays (as ++ as') := by
  induction as with
  | nil => exact h'
  | cons a as ih =>
    exact .tried (h a List.mem_cons_self) (ih (fun b hb => h b (List.mem_cons_of_mem _ hb)))

/-- Attempts that came to nothing. -/
theorem plays_of_tries {f : Flow Ans V R E α} {as : List (Attempt Ans)}
    (h : ∀ a ∈ as, f.Tries a) : f.Plays as f := by
  have hstray : f.Strays as := by
    rw [← List.append_nil as]
    exact strays_of_tries h (.stop f)
  rw [← List.append_nil as]
  exact .lost hstray (.refl f)

/-- Every exchange of `tr` was made by an attempt whose result was recorded. -/
def RecordedIn (as : List (Attempt Ans)) (tr : List (Exchange (Act.Ans Ans))) : Prop :=
  ∀ e ∈ tr, ∃ a ∈ as, a.recorded = true ∧ e ∈ a.exchanges

theorem RecordedIn.after {as' : List (Attempt Ans)} {tr : List (Exchange (Act.Ans Ans))}
    (h : RecordedIn as' tr) (as : List (Attempt Ans)) : RecordedIn (as ++ as') tr := by
  intro e he
  obtain ⟨a, ha, hea⟩ := h e he
  exact ⟨a, List.mem_append_right _ ha, hea⟩

/-- **What the journal keeps of a play** are exchanges of its recorded attempts. -/
theorem Plays.reaches {f g : Flow Ans V R E α} {as : List (Attempt Ans)} (h : f.Plays as g) :
    ∃ tr, f.Reaches tr g ∧ RecordedIn as tr := by
  induction h with
  | refl f => exact ⟨[], .refl f, fun _ he => by cases he⟩
  | lost stray _ ih =>
    obtain ⟨tr, hr, hrec⟩ := ih
    exact ⟨tr, hr, hrec.after _⟩
  | get _ ih =>
    obtain ⟨tr, hr, hrec⟩ := ih
    exact ⟨tr, .get hr, hrec⟩
  | set _ ih =>
    obtain ⟨tr, hr, hrec⟩ := ih
    exact ⟨tr, .set hr, hrec⟩
  | clear _ ih =>
    obtain ⟨tr, hr, hrec⟩ := ih
    exact ⟨tr, .clear hr, hrec⟩
  | done attempt _ ih =>
    obtain ⟨tr, hr, hrec⟩ := ih
    refine ⟨_, .done attempt hr, List.forall_mem_append.mpr ⟨fun e he => ?_, hrec.after [_]⟩⟩
    exact ⟨_, List.mem_cons_self, rfl, he⟩
  | failed _ ih =>
    obtain ⟨tr, hr, hrec⟩ := ih
    exact ⟨tr, .failed hr, hrec⟩

/-! ## What holds of every attempt -/

section Attempts

variable {A : Attempt Ans → Prop} {P : α → Prop}

/-- **Every closure keeps to `A`**, wherever its executions are cut short, and what
the handler returns satisfies `P`. -/
def Throughout (A : Attempt Ans → Prop) (P : α → Prop) : Flow Ans V R E α → Prop
  | ret a => P a
  | get k => ∀ x, (k x).Throughout A P
  | set _ next => next.Throughout A P
  | clear next => next.Throughout A P
  | run name body k =>
    (∀ t c b, Prog.Steps body t c → A ⟨name, t, b⟩) ∧ ∀ x, (k x).Throughout A P

theorem Throughout.mono {P' : α → Prop} {f : Flow Ans V R E α} (h : f.Throughout A P)
    (hP : ∀ a, P a → P' a) : f.Throughout A P' := by
  induction f with
  | ret a => exact hP a h
  | get k ih => exact fun x => ih x (h x)
  | set v next ih => exact ih h
  | clear next ih => exact ih h
  | run name body k ih => exact ⟨h.1, fun x => ih x (h.2 x)⟩

theorem Throughout.bind {f : Flow Ans V R E α} {g : α → Flow Ans V R E β} {P' : β → Prop}
    (h : f.Throughout A P) (hg : ∀ a, P a → (g a).Throughout A P') :
    (f >>= g).Throughout A P' := by
  induction f with
  | ret a => exact hg a h
  | get k ih => exact fun x => ih x (h x)
  | set v next ih => exact ih h
  | clear next ih => exact ih h
  | run name body k ih => exact ⟨h.1, fun x => ih x (h.2 x)⟩

theorem Throughout.tries {f : Flow Ans V R E α} {a : Attempt Ans} (h : f.Throughout A P)
    (ha : f.Tries a) : A a := by
  cases ha with
  | run hs => exact h.1 _ _ _ hs

theorem Throughout.strays {f : Flow Ans V R E α} {as : List (Attempt Ans)}
    (h : f.Throughout A P) (hs : f.Strays as) : ∀ a ∈ as, A a := by
  induction hs with
  | stop f => exact fun _ ha => by cases ha
  | tried ha _ ih => exact List.forall_mem_cons.mpr ⟨h.tries ha, ih h⟩
  | ended _ ih => exact ih (h.2 _)
  | set _ ih => exact ih h
  | clear _ ih => exact ih h

/-- **Every attempt of a play keeps to it.** -/
theorem Throughout.plays {f g : Flow Ans V R E α} {as : List (Attempt Ans)}
    (h : f.Throughout A P) (hp : f.Plays as g) : ∀ a ∈ as, A a := by
  induction hp with
  | refl f => exact fun _ ha => by cases ha
  | lost stray _ ih =>
    exact List.forall_mem_append.mpr ⟨h.strays stray, ih h⟩
  | get _ ih => exact ih (h _)
  | set _ ih => exact ih h
  | clear _ ih => exact ih h
  | done attempt _ ih => exact List.forall_mem_cons.mpr ⟨h.1 _ _ _ attempt, ih (h.2 _)⟩
  | failed _ ih => exact ih (h.2 _)

end Attempts

/-! ## What an act commits to -/

section Commits

variable {A : Attempt Ans → Prop} {P : α → Prop}
  {Q : List (Exchange (Act.Ans Ans)) → α → Prop}

/-- **As long as the attempts keep to `A`, anything may be returned; beyond that only
what satisfies `Q`**, with what its recorded attempts exchanged. An error, which may
never be recorded, must not lead beyond. -/
def Commits (A : Attempt Ans → Prop) (Q : List (Exchange (Act.Ans Ans)) → α → Prop) :
    Flow Ans V R E α → Prop
  | ret _ => True
  | get k => ∀ x, (k x).Commits A Q
  | set _ next => next.Commits A Q
  | clear next => next.Commits A Q
  | run name body k =>
    ((∀ t c b, Prog.Steps body t c → A ⟨name, t, b⟩)
        ∧ (∀ e, (k (.error e)).Throughout A (fun _ => True)) ∧ ∀ r, (k (.ok r)).Commits A Q)
      ∨ (run name body k).Ensures Q

/-- A handler whose attempts keep to `A`, and which returns within `P` after an
error. -/
def Prepares (A : Attempt Ans → Prop) (P : α → Prop) : Flow Ans V R E α → Prop
  | ret _ => True
  | get k => ∀ x, (k x).Prepares A P
  | set _ next => next.Prepares A P
  | clear next => next.Prepares A P
  | run name body k =>
    (∀ t c b, Prog.Steps body t c → A ⟨name, t, b⟩)
      ∧ (∀ e, (k (.error e)).Throughout A P) ∧ ∀ r, (k (.ok r)).Prepares A P

theorem Throughout.commits {f : Flow Ans V R E α} (h : f.Throughout A P) : f.Commits A Q := by
  induction f with
  | ret a => trivial
  | get k ih => exact fun x => ih x (h x)
  | set v next ih => exact ih h
  | clear next ih => exact ih h
  | run name body k ih =>
    exact Or.inl ⟨h.1, fun e => (h.2 _).mono (fun _ _ => trivial), fun r => ih _ (h.2 _)⟩

theorem Prepares.bind {f : Flow Ans V R E α} {g : α → Flow Ans V R E β} {P' : β → Prop}
    (h : f.Prepares A P) (hP : ∀ a, P a → (g a).Throughout A P')
    (hg : ∀ a, (g a).Prepares A P') : (f >>= g).Prepares A P' := by
  induction f with
  | ret a => exact hg a
  | get k ih => exact fun x => ih x (h x)
  | set v next ih => exact ih h
  | clear next ih => exact ih h
  | run name body k ih => exact ⟨h.1, fun e => (h.2.1 e).bind hP, fun r => ih _ (h.2.2 r)⟩

/-- What is prepared for may commit. -/
theorem Prepares.commits {f : Flow Ans V R E α} {g : α → Flow Ans V R E β}
    {Q : List (Exchange (Act.Ans Ans)) → β → Prop}
    (h : f.Prepares A P) (hP : ∀ a, P a → (g a).Throughout A (fun _ => True))
    (hg : ∀ a, (g a).Commits A Q) : (f >>= g).Commits A Q := by
  induction f with
  | ret a => exact hg a
  | get k ih => exact fun x => ih x (h x)
  | set v next ih => exact ih h
  | clear next ih => exact ih h
  | run name body k ih =>
    exact Or.inl ⟨h.1, fun e => (h.2.1 e).bind hP, fun r => ih _ (h.2.2 r)⟩

theorem Commits.strays {f : Flow Ans V R E α} {as : List (Attempt Ans)} (h : f.Commits A Q)
    (hs : f.Strays as) : (∀ a ∈ as, A a) ∨ f.Ensures Q := by
  induction hs with
  | stop f => exact Or.inl (fun _ ha => by cases ha)
  | tried ha _ ih =>
    rcases ih h with has | hQ
    · cases ha with
      | run hsteps =>
        rcases h with h | hQ
        · exact Or.inl (List.forall_mem_cons.mpr ⟨h.1 _ _ _ hsteps, has⟩)
        · exact Or.inr hQ
    · exact Or.inr hQ
  | ended hs _ =>
    rcases h with h | hQ
    · exact Or.inl ((h.2.1 _).strays hs)
    · exact Or.inr hQ
  | set _ ih => exact (ih h).imp_right ensures_set.mpr
  | clear _ ih => exact (ih h).imp_right ensures_clear.mpr

/-- **A play keeps to `A` throughout, or returns within `Q`.** -/
theorem Commits.plays {f : Flow Ans V R E α} {as : List (Attempt Ans)} {o : α}
    (h : f.Commits A Q) (hp : f.Plays as (ret o)) :
    (∀ a ∈ as, A a) ∨ ∃ tr, Q tr o ∧ RecordedIn as tr := by
  generalize hg : (ret o : Flow Ans V R E α) = g at hp
  -- Where only `Q` is returned, what is returned is what the journal keeps.
  have hensures : ∀ {f : Flow Ans V R E α} {as : List (Attempt Ans)}, f.Ensures Q →
      f.Plays as g → ∃ tr, Q tr o ∧ RecordedIn as tr := by
    subst hg
    intro f as hQ hp
    obtain ⟨tr, hr, hrec⟩ := hp.reaches
    exact ⟨tr, hQ tr o hr, hrec⟩
  induction hp with
  | refl f => exact Or.inl (fun _ ha => by cases ha)
  | lost stray hp ih =>
    rcases h.strays stray with has | hQ
    · rcases ih h hg hensures with has' | ⟨tr, hQ, hrec⟩
      · exact Or.inl (List.forall_mem_append.mpr ⟨has, has'⟩)
      · exact Or.inr ⟨tr, hQ, hrec.after _⟩
    · exact Or.inr (hensures hQ (.lost stray hp))
  | get _ ih => exact ih (h _) hg hensures
  | set _ ih => exact ih h hg hensures
  | clear _ ih => exact ih h hg hensures
  | done attempt hp ih =>
    rcases h with h | hQ
    · rcases ih (h.2.2 _) hg hensures with has | ⟨tr, hQ, hrec⟩
      · exact Or.inl (List.forall_mem_cons.mpr ⟨h.1 _ _ _ attempt, has⟩)
      · exact Or.inr ⟨tr, hQ, hrec.after [_]⟩
    · exact Or.inr (hensures hQ (.done attempt hp))
  | failed hp ih =>
    rcases h with h | hQ
    · exact ih (h.2.1 _).commits hg hensures
    · exact Or.inr (hensures hQ (.failed hp))

end Commits

end Flow

/-! ## Every run of the object is a play -/

section Adequacy

variable {H : Host Ans V R E Id I O W} [DecidableEq Id]

/-- The start of a closure of the invocation, or a request of it. -/
def Event.isTry (id : Id) : Event Ans V R E Id I → Bool
  | .began i _ => i = id
  | .asked i _ _ => i = id
  | _ => false

/-- What history keeps of an attempt. -/
def Attempt.events (id : Id) (a : Attempt Ans) : List (Event Ans V R E Id I) :=
  .began id a.name :: (asks a.exchanges).map (fun e => .asked id e.1 e.2)

/-- **The attempts are all the invocation has executed.** -/
def Executed (id : Id) (h : List (Event Ans V R E Id I)) (as : List (Attempt Ans)) : Prop :=
  h.filter (Event.isTry id) = as.flatMap (Attempt.events id)

/-- From where the journal leads to where the execution stands, by attempts that may
still be lost. -/
inductive Flow.Outruns : Flow Ans V R E O → List (Entry V R E) → List (Attempt Ans) →
    Flow Ans V R E O → Prop where
  | here {f : Flow Ans V R E O} {as : List (Attempt Ans)} (h : ∀ a ∈ as, f.Tries a) :
      Outruns f [] as f
  | next {f f' g : Flow Ans V R E O} {e : Entry V R E} {p : List (Entry V R E)}
      {as as' : List (Attempt Ans)} (h : ∀ a ∈ as, f.Tries a) (hnext : f.next e = some f')
      (he : ∀ r, e ≠ .ran (.ok r)) (hg : ∀ x, e ≠ .got x) (h' : Outruns f' p as' g) :
      Outruns f (e :: p) (as ++ as') g

/-- What runs ahead may be lost. -/
theorem Flow.Outruns.strays {f g : Flow Ans V R E O} {p : List (Entry V R E)}
    {as : List (Attempt Ans)} (h : f.Outruns p as g) : f.Strays as := by
  induction h with
  | here h => simpa using strays_of_tries h (.stop _)
  | next h hnext he hg _ ih =>
    refine strays_of_tries h ?_
    unfold Flow.next at hnext
    split at hnext
    · exact absurd rfl (hg _)
    · cases hnext
      exact .set ih
    · cases hnext
      exact .clear ih
    · rename_i x
      cases hnext
      cases x with
      | error e => exact .ended ih
      | ok r => exact absurd rfl (he r)
    · cases hnext

/-- An entry that records no result moves a play on. -/
theorem Flow.plays_next {f f' : Flow Ans V R E O} {e : Entry V R E} (hnext : f.next e = some f')
    (he : ∀ r, e ≠ .ran (.ok r)) : f.Plays [] f' := by
  unfold Flow.next at hnext
  split at hnext
  · cases hnext
    exact .get (.refl _)
  · cases hnext
    exact .set (.refl _)
  · cases hnext
    exact .clear (.refl _)
  · rename_i x
    cases hnext
    cases x with
    | error e => exact .failed (.refl _)
    | ok r => exact absurd rfl (he r)
  · cases hnext

theorem Flow.Outruns.plays {f g : Flow Ans V R E O} {p : List (Entry V R E)}
    {as : List (Attempt Ans)} (h : f.Outruns p as g) : f.Plays as g := by
  induction h with
  | here h => exact plays_of_tries h
  | next h hnext he _ _ ih =>
    have hmove := (plays_next hnext he).trans ih
    rw [List.nil_append] at hmove
    exact (plays_of_tries h).trans hmove

theorem Flow.Outruns.snoc {f g l : Flow Ans V R E O} {p : List (Entry V R E)} {e : Entry V R E}
    {as as' : List (Attempt Ans)} (h : f.Outruns p as g) (hs : ∀ a ∈ as', g.Tries a)
    (hnext : g.next e = some l) (he : ∀ r, e ≠ .ran (.ok r)) (hg : ∀ x, e ≠ .got x) :
    f.Outruns (p ++ [e]) (as ++ as') l := by
  induction h with
  | @here f as h =>
    rw [← List.append_nil (as ++ as')]
    exact .next (List.forall_mem_append.mpr ⟨h, hs⟩) hnext he hg (.here (fun _ ha => by cases ha))
  | next h hn he' hg' _ ih =>
    rw [List.append_assoc]
    exact .next h hn he' hg' (ih hs hnext)

/-- More attempts where the execution stands. -/
theorem Flow.Outruns.tried {f g : Flow Ans V R E O} {p : List (Entry V R E)}
    {as as' : List (Attempt Ans)} (h : f.Outruns p as g) (hs : ∀ a ∈ as', g.Tries a) :
    f.Outruns p (as ++ as') g := by
  induction h with
  | here h => exact .here (List.forall_mem_append.mpr ⟨h, hs⟩)
  | next h hn he hg _ ih =>
    rw [List.append_assoc]
    exact .next h hn he hg (ih hs)

/-- The closure an execution is running: what it has exchanged so far. -/
inductive Running : Flow Ans V R E O → Option (Closure Ans R E) → List (Attempt Ans) → Prop where
  | idle (f : Flow Ans V R E O) : Running f none []
  | busy {name : String} {body c : Closure Ans R E} {k : Except E R → Flow Ans V R E O}
      {t : List (Exchange (Act.Ans Ans))} (h : Prog.Steps body t c) :
      Running (.run name body k) (some c) [⟨name, t, false⟩]

theorem Running.tries {f : Flow Ans V R E O} {c : Option (Closure Ans R E)}
    {as : List (Attempt Ans)} (h : Running f c as) : ∀ a ∈ as, f.Tries a := by
  cases h with
  | idle => exact fun _ ha => by cases ha
  | busy h => exact List.forall_mem_singleton.mpr (.run h)

/-- **Where an execution stands**: its journal was played, what is pending has
outrun it, and the closure it is running has come as far as its attempt says. -/
def Acts (H : Host Ans V R E Id I O W) (id : Id) (i : I) (f : Flow Ans V R E O)
    (h : List (Event Ans V R E Id I)) (x : Execution Ans V R E O) : Prop :=
  ∃ as bs ts, (H.program id i).Plays as f ∧ f.Outruns x.pending bs x.flow
    ∧ Running x.flow x.closure ts ∧ Executed id h (as ++ bs ++ ts)

/-- Where an invocation stands, with an execution or without one. -/
def Follows (H : Host Ans V R E Id I O W) (v : Invocation Ans V R E Id I O)
    (h : List (Event Ans V R E Id I)) : Prop :=
  ∃ f, (H.program v.id v.input).replay v.journal = some f
    ∧ (v.execution = none → ∃ as, (H.program v.id v.input).Plays as f ∧ Executed v.id h as)
    ∧ ∀ x, v.execution = some x → Acts H v.id v.input f h x

/-- **The invariant**: what the current invocation has executed is a play that ends
where its journal does, and where its execution stands. -/
def Played (H : Host Ans V R E Id I O W) (s : System Ans V R E Id I O W) : Prop :=
  ∀ v, s.current = some v → Follows H v s.history

section Cases

variable {id : Id} {i : I} {j p : List (Entry V R E)} {f g g' : Flow Ans V R E O} {b b' : Bool}
  {c : Option (Closure Ans R E)} {h added : List (Event Ans V R E Id I)} {e : Entry V R E}
  {as ts : List (Attempt Ans)} {x : Execution Ans V R E O}

theorem executed_of_fresh (hfresh : Fresh id h) : Executed id h [] := by
  refine List.filter_eq_nil_iff.mpr (fun e he htry => hfresh e he ?_)
  cases e with
  | began i n | asked i r x => simpa [Event.isTry, Event.owner] using htry
  | invoked i x | observed r x | recorded i n x | stored i v | cleared i => cases htry

theorem Executed.append {b : List (Attempt Ans)} (hh : Executed id h as)
    (hadded : added.filter (Event.isTry id) = b.flatMap (Attempt.events id)) :
    Executed id (h ++ added) (as ++ b) := by
  unfold Executed at hh ⊢
  rw [List.filter_append, List.flatMap_append, hh, hadded]

/-- What is neither a start nor a request adds no attempt. -/
theorem Executed.quiet (hh : Executed id h as) (hquiet : ∀ e ∈ added, e.isTry id = false) :
    Executed id (h ++ added) as := by
  have hnone : added.filter (Event.isTry id) = [] :=
    List.filter_eq_nil_iff.mpr (fun e he => by simp [hquiet e he])
  have happend := hh.append (b := []) hnone
  rwa [List.append_nil] at happend

/-- A request lengthens the last attempt. -/
theorem Executed.asked {name : String} {t : List (Exchange (Act.Ans Ans))} {r : Req} {y : Ans r}
    (hh : Executed id h (as ++ [⟨name, t, false⟩])) :
    Executed id (h ++ [.asked id r y]) (as ++ [⟨name, t ++ [⟨Act.ask r, y⟩], false⟩]) := by
  unfold Executed at hh ⊢
  rw [List.filter_append, hh]
  simp [Attempt.events, asks_append, asks, Event.isTry]

/-- The flag is not recorded. -/
theorem Executed.swapped {name : String} {t : List (Exchange (Act.Ans Ans))} {v : Bool}
    (hh : Executed id h (as ++ [⟨name, t, false⟩])) :
    Executed id h (as ++ [⟨name, t ++ [⟨Act.swap v, b⟩], false⟩]) := by
  unfold Executed at hh ⊢
  rw [hh]
  simp [Attempt.events, asks_append, asks]

theorem Acts.quiet (hx : Acts H id i f h x) (hquiet : ∀ e ∈ added, e.isTry id = false) :
    Acts H id i f (h ++ added) x := by
  obtain ⟨as, bs, ts, hp, ho, hr, hh⟩ := hx
  exact ⟨as, bs, ts, hp, ho, hr, hh.quiet hquiet⟩

/-- A step of the text that is not recorded yet. -/
theorem Acts.sent (hx : Acts H id i f h ⟨p, g, b, c⟩) (hnext : g.next e = some g')
    (he : ∀ r, e ≠ .ran (.ok r)) (hg : ∀ y, e ≠ .got y) (b' : Bool) :
    Acts H id i f h ⟨p ++ [e], g', b', none⟩ := by
  obtain ⟨as, bs, ts, hp, ho, hr, hh⟩ := hx
  refine ⟨as, bs ++ ts, [], hp, ho.snoc hr.tries hnext he hg, .idle _, ?_⟩
  rwa [List.append_nil, ← List.append_assoc]

/-- A step that is recorded at once. -/
theorem Acts.recorded (hj : (H.program id i).replay j = some f)
    (hx : Acts H id i f h ⟨[], g, b, c⟩) (hnext : g.next e = some g')
    (hplays : ∀ ts, Running g c ts → ∃ ts', g.Plays ts' g'
      ∧ ts'.flatMap (Attempt.events (V := V) (R := R) (E := E) (I := I) id)
        = ts.flatMap (Attempt.events id)) (b' : Bool) :
    (H.program id i).replay (j ++ [e]) = some g' ∧ Acts H id i g' h ⟨[], g', b', none⟩ := by
  obtain ⟨as, bs, ts, hp, ho, hr, hh⟩ := hx
  cases ho with
  | here htries =>
    obtain ⟨ts', hts, hevents⟩ := hplays ts hr
    refine ⟨Flow.replay_snoc hj hnext, as ++ bs ++ ts', [], [], ?_,
      .here (fun _ ha => by cases ha), .idle _, ?_⟩
    · exact (hp.trans (Flow.plays_of_tries htries)).trans hts
    · rw [List.append_nil, List.append_nil]
      unfold Executed at hh ⊢
      rw [hh]
      simp only [List.flatMap_append, hevents]

/-- The oldest pending command becomes durable. -/
theorem Acts.committed (hj : (H.program id i).replay j = some f)
    (hx : Acts H id i f h ⟨e :: p, g, b, c⟩) :
    ∃ f', (H.program id i).replay (j ++ [e]) = some f' ∧ Acts H id i f' h ⟨p, g, b, c⟩ := by
  obtain ⟨as, bs, ts, hp, ho, hr, hh⟩ := hx
  cases ho with
  | @next _ f' _ _ _ bs bs' htries hnext he hg ho =>
    have hmove := (hp.trans (Flow.plays_of_tries htries)).trans (Flow.plays_next hnext he)
    rw [List.append_nil] at hmove
    refine ⟨f', Flow.replay_snoc hj hnext, as ++ bs, bs', ts, hmove, ho, hr, ?_⟩
    rwa [List.append_assoc as bs bs']

/-- The execution is lost: all it ran ahead of the journal comes to nothing. -/
theorem Acts.lost (hx : Acts H id i f h x) :
    ∃ as, (H.program id i).Plays as f ∧ Executed id h as := by
  obtain ⟨as, bs, ts, hp, ho, hr, hh⟩ := hx
  refine ⟨as ++ (bs ++ ts), hp.trans ?_, by rwa [← List.append_assoc]⟩
  have hstray := Flow.Plays.lost (ho.tried hr.tries).strays (.refl f)
  rwa [List.append_nil] at hstray

/-- What has been executed is a play to where the execution stands. -/
theorem Acts.plays (hx : Acts H id i f h x) :
    ∃ as, (H.program id i).Plays as x.flow ∧ Executed id h as := by
  obtain ⟨as, bs, ts, hp, ho, hr, hh⟩ := hx
  exact ⟨as ++ bs ++ ts, (hp.trans ho.plays).trans (Flow.plays_of_tries hr.tries), hh⟩

end Cases

theorem Acts.follows {id : Id} {i : I} {j : List (Entry V R E)} {f : Flow Ans V R E O}
    {h : List (Event Ans V R E Id I)} {x : Execution Ans V R E O} (hx : Acts H id i f h x)
    (hj : (H.program id i).replay j = some f) : Follows H ⟨id, i, j, some x⟩ h := by
  refine ⟨f, hj, (fun hnone => by cases hnone), ?_⟩
  rintro _ ⟨⟩
  exact hx

/-- **One step keeps the invariant.** -/
theorem Played.step {s s' : System Ans V R E Id I O W} (hs : Played H s) (hstep : Step H s s') :
    Played H s' := by
  cases hstep with
  -- nothing of a fresh invocation is in the history yet
  | invoke fresh admitted =>
    rintro v ⟨⟩
    refine ⟨_, rfl, (fun _ => ⟨[], .refl _, ?_⟩), (fun _ hx => by cases hx)⟩
    exact (executed_of_fresh fresh).quiet (List.forall_mem_singleton.mpr rfl)
  | resume replay =>
    rintro v ⟨⟩
    obtain ⟨f, hj, hidle, -⟩ := hs _ rfl
    obtain rfl := Option.some.inj (hj.symm.trans replay)
    obtain ⟨as, hp, hh⟩ := hidle rfl
    refine Acts.follows ?_ hj
    exact ⟨as, [], [], hp, .here (fun _ ha => by cases ha), .idle _, by simpa using hh⟩
  | get =>
    rintro v ⟨⟩
    obtain ⟨f, hj, -, hx⟩ := hs _ rfl
    obtain ⟨hj', hx'⟩ := (hx _ rfl).recorded hj rfl (e := .got (.ok _)) (by
      rintro _ ⟨⟩
      exact ⟨[], .get (.refl _), rfl⟩) _
    exact hx'.follows hj'
  | getFailed e =>
    rintro v ⟨⟩
    obtain ⟨f, hj, -, hx⟩ := hs _ rfl
    obtain ⟨hj', hx'⟩ := (hx _ rfl).recorded hj rfl (e := .got (.error e)) (by
      rintro _ ⟨⟩
      exact ⟨[], .get (.refl _), rfl⟩) _
    exact hx'.follows hj'
  -- a store is only sent here; the journal gets it in `commit`
  | set =>
    rintro v ⟨⟩
    obtain ⟨f, hj, -, hx⟩ := hs _ rfl
    refine Acts.follows ?_ hj
    exact (hx _ rfl).sent (e := .set _) rfl (fun _ h => by cases h) (fun _ h => by cases h) _
  | clear =>
    rintro v ⟨⟩
    obtain ⟨f, hj, -, hx⟩ := hs _ rfl
    refine Acts.follows ?_ hj
    exact (hx _ rfl).sent (e := .cleared) rfl (fun _ h => by cases h) (fun _ h => by cases h) _
  | @commit _ _ _ _ e =>
    rintro v ⟨⟩
    obtain ⟨f, hj, -, hx⟩ := hs _ rfl
    obtain ⟨f', hj', hx'⟩ := (hx _ rfl).committed hj
    refine (hx'.quiet (fun d hd => ?_)).follows hj'
    cases e with
    | set v | cleared => rw [List.mem_singleton.mp hd]; rfl
    | got y | ran y => exact by cases hd
  -- the attempt that begins is the last one, with nothing asked in it
  | begin =>
    rename_i m id i j p n body k b h w
    rintro v ⟨⟩
    obtain ⟨f, hj, -, hx⟩ := hs _ rfl
    refine Acts.follows ?_ hj
    obtain ⟨as, bs, ts, hp, ho, hr, hh⟩ := hx _ rfl
    cases hr
    refine ⟨as, bs, [⟨n, [], false⟩], hp, ho, .busy (.refl _), Executed.append ?_ ?_⟩
    · rwa [List.append_nil] at hh
    · simp [Event.isTry, Attempt.events, asks]
  | ask y w' answered =>
    rintro v ⟨⟩
    obtain ⟨f, hj, -, hx⟩ := hs _ rfl
    refine Acts.follows ?_ hj
    obtain ⟨as, bs, ts, hp, ho, hr, hh⟩ := hx _ rfl
    cases hr with
    | busy hsteps => exact ⟨as, bs, _, hp, ho, .busy (hsteps.snoc y), hh.asked⟩
  | swap =>
    rintro v ⟨⟩
    obtain ⟨f, hj, -, hx⟩ := hs _ rfl
    refine Acts.follows ?_ hj
    obtain ⟨as, bs, ts, hp, ho, hr, hh⟩ := hx _ rfl
    cases hr with
    | busy hsteps => exact ⟨as, bs, _, hp, ho, .busy (hsteps.snoc _), hh.swapped⟩
  | done =>
    rintro v ⟨⟩
    obtain ⟨f, hj, -, hx⟩ := hs _ rfl
    obtain ⟨hj', hx'⟩ := (hx _ rfl).recorded hj rfl (e := .ran (.ok _)) (by
      rintro ts hr
      cases hr with
      | busy hsteps => exact ⟨_, .done hsteps (.refl _), rfl⟩) _
    exact (hx'.quiet (List.forall_mem_singleton.mpr rfl)).follows hj'
  | @failed _ _ _ _ _ _ _ _ e =>
    rintro v ⟨⟩
    obtain ⟨f, hj, -, hx⟩ := hs _ rfl
    obtain ⟨hj', hx'⟩ := (hx _ rfl).recorded hj rfl (e := .ran (.error e)) (by
      rintro ts hr
      exact ⟨ts ++ [], (Flow.plays_of_tries hr.tries).trans (.failed (.refl _)), by simp⟩) _
    exact (hx'.quiet (List.forall_mem_singleton.mpr rfl)).follows hj'
  | interrupt e =>
    rintro v ⟨⟩
    obtain ⟨f, hj, -, hx⟩ := hs _ rfl
    refine Acts.follows ?_ hj
    exact (hx _ rfl).sent (e := .ran (.error e)) rfl (fun _ h => by cases h)
      (fun _ h => by cases h) _
  | finish => exact fun v hv => by cases hv
  -- what was sent and not recorded may have been lost
  | @crash _ _ _ _ x =>
    rintro v ⟨⟩
    obtain ⟨f, hj, hidle, hx⟩ := hs _ rfl
    refine ⟨f, hj, fun _ => ?_, fun _ hx => by cases hx⟩
    cases x with
    | none => exact hidle rfl
    | some x => exact (hx x rfl).lost
  | kill => exact fun v hv => by cases hv
  | observe r y observed =>
    intro v hv
    obtain ⟨f, hj, hidle, hx⟩ := hs v hv
    refine ⟨f, hj, fun hnone => ?_, fun x hsome => ?_⟩
    · obtain ⟨as, hp, hh⟩ := hidle hnone
      exact ⟨as, hp, hh.quiet (List.forall_mem_singleton.mpr rfl)⟩
    · exact (hx x hsome).quiet (List.forall_mem_singleton.mpr rfl)
  | drift moved => exact fun v hv => hs v hv

end Adequacy

end Durable
