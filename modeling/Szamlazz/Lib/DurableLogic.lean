import Szamlazz.Lib.Durable

/-!
# Reasoning about durable handlers

What holds of the object in every run, from what its handlers do. An assertion
speaks of the flag, the history and the world. Between two steps of a handler
the world moves, others read, the execution may be lost and the flag with it;
an assertion a handler rests on must survive all of that (`Lasting`). `Obeys`
walks the text of a handler under such an assertion: what it knows of the
stored value, whether commands of its own may still be unacknowledged, and what
each of its closures may ask. `reachable_invariant` is then the induction over
the runs, done once: if every handler obeys, the invariant holds in every
reachable state.
-/

namespace Durable

variable {Req : Type} {Ans : Req → Type} {V R E Id I O W α β : Type}

/-- What a handler rests on: a property of the flag, the history and the world. -/
abbrev Assertion {Req : Type} (Ans : Req → Type) (V R E Id I W : Type) : Type :=
  Bool → List (Event Ans V R E Id I) → W → Prop

/-! ## What survives -/

/-- **An assertion that lasts while nobody acts**: the world may move, and quiet
events may be added. -/
structure Stable (H : Host Ans V R E Id I O W) (A : Assertion Ans V R E Id I W) : Prop where
  drift : ∀ {b h w w'}, A b h w → H.drift w w' → A b h w'
  quiet : ∀ {b h w} (e : Event Ans V R E Id I), e.isQuiet = true → A b h w → A b (h ++ [e]) w

/-- One that also survives the loss of the execution. -/
structure Lasting (H : Host Ans V R E Id I O W) (A : Assertion Ans V R E Id I W) : Prop
    extends Stable H A where
  lost : ∀ {b h w}, A b h w → A false h w

/-- **What the environment keeps**: the world's own moves, and every event that
is neither a request nor touches the stored value. -/
structure Kept (H : Host Ans V R E Id I O W)
    (J : List (Event Ans V R E Id I) → W → Prop) : Prop where
  initial : ∀ {w}, H.initial w → J [] w
  drift : ∀ {h w w'}, J h w → H.drift w w' → J h w'
  neutral : ∀ {h w} (e : Event Ans V R E Id I), e.isNeutral = true → J h w → J (h ++ [e]) w

/-- A stable strengthening, for a point inside a closure. -/
structure Within (H : Host Ans V R E Id I O W) (κ θ : Assertion Ans V R E Id I W) : Prop
    extends Stable H θ where
  implies : ∀ {b h w}, θ b h w → κ b h w

/-! ## Closures and handlers -/

section Rules

variable (H : Host Ans V R E Id I O W) (J : List (Event Ans V R E Id I) → W → Prop) (id : Id)

/-- **A closure that respects the invariant**, from a point where `θ` holds:
`κ` holds all along, each request keeps `J`, and with a result `r` it ends with
it leaves one of the assertions of `Post r` behind. It makes requests only where
the handler has no unacknowledged command (`dirty = false`), and then knows `K`
of the stored value. -/
def Safe (K : Option V → Prop) (dirty : Bool) (κ : Assertion Ans V R E Id I W) (name : String)
    (Post : R → Assertion Ans V R E Id I W → Prop) :
    Closure Ans R E → Assertion Ans V R E Id I W → Prop
  | .ret (.done r), θ => ∃ κ', Post r κ' ∧ ∀ b h w, θ b h w → J h w →
      κ' b (h ++ [.recorded id name (.ok r)]) w
  | .ret (.failed _), _ => True
  | .ret .retry, _ => True
  | .call (.ask r) k, θ => dirty = false ∧ ∀ x, ∃ θ', Within H κ θ'
      ∧ (∀ b h w w', θ b h w → J h w → K (storedAt h) → H.answers id w r x w' →
        J (h ++ [.asked id r x]) w' ∧ θ' b (h ++ [.asked id r x]) w')
      ∧ Safe K dirty κ name Post (k x) θ'
  | .call (.swap v) k, θ => ∀ old, ∃ θ', Within H κ θ'
      ∧ (∀ h w, θ old h w → θ' v h w) ∧ Safe K dirty κ name Post (k old) θ'

/-- What a run guarantees: the results it can record, and what they leave. -/
structure RunSpec (K : Option V → Prop) (dirty : Bool) (κ : Assertion Ans V R E Id I W)
    (name : String) (body : Closure Ans R E)
    (Post : R → Assertion Ans V R E Id I W → Prop) : Prop where
  lasting : ∀ r κ', Post r κ' → Lasting H κ'
  safe : ∃ θ, Within H κ θ
    ∧ (∀ b h w, κ b h w → θ b (h ++ [.began id name]) w)
    ∧ Safe H J id K dirty κ name Post body θ

/-- **A handler that respects the invariant.** It stands where `κ` holds and the
stored value, once its own commands are durable, satisfies `K`; `dirty` tells
that some of them may not be. Where it returns, `Q` holds of what it knows. -/
def Obeys (Q : α → (Option V → Prop) → Bool → Assertion Ans V R E Id I W → Prop) :
    Flow Ans V R E α → (Option V → Prop) → Bool → Assertion Ans V R E Id I W → Prop
  | .ret a, K, dirty, κ => Q a K dirty κ
  | .get k, K, dirty, κ => dirty = false ∧ (∀ e, Obeys Q (k (.error e)) K dirty κ)
      ∧ ∀ m, ∃ κ', Lasting H κ'
        ∧ (∀ b h w, κ b h w → J h w → storedAt h = m → K m → κ' b h w)
        ∧ Obeys Q (k (.ok m)) (fun m' => m' = m) false κ'
  | .set v next, K, _, κ =>
      (∀ b h w, κ b h w → J h w → K (storedAt h) → J (h ++ [.stored id v]) w)
        ∧ Obeys Q next (fun m => m = some v) true κ
  | .clear next, K, _, κ =>
      (∀ b h w, κ b h w → J h w → K (storedAt h) → J (h ++ [.cleared id]) w)
        ∧ Obeys Q next (fun m => m = none) true κ
  | .run name body k, K, dirty, κ =>
      (∀ e, Obeys Q (k (.error e)) K dirty κ) ∧ (∀ e, Obeys Q (k (.error e)) K false κ)
        ∧ ∃ Post : R → Assertion Ans V R E Id I W → Prop,
          RunSpec H J id K dirty κ name body Post
            ∧ ∀ r κ', Post r κ' → Obeys Q (k (.ok r)) K false κ'

end Rules

/-! ## Rules -/

section Composition

variable {H : Host Ans V R E Id I O W} {J : List (Event Ans V R E Id I) → W → Prop} {id : Id}
  {K : Option V → Prop} {dirty : Bool} {κ : Assertion Ans V R E Id I W}

/-- **A sequence is verified by its parts.** -/
theorem Obeys.bind {f : Flow Ans V R E α} {g : α → Flow Ans V R E β}
    {Q : α → (Option V → Prop) → Bool → Assertion Ans V R E Id I W → Prop}
    {Q' : β → (Option V → Prop) → Bool → Assertion Ans V R E Id I W → Prop}
    (hf : Obeys H J id Q f K dirty κ)
    (hg : ∀ a K dirty κ, Q a K dirty κ → Obeys H J id Q' (g a) K dirty κ) :
    Obeys H J id Q' (f >>= g) K dirty κ := by
  induction f generalizing K dirty κ with
  | ret a => exact hg a K dirty κ hf
  | get k ih =>
    obtain ⟨hd, herror, hok⟩ := hf
    refine ⟨hd, fun e => ih _ (herror e), fun m => ?_⟩
    obtain ⟨κ', hlasting, himp, hk⟩ := hok m
    exact ⟨κ', hlasting, himp, ih _ hk⟩
  | set v next ih => exact ⟨hf.1, ih hf.2⟩
  | clear next ih => exact ⟨hf.1, ih hf.2⟩
  | run name body k ih =>
    obtain ⟨herror, herror', Post, hspec, hok⟩ := hf
    exact ⟨fun e => ih _ (herror e), fun e => ih _ (herror' e), Post, hspec,
      fun r κ' hr => ih _ (hok r κ' hr)⟩

theorem Obeys.mono {f : Flow Ans V R E α}
    {Q Q' : α → (Option V → Prop) → Bool → Assertion Ans V R E Id I W → Prop}
    (hf : Obeys H J id Q f K dirty κ) (hQ : ∀ a K dirty κ, Q a K dirty κ → Q' a K dirty κ) :
    Obeys H J id Q' f K dirty κ := by
  induction f generalizing K dirty κ with
  | ret a => exact hQ a K dirty κ hf
  | get k ih =>
    obtain ⟨hd, herror, hok⟩ := hf
    refine ⟨hd, fun e => ih _ (herror e), fun m => ?_⟩
    obtain ⟨κ', hlasting, himp, hk⟩ := hok m
    exact ⟨κ', hlasting, himp, ih _ hk⟩
  | set v next ih => exact ⟨hf.1, ih hf.2⟩
  | clear next ih => exact ⟨hf.1, ih hf.2⟩
  | run name body k ih =>
    obtain ⟨herror, herror', Post, hspec, hok⟩ := hf
    exact ⟨fun e => ih _ (herror e), fun e => ih _ (herror' e), Post, hspec,
      fun r κ' hr => ih _ (hok r κ' hr)⟩

/-- A lasting assertion is the one its closures may keep throughout. -/
theorem Lasting.within {κ : Assertion Ans V R E Id I W} (h : Lasting H κ) : Within H κ κ where
  toStable := h.toStable
  implies := fun hκ => hκ

/-- Starting a closure is a quiet event, so what holds before it holds in it. -/
theorem runSpec_of_safe {name : String} {body : Closure Ans R E}
    {Post : R → Assertion Ans V R E Id I W → Prop} (hκ : Lasting H κ)
    (hlasting : ∀ r κ', Post r κ' → Lasting H κ')
    (h : Safe H J id K dirty κ name Post body κ) :
    RunSpec H J id K dirty κ name body Post :=
  ⟨hlasting, κ, hκ.within, fun _ _ _ hk => hκ.quiet _ rfl hk, h⟩

end Composition

/-! ## Reading -/

/-- The requests among the exchanges of a closure. -/
def asks : List (Exchange (Act.Ans Ans)) → List (Exchange Ans)
  | [] => []
  | ⟨.ask r, x⟩ :: tr => ⟨r, x⟩ :: asks tr
  | ⟨.swap _, _⟩ :: tr => asks tr

@[simp] theorem asks_nil : asks ([] : List (Exchange (Act.Ans Ans))) = [] := rfl

@[simp] theorem asks_ask (r : Req) (x : Ans r) (tr : List (Exchange (Act.Ans Ans))) :
    asks (⟨.ask r, x⟩ :: tr) = ⟨r, x⟩ :: asks tr := rfl

/-- A closure whose requests are all in `reads`, and that leaves the flag alone. -/
def Closure.ReadsOnly (reads : Req → Prop) : Closure Ans R E → Prop
  | .ret _ => True
  | .call (.ask r) k => reads r ∧ ∀ x, ReadsOnly reads (k x)
  | .call (.swap _) _ => False

/-- **A handler that first only reads.** `seen` is what was read so far; it either
returns with `Q`, or comes to a place where `Then` holds. -/
def Flow.Admits (reads : Req → Prop) (Q : List (Exchange Ans) → α → Prop)
    (Then : List (Exchange Ans) → Flow Ans V R E α → Prop) :
    Flow Ans V R E α → List (Exchange Ans) → Prop
  | .ret a, seen => Q seen a ∨ Then seen (.ret a)
  | .get k, seen => Then seen (.get k)
  | .set v next, seen => Then seen (.set v next)
  | .clear next, seen => Then seen (.clear next)
  | .run name body k, seen => Then seen (.run name body k)
      ∨ (Closure.ReadsOnly reads body ∧ (∀ e, Admits reads Q Then (k (.error e)) seen)
        ∧ ∀ tr r, Prog.Runs body tr (.done r) →
          Admits reads Q Then (k (.ok r)) (seen ++ asks tr))

section Reading

variable {reads : Req → Prop} {Q : List (Exchange Ans) → α → Prop}
  {Then : List (Exchange Ans) → Flow Ans V R E α → Prop} {seen : List (Exchange Ans)}

theorem Flow.admits_of_then {f : Flow Ans V R E α} (h : Then seen f) :
    f.Admits reads Q Then seen := by
  cases f with
  | ret a => exact Or.inr h
  | get k => exact h
  | set v next => exact h
  | clear next => exact h
  | run name body k => exact Or.inl h

theorem Flow.admits_ret {a : α} (h : Q seen a) :
    (Flow.ret a : Flow Ans V R E α).Admits reads Q Then seen := Or.inl h

theorem Flow.admits_run {name : String} {body : Closure Ans R E}
    {k : Except E R → Flow Ans V R E α} (hbody : Closure.ReadsOnly reads body)
    (herror : ∀ e, (k (.error e)).Admits reads Q Then seen)
    (hok : ∀ tr r, Prog.Runs body tr (.done r) →
      (k (.ok r)).Admits reads Q Then (seen ++ asks tr)) :
    (Flow.run name body k).Admits reads Q Then seen := Or.inr ⟨hbody, herror, hok⟩

/-- **Reading composes.** What the first part comes to must stay what it is with
the second part behind it. -/
theorem Flow.Admits.bind {f : Flow Ans V R E α} {g : α → Flow Ans V R E β}
    {Q' : List (Exchange Ans) → β → Prop}
    {Then' : List (Exchange Ans) → Flow Ans V R E β → Prop}
    (hf : f.Admits reads Q Then seen)
    (hThen : ∀ seen f, Then seen f → (f >>= g).Admits reads Q' Then' seen)
    (hg : ∀ seen a, Q seen a → (g a).Admits reads Q' Then' seen) :
    (f >>= g).Admits reads Q' Then' seen := by
  induction f generalizing seen with
  | ret a =>
    rcases hf with hQ | hT
    · exact hg seen a hQ
    · exact hThen seen _ hT
  | get k ih => exact hThen seen _ hf
  | set v next ih => exact hThen seen _ hf
  | clear next ih => exact hThen seen _ hf
  | run name body k ih =>
    rcases hf with hT | ⟨hbody, herror, hok⟩
    · exact hThen seen _ hT
    · exact Flow.admits_run hbody (fun e => ih _ (herror e)) (fun tr r hr => ih _ (hok tr r hr))

end Reading

section ReadsOnly

variable {H : Host Ans V R E Id I O W} {J : List (Event Ans V R E Id I) → W → Prop} {id : Id}
  {K : Option V → Prop} {κ : Assertion Ans V R E Id I W} {reads : Req → Prop}
  {fact : Exchange Ans → Assertion Ans V R E Id I W}

/-- What each read establishes, as long as it was in `seen`. -/
def AndSeen (κ : Assertion Ans V R E Id I W)
    (fact : Exchange Ans → Assertion Ans V R E Id I W) (seen : List (Exchange Ans)) :
    Assertion Ans V R E Id I W :=
  fun b h w => κ b h w ∧ ∀ e ∈ seen, fact e b h w

/-- **Reading under an assertion**: a read keeps the invariant, the assertion and
what earlier reads established, and establishes a fact of its own. -/
structure Reading (H : Host Ans V R E Id I O W) (J : List (Event Ans V R E Id I) → W → Prop)
    (id : Id) (reads : Req → Prop) (κ : Assertion Ans V R E Id I W)
    (fact : Exchange Ans → Assertion Ans V R E Id I W) : Prop where
  lasting : Lasting H κ
  facts : ∀ e, Lasting H (fact e)
  keeps : ∀ {b h w w' r x}, reads r → κ b h w → J h w → H.answers id w r x w' →
    J (h ++ [.asked id r x]) w' ∧ κ b (h ++ [.asked id r x]) w'
  keepsFact : ∀ {e b h w w' r x}, reads r → κ b h w → J h w → fact e b h w →
    H.answers id w r x w' → fact e b (h ++ [.asked id r x]) w'
  establishes : ∀ {b h w w' r x}, reads r → κ b h w → J h w → H.answers id w r x w' →
    fact ⟨r, x⟩ b (h ++ [.asked id r x]) w'

theorem Reading.lasting_andSeen (hR : Reading H J id reads κ fact) (seen : List (Exchange Ans)) :
    Lasting H (AndSeen κ fact seen) where
  drift h hw := ⟨hR.lasting.drift h.1 hw, fun e he => (hR.facts e).drift (h.2 e he) hw⟩
  quiet e hq h := ⟨hR.lasting.quiet e hq h.1, fun e' he' => (hR.facts e').quiet e hq (h.2 e' he')⟩
  lost h := ⟨hR.lasting.lost h.1, fun e he => (hR.facts e).lost (h.2 e he)⟩

theorem andSeen_mono {seen seen' : List (Exchange Ans)} {b : Bool}
    {h : List (Event Ans V R E Id I)} {w : W} (hsub : ∀ e ∈ seen', e ∈ seen)
    (hs : AndSeen κ fact seen b h w) : AndSeen κ fact seen' b h w :=
  ⟨hs.1, fun e he => hs.2 e (hsub e he)⟩

/-- **A closure that only reads** keeps what is known, and adds what it read. -/
theorem Reading.safe (hR : Reading H J id reads κ fact) {name : String} {seen : List (Exchange Ans)}
    {body : Closure Ans R E} (hbody : Closure.ReadsOnly reads body) :
    Safe H J id K false (AndSeen κ fact seen) name
      (fun r κ' => ∃ tr, Prog.Runs body tr (.done r) ∧ κ' = AndSeen κ fact (seen ++ asks tr))
      body (AndSeen κ fact seen) := by
  -- the induction is on the closure, with what it has read so far beside what was seen before it
  suffices h : ∀ (read : List (Exchange Ans)) (Post : R → Assertion Ans V R E Id I W → Prop),
      (∀ tr r, Prog.Runs body tr (.done r) → Post r (AndSeen κ fact (seen ++ (read ++ asks tr)))) →
      Safe H J id K false (AndSeen κ fact seen) name Post body
        (AndSeen κ fact (seen ++ read)) by
    simpa using h [] _ (fun tr r hr => ⟨tr, hr, by simp⟩)
  induction body with
  | ret c =>
    intro read Post hPost
    cases c with
    | done r =>
      refine ⟨_, hPost [] r (Prog.Steps.refl _), fun b h w hs _ => ?_⟩
      simpa using (hR.lasting_andSeen _).quiet _ rfl hs
    | failed e => trivial
    | retry => trivial
  | call a k ih =>
    intro read Post hPost
    cases a with
    | swap v => exact hbody.elim
    | ask q =>
      refine ⟨rfl, fun x => ⟨AndSeen κ fact (seen ++ (read ++ [⟨q, x⟩])), ?_, ?_, ?_⟩⟩
      · exact { toStable := (hR.lasting_andSeen _).toStable
                implies := fun hs => andSeen_mono (fun e he => List.mem_append_left _ he) hs }
      · rintro b h w w' ⟨hk, hseen⟩ hJ - hanswer
        obtain ⟨hJ', hk'⟩ := hR.keeps hbody.1 hk hJ hanswer
        refine ⟨hJ', hk', fun e he => ?_⟩
        rw [← List.append_assoc] at he
        rcases List.mem_append.mp he with he | he
        · exact hR.keepsFact hbody.1 hk hJ (hseen e he) hanswer
        · rw [List.mem_singleton.mp he]
          exact hR.establishes hbody.1 hk hJ hanswer
      · refine ih x (hbody.2 x) (read ++ [⟨q, x⟩]) Post (fun tr r hr => ?_)
        simpa using hPost _ r (Prog.Steps.call hr)

/-- **A handler that first only reads** respects the invariant if it does so from
every place it comes to, knowing what it has read. -/
theorem Reading.obeys (hR : Reading H J id reads κ fact) {f : Flow Ans V R E α}
    {seen : List (Exchange Ans)} {Q : List (Exchange Ans) → α → Prop}
    {Then : List (Exchange Ans) → Flow Ans V R E α → Prop}
    {Q' : α → (Option V → Prop) → Bool → Assertion Ans V R E Id I W → Prop}
    (hf : f.Admits reads Q Then seen)
    (hret : ∀ seen a, Q seen a → Q' a K false (AndSeen κ fact seen))
    (hThen : ∀ seen g, Then seen g → Obeys H J id Q' g K false (AndSeen κ fact seen)) :
    Obeys H J id Q' f K false (AndSeen κ fact seen) := by
  induction f generalizing seen with
  | ret a =>
    rcases hf with hQ | hT
    · exact hret seen a hQ
    · exact hThen seen _ hT
  | get k ih => exact hThen seen _ hf
  | set v next ih => exact hThen seen _ hf
  | clear next ih => exact hThen seen _ hf
  | run name body k ih =>
    rcases hf with hT | ⟨hbody, herror, hok⟩
    · exact hThen seen _ hT
    · refine ⟨fun e => ih _ (herror e), fun e => ih _ (herror e), _,
        runSpec_of_safe (hR.lasting_andSeen seen) ?_ (hR.safe hbody), ?_⟩
      · rintro r κ' ⟨tr, -, rfl⟩
        exact hR.lasting_andSeen _
      · rintro r κ' ⟨tr, hr, rfl⟩
        exact ih _ (hok tr r hr)

end ReadsOnly

/-! ## From the handlers to the runs

An execution stands ahead of its journal by the commands not yet acknowledged.
None of them changes what it rests on, so whatever prefix of them survives a
loss, the handler still obeys. -/

/-- From where the journal leaves a handler to where its execution stands. -/
inductive Ahead : Flow Ans V R E O → (Option V → Prop) → Bool → List (Entry V R E) →
    Flow Ans V R E O → (Option V → Prop) → Bool → Prop where
  | nil {f K d} : Ahead f K d [] f K d
  | set {v f K d p g K' d'} (h : Ahead f (fun m => m = some v) true p g K' d') :
      Ahead (.set v f) K d (.set v :: p) g K' d'
  | clear {f K d p g K' d'} (h : Ahead f (fun m => m = none) true p g K' d') :
      Ahead (.clear f) K d (.cleared :: p) g K' d'
  | error {n body k e K d p g K' d'} (h : Ahead (k (.error e)) K d p g K' d') :
      Ahead (.run n body k) K d (.ran (.error e) :: p) g K' d'

section Ahead

variable {f g : Flow Ans V R E O} {K K' : Option V → Prop} {d d' : Bool}
  {p : List (Entry V R E)}

/-- Where nothing may be unacknowledged, what is known of the stored value holds. -/
theorem Ahead.clean (h : Ahead f K d p g K' d') (hd : d' = false) : K' = K ∧ d = false := by
  induction h with
  | nil => exact ⟨rfl, hd⟩
  | set h ih => exact absurd (ih hd).2 (by simp)
  | clear h ih => exact absurd (ih hd).2 (by simp)
  | error h ih => exact ih hd

theorem Ahead.snoc_set {v : V} (h : Ahead f K d p (.set v g) K' d') :
    Ahead f K d (p ++ [.set v]) g (fun m => m = some v) true := by
  generalize ht : Flow.set v g = t at h
  induction h with
  | nil => exact ht ▸ .set .nil
  | set h ih => exact .set (ih ht)
  | clear h ih => exact .clear (ih ht)
  | error h ih => exact .error (ih ht)

theorem Ahead.snoc_clear (h : Ahead f K d p (.clear g) K' d') :
    Ahead f K d (p ++ [.cleared]) g (fun m => m = none) true := by
  generalize ht : Flow.clear g = t at h
  induction h with
  | nil => exact ht ▸ .clear .nil
  | set h ih => exact .set (ih ht)
  | clear h ih => exact .clear (ih ht)
  | error h ih => exact .error (ih ht)

theorem Ahead.snoc_error {n : String} {body : Closure Ans R E}
    {k : Except E R → Flow Ans V R E O} (h : Ahead f K d p (.run n body k) K' d') (e : E) :
    Ahead f K d (p ++ [.ran (.error e)]) (k (.error e)) K' d' := by
  generalize ht : Flow.run n body k = t at h
  induction h with
  | nil => exact ht ▸ .error .nil
  | set h ih => exact .set (ih ht)
  | clear h ih => exact .clear (ih ht)
  | error h ih => exact .error (ih ht)

theorem Ahead.obeys {H : Host Ans V R E Id I O W} {J : List (Event Ans V R E Id I) → W → Prop}
    {id : Id} {κ : Assertion Ans V R E Id I W}
    {Q : O → (Option V → Prop) → Bool → Assertion Ans V R E Id I W → Prop}
    (h : Ahead f K d p g K' d') (hf : Obeys H J id Q f K d κ) : Obeys H J id Q g K' d' κ := by
  induction h with
  | nil => exact hf
  | set h ih => exact ih hf.2
  | clear h ih => exact ih hf.2
  | error h ih => exact ih (hf.1 _)

end Ahead

section Soundness

variable (H : Host Ans V R E Id I O W) (J : List (Event Ans V R E Id I) → W → Prop)

/-- A handler that returns owes nothing. -/
def Done : O → (Option V → Prop) → Bool → Assertion Ans V R E Id I W → Prop :=
  fun _ _ _ _ => True

/-- A closure in progress. -/
def InClosure (id : Id) (K : Option V → Prop) (d : Bool) (κ : Assertion Ans V R E Id I W)
    (x : Execution Ans V R E O) (h : List (Event Ans V R E Id I)) (w : W)
    (c : Closure Ans R E) : Prop :=
  ∃ name body k Post θ, x.flow = .run name body k ∧ (∀ r κ', Post r κ' → Lasting H κ')
    ∧ (∀ r κ', Post r κ' → Obeys H J id Done (k (.ok r)) K false κ')
    ∧ Safe H J id K d κ name Post c θ ∧ Within H κ θ ∧ θ x.flag h w

/-- An execution ahead of its journal. -/
def Executes (id : Id) (base : Flow Ans V R E O) (K : Option V → Prop) (d : Bool)
    (κ : Assertion Ans V R E Id I W) (h : List (Event Ans V R E Id I)) (w : W)
    (x : Execution Ans V R E O) : Prop :=
  ∃ K' d', Ahead base K d x.pending x.flow K' d' ∧ κ x.flag h w
    ∧ ∀ c, x.closure = some c → InClosure H J id K' d' κ x h w c

/-- **Where an invocation stands**: its journal leads to a place where it obeys. -/
def Stands (v : Invocation Ans V R E Id I O) (m : Option V)
    (h : List (Event Ans V R E Id I)) (w : W) : Prop :=
  ∃ base K d κ, (H.program v.id v.input).replay v.journal = some base ∧ K m ∧ Lasting H κ
    ∧ κ false h w ∧ Obeys H J v.id Done base K d κ
    ∧ ∀ x, v.execution = some x → Executes H J v.id base K d κ h w x

/-- **The invariant of the runs.** -/
structure Sound (s : System Ans V R E Id I O W) : Prop where
  kept : J s.history s.world
  stored : storedAt s.history = s.stored
  current : ∀ v, s.current = some v → Stands H J v s.stored s.history s.world

variable {H J}

/-- What an invocation rests on lasts while nobody acts. -/
theorem Stands.frame {v : Invocation Ans V R E Id I O} {m : Option V}
    {h h' : List (Event Ans V R E Id I)} {w w' : W} (hs : Stands H J v m h w)
    (hframe : ∀ A b, Stable H A → A b h w → A b h' w') : Stands H J v m h' w' := by
  obtain ⟨base, K, d, κ, hreplay, hK, hκ, hfalse, hobeys, hx⟩ := hs
  refine ⟨base, K, d, κ, hreplay, hK, hκ, hframe _ _ hκ.toStable hfalse, hobeys, fun x hx' => ?_⟩
  obtain ⟨K', d', hahead, hflag, hc⟩ := hx x hx'
  refine ⟨K', d', hahead, hframe _ _ hκ.toStable hflag, fun c hc' => ?_⟩
  obtain ⟨name, body, k, Post, θ, hflow, hlast, hok, hsafe, hwithin, hθ⟩ := hc c hc'
  exact ⟨name, body, k, Post, θ, hflow, hlast, hok, hsafe, hwithin,
    hframe _ _ hwithin.toStable hθ⟩

theorem Stands.quiet {v : Invocation Ans V R E Id I O} {m : Option V}
    {h : List (Event Ans V R E Id I)} {w : W} (hs : Stands H J v m h w)
    (e : Event Ans V R E Id I) (he : e.isQuiet = true) : Stands H J v m (h ++ [e]) w :=
  hs.frame (fun _ _ hA hab => hA.quiet e he hab)

/-- An invocation between two closures: no closure is in progress. -/
theorem executes_idle {id : Id} {base : Flow Ans V R E O} {K : Option V → Prop} {d : Bool}
    {κ : Assertion Ans V R E Id I W} {h : List (Event Ans V R E Id I)} {w : W}
    {p : List (Entry V R E)} {f : Flow Ans V R E O} {b : Bool} {K' : Option V → Prop} {d' : Bool}
    (hahead : Ahead base K d p f K' d') (hκ : κ b h w) :
    Executes H J id base K d κ h w ⟨p, f, b, none⟩ :=
  ⟨K', d', hahead, hκ, fun _ hc => by cases hc⟩

section Cases

variable {m : Option V} {id : Id} {i : I} {j : List (Entry V R E)}
  {h : List (Event Ans V R E Id I)} {w : W}

theorem Stands.lost {x : Option (Execution Ans V R E O)}
    (hs : Stands H J ⟨id, i, j, x⟩ m h w) : Stands H J ⟨id, i, j, none⟩ m h w := by
  obtain ⟨base, K, d, κ, hreplay, hK, hκ, hfalse, hobeys, -⟩ := hs
  exact ⟨base, K, d, κ, hreplay, hK, hκ, hfalse, hobeys, fun _ hx => by cases hx⟩

theorem Stands.resumed {f : Flow Ans V R E O} (hs : Stands H J ⟨id, i, j, none⟩ m h w)
    (hf : (H.program id i).replay j = some f) :
    Stands H J ⟨id, i, j, some ⟨[], f, false, none⟩⟩ m h w := by
  obtain ⟨base, K, d, κ, hreplay, hK, hκ, hfalse, hobeys, -⟩ := hs
  obtain rfl : base = f := Option.some.inj (hreplay.symm.trans hf)
  refine ⟨base, K, d, κ, hreplay, hK, hκ, hfalse, hobeys, fun x hx => ?_⟩
  cases hx
  exact executes_idle Ahead.nil hfalse

/-- After an acknowledged command the handler stands at its journal. -/
theorem stands_of_obeys {base : Flow Ans V R E O} {K : Option V → Prop} {d b : Bool}
    {κ : Assertion Ans V R E Id I W} (hreplay : (H.program id i).replay j = some base) (hK : K m)
    (hκ : Lasting H κ) (hobeys : Obeys H J id Done base K d κ) (hflag : κ b h w) :
    Stands H J ⟨id, i, j, some ⟨[], base, b, none⟩⟩ m h w := by
  refine ⟨base, K, d, κ, hreplay, hK, hκ, hκ.lost hflag, hobeys, fun x hx => ?_⟩
  cases hx
  exact executes_idle Ahead.nil hflag

theorem Stands.got {k : Except E (Option V) → Flow Ans V R E O} {b : Bool}
    (hs : Stands H J ⟨id, i, j, some ⟨[], .get k, b, none⟩⟩ m h w) (hJ : J h w)
    (hm : storedAt h = m) :
    Stands H J ⟨id, i, j ++ [.got (.ok m)], some ⟨[], k (.ok m), b, none⟩⟩ m h w := by
  obtain ⟨base, K, d, κ, hreplay, hK, hκ, -, hobeys, hx⟩ := hs
  obtain ⟨K', d', hahead, hflag, -⟩ := hx _ rfl
  cases hahead
  obtain ⟨-, -, hok⟩ := hobeys
  obtain ⟨κ', hκ', himp, hnext⟩ := hok m
  exact stands_of_obeys (K := fun m' => m' = m) (Flow.replay_snoc hreplay rfl) rfl hκ' hnext
    (himp b h w hflag hJ hm hK)

theorem Stands.gotError {k : Except E (Option V) → Flow Ans V R E O} {b : Bool}
    (hs : Stands H J ⟨id, i, j, some ⟨[], .get k, b, none⟩⟩ m h w) (e : E) :
    Stands H J ⟨id, i, j ++ [.got (.error e)], some ⟨[], k (.error e), b, none⟩⟩ m h w := by
  obtain ⟨base, K, d, κ, hreplay, hK, hκ, -, hobeys, hx⟩ := hs
  obtain ⟨K', d', hahead, hflag, -⟩ := hx _ rfl
  cases hahead
  exact stands_of_obeys (Flow.replay_snoc hreplay rfl) hK hκ (hobeys.2.1 e) hflag

/-- A command sent without waiting moves the execution ahead. -/
theorem Stands.sent {p : List (Entry V R E)} {f g : Flow Ans V R E O} {b : Bool}
    {e : Entry V R E} {c : Option (Closure Ans R E)}
    (hs : Stands H J ⟨id, i, j, some ⟨p, f, b, c⟩⟩ m h w)
    (hsnoc : ∀ base K d K' d', Ahead base K d p f K' d' →
      ∃ K'' d'', Ahead base K d (p ++ [e]) g K'' d'') :
    Stands H J ⟨id, i, j, some ⟨p ++ [e], g, b, none⟩⟩ m h w := by
  obtain ⟨base, K, d, κ, hreplay, hK, hκ, hfalse, hobeys, hx⟩ := hs
  obtain ⟨K', d', hahead, hflag, -⟩ := hx _ rfl
  obtain ⟨K'', d'', hahead'⟩ := hsnoc base K d K' d' hahead
  refine ⟨base, K, d, κ, hreplay, hK, hκ, hfalse, hobeys, fun x hx' => ?_⟩
  cases hx'
  exact executes_idle hahead' hflag

/-- What a command becoming durable keeps. -/
theorem Stands.committed {e : Entry V R E} {p : List (Entry V R E)} {f : Flow Ans V R E O}
    {b : Bool} {c : Option (Closure Ans R E)}
    (hs : Stands H J ⟨id, i, j, some ⟨e :: p, f, b, c⟩⟩ m h w) (hJ : J h w)
    (hm : storedAt h = m) :
    J (h ++ e.events id) w ∧ storedAt (h ++ (e.events id : List (Event Ans V R E Id I))) = e.effect m
      ∧ Stands H J ⟨id, i, j ++ [e], some ⟨p, f, b, c⟩⟩ (e.effect m) (h ++ e.events id) w := by
  obtain ⟨base, K, d, κ, hreplay, hK, hκ, hfalse, hobeys, hx⟩ := hs
  obtain ⟨K', d', hahead, hflag, hc⟩ := hx _ rfl
  -- The rest of the execution is as far ahead of the longer journal.
  have hmoved : ∀ (base' : Flow Ans V R E O) (K₁ : Option V → Prop) (d₁ : Bool),
      base.next e = some base' → K₁ (e.effect m) → Ahead base' K₁ d₁ p f K' d' →
      Obeys H J id Done base' K₁ d₁ κ →
      Stands H J ⟨id, i, j ++ [e], some ⟨p, f, b, c⟩⟩ (e.effect m) h w := by
    intro base' K₁ d₁ hnext hK₁ hahead' hobeys'
    refine ⟨base', K₁, d₁, κ, Flow.replay_snoc hreplay hnext, hK₁, hκ, hfalse, hobeys',
      fun x hx' => ?_⟩
    cases hx'
    exact ⟨K', d', hahead', hflag, hc⟩
  cases hahead with
  | set hahead' =>
    rename_i v base'
    refine ⟨hobeys.1 false h w hfalse hJ (by rw [hm]; exact hK), ?_, ?_⟩
    · simp [Entry.events, Event.effect, Entry.effect]
    · exact (hmoved base' (fun m => m = some v) true rfl rfl hahead' hobeys.2).quiet _ rfl
  | clear hahead' =>
    rename_i base'
    refine ⟨hobeys.1 false h w hfalse hJ (by rw [hm]; exact hK), ?_, ?_⟩
    · simp [Entry.events, Event.effect, Entry.effect]
    · exact (hmoved base' (fun m => m = none) true rfl rfl hahead' hobeys.2).quiet _ rfl
  | error hahead' =>
    rename_i n body k e
    have hsame : h ++ ((Entry.ran (.error e) : Entry V R E).events id) = h := by
      simp [Entry.events]
    rw [hsame]
    exact ⟨hJ, hm, hmoved _ K d rfl hK hahead' (hobeys.1 e)⟩

theorem Stands.began {p : List (Entry V R E)} {n : String} {body : Closure Ans R E}
    {k : Except E R → Flow Ans V R E O} {b : Bool}
    (hs : Stands H J ⟨id, i, j, some ⟨p, .run n body k, b, none⟩⟩ m h w) :
    Stands H J ⟨id, i, j, some ⟨p, .run n body k, b, some body⟩⟩ m (h ++ [.began id n]) w := by
  obtain ⟨base, K, d, κ, hreplay, hK, hκ, hfalse, hobeys, hx⟩ := hs
  obtain ⟨K', d', hahead, hflag, -⟩ := hx _ rfl
  obtain ⟨-, -, Post, hspec, hok⟩ := hahead.obeys hobeys
  obtain ⟨θ, hwithin, hstart, hsafe⟩ := hspec.safe
  refine ⟨base, K, d, κ, hreplay, hK, hκ, hκ.quiet _ rfl hfalse, hobeys, fun x hx' => ?_⟩
  cases hx'
  refine ⟨K', d', hahead, hκ.quiet _ rfl hflag, fun c hc => ?_⟩
  cases hc
  exact ⟨n, body, k, Post, θ, rfl, hspec.lasting, hok, hsafe, hwithin, hstart b h w hflag⟩

theorem Stands.asked {p : List (Entry V R E)} {f : Flow Ans V R E O} {b : Bool} {r : Req}
    {k : Ans r → Closure Ans R E} {x : Ans r} {w' : W}
    (hs : Stands H J ⟨id, i, j, some ⟨p, f, b, some (.call (.ask r) k)⟩⟩ m h w) (hJ : J h w)
    (hm : storedAt h = m) (hanswer : H.answers id w r x w') :
    J (h ++ [.asked id r x]) w'
      ∧ Stands H J ⟨id, i, j, some ⟨p, f, b, some (k x)⟩⟩ m (h ++ [.asked id r x]) w' := by
  obtain ⟨base, K, d, κ, hreplay, hK, hκ, -, hobeys, hx⟩ := hs
  obtain ⟨K', d', hahead, -, hc⟩ := hx _ rfl
  obtain ⟨name, body, k₀, Post, θ, hflow, hlast, hok, hsafe, hwithin, hθ⟩ := hc _ rfl
  obtain ⟨hd, hask⟩ := hsafe
  obtain ⟨rfl, -⟩ := hahead.clean hd
  obtain ⟨θ', hwithin', hstep, hnext⟩ := hask x
  obtain ⟨hJ', hθ'⟩ := hstep b h w w' hθ hJ (by rw [hm]; exact hK) hanswer
  have hκ' : κ b (h ++ [.asked id r x]) w' := hwithin'.implies hθ'
  refine ⟨hJ', base, K', d, κ, hreplay, hK, hκ, hκ.lost hκ', hobeys, fun y hy => ?_⟩
  cases hy
  refine ⟨K', d', hahead, hκ', fun c hc' => ?_⟩
  cases hc'
  exact ⟨name, body, k₀, Post, θ', hflow, hlast, hok, hnext, hwithin', hθ'⟩

theorem Stands.swapped {p : List (Entry V R E)} {f : Flow Ans V R E O} {b v : Bool}
    {k : Bool → Closure Ans R E}
    (hs : Stands H J ⟨id, i, j, some ⟨p, f, b, some (.call (.swap v) k)⟩⟩ m h w) :
    Stands H J ⟨id, i, j, some ⟨p, f, v, some (k b)⟩⟩ m h w := by
  obtain ⟨base, K, d, κ, hreplay, hK, hκ, hfalse, hobeys, hx⟩ := hs
  obtain ⟨K', d', hahead, -, hc⟩ := hx _ rfl
  obtain ⟨name, body, k₀, Post, θ, hflow, hlast, hok, hsafe, hwithin, hθ⟩ := hc _ rfl
  obtain ⟨θ', hwithin', hstep, hnext⟩ := hsafe b
  have hθ' : θ' v h w := hstep h w hθ
  refine ⟨base, K, d, κ, hreplay, hK, hκ, hfalse, hobeys, fun y hy => ?_⟩
  cases hy
  refine ⟨K', d', hahead, hwithin'.implies hθ', fun c hc' => ?_⟩
  cases hc'
  exact ⟨name, body, k₀, Post, θ', hflow, hlast, hok, hnext, hwithin', hθ'⟩

theorem Stands.done {n : String} {body : Closure Ans R E} {k : Except E R → Flow Ans V R E O}
    {b : Bool} {r : R}
    (hs : Stands H J ⟨id, i, j, some ⟨[], .run n body k, b, some (.ret (.done r))⟩⟩ m h w)
    (hJ : J h w) :
    Stands H J ⟨id, i, j ++ [.ran (.ok r)], some ⟨[], k (.ok r), b, none⟩⟩ m
      (h ++ [.recorded id n (.ok r)]) w := by
  obtain ⟨base, K, d, κ, hreplay, hK, hκ, -, hobeys, hx⟩ := hs
  obtain ⟨K', d', hahead, -, hc⟩ := hx _ rfl
  obtain ⟨name, body', k', Post, θ, hflow, hlast, hok, ⟨κ', hpost, hend⟩, hwithin, hθ⟩ := hc _ rfl
  cases hahead
  cases hflow
  exact stands_of_obeys (Flow.replay_snoc hreplay rfl) hK (hlast r κ' hpost) (hok r κ' hpost)
    (hend b h w hθ hJ)

theorem Stands.failed {n : String} {body : Closure Ans R E} {k : Except E R → Flow Ans V R E O}
    {b : Bool} {e : E} {c : Option (Closure Ans R E)}
    (hs : Stands H J ⟨id, i, j, some ⟨[], .run n body k, b, c⟩⟩ m h w) :
    Stands H J ⟨id, i, j ++ [.ran (.error e)], some ⟨[], k (.error e), b, none⟩⟩ m
      (h ++ [.recorded id n (.error e)]) w := by
  obtain ⟨base, K, d, κ, hreplay, hK, hκ, -, hobeys, hx⟩ := hs
  obtain ⟨K', d', hahead, hflag, -⟩ := hx _ rfl
  cases hahead
  exact stands_of_obeys (Flow.replay_snoc hreplay rfl) hK hκ (hobeys.1 e)
    (hκ.quiet _ rfl hflag)

end Cases

/-- **One step keeps the invariant.** -/
theorem Sound.step {s s' : System Ans V R E Id I O W} (hkept : Kept H J)
    (hprograms : ∀ id i h w, J h w → Fresh id h → H.admits i w →
      ∃ κ, Lasting H κ ∧ κ false (h ++ [.invoked id i]) w
        ∧ Obeys H J id Done (H.program id i) (fun _ => True) false κ)
    (hs : Sound H J s) (hstep : Step H s s') : Sound H J s' := by
  obtain ⟨hJ, hm, hcurrent⟩ := hs
  cases hstep with
  | invoke fresh admitted =>
    rename_i m id i h w
    obtain ⟨κ, hκ, hstart, hobeys⟩ := hprograms id i h w hJ fresh admitted
    refine ⟨hkept.neutral _ rfl hJ, by simpa [Event.effect] using hm, fun v hv => ?_⟩
    cases hv
    exact ⟨_, _, _, κ, rfl, trivial, hκ, hstart, hobeys, fun _ hx => by cases hx⟩
  | resume replay =>
    refine ⟨hJ, hm, fun v hv => ?_⟩
    cases hv
    exact (hcurrent _ rfl).resumed replay
  | get =>
    refine ⟨hJ, hm, fun v hv => ?_⟩
    cases hv
    exact (hcurrent _ rfl).got hJ hm
  | getFailed e =>
    refine ⟨hJ, hm, fun v hv => ?_⟩
    cases hv
    exact (hcurrent _ rfl).gotError e
  | set =>
    refine ⟨hJ, hm, fun v hv => ?_⟩
    cases hv
    exact (hcurrent _ rfl).sent (fun _ _ _ _ _ ha => ⟨_, _, ha.snoc_set⟩)
  | clear =>
    refine ⟨hJ, hm, fun v hv => ?_⟩
    cases hv
    exact (hcurrent _ rfl).sent (fun _ _ _ _ _ ha => ⟨_, _, ha.snoc_clear⟩)
  -- only a commit changes the stored value, and only `ask` and `drift` the world
  | commit =>
    obtain ⟨hJ', hm', hstands⟩ := (hcurrent _ rfl).committed hJ hm
    refine ⟨hJ', hm', fun v hv => ?_⟩
    cases hv
    exact hstands
  | begin =>
    refine ⟨hkept.neutral _ rfl hJ, by simpa [Event.effect] using hm, fun v hv => ?_⟩
    cases hv
    exact (hcurrent _ rfl).began
  | ask x w' answered =>
    obtain ⟨hJ', hstands⟩ := (hcurrent _ rfl).asked hJ hm answered
    refine ⟨hJ', by simpa [Event.effect] using hm, fun v hv => ?_⟩
    cases hv
    exact hstands
  | swap =>
    refine ⟨hJ, hm, fun v hv => ?_⟩
    cases hv
    exact (hcurrent _ rfl).swapped
  | done =>
    refine ⟨hkept.neutral _ rfl hJ, by simpa [Event.effect] using hm, fun v hv => ?_⟩
    cases hv
    exact (hcurrent _ rfl).done hJ
  | failed =>
    refine ⟨hkept.neutral _ rfl hJ, by simpa [Event.effect] using hm, fun v hv => ?_⟩
    cases hv
    exact (hcurrent _ rfl).failed
  | interrupt e =>
    refine ⟨hJ, hm, fun v hv => ?_⟩
    cases hv
    exact (hcurrent _ rfl).sent (fun _ _ _ _ _ ha => ⟨_, _, ha.snoc_error e⟩)
  | finish => exact ⟨hJ, hm, fun v hv => by cases hv⟩
  | crash =>
    refine ⟨hJ, hm, fun v hv => ?_⟩
    cases hv
    exact (hcurrent _ rfl).lost
  | kill => exact ⟨hJ, hm, fun v hv => by cases hv⟩
  | observe r x observed =>
    refine ⟨hkept.neutral _ rfl hJ, by simpa [Event.effect] using hm, fun v hv => ?_⟩
    exact (hcurrent v hv).quiet _ rfl
  | drift moved =>
    refine ⟨hkept.drift hJ moved, hm, fun v hv => ?_⟩
    exact (hcurrent v hv).frame (fun _ _ hA hab => hA.drift hab moved)

/-- **The invariant holds in every run** of handlers that obey. -/
theorem reachable_invariant {s : System Ans V R E Id I O W} (hkept : Kept H J)
    (hprograms : ∀ id i h w, J h w → Fresh id h → H.admits i w →
      ∃ κ, Lasting H κ ∧ κ false (h ++ [.invoked id i]) w
        ∧ Obeys H J id Done (H.program id i) (fun _ => True) false κ)
    (hs : Reachable H s) : J s.history s.world ∧ storedAt s.history = s.stored := by
  suffices h : Sound H J s from ⟨h.kept, h.stored⟩
  induction hs with
  | start initial => exact ⟨hkept.initial initial, rfl, fun _ hv => by cases hv⟩
  | step before step ih => exact ih.step hkept hprograms step

end Soundness

end Durable
