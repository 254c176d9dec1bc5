import Szamlazz.Lib.DurableRun

/-!
# Rules for durable handlers

What is needed to use the logic of durable handlers on a program. A closure is
verified from its transcripts: an assertion for each, and what one more exchange
makes of it (`safe_of_transcripts`). A handler that only reads contributes what its
recorded reads show (`Flow.OnlyReads.admits`). And an invariant that judges each event
by what came before it is kept if each new event is lawful (`lawful_snoc`).
-/

/-! ## Programs that ask only certain requests -/

namespace Prog

variable {Req Req' : Type} {Ans : Req → Type} {Ans' : Req' → Type} {α β : Type}

/-- Every request the program can make is in `P`. -/
def OnlyAsks (P : Req → Prop) : Prog Ans α → Prop
  | ret _ => True
  | call r k => P r ∧ ∀ x, OnlyAsks P (k x)

/-- A program of which every exchange is of a kind asks such requests only. -/
theorem onlyAsks_of_ensures [∀ r, Nonempty (Ans r)] {P : Req → Prop} {p : Prog Ans α}
    (h : Ensures p (fun tr _ => ∀ e ∈ tr, P e.1)) : p.OnlyAsks P := by
  induction p with
  | ret a => trivial
  | call r k ih =>
    refine ⟨?_, fun x => ih x (fun tr a hr e he => ?_)⟩
    · obtain ⟨tr, a, hr⟩ := exists_runs (call r k)
      obtain ⟨x, tr', rfl, -⟩ := runs_call.mp hr
      exact h _ a hr ⟨r, x⟩ List.mem_cons_self
    · exact h _ a (Steps.call hr) e (List.mem_cons_of_mem _ he)

/-- So does one inside of another. -/
theorem OnlyAsks.embed {f : Req → Req'} {g : ∀ r, Ans' (f r) → Ans r} {P : Req → Prop}
    {P' : Req' → Prop} (hP : ∀ r, P r → P' (f r)) {p : Prog Ans α} (h : p.OnlyAsks P) :
    (p.embed f g).OnlyAsks P' := by
  induction p with
  | ret a => trivial
  | call r k ih => exact ⟨hP r h.1, fun x => ih _ (h.2 _)⟩

/-- And one after another. -/
theorem OnlyAsks.bind {P : Req → Prop} {p : Prog Ans α} {f : α → Prog Ans β} (h : p.OnlyAsks P)
    (hf : ∀ a, (f a).OnlyAsks P) : (p >>= f).OnlyAsks P := by
  induction p with
  | ret a => exact hf a
  | call r k ih => exact ⟨h.1, fun x => ih x (h.2 x)⟩

/-- A service that has an answer to whatever the program asks can answer it to its end. -/
theorem OnlyAsks.exists_run {P : Req → Prop} {A : Exchange Ans → Prop}
    (hA : ∀ r, P r → ∃ x, A ⟨r, x⟩) {p : Prog Ans α} (h : p.OnlyAsks P) :
    ∃ tr a, Runs p tr a ∧ ∀ e ∈ tr, A e := by
  induction p with
  | ret a => exact ⟨[], a, .refl _, fun _ he => by cases he⟩
  | call r k ih =>
    obtain ⟨x, hx⟩ := hA r h.1
    obtain ⟨tr, a, hr, htr⟩ := ih x (h.2 x)
    exact ⟨⟨r, x⟩ :: tr, a, .call hr, List.forall_mem_cons.mpr ⟨hx, htr⟩⟩

end Prog

namespace Durable

variable {Req : Type} {Ans : Req → Type} {V R E Id I O W α β : Type}

/-! ## Histories judged event by event -/

/-- **A history whose every event is lawful**, judged by what came before it. -/
def Lawful (law : List (Event Ans V R E Id I) → Event Ans V R E Id I → Prop)
    (h : List (Event Ans V R E Id I)) : Prop :=
  ∀ before e after, h = before ++ e :: after → law before e

/-- Where an element stands in a list that ends in `e`: last, or before. -/
theorem snoc_eq_append_cons {l before after : List α} {e d : α} :
    l ++ [e] = before ++ d :: after
      ↔ (after = [] ∧ before = l ∧ d = e) ∨ ∃ rest, after = rest ++ [e] ∧ l = before ++ d :: rest := by
  constructor
  · intro heq
    rcases List.eq_nil_or_concat after with rfl | ⟨rest, last, rfl⟩
    · obtain ⟨rfl, hsingle⟩ := List.append_inj' heq rfl
      exact Or.inl ⟨rfl, rfl, (List.singleton_inj.mp hsingle).symm⟩
    · rw [List.concat_eq_append, ← List.cons_append, ← List.append_assoc] at heq
      obtain ⟨rfl, hsingle⟩ := List.append_inj' heq rfl
      obtain rfl := List.singleton_inj.mp hsingle
      exact Or.inr ⟨rest, List.concat_eq_append, rfl⟩
  · rintro (⟨rfl, rfl, rfl⟩ | ⟨rest, rfl, rfl⟩)
    · rfl
    · simp

section Lawful

variable {law : List (Event Ans V R E Id I) → Event Ans V R E Id I → Prop}
  {h : List (Event Ans V R E Id I)} {e : Event Ans V R E Id I}

/-- Nothing has happened against the law. -/
theorem lawful_nil : Lawful law [] := by
  intro before e after heq
  simp at heq

/-- One more event has to keep it. -/
theorem lawful_snoc : Lawful law (h ++ [e]) ↔ Lawful law h ∧ law h e := by
  constructor
  · intro hall
    refine ⟨?_, hall h e [] rfl⟩
    rintro before e' after rfl
    exact hall before e' (after ++ [e]) (by simp)
  · rintro ⟨hall, hlast⟩ before e' after heq
    rcases snoc_eq_append_cons.mp heq with ⟨-, rfl, rfl⟩ | ⟨rest, -, rfl⟩
    · exact hlast
    · exact hall before e' rest rfl

/-- What happened first was lawful too. -/
theorem Lawful.left {h' : List (Event Ans V R E Id I)} (hall : Lawful law (h ++ h')) :
    Lawful law h := by
  rintro before e after rfl
  exact hall before e (after ++ h') (by simp)

end Lawful

/-! ## Invocations -/

section Invoked

variable {H : Host Ans V R E Id I O W} {s s' : System Ans V R E Id I O W}

/-- **A step adds at most one event**, and an invocation that starts has none yet. -/
theorem Step.history (hstep : Step H s s') : s'.history = s.history
    ∨ ∃ e, s'.history = s.history ++ [e] ∧ ∀ id i, e = Event.invoked id i → Fresh id s.history := by
  cases hstep with
  | @invoke m id i h w fresh admitted =>
    refine Or.inr ⟨_, rfl, fun id' i' heq => ?_⟩
    cases heq
    exact fresh
  | @commit m id i j e p f b c h w =>
    cases e with
    | set v | cleared =>
      refine Or.inr ⟨_, rfl, fun id' i' heq => ?_⟩
      cases heq
    | got x | ran x => exact Or.inl (List.append_nil _)
  | begin | ask | done | failed | observe =>
    refine Or.inr ⟨_, rfl, fun id' i' heq => ?_⟩
    cases heq
  | resume | get | getFailed | set | clear | swap | interrupt | finish | crash | kill | drift =>
    exact Or.inl rfl

/-- **An id is used by one invocation.** -/
theorem Reachable.invoked_once (hs : Reachable H s) {id : Id} {i i' : I}
    (h : Event.invoked id i ∈ s.history) (h' : Event.invoked id i' ∈ s.history) : i = i' := by
  induction hs with
  | start initial => cases h
  | step before step ih =>
    rcases step.history with heq | ⟨e, heq, hfresh⟩
    · rw [heq] at h h'
      exact ih h h'
    · rw [heq] at h h'
      rcases List.mem_append.mp h with h | h <;> rcases List.mem_append.mp h' with h' | h'
      · exact ih h h'
      · exact absurd rfl (hfresh id i' (List.mem_singleton.mp h').symm _ h)
      · exact absurd rfl (hfresh id i (List.mem_singleton.mp h).symm _ h')
      · cases (List.mem_singleton.mp h).trans (List.mem_singleton.mp h').symm
        rfl

/-- **Every earlier part of a history was the history.** -/
theorem Reachable.earlier (hs : Reachable H s) {before after : List (Event Ans V R E Id I)}
    (hhistory : s.history = before ++ after) : ∃ s', Reachable H s' ∧ s'.history = before := by
  induction hs generalizing after with
  | @start w initial =>
    obtain ⟨rfl, -⟩ := List.append_eq_nil_iff.mp hhistory.symm
    exact ⟨_, .start initial, rfl⟩
  | @step s s' earlier step ih =>
    rcases step.history with heq | ⟨e, heq, -⟩
    · exact ih (heq.symm.trans hhistory)
    · rcases List.eq_nil_or_concat after with rfl | ⟨rest, last, rfl⟩
      · exact ⟨s', earlier.step step, by simpa using hhistory⟩
      · rw [heq, List.concat_eq_append, ← List.append_assoc] at hhistory
        exact ih (List.append_inj_left' hhistory rfl)

end Invoked

/-! ## Closures -/

section Closures

variable {H : Host Ans V R E Id I O W} {J : List (Event Ans V R E Id I) → W → Prop} {id : Id}
  {K : Option V → Prop} {dirty : Bool} {κ : Assertion Ans V R E Id I W} {name : String}
  {Post : R → Assertion Ans V R E Id I W → Prop}

/-- **A closure is verified from its transcripts**, by what holds after each. -/
theorem safe_of_transcripts {body : Closure Ans R E}
    (Θ : List (Exchange (Act.Ans Ans)) → Assertion Ans V R E Id I W)
    (hwithin : ∀ t, Within H κ (Θ t))
    (hask : ∀ t r k, Prog.Steps body t (.call (.ask r) k) → dirty = false ∧
      ∀ x b h w w', Θ t b h w → J h w → K (storedAt h) → H.answers id w r x w' →
        J (h ++ [.asked id r x]) w' ∧ Θ (t ++ [⟨.ask r, x⟩]) b (h ++ [.asked id r x]) w')
    (hswap : ∀ t v k, Prog.Steps body t (.call (.swap v) k) → ∀ old h w, Θ t old h w →
      Θ (t ++ [⟨.swap v, old⟩]) v h w)
    (hdone : ∀ t r, Prog.Runs body t (.done r) → ∃ κ', Post r κ' ∧ ∀ b h w, Θ t b h w → J h w →
      κ' b (h ++ [.recorded id name (.ok r)]) w) :
    Safe H J id K dirty κ name Post body (Θ []) := by
  -- the induction is on what is left of the closure after a transcript
  suffices h : ∀ (c : Closure Ans R E) t, Prog.Steps body t c →
      Safe H J id K dirty κ name Post c (Θ t) from h body [] (.refl _)
  intro c
  induction c with
  | ret r =>
    intro t hs
    cases r with
    | done r => exact hdone t r hs
    | failed e => trivial
    | retry => trivial
  | call a k ih =>
    intro t hs
    cases a with
    | ask r =>
      obtain ⟨hd, hstep⟩ := hask t r k hs
      exact ⟨hd, fun x => ⟨_, hwithin _, fun b h w w' => hstep x b h w w', ih x _ (hs.snoc x)⟩⟩
    | swap v =>
      exact fun old => ⟨_, hwithin _, fun h w => hswap t v k hs old h w, ih old _ (hs.snoc old)⟩

/-- What is known at a point of a closure, and of its result, may be weakened. -/
theorem safe_mono {Post' : R → Assertion Ans V R E Id I W → Prop}
    {θ θ' : Assertion Ans V R E Id I W} {c : Closure Ans R E}
    (h : Safe H J id K dirty κ name Post c θ') (himp : ∀ b h w, θ b h w → θ' b h w)
    (hpost : ∀ r κ', Post r κ' → ∃ κ'', Post' r κ'' ∧ ∀ b h w, κ' b h w → κ'' b h w) :
    Safe H J id K dirty κ name Post' c θ := by
  induction c generalizing θ θ' with
  | ret r =>
    cases r with
    | done r =>
      obtain ⟨κ', hr, hend⟩ := h
      obtain ⟨κ'', hr', hweak⟩ := hpost r κ' hr
      exact ⟨κ'', hr', fun b h w hθ hJ => hweak _ _ _ (hend b h w (himp b h w hθ) hJ)⟩
    | failed e => trivial
    | retry => trivial
  | call a k ih =>
    cases a with
    | ask r =>
      refine ⟨h.1, fun x => ?_⟩
      obtain ⟨θ'', hwithin, hstep, hrest⟩ := h.2 x
      exact ⟨θ'', hwithin, fun b h w w' hθ => hstep b h w w' (himp b h w hθ),
        ih x hrest (fun _ _ _ hθ => hθ)⟩
    | swap v =>
      intro old
      obtain ⟨θ'', hwithin, hstep, hrest⟩ := h old
      exact ⟨θ'', hwithin, fun h w hθ => hstep h w (himp old h w hθ),
        ih old hrest (fun _ _ _ hθ => hθ)⟩

end Closures

/-- What is left of a closure that only reads only reads. -/
theorem Closure.ReadsOnly.steps {reads : Req → Prop} {body c : Closure Ans R E}
    {t : List (Exchange (Act.Ans Ans))} (h : Closure.ReadsOnly reads body)
    (hs : Prog.Steps body t c) : Closure.ReadsOnly reads c := by
  induction hs with
  | refl c => exact h
  | @call a k x t c _ ih =>
    cases a with
    | ask r => exact ih (h.2 x)
    | swap v => exact h.elim

/-! ## Conditions

Most of what a handler rests on does not speak of the flag. -/

/-- A property of the history and the world. -/
abbrev Condition {Req : Type} (Ans : Req → Type) (V R E Id I W : Type) : Type :=
  List (Event Ans V R E Id I) → W → Prop

/-- The condition, whatever the flag is. -/
def Holds (P : Condition Ans V R E Id I W) : Assertion Ans V R E Id I W := fun _ h w => P h w

/-- `A`, and as long as the flag is up, `P`. -/
def Armed (A P : Condition Ans V R E Id I W) : Assertion Ans V R E Id I W :=
  fun b h w => A h w ∧ (b = true → P h w)

/-- `P`, the flag being one of `φ`. -/
def Under (φ : Bool → Prop) (P : Condition Ans V R E Id I W) : Assertion Ans V R E Id I W :=
  fun b h w => φ b ∧ P h w

/-- `P`, and what each exchange of `seen` established. -/
def Known (P : Condition Ans V R E Id I W) (fact : Exchange Ans → Condition Ans V R E Id I W)
    (seen : List (Exchange Ans)) : Condition Ans V R E Id I W :=
  fun h w => P h w ∧ ∀ e ∈ seen, fact e h w

/-- **A condition that lasts while nobody acts.** -/
structure Enduring (H : Host Ans V R E Id I O W) (P : Condition Ans V R E Id I W) : Prop where
  drift : ∀ {h w w'}, P h w → H.drift w w' → P h w'
  quiet : ∀ {h w} (e : Event Ans V R E Id I), e.isQuiet = true → P h w → P (h ++ [e]) w

section Conditions

variable {H : Host Ans V R E Id I O W} {J : List (Event Ans V R E Id I) → W → Prop} {id : Id}
  {K : Option V → Prop} {dirty : Bool} {A P : Condition Ans V R E Id I W}
  {reads : Req → Prop} {fact : Exchange Ans → Condition Ans V R E Id I W}

/-- A condition that endures lasts. -/
theorem Enduring.lasting (hP : Enduring H P) : Lasting H (Holds P) where
  drift h hw := hP.drift h hw
  quiet e hq h := hP.quiet e hq h
  lost h := h

/-- Two that endure do so with the second one armed: it is lost with the execution. -/
theorem Enduring.armed (hA : Enduring H A) (hP : Enduring H P) : Lasting H (Armed A P) where
  drift h hw := ⟨hA.drift h.1 hw, fun hb => hP.drift (h.2 hb) hw⟩
  quiet e hq h := ⟨hA.quiet e hq h.1, fun hb => hP.quiet e hq (h.2 hb)⟩
  lost h := ⟨h.1, fun hb => by cases hb⟩

/-- What follows from it holds at a point inside a closure. -/
theorem Enduring.within (hP : Enduring H P) (himp : ∀ h w, P h w → A h w) :
    Within H (Holds A) (Holds P) :=
  { toStable := hP.lasting.toStable, implies := fun h => himp _ _ h }

/-- It is stable whatever the flag is to be. -/
theorem Enduring.under (hP : Enduring H P) (φ : Bool → Prop) : Stable H (Under φ P) where
  drift h hw := ⟨h.1, hP.drift h.2 hw⟩
  quiet e hq h := ⟨h.1, hP.quiet e hq h.2⟩

/-- Whatever the flag is to be there. -/
theorem Enduring.within_under (hP : Enduring H P) {φ : Bool → Prop}
    (himp : ∀ h w, P h w → A h w) : Within H (Holds A) (Under φ P) :=
  { toStable := hP.under φ, implies := fun h => himp _ _ h.2 }

/-- With the flag down nothing is armed. -/
theorem Enduring.within_lowered (hP : Enduring H P) {Q : Condition Ans V R E Id I W}
    (himp : ∀ h w, P h w → A h w) : Within H (Armed A Q) (Under (fun b => b = false) P) :=
  { toStable := hP.under _
    implies := fun h => ⟨himp _ _ h.2, fun hb => by simp [h.1] at hb⟩ }

/-- What is known from readings endures as they do. -/
theorem Enduring.known (hP : Enduring H P) (hfact : ∀ e, Enduring H (fact e))
    (seen : List (Exchange Ans)) : Enduring H (Known P fact seen) where
  drift h hw := ⟨hP.drift h.1 hw, fun e he => (hfact e).drift (h.2 e he) hw⟩
  quiet e hq h := ⟨hP.quiet e hq h.1, fun e' he' => (hfact e').quiet e hq (h.2 e' he')⟩

/-- **Reading under a condition.** -/
abbrev ReadingAt (H : Host Ans V R E Id I O W) (J : List (Event Ans V R E Id I) → W → Prop)
    (id : Id) (reads : Req → Prop) (P : Condition Ans V R E Id I W)
    (fact : Exchange Ans → Condition Ans V R E Id I W) : Prop :=
  Reading H J id reads (Holds P) (fun e => Holds (fact e))

/-- What a reading relies on endures. -/
theorem ReadingAt.enduring (hR : ReadingAt H J id reads P fact) : Enduring H P where
  drift h hw := hR.lasting.drift (b := false) h hw
  quiet e hq h := hR.lasting.quiet (b := false) e hq h

/-- And so does what it tells. -/
theorem ReadingAt.enduring_fact (hR : ReadingAt H J id reads P fact) (e : Exchange Ans) :
    Enduring H (fact e) where
  drift h hw := (hR.facts e).drift (b := false) h hw
  quiet d hq h := (hR.facts e).quiet (b := false) d hq h

/-- And all that several tell. -/
theorem ReadingAt.enduring_known (hR : ReadingAt H J id reads P fact)
    (seen : List (Exchange Ans)) : Enduring H (Known P fact seen) :=
  hR.enduring.known hR.enduring_fact seen

/-- One more read keeps what was seen and adds what it shows. -/
theorem ReadingAt.read (hR : ReadingAt H J id reads P fact) {seen : List (Exchange Ans)} {r : Req}
    {x : Ans r} {h : List (Event Ans V R E Id I)} {w w' : W} (hread : reads r)
    (hs : Known P fact seen h w) (hJ : J h w) (hanswer : H.answers id w r x w') :
    J (h ++ [.asked id r x]) w' ∧ Known P fact (seen ++ [⟨r, x⟩]) (h ++ [.asked id r x]) w' := by
  obtain ⟨hJ', hP⟩ := hR.keeps (b := false) hread hs.1 hJ hanswer
  refine ⟨hJ', hP, List.forall_mem_append.mpr ⟨fun e he => ?_, ?_⟩⟩
  · exact hR.keepsFact (b := false) hread hs.1 hJ (hs.2 e he) hanswer
  · exact List.forall_mem_singleton.mpr (hR.establishes (b := false) hread hs.1 hJ hanswer)

/-- What was known earlier is known from less. -/
theorem Known.left {seen more : List (Exchange Ans)} {h : List (Event Ans V R E Id I)} {w : W}
    (hs : Known P fact (seen ++ more) h w) : Known P fact seen h w :=
  ⟨hs.1, fun e he => hs.2 e (List.mem_append_left _ he)⟩

/-- **A closure that only reads** keeps what was seen. -/
theorem ReadingAt.safe_keep (hR : ReadingAt H J id reads P fact) {seen : List (Exchange Ans)}
    {name : String} {body : Closure Ans R E} (hbody : Closure.ReadsOnly reads body) :
    Safe H J id K false (Holds (Known P fact seen)) name
      (fun r κ' => (∃ t, Prog.Runs body t (.done r)) ∧ κ' = Holds (Known P fact seen)) body
      (Holds (Known P fact seen)) := by
  have hlasting := (hR.enduring_known seen).lasting
  refine safe_of_transcripts (fun _ => Holds (Known P fact seen)) (fun _ => hlasting.within)
    (fun t r k hs => ?_) (fun t v k hs => ?_) (fun t r hs => ?_)
  · have hread : reads r := (hbody.steps hs).1
    refine ⟨rfl, fun x b h w w' hθ hJ _ hanswer => ?_⟩
    obtain ⟨hJ', hseen⟩ := hR.read hread hθ hJ hanswer
    exact ⟨hJ', hseen.left⟩
  · exact (hbody.steps hs).elim
  · exact ⟨_, ⟨⟨t, hs⟩, rfl⟩, fun b h w hθ _ => hlasting.quiet _ rfl hθ⟩

end Conditions

/-! ## Closures over another program -/

/-- **A closure that runs a program** is verified from the transcripts of the program. -/
theorem safe_embed_bind {Req₀ : Type} {Ans₀ : Req₀ → Type} {φ : Req₀ → Req}
    {g : ∀ r, Ans (φ r) → Ans₀ r} {H : Host Ans V R E Id I O W}
    {J : List (Event Ans V R E Id I) → W → Prop} {id : Id} {K : Option V → Prop}
    {κ : Assertion Ans V R E Id I W} {name : String}
    {Post : R → Assertion Ans V R E Id I W → Prop} {p : Prog Ans₀ β}
    {next : β → Prog (Act.Ans Ans) (Closed R E)} (Ψ : List (Exchange Ans₀) → Assertion Ans V R E Id I W)
    (hwithin : ∀ t, Within H κ (Ψ t))
    (hask : ∀ t r k, Prog.Steps p t (.call r k) → ∀ (x : Ans (φ r)) b h w w', Ψ t b h w → J h w →
      K (storedAt h) → H.answers id w (φ r) x w' → J (h ++ [.asked id (φ r) x]) w'
        ∧ Ψ (t ++ [⟨r, g r x⟩]) b (h ++ [.asked id (φ r) x]) w')
    (hnext : ∀ t a, Prog.Runs p t a → Safe H J id K false κ name Post (next a) (Ψ t)) :
    Safe H J id K false κ name Post
      ((p.embed (fun r => Act.ask (φ r)) g : Prog (Act.Ans Ans) β) >>= next :
        Prog (Act.Ans Ans) (Closed R E)) (Ψ []) := by
  -- the induction is on what is left of the program after a transcript
  suffices hall : ∀ (q : Prog Ans₀ β) t, Prog.Steps p t q →
      Safe H J id K false κ name Post
        ((q.embed (fun r => Act.ask (φ r)) g : Prog (Act.Ans Ans) β) >>= next :
          Prog (Act.Ans Ans) (Closed R E)) (Ψ t) from
    hall p [] (.refl _)
  intro q
  induction q with
  | ret a => exact fun t hs => hnext t a hs
  | call r k ih =>
    intro t hs
    exact ⟨rfl, fun x => ⟨_, hwithin _, fun b h w w' => hask t r k hs x b h w w',
      ih (g r x) _ (hs.snoc _)⟩⟩

/-! ## Handlers that read -/

namespace Flow

/-- Flows are sequenced in any grouping. -/
theorem bind_assoc {γ : Type} (f : Flow Ans V R E α) (g : α → Flow Ans V R E β)
    (l : β → Flow Ans V R E γ) : (f >>= g) >>= l = f >>= fun a => g a >>= l := by
  induction f with
  | ret a => rfl
  | get k ih => exact congrArg Flow.get (funext ih)
  | set v next ih => exact congrArg (Flow.set v) ih
  | clear next ih => exact congrArg Flow.clear ih
  | run name body k ih => exact congrArg (Flow.run name body) (funext ih)

/-- Returning the value changes nothing. -/
theorem bind_ret (f : Flow Ans V R E α) : (f >>= fun a => Flow.ret a) = f := by
  induction f with
  | ret a => rfl
  | get k ih => exact congrArg Flow.get (funext ih)
  | set v next ih => exact congrArg (Flow.set v) ih
  | clear next ih => exact congrArg Flow.clear ih
  | run name body k ih => exact congrArg (Flow.run name body) (funext ih)

instance : LawfulMonad (Flow Ans V R E) := LawfulMonad.mk' (Flow Ans V R E) bind_ret
  (fun _ _ => rfl) bind_assoc

variable {reads : Req → Prop} {f : Flow Ans V R E α} {seen : List (Exchange Ans)}

/-- A flow that is admitted is so with less said of its ends. -/
theorem Admits.mono {Q Q' : List (Exchange Ans) → α → Prop}
    {Then Then' : List (Exchange Ans) → Flow Ans V R E α → Prop}
    (h : f.Admits reads Q Then seen) (hQ : ∀ seen a, Q seen a → Q' seen a)
    (hThen : ∀ seen g, Then seen g → Then' seen g) : f.Admits reads Q' Then' seen := by
  induction f generalizing seen with
  | ret a => exact h.imp (hQ seen a) (hThen seen _)
  | get k ih => exact hThen seen _ h
  | set v next ih => exact hThen seen _ h
  | clear next ih => exact hThen seen _ h
  | run name body k ih =>
    refine h.imp (hThen seen _) ?_
    rintro ⟨hbody, herror, hok⟩
    exact ⟨hbody, fun e => ih _ (herror e), fun tr r hr => ih _ (hok tr r hr)⟩

/-- A handler that only reads, whatever it has read. -/
def OnlyReads (reads : Req → Prop) : Flow Ans V R E α → Prop
  | ret _ => True
  | get _ | set _ _ | clear _ => False
  | run _ body k => Closure.ReadsOnly reads body ∧ ∀ x, (k x).OnlyReads reads

/-- One flow that reads after another. -/
theorem OnlyReads.bind {g : α → Flow Ans V R E β} (hf : f.OnlyReads reads)
    (hg : ∀ a, (g a).OnlyReads reads) : (f >>= g).OnlyReads reads := by
  induction f with
  | ret a => exact hg a
  | get k ih => exact hf.elim
  | set v next ih => exact hf.elim
  | clear next ih => exact hf.elim
  | run name body k ih => exact ⟨hf.1, fun x => ih x (hf.2 x)⟩

/-- **What a handler that only reads returns** is what its recorded reads show. -/
theorem OnlyReads.admits {Q : List (Exchange (Act.Ans Ans)) → α → Prop} (hf : f.OnlyReads reads)
    (h : f.Ensures Q) :
    f.Admits reads (fun seen' a => ∃ t, seen' = seen ++ asks t ∧ Q t a) (fun _ _ => False) seen := by
  induction f generalizing seen Q with
  | ret a => exact Or.inl ⟨[], by simp, ensures_ret.mp h⟩
  | get k ih => exact hf.elim
  | set v next ih => exact hf.elim
  | clear next ih => exact hf.elim
  | run name body k ih =>
    refine admits_run hf.1 (fun e => ih _ (hf.2 _) (fun t a hr => h t a (.failed hr)))
      (fun t r hr => ?_)
    have hrest : (k (.ok r)).Ensures (fun t' a => Q (t ++ t') a) :=
      fun t' a hr' => h _ a (.done hr hr')
    have hadmits : (k (.ok r)).Admits reads
        (fun seen' a => ∃ t', seen' = seen ++ asks t ++ asks t' ∧ Q (t ++ t') a)
        (fun _ _ => False) (seen ++ asks t) := ih _ (hf.2 _) hrest
    refine hadmits.mono ?_ (fun _ _ hfalse => hfalse)
    rintro _ a ⟨t', rfl, hQ⟩
    exact ⟨t ++ t', by rw [asks_append, List.append_assoc], hQ⟩

/-- Reading first, and then what the reads lead to. -/
theorem OnlyReads.andThen {Q : List (Exchange (Act.Ans Ans)) → α → Prop}
    {Q' : List (Exchange Ans) → β → Prop} {Then : List (Exchange Ans) → Flow Ans V R E β → Prop}
    {g : α → Flow Ans V R E β} (hf : f.OnlyReads reads) (h : f.Ensures Q)
    (hg : ∀ t a, Q t a → (g a).Admits reads Q' Then (seen ++ asks t)) :
    (f >>= g).Admits reads Q' Then seen := by
  refine (hf.admits h).bind (fun _ _ hfalse => hfalse.elim) ?_
  rintro _ a ⟨t, rfl, hQ⟩
  exact hg t a hQ

/-! ## Handlers that store nothing

A sequence comes to store a value in the part that stores: the parts before it contribute
what they returned, and the parts after it are still to come. -/

/-- The text stores nothing. -/
def StoresNothing : Flow Ans V R E α → Prop
  | ret _ => True
  | get k => ∀ x, (k x).StoresNothing
  | set _ _ => False
  | clear next => next.StoresNothing
  | run _ _ k => ∀ x, (k x).StoresNothing

/-- **A sequence that comes to store a value**, after a part that does not, comes to it
from what that part returned. -/
theorem StoresNothing.reaches_set {f : Flow Ans V R E α} (hf : f.StoresNothing)
    {g : α → Flow Ans V R E β} {tr : List (Exchange (Act.Ans Ans))} {v : V}
    {next : Flow Ans V R E β} (h : (f >>= g).Reaches tr (.set v next)) :
    ∃ t a t', tr = t ++ t' ∧ f.Returns t a ∧ (g a).Reaches t' (.set v next) := by
  induction f generalizing tr with
  | ret a => exact ⟨[], a, tr, rfl, .refl _, h⟩
  | get k ih =>
    cases h with
    | get h =>
      obtain ⟨t, a, t', rfl, hr, hg⟩ := ih _ (hf _) h
      exact ⟨t, a, t', rfl, .get hr, hg⟩
  | set v next ih => exact hf.elim
  | clear next ih =>
    cases h with
    | clear h =>
      obtain ⟨t, a, t', rfl, hr, hg⟩ := ih hf h
      exact ⟨t, a, t', rfl, .clear hr, hg⟩
  | run name body k ih =>
    cases h with
    | done attempt h =>
      obtain ⟨t, a, t', rfl, hr, hg⟩ := ih _ (hf _) h
      exact ⟨_, a, t', (List.append_assoc ..).symm, .done attempt hr, hg⟩
    | failed h =>
      obtain ⟨t, a, t', rfl, hr, hg⟩ := ih _ (hf _) h
      exact ⟨t, a, t', rfl, .failed hr, hg⟩

/-- What only reads stores nothing. -/
theorem OnlyReads.storesNothing {reads : Req → Prop} {f : Flow Ans V R E α}
    (h : f.OnlyReads reads) : f.StoresNothing := by
  induction f with
  | ret a => trivial
  | get k ih => exact h.elim
  | set v next ih => exact h.elim
  | clear next ih => exact h.elim
  | run name body k ih => exact fun x => ih x (h.2 x)

/-- One flow that stores nothing after another. -/
theorem StoresNothing.bind {f : Flow Ans V R E α} {g : α → Flow Ans V R E β}
    (hf : f.StoresNothing) (hg : ∀ a, (g a).StoresNothing) : (f >>= g).StoresNothing := by
  induction f with
  | ret a => exact hg a
  | get k ih => exact fun x => ih x (hf x)
  | set v next ih => exact hf.elim
  | clear next ih => exact ih hf
  | run name body k ih => exact fun x => ih x (hf x)

/-- A value that a sequence stores, where what follows stores nothing, the first part does. -/
theorem reaches_set_bind {f : Flow Ans V R E α} {g : α → Flow Ans V R E β}
    (hg : ∀ a, (g a).StoresNothing) {tr : List (Exchange (Act.Ans Ans))} {v : V}
    {next : Flow Ans V R E β} (h : (f >>= g).Reaches tr (.set v next)) :
    ∃ next', f.Reaches tr (.set v next') ∧ next = next' >>= g := by
  induction f generalizing tr with
  | ret a =>
    obtain ⟨t, b, t', -, -, hb⟩ := (hg a).reaches_set (g := Flow.ret) (by rwa [Flow.bind_ret])
    cases hb
  | get k ih =>
    cases h with
    | get h =>
      obtain ⟨next', hr, heq⟩ := ih _ h
      exact ⟨next', .get hr, heq⟩
  | set u rest ih =>
    cases h with
    | refl => exact ⟨rest, .refl _, rfl⟩
    | set h =>
      obtain ⟨next', hr, heq⟩ := ih h
      exact ⟨next', .set hr, heq⟩
  | clear rest ih =>
    cases h with
    | clear h =>
      obtain ⟨next', hr, heq⟩ := ih h
      exact ⟨next', .clear hr, heq⟩
  | run name body k ih =>
    cases h with
    | done attempt h =>
      obtain ⟨next', hr, heq⟩ := ih _ h
      exact ⟨next', .done attempt hr, heq⟩
    | failed h =>
      obtain ⟨next', hr, heq⟩ := ih _ h
      exact ⟨next', .failed hr, heq⟩

/-- It never comes to a store. -/
theorem StoresNothing.not_reaches {f : Flow Ans V R E α} (hf : f.StoresNothing)
    {tr : List (Exchange (Act.Ans Ans))} {v : V} {next : Flow Ans V R E α} :
    ¬ f.Reaches tr (.set v next) := by
  intro h
  obtain ⟨t, a, t', -, -, ha⟩ := hf.reaches_set (g := Flow.ret) (by rwa [Flow.bind_ret])
  cases ha

end Flow

end Durable
