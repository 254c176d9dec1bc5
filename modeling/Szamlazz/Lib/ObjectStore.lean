import Mathlib.Data.List.Nodup
import Mathlib.Logic.Function.Basic
import Szamlazz.Lib.Exchange

/-!
# A store that programs share

Programs write objects to one store, one write at a time and in any order. An object
is put under a key, whatever was there before, or created under the first of the
names its program draws that is free. Any write may fail, and a failed write may have
taken effect all the same; what a program draws is open.

What comes of it does not depend on the order: as long as nothing is put under the
keys that are created, every created object keeps its key to itself and stays
(`Run.created`), and what a program was told is a transcript of it (`Run.steps`).
Most writers are straight lines: `writeAll` makes its writes in order, and stops at
the first that fails.
-/

namespace ObjectStore

variable {ι K V N E α : Type}

/-- What a program asks of the store. -/
inductive Request (K V N : Type) where
  | put (key : K) (value : V)
  /-- Created under the first name that is free. -/
  | create (key : N → K) (value : V)

/-- A write is acknowledged or fails. -/
abbrev Answer (K V N E : Type) : Request K V N → Type := fun _ => Except E Unit

/-- A program that writes to the store. -/
abbrev Writer (K V N E α : Type) : Type := Prog (Answer K V N E) α

/-- A write that was answered: by whom, under which key, and whether it took effect. -/
structure Event (ι K V N E : Type) where
  who : ι
  request : Request K V N
  key : K
  written : Bool
  answer : Except E Unit

/-- The value a request writes. -/
def Request.value : Request K V N → V
  | put _ value | create _ value => value

def Request.isCreate : Request K V N → Bool
  | put _ _ => false
  | create _ _ => true

/-- The keys a request may write under. -/
def Request.Targets : Request K V N → K → Prop
  | put key _, key' => key' = key
  | create key _, key' => ∃ name, key' = key name

/-- The store, and what is left of every program. -/
structure World (ι K V N E α : Type) where
  store : K → Option V
  running : ι → Writer K V N E α

section Step

variable [DecidableEq ι] [DecidableEq K]

/-- **One write of one program.** It takes effect if it is acknowledged; a creation
takes effect only where there is nothing. -/
inductive Step : World ι K V N E α → Event ι K V N E → World ι K V N E α → Prop where
  | write {w : World ι K V N E α} {i : ι} {request : Request K V N}
      {k : Except E Unit → Writer K V N E α} (hrun : w.running i = .call request k) {key : K}
      (hkey : request.Targets key) {written : Bool} {answer : Except E Unit}
      (hfree : request.isCreate = true → written = true → w.store key = none)
      (hanswer : answer = .ok () → written = true) :
      Step w ⟨i, request, key, written, answer⟩
        { store := if written then Function.update w.store key (some request.value) else w.store
          running := Function.update w.running i (k answer) }

/-- **Any number of writes in any order.** A creation that finds its name taken draws
another, and nothing has changed. -/
inductive Run (w₀ : World ι K V N E α) : List (Event ι K V N E) → World ι K V N E α → Prop where
  | start : Run w₀ [] w₀
  | step {tr : List (Event ι K V N E)} {w w' : World ι K V N E α} {e : Event ι K V N E}
      (h : Run w₀ tr w) (hstep : Step w e w') : Run w₀ (tr ++ [e]) w'
  | taken {tr : List (Event ι K V N E)} {w : World ι K V N E α} {i : ι} {key : N → K} {value : V}
      {k : Except E Unit → Writer K V N E α} (h : Run w₀ tr w)
      (hrun : w.running i = .call (.create key value) k) {name : N}
      (htaken : (w.store (key name)).isSome = true) : Run w₀ tr w

/-! ## What a program was told -/

/-- The exchanges of one program. -/
def transcript (i : ι) (tr : List (Event ι K V N E)) : List (Exchange (Answer K V N E)) :=
  (tr.filter (fun e => e.who = i)).map (fun e => ⟨e.request, e.answer⟩)

variable {w₀ w w' : World ι K V N E α} {tr tr' : List (Event ι K V N E)}

omit [DecidableEq K] in
theorem transcript_append (i : ι) (tr tr' : List (Event ι K V N E)) :
    transcript i (tr ++ tr') = transcript i tr ++ transcript i tr' := by
  rw [transcript, List.filter_append, List.map_append]
  rfl

omit [DecidableEq K] in
theorem mem_transcript {i : ι} {e : Event ι K V N E} (he : e ∈ tr) (hwho : e.who = i) :
    (⟨e.request, e.answer⟩ : Exchange (Answer K V N E)) ∈ transcript i tr :=
  List.mem_map.mpr ⟨e, List.mem_filter.mpr ⟨he, decide_eq_true hwho⟩, rfl⟩

/-- **A program in the run is the program, answered as it was answered.** -/
theorem Run.steps (h : Run w₀ tr w) (i : ι) :
    Prog.Steps (w₀.running i) (transcript i tr) (w.running i) := by
  induction h with
  | start => exact Prog.Steps.refl _
  | taken _ _ _ ih => exact ih
  | @step tr w w' e h hstep ih =>
    cases hstep with
    | @write j request k hrun key _ written answer _ _ =>
      rw [transcript_append]
      by_cases hij : j = i
      · subst hij
        rw [hrun] at ih
        have hone : transcript j [(⟨j, request, key, written, answer⟩ : Event ι K V N E)]
            = [⟨request, answer⟩] := by
          simp [transcript]
        rw [hone]
        show Prog.Steps _ _ (Function.update w.running j (k answer) j)
        rw [Function.update_self]
        exact ih.snoc answer
      · have hnone : transcript i [(⟨j, request, key, written, answer⟩ : Event ι K V N E)]
            = [] := by
          simp [transcript, hij]
        rw [hnone, List.append_nil]
        show Prog.Steps _ _ (Function.update w.running j (k answer) i)
        rw [Function.update_of_ne (Ne.symm hij)]
        exact ih

/-- An event was asked for by its program. -/
theorem Run.targets (h : Run w₀ tr w) : ∀ e ∈ tr, e.request.Targets e.key := by
  induction h with
  | start => exact fun e he => absurd he List.not_mem_nil
  | taken _ _ _ ih => exact ih
  | step h hstep ih =>
    intro e he
    rcases List.mem_append.mp he with he | he
    · exact ih e he
    · obtain rfl := List.mem_singleton.mp he
      cases hstep with
      | write _ hkey _ _ => exact hkey

/-- What is acknowledged took effect. -/
theorem Run.written (h : Run w₀ tr w) : ∀ e ∈ tr, e.answer = .ok () → e.written = true := by
  induction h with
  | start => exact fun e he => absurd he List.not_mem_nil
  | taken _ _ _ ih => exact ih
  | step h hstep ih =>
    intro e he
    rcases List.mem_append.mp he with he | he
    · exact ih e he
    · obtain rfl := List.mem_singleton.mp he
      cases hstep with
      | write _ _ _ hanswer => exact hanswer

/-- What the writes of a run left in the store. -/
def after (store : K → Option V) (tr : List (Event ι K V N E)) : K → Option V :=
  tr.foldl (fun store e =>
    if e.written then Function.update store e.key (some e.request.value) else store) store

omit [DecidableEq ι] in
/-- What nothing was written under is as it was. -/
theorem after_of_notMem {store : K → Option V} {key : K}
    (h : ∀ e ∈ tr, e.written = true → e.key ≠ key) : after store tr key = store key := by
  induction tr generalizing store with
  | nil => rfl
  | cons e tr ih =>
    have hrest := fun e' he' => h e' (List.mem_cons_of_mem _ he')
    rw [after, List.foldl_cons, ← after, ih hrest]
    split_ifs with hwritten
    · exact Function.update_of_ne (h e List.mem_cons_self hwritten).symm _ _
    · rfl

omit [DecidableEq ι] in
/-- What one value alone was written under holds it. -/
theorem after_of_exists {store : K → Option V} {key : K} {value : V}
    (hvalue : ∀ e ∈ tr, e.written = true → e.key = key → e.request.value = value)
    (h : ∃ e ∈ tr, e.written = true ∧ e.key = key) : after store tr key = some value := by
  induction tr generalizing store with
  | nil =>
    obtain ⟨e, he, -⟩ := h
    exact absurd he List.not_mem_nil
  | cons e tr ih =>
    rw [after, List.foldl_cons, ← after]
    by_cases hrest : ∃ e' ∈ tr, e'.written = true ∧ e'.key = key
    · exact ih (fun e' he' => hvalue e' (List.mem_cons_of_mem _ he')) hrest
    · push Not at hrest
      obtain ⟨e', he', hwritten, hkey⟩ := h
      obtain rfl | he' := List.mem_cons.mp he'
      · rw [after_of_notMem hrest, if_pos hwritten, hkey, Function.update_self,
          hvalue e' List.mem_cons_self hwritten hkey]
      · exact absurd hkey (hrest e' he' hwritten)

theorem Run.store_eq (h : Run w₀ tr w) : w.store = after w₀.store tr := by
  induction h with
  | start => rfl
  | taken _ _ _ ih => exact ih
  | @step tr w w' e h hstep ih =>
    have hone : w'.store = after w.store [e] := by
      cases hstep with
      | write hrun hkey hfree hanswer => rfl
    rw [hone, ih, after, after, ← List.foldl_append]
    rfl

theorem Run.append {w'' : World ι K V N E α} (h : Run w₀ tr w') (h' : Run w' tr' w'') :
    Run w₀ (tr ++ tr') w'' := by
  induction h' with
  | start => rwa [List.append_nil]
  | step _ hstep ih => rw [← List.append_assoc]; exact ih.step hstep
  | taken _ hrun htaken ih => exact ih.taken hrun htaken

/-! ## Created objects -/

/-- The creations that took effect. -/
def creations (tr : List (Event ι K V N E)) : List (Event ι K V N E) :=
  tr.filter (fun e => e.request.isCreate && e.written)

/-- **Creations and puts keep apart**: no key is both created and put under. -/
def Apart (tr : List (Event ι K V N E)) : Prop :=
  ∀ e ∈ tr, ∀ e' ∈ tr, e.request.isCreate = true → e'.request.isCreate = false → e.key ≠ e'.key

omit [DecidableEq ι] [DecidableEq K] in
theorem Apart.left (h : Apart (tr ++ tr')) : Apart tr :=
  fun e he e' he' => h e (List.mem_append_left _ he) e' (List.mem_append_left _ he')

/-- **A created object is there to stay, and its key is its own**, as long as nothing
is put under created keys. -/
theorem Run.created (h : Run w₀ tr w) (hapart : Apart tr) :
    (∀ e ∈ creations tr, w.store e.key = some e.request.value)
      ∧ ((creations tr).map Event.key).Nodup := by
  induction h with
  | start => exact ⟨fun e he => absurd he List.not_mem_nil, List.nodup_nil⟩
  | taken _ _ _ ih => exact ih hapart
  | @step tr w w' e h hstep ih =>
    obtain ⟨hstore, hnodup⟩ := ih hapart.left
    have hcreations : creations (tr ++ [e])
        = creations tr ++ (if e.request.isCreate && e.written then [e] else []) := by
      rw [creations, List.filter_append]
      refine congrArg (creations tr ++ ·) ?_
      by_cases he : (e.request.isCreate && e.written) = true
      · simp [he]
      · simp [he]
    cases hstep with
    | @write i request k hrun key hkey written answer hfree hanswer =>
      -- A write that takes effect spares the keys of earlier creations.
      have hspare : ∀ e' ∈ creations tr, written = true → e'.key ≠ key := by
        intro e' he' hwritten heq
        obtain ⟨hmem, hcreate⟩ := List.mem_filter.mp he'
        rw [Bool.and_eq_true] at hcreate
        by_cases hreq : request.isCreate = true
        · have hnone := hfree hreq hwritten
          rw [← heq, hstore e' he'] at hnone
          cases hnone
        · exact hapart e' (List.mem_append_left _ hmem) _ (List.mem_append_right _ List.mem_cons_self)
            hcreate.1 (Bool.eq_false_iff.mpr hreq) heq
      rw [hcreations]
      constructor
      · intro e' he'
        rcases List.mem_append.mp he' with he' | he'
        · by_cases hwritten : written = true
          · dsimp only
            rw [if_pos hwritten, Function.update_of_ne (hspare e' he' hwritten)]
            exact hstore e' he'
          · dsimp only
            rw [if_neg hwritten]
            exact hstore e' he'
        · split_ifs at he' with hnew
          · obtain rfl := List.mem_singleton.mp he'
            rw [Bool.and_eq_true] at hnew
            dsimp only
            rw [if_pos hnew.2, Function.update_self]
          · exact absurd he' List.not_mem_nil
      · rw [List.map_append]
        refine List.nodup_append'.mpr ⟨hnodup, ?_, ?_⟩
        · split_ifs
          · exact List.nodup_singleton _
          · exact List.nodup_nil
        · intro x hx hx'
          obtain ⟨e', he', rfl⟩ := List.mem_map.mp hx
          split_ifs at hx' with hnew
          · rw [Bool.and_eq_true] at hnew
            exact hspare e' he' hnew.2 (List.mem_singleton.mp hx')
          · exact absurd hx' List.not_mem_nil

end Step

/-! ## Straight lines -/

section WriteAll

variable {ε : Type} (fail : E → ε)

/-- Writes one after the other, up to the first that fails or that there is nothing
to write for. -/
def writeAll : List (Except ε (Request K V N)) → Writer K V N E (Except ε Unit)
  | [] => .ret (.ok ())
  | .error e :: _ => .ret (.error e)
  | .ok request :: rest => .call request fun
    | .ok () => writeAll rest
    | .error e => .ret (.error (fail e))

theorem writeAll_append (requests rest : List (Except ε (Request K V N))) :
    writeAll fail (requests ++ rest) = (writeAll fail requests >>= fun
      | .ok () => writeAll fail rest
      | .error e => .ret (.error e)) := by
  induction requests with
  | nil => rfl
  | cons request requests ih =>
    cases request with
    | error e => rfl
    | ok request =>
      refine congrArg (Prog.call request) (funext fun x => ?_)
      cases x with
      | ok => exact ih
      | error e => rfl

/-- **A straight line asks for its writes in order**, all but the last were
acknowledged, and if it succeeds all were made. -/
theorem ensures_writeAll (requests : List (Except ε (Request K V N))) :
    Prog.Ensures (writeAll fail requests) (fun tr result =>
      tr.map (fun x => Except.ok x.1) <+: requests ∧ (∀ x ∈ tr.dropLast, x.2 = .ok ())
        ∧ (result = .ok () →
          tr.map (fun x => Except.ok x.1) = requests ∧ ∀ x ∈ tr, x.2 = .ok ())) := by
  induction requests with
  | nil =>
    refine Prog.ensures_ret.mpr ⟨List.prefix_refl _, ?_, fun _ => ⟨rfl, ?_⟩⟩
    · exact fun x hx => absurd hx List.not_mem_nil
    · exact fun x hx => absurd hx List.not_mem_nil
  | cons request rest ih =>
    cases request with
    | error e =>
      refine Prog.ensures_ret.mpr ⟨List.nil_prefix, ?_, (fun h => by cases h)⟩
      exact fun x hx => absurd hx List.not_mem_nil
    | ok request =>
      refine Prog.ensures_call.mpr fun x => ?_
      cases x with
      | error e =>
        refine Prog.ensures_ret.mpr ⟨List.prefix_append [_] rest, ?_, (fun h => by cases h)⟩
        exact fun x hx => absurd hx List.not_mem_nil
      | ok =>
        refine ih.mono fun tr result h => ?_
        obtain ⟨hbegins, hlast, hall⟩ := h
        refine ⟨?_, ?_, ?_⟩
        · exact (List.prefix_cons_inj _).mpr hbegins
        · cases tr with
          | nil => exact fun x hx => absurd hx List.not_mem_nil
          | cons y tr =>
            rw [List.dropLast_cons_of_ne_nil (List.cons_ne_nil y tr)]
            exact List.forall_mem_cons.mpr ⟨rfl, hlast⟩
        · intro hresult
          obtain ⟨hmap, hok⟩ := hall hresult
          exact ⟨congrArg _ hmap, List.forall_mem_cons.mpr ⟨rfl, hok⟩⟩

/-- **A straight line of puts can always be made.** -/
theorem exists_run_writeAll [DecidableEq K] {requests : List (Except ε (Request K V N))}
    (hputs : ∀ r ∈ requests, ∃ key value, r = .ok (.put key value))
    (k : Except ε Unit → Writer K V N E α) (store : K → Option V) :
    ∃ (tr : List (Event Unit K V N E)) (store' : K → Option V),
      Run ⟨store, fun _ => writeAll fail requests >>= k⟩ tr ⟨store', fun _ => k (.ok ())⟩ := by
  induction requests generalizing store with
  | nil => exact ⟨[], store, Run.start⟩
  | cons request requests ih =>
    obtain ⟨key, value, rfl⟩ := hputs request List.mem_cons_self
    obtain ⟨tr, store', hrun⟩ := ih (fun r hr => hputs r (List.mem_cons_of_mem _ hr))
      (Function.update store key (some value))
    let w : World Unit K V N E α :=
      ⟨store, fun _ => writeAll fail (.ok (.put key value) :: requests) >>= k⟩
    have hstep : Step w ⟨(), .put key value, key, true, .ok ()⟩
        ⟨Function.update store key (some value),
          Function.update w.running () (writeAll fail requests >>= k)⟩ :=
      Step.write (rfl : w.running () = .call (.put key value) _) rfl (fun h => by cases h)
        (fun _ => rfl)
    have hrunning : Function.update w.running () (writeAll fail requests >>= k)
        = fun _ => writeAll fail requests >>= k := funext fun _ => rfl
    rw [hrunning] at hstep
    exact ⟨_, store', (Run.start.step hstep).append hrun⟩

end WriteAll

end ObjectStore
