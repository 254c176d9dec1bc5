import Mathlib.Data.List.Induction
import Mathlib.Tactic.Common

/-!
# Deliveries that replace one another

Deliveries come one after the other. Each goes to a slot, or to none, and takes the
place of what stood there; each contains a number of records. A record is kept as
long as some delivery that contains it stands.

When is every record kept? Exactly when no delivery takes the place of one with a
record that neither it nor anything standing elsewhere contains (`covered_iff`).
-/

namespace Shelf

variable {δ κ ρ : Type} (slot : δ → Option κ) (Contains : δ → ρ → Prop)

/-- Nothing was delivered to the slot of `d` after it. -/
def Stands (ds : List δ) (d : δ) : Prop :=
  (slot d).isSome = true ∧ ∃ l l', ds = l ++ d :: l' ∧ ∀ e ∈ l', slot e ≠ slot d

/-- **Every record delivered is in a delivery that stands.** -/
def Covered (ds : List δ) : Prop :=
  ∀ d ∈ ds, ∀ r, Contains d r → ∃ d', Stands slot ds d' ∧ Contains d' r

/-- **What `d` takes the place of holds nothing** that is not in `d` or in a delivery
that stands elsewhere. -/
def Spares (ds : List δ) (d : δ) : Prop :=
  ∀ d', Stands slot ds d' → slot d' = slot d → ∀ r, Contains d' r →
    Contains d r ∨ ∃ d'', Stands slot ds d'' ∧ slot d'' ≠ slot d ∧ Contains d'' r

variable {slot Contains} {ds : List δ} {d d' : δ}

theorem Stands.mem (h : Stands slot ds d) : d ∈ ds := by
  obtain ⟨_, l, l', rfl, _⟩ := h
  exact List.mem_append_right _ List.mem_cons_self

/-- **After one more delivery** it stands, and so does what stood elsewhere. -/
theorem stands_snoc : Stands slot (ds ++ [d]) d'
    ↔ (d' = d ∧ (slot d).isSome = true) ∨ (Stands slot ds d' ∧ slot d' ≠ slot d) := by
  constructor
  · rintro ⟨hsome, l, l', heq, hlast⟩
    rcases List.eq_nil_or_concat l' with rfl | ⟨l₂, e, rfl⟩
    · obtain ⟨-, hd⟩ := List.append_inj' heq rfl
      obtain rfl := (List.cons.inj hd).1
      exact Or.inl ⟨rfl, hsome⟩
    · rw [List.concat_eq_append] at heq hlast
      rw [← List.cons_append, ← List.append_assoc] at heq
      obtain ⟨rfl, hd⟩ := List.append_inj' heq rfl
      obtain rfl := (List.cons.inj hd).1
      refine Or.inr ⟨⟨hsome, l, l₂, rfl, fun e he => ?_⟩, ?_⟩
      · exact hlast e (List.mem_append_left _ he)
      · exact (hlast d (List.mem_append_right _ List.mem_cons_self)).symm
  · rintro (⟨rfl, hsome⟩ | ⟨⟨hsome, l, l', rfl, hlast⟩, hne⟩)
    · exact ⟨hsome, ds, [], rfl, fun e he => absurd he List.not_mem_nil⟩
    · refine ⟨hsome, l, l' ++ [d], by rw [List.append_assoc, List.cons_append], fun e he => ?_⟩
      rcases List.mem_append.mp he with he | he
      · exact hlast e he
      · rw [List.mem_singleton.mp he]
        exact hne.symm

/-- In every slot delivered to something stands. -/
theorem exists_stands (hd : d ∈ ds) (hsome : (slot d).isSome = true) :
    ∃ d', Stands slot ds d' ∧ slot d' = slot d := by
  induction ds using List.reverseRecOn with
  | nil => exact absurd hd List.not_mem_nil
  | append_singleton ds e ih =>
    by_cases heq : slot d = slot e
    · exact ⟨e, stands_snoc.mpr (Or.inl ⟨rfl, heq ▸ hsome⟩), heq.symm⟩
    · rcases List.mem_append.mp hd with hd | hd
      · obtain ⟨d', hd', hslot⟩ := ih hd
        exact ⟨d', stands_snoc.mpr (Or.inr ⟨hd', hslot ▸ heq⟩), hslot⟩
      · exact absurd (congrArg slot (List.mem_singleton.mp hd)) heq

/-- **What is kept stays kept** by a delivery that spares what it replaces. -/
theorem Covered.snoc (hslot : slot d = none → ∀ r, ¬ Contains d r) (h : Covered slot Contains ds)
    (hspares : Spares slot Contains ds d) : Covered slot Contains (ds ++ [d]) := by
  -- A record of the new delivery is in it, and it stands.
  have hself : ∀ r, Contains d r → ∃ d', Stands slot (ds ++ [d]) d' ∧ Contains d' r := by
    intro r hr
    refine ⟨d, stands_snoc.mpr (Or.inl ⟨rfl, ?_⟩), hr⟩
    exact Option.isSome_iff_ne_none.mpr fun hnone => hslot hnone r hr
  intro e he r hr
  rcases List.mem_append.mp he with he | he
  · obtain ⟨d', hd', hr'⟩ := h e he r hr
    by_cases heq : slot d' = slot d
    · rcases hspares d' hd' heq r hr' with hnew | ⟨d'', hd'', hne, hr''⟩
      · exact hself r hnew
      · exact ⟨d'', stands_snoc.mpr (Or.inr ⟨hd'', hne⟩), hr''⟩
    · exact ⟨d', stands_snoc.mpr (Or.inr ⟨hd', heq⟩), hr'⟩
  · obtain rfl := List.mem_singleton.mp he
    exact hself r hr

/-- A delivery after which everything is kept has spared what it replaced. -/
theorem Covered.spares (h : Covered slot Contains (ds ++ [d])) : Spares slot Contains ds d := by
  intro d' hd' _ r hr
  obtain ⟨d'', hd'', hr''⟩ := h d' (List.mem_append_left _ hd'.mem) r hr
  rcases stands_snoc.mp hd'' with ⟨rfl, -⟩ | ⟨hstands, hne⟩
  · exact Or.inl hr''
  · exact Or.inr ⟨d'', hstands, hne, hr''⟩

/-- **Every record is kept at every moment** exactly when every delivery spares what
it replaces. -/
theorem covered_iff (hslot : ∀ d ∈ ds, slot d = none → ∀ r, ¬ Contains d r) :
    (∀ l, l <+: ds → Covered slot Contains l)
      ↔ ∀ l d, l ++ [d] <+: ds → Spares slot Contains l d := by
  constructor
  · intro h l d hl
    exact (h _ hl).spares
  · intro h l hl
    induction l using List.reverseRecOn with
    | nil => exact fun d hd => absurd hd List.not_mem_nil
    | append_singleton l d ih =>
      refine (ih ((List.prefix_append l [d]).trans hl)).snoc (hslot d ?_) (h l d hl)
      exact hl.subset (List.mem_append_right _ List.mem_cons_self)

end Shelf
