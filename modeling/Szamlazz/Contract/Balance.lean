import Szamlazz.Contract.Money

/-!
# What is outstanding

The balance of an invoice is its gross total less what was credited. It is
reported as a number a caller may act on, so that it is exact or not reported:
`outstanding_exact` says when there is one, which is whenever every sum on the way
to it is a decimal. A decimal addition that rounds never shows in it.
-/

namespace Szamlazz

open FixedPoint Machine

section Balance

variable [RustDecimal]

/-- The sum of amounts. -/
def total (amounts : List Decimal) : ℚ := (amounts.map Decimal.value).sum

omit [RustDecimal] in
@[simp] theorem total_nil : total [] = 0 := rfl

omit [RustDecimal] in
@[simp] theorem total_cons (amount : Decimal) (amounts : List Decimal) :
    total (amount :: amounts) = amount.value + total amounts := List.sum_cons

/-- **The balance can be reached in decimals**: so are all sums of leading credit
entries, and the difference. -/
structure Balances (gross : Decimal) (creditEntries : List Decimal) : Prop where
  prefixes : ∀ k, Decimal.Representable (total (creditEntries.take k))
  difference : Decimal.Representable (gross.value - total creditEntries)

omit [RustDecimal] in
@[simp] theorem value_neg (d : Decimal) : d.neg.value = -d.value := by
  obtain ⟨negative, mantissa, scale, hm, hs⟩ := d
  cases negative with
  | true => simp [Decimal.neg, Decimal.value, Decimal.signedMantissa, number, neg_div]
  | false => simp [Decimal.neg, Decimal.value, Decimal.signedMantissa, number, neg_div]

omit [RustDecimal] in
/-- Two exact results are one number. -/
theorem Decimal.Exactly.map_value {q : ℚ} {o o' : Option Decimal} (h : Decimal.Exactly q o)
    (h' : Decimal.Exactly q o') : o.map Decimal.value = o'.map Decimal.value := by
  cases o with
  | none =>
    cases o' with
    | none => rfl
    | some d' => exact absurd (exactly_some.mp h' ▸ d'.representable_value) h
  | some d =>
    cases o' with
    | none => exact absurd (exactly_some.mp h ▸ d.representable_value) h'
    | some d' =>
      rw [Option.map_some, Option.map_some, exactly_some.mp h, exactly_some.mp h']

/-- The library adds exactly where it can. -/
abbrev AddsExactly : Prop := ∀ a b : Decimal, Decimal.Representable (a.value + b.value) →
  ∃ d, RustDecimal.checkedAdd a b = some d ∧ d.value = a.value + b.value

/-- **The fold over the credit entries** ends with their sum, or at the first sum
that is no decimal. -/
theorem foldlM_exactAdd (hadd : AddsExactly) (start : Decimal) (entries : List Decimal) :
    match entries.foldlM exactAdd start with
    | some paid => paid.value = start.value + total entries
        ∧ ∀ k, Decimal.Representable (start.value + total (entries.take k))
    | none => ∃ k, ¬ Decimal.Representable (start.value + total (entries.take k)) := by
  induction entries generalizing start with
  | nil =>
    show start.value = start.value + total [] ∧ _
    refine ⟨by simp, fun k => ?_⟩
    simpa using start.representable_value
  | cons entry entries ih =>
    have hfirst := exactly_exactAdd hadd start entry
    rw [List.foldlM_cons]
    cases hsum : exactAdd start entry with
    | none =>
      rw [hsum] at hfirst
      exact ⟨1, by simpa using hfirst⟩
    | some sum =>
      rw [hsum, Decimal.exactly_some] at hfirst
      have hrest := ih sum
      have hshift : ∀ l : List Decimal, sum.value + total l = start.value + total (entry :: l) := by
        intro l
        rw [hfirst, total_cons, add_assoc]
      show match entries.foldlM exactAdd sum with
        | some paid => _
        | none => _
      cases hpaid : entries.foldlM exactAdd sum with
      | none =>
        rw [hpaid] at hrest
        obtain ⟨k, hk⟩ := hrest
        exact ⟨k + 1, by rwa [List.take_succ_cons, ← hshift]⟩
      | some paid =>
        rw [hpaid] at hrest
        refine ⟨by rw [← hshift, hrest.1], fun k => ?_⟩
        cases k with
        | zero => simpa using start.representable_value
        | succ k =>
          rw [List.take_succ_cons, ← hshift]
          exact hrest.2 k

/-- **The balance is exact or absent.** The sum of two decimals is answered exactly
if there is one that is the sum, here as in the client; and what is outstanding is
the gross less the credit entries, where that can be reached in decimals. -/
theorem outstanding_exact
    (hadd : ∀ a b : Decimal, Decimal.Representable (a.value + b.value) →
      ∃ d, RustDecimal.checkedAdd a b = some d ∧ d.value = a.value + b.value) :
    (∀ left right : Decimal,
        ((exactAdd left right).isSome = true
            ↔ Decimal.Representable (left.value + right.value))
          ∧ (∀ sum, exactAdd left right = some sum → sum.value = left.value + right.value)
          ∧ ∃ agents, Number.exactAdd left right = .ok agents
            ∧ agents.map Decimal.value = (exactAdd left right).map Decimal.value)
      ∧ (∀ creditEntries, outstanding none creditEntries = none)
      ∧ ∀ gross creditEntries,
        (Balances gross creditEntries →
            ∃ balance, outstanding (some gross) creditEntries = some balance
              ∧ balance.value = gross.value - total creditEntries)
          ∧ (¬ Balances gross creditEntries →
            outstanding (some gross) creditEntries = none) := by
  refine ⟨fun left right => ?_, fun creditEntries => ?_, fun gross creditEntries => ?_⟩
  · have hexactly := exactly_exactAdd hadd left right
    obtain ⟨agents, hagents, hspec⟩ := Number.exactAdd_spec left right
    refine ⟨hexactly.isSome_iff, fun sum hsum => ?_, agents, hagents, hspec.map_value hexactly⟩
    rwa [hsum] at hexactly
  · show (creditEntries.foldlM exactAdd .zero).bind (fun _ => none) = none
    cases creditEntries.foldlM exactAdd .zero <;> rfl
  · have hfold := foldlM_exactAdd hadd .zero creditEntries
    show (_ → ∃ balance, (creditEntries.foldlM exactAdd .zero).bind
          (fun paid => exactAdd gross paid.neg) = some balance ∧ _)
      ∧ (_ → (creditEntries.foldlM exactAdd .zero).bind
          (fun paid => exactAdd gross paid.neg) = none)
    cases hpaid : creditEntries.foldlM exactAdd .zero with
    | none =>
      rw [hpaid] at hfold
      obtain ⟨k, hk⟩ := hfold
      rw [Decimal.value_zero, zero_add] at hk
      exact ⟨fun h => absurd (h.prefixes k) hk, fun _ => rfl⟩
    | some paid =>
      rw [hpaid, Decimal.value_zero, zero_add] at hfold
      have hlast := exactly_exactAdd hadd gross paid.neg
      rw [value_neg, hfold.1, ← sub_eq_add_neg] at hlast
      rw [Option.bind_some]
      refine ⟨fun h => ?_, fun h => ?_⟩
      · obtain ⟨balance, hbalance⟩ := Option.isSome_iff_exists.mp (hlast.isSome_iff.mpr h.difference)
        rw [hbalance] at hlast
        exact ⟨balance, hbalance, hlast⟩
      · by_contra hsome
        have hdifference := hlast.isSome_iff.mp (Option.isSome_iff_ne_none.mpr hsome)
        refine h ⟨fun k => ?_, hdifference⟩
        simpa using hfold.2 k

end Balance

/-! ## A balance -/

section Sample

local instance balancedDecimal : RustDecimal := RustDecimal.exact

/-- A whole amount. -/
def whole (n : ℕ) (h : n < 2 ^ 96) : Decimal := ⟨false, n, 0, h, Decimal.zero_le_places⟩

theorem value_whole {n : ℕ} (h : n < 2 ^ 96) : (whole n h).value = n := by
  show number 10 (n : ℤ) 0 = n
  rw [number_zero_scale]
  rfl

/-- Thirty and eighty were credited of a hundred. -/
theorem balances_overpaid :
    Balances (whole 100 (by decide)) [whole 30 (by decide), whole 80 (by decide)] where
  prefixes k := by
    have hsums : ∀ n : ℕ, n < 2 ^ 96 → Decimal.Representable (n : ℚ) := by
      intro n h
      rw [← value_whole h]
      exact (whole n h).representable_value
    match k with
    | 0 => exact hsums 0 (by decide)
    | 1 =>
      have h := hsums 30 (by decide)
      have hsum : ((30 : ℕ) : ℚ)
          = total ([whole 30 (by decide), whole 80 (by decide)].take 1) := by
        simp only [List.take_succ_cons, List.take_zero, total_cons, total_nil, value_whole]
        norm_num
      rwa [hsum] at h
    | k + 2 =>
      have h := hsums 110 (by decide)
      have hsum : ((110 : ℕ) : ℚ)
          = total ([whole 30 (by decide), whole 80 (by decide)].take (k + 2)) := by
        simp only [List.take_succ_cons, List.take_nil, total_cons, total_nil, value_whole]
        norm_num
      rwa [hsum] at h
  difference := by
    have h := (whole 10 (by decide)).neg.representable_value
    have hdifference : (whole 10 (by decide)).neg.value = (whole 100 (by decide)).value
        - total [whole 30 (by decide), whole 80 (by decide)] := by
      simp only [value_neg, total_cons, total_nil, value_whole]
      norm_num
    rwa [hdifference] at h

theorem outstanding_exact_overpaid :
    ∃ balance, outstanding (some (whole 100 (by decide)))
        [whole 30 (by decide), whole 80 (by decide)] = some balance ∧ balance.value = -10 := by
  obtain ⟨balance, hbalance, hvalue⟩ :=
    ((outstanding_exact RustDecimal.lawful_exact.checkedAdd_value).2.2 _ _).1 balances_overpaid
  refine ⟨balance, hbalance, hvalue.trans ?_⟩
  simp only [total_cons, total_nil, value_whole]
  norm_num

end Sample

end Szamlazz
