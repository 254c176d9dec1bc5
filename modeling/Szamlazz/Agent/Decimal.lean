import Szamlazz.Agent.Types
import Szamlazz.Lib.FixedPoint
import Szamlazz.Lib.Machine

/-!
# Decimals as numbers

A decimal is a spelling; what the amounts of a document have to agree on is the
rational number behind it (`Decimal.value`). Equal numbers have many spellings,
so equality of decimals compares normalised ones, and everything that is exact
about the client's arithmetic is said of values. Normalising and the making of a decimal
from a coefficient and a scale are functions of the decimal library, written out here as
it documents them; what it documents of the others is assumed of them
(`LawfulRustDecimal`). `Exactly` is the contract all of
its exact operations share: the number if some decimal is that number, and
nothing otherwise.
-/

namespace Szamlazz

open FixedPoint

namespace Decimal

/-! ## Values -/

/-- The numbers a decimal can be: 96 bits over up to 28 places. -/
def format : Format := ⟨10, 2 ^ 96, 28, by decide⟩

/-- Whether some decimal is this number. -/
abbrev Representable (q : ℚ) : Prop := format.Representable q

/-- The coefficient with its sign. -/
def signedMantissa (d : Decimal) : ℤ := if d.negative then -(d.mantissa : ℤ) else d.mantissa

/-- **The number a decimal is.** -/
def value (d : Decimal) : ℚ := number 10 d.signedMantissa d.scale

/-- The mantissa without its sign. -/
theorem natAbs_signedMantissa (d : Decimal) : d.signedMantissa.natAbs = d.mantissa := by
  unfold signedMantissa
  split_ifs <;> simp

/-- A decimal fits its format. -/
theorem fits (d : Decimal) : format.Fits d.signedMantissa d.scale := by
  refine ⟨?_, d.scale_le⟩
  rw [natAbs_signedMantissa]
  exact d.mantissa_lt

/-- The value of a decimal is representable. -/
theorem representable_value (d : Decimal) : Representable d.value := d.fits.representable

/-- The signed mantissa fits 128 bits. -/
theorem signed_signedMantissa (d : Decimal) : Machine.Signed 128 d.signedMantissa :=
  Machine.signed_of_natAbs_lt (lt_trans d.fits.1 (by decide))

/-- The value is zero when the mantissa is. -/
theorem value_eq_zero {d : Decimal} : d.value = 0 ↔ d.mantissa = 0 := by
  rw [value, number_eq_zero (by decide), ← Int.natAbs_eq_zero, natAbs_signedMantissa]

theorem zero_lt_bound : 0 < 2 ^ 96 := by decide

theorem one_lt_bound : 1 < 2 ^ 96 := by decide

theorem ten_lt_bound : 10 < 2 ^ 96 := by decide

/-- No place is allowed. -/
theorem zero_le_places : 0 ≤ 28 := by decide

/-- `Decimal::ZERO`. -/
def zero : Decimal := ⟨false, 0, 0, zero_lt_bound, zero_le_places⟩

/-- `Decimal::ONE_HUNDRED`. -/
def oneHundred : Decimal := ⟨false, 100, 0, by decide, zero_le_places⟩

/-- The decimal with the other sign; there is a negative zero. -/
def neg (d : Decimal) : Decimal := ⟨!d.negative, d.mantissa, d.scale, d.mantissa_lt, d.scale_le⟩

/-- Whether the mantissa is zero, whatever the sign. -/
def isZero (d : Decimal) : Bool := d.mantissa == 0

/-- Decimals are ordered as numbers. -/
def le (a b : Decimal) : Bool := decide (a.value ≤ b.value)

/-- Zero is zero. -/
@[simp] theorem value_zero : zero.value = 0 := value_eq_zero.mpr rfl

/-- One hundred is one hundred. -/
@[simp] theorem value_oneHundred : oneHundred.value = 100 := by
  show number 10 100 0 = 100
  rw [number_zero_scale]
  norm_num

/-- That is, whether the value is. -/
theorem isZero_iff {d : Decimal} : d.isZero = true ↔ d.value = 0 := by
  rw [value_eq_zero, isZero, beq_iff_eq]

/-- The decimal of a coefficient with its sign. -/
def ofSigned (c : ℤ) (s : ℕ) (h : format.Fits c s) : Decimal := ⟨decide (c < 0), c.natAbs, s, h.1, h.2⟩

/-- A signed mantissa is kept. -/
@[simp] theorem signedMantissa_ofSigned {c : ℤ} {s : ℕ} (h : format.Fits c s) :
    (ofSigned c s h).signedMantissa = c := by
  show (if decide (c < 0) = true then -(c.natAbs : ℤ) else c.natAbs) = c
  by_cases hneg : c < 0
  · rw [decide_eq_true hneg, if_pos rfl]
    omega
  · rw [decide_eq_false hneg, if_neg (by simp)]
    omega

/-- The value of a signed mantissa at a scale. -/
theorem value_ofSigned {c : ℤ} {s : ℕ} (h : format.Fits c s) :
    (ofSigned c s h).value = number 10 c s := by
  rw [value, signedMantissa_ofSigned]
  rfl

/-! ## Making a decimal -/

/-- The errors of the decimal library. -/
inductive Error where
  | errorString (message : String)
  | underflow
  | exceedsMaximumPossibleValue
  | lessThanMinimumPossibleValue
  | scaleExceedsMaximumPrecision (scale : ℕ)
deriving DecidableEq

/-- `Decimal::MAX_SCALE`. -/
def maxScale : ℕ := 28

/-- The library's own `Decimal::try_from_i128_with_scale`: the decimal of a coefficient and
a scale, if they fit. The three bounds are the documented ones. -/
def tryFromI128WithScale (num : ℤ) (scale : ℕ) : Except Error Decimal :=
  if hs : maxScale < scale then .error (.scaleExceedsMaximumPrecision scale)
  else if hmax : 2 ^ 96 ≤ num then .error .exceedsMaximumPossibleValue
  else if hmin : num ≤ -2 ^ 96 then .error .lessThanMinimumPossibleValue
  else .ok (ofSigned num scale ⟨show num.natAbs < 2 ^ 96 by omega, not_lt.mp hs⟩)

/-- A mantissa and a scale that fit make a decimal. -/
theorem tryFromI128WithScale_of_fits {c : ℤ} {s : ℕ} (h : format.Fits c s) :
    ∃ d, tryFromI128WithScale c s = .ok d ∧ d.signedMantissa = c ∧ d.scale = s := by
  obtain ⟨hc, hs⟩ := h
  have hc' : c.natAbs < 2 ^ 96 := hc
  have hs' : ¬ maxScale < s := not_lt.mpr hs
  unfold tryFromI128WithScale
  rw [dif_neg hs', dif_neg (by omega), dif_neg (by omega)]
  exact ⟨_, rfl, signedMantissa_ofSigned _, rfl⟩

/-- Others do not. -/
theorem tryFromI128WithScale_of_not_fits {c : ℤ} {s : ℕ} (h : ¬ format.Fits c s) :
    ∃ e, tryFromI128WithScale c s = .error e := by
  unfold tryFromI128WithScale
  by_cases hs : maxScale < s
  · rw [dif_pos hs]
    exact ⟨_, rfl⟩
  · have hc : ¬ c.natAbs < 2 ^ 96 := fun hc => h ⟨hc, not_lt.mp hs⟩
    rw [dif_neg hs]
    by_cases hmax : 2 ^ 96 ≤ c
    · rw [dif_pos hmax]
      exact ⟨_, rfl⟩
    · rw [dif_neg hmax, dif_pos (by omega)]
      exact ⟨_, rfl⟩

/-- The scale is kept. -/
theorem scale_of_tryFrom {c : ℤ} {s : ℕ} {d : Decimal} (h : tryFromI128WithScale c s = .ok d) :
    d.scale = s := by
  by_cases hfits : format.Fits c s
  · obtain ⟨d', heq, -, hs⟩ := tryFromI128WithScale_of_fits hfits
    rw [← Except.ok.inj (heq.symm.trans h), hs]
  · obtain ⟨e, heq⟩ := tryFromI128WithScale_of_not_fits hfits
    exact absurd (heq.symm.trans h) (by simp)

/-! ## The exact number or nothing -/

/-- **The contract of an exact operation**: the decimal that is the number, and
none only if no decimal is. -/
def Exactly (q : ℚ) : Option Decimal → Prop
  | some d => d.value = q
  | none => ¬ Representable q

/-- A decimal is exact when its value is the number. -/
@[simp] theorem exactly_some {q : ℚ} {d : Decimal} : Exactly q (some d) ↔ d.value = q := Iff.rfl

/-- Nothing is exact when no decimal has the number. -/
@[simp] theorem exactly_none {q : ℚ} : Exactly q none ↔ ¬ Representable q := Iff.rfl

/-- An exact result is there when the number is representable. -/
theorem Exactly.isSome_iff {q : ℚ} {o : Option Decimal} (h : Exactly q o) :
    o.isSome = true ↔ Representable q := by
  cases o with
  | none => simpa using h
  | some d =>
    refine iff_of_true rfl ?_
    rw [← exactly_some.mp h]
    exact d.representable_value

/-- And its value is the number. -/
theorem Exactly.value_eq {q : ℚ} {o : Option Decimal} (h : Exactly q o) : ∀ d ∈ o, d.value = q := by
  rintro d rfl
  exact h

/-- The contract of an operation that says why there is nothing. -/
theorem Exactly.eq_ok {ε : Type} {q : ℚ} {r : Except ε Decimal} (h : Exactly q r.toOption) :
    ((∃ d, r = .ok d) ↔ Representable q) ∧ ∀ d, r = .ok d → d.value = q := by
  cases r with
  | error e => exact ⟨iff_of_false (by simp) h, by simp⟩
  | ok d =>
    have hd : d.value = q := h
    refine ⟨iff_of_true ⟨d, rfl⟩ (hd ▸ d.representable_value), fun d' hd' => ?_⟩
    rw [← Except.ok.inj hd', hd]

/-- A reduced spelling is made into a decimal exactly if there is one. -/
theorem exactly_tryFrom {c : ℤ} {s : ℕ} (h : Reduced 10 c s) :
    Exactly (number 10 c s) (tryFromI128WithScale c s).toOption := by
  by_cases hfits : format.Fits c s
  · obtain ⟨d, heq, hc, hs⟩ := tryFromI128WithScale_of_fits hfits
    rw [heq]
    show number 10 d.signedMantissa d.scale = number 10 c s
    rw [hc, hs]
  · obtain ⟨e, heq⟩ := tryFromI128WithScale_of_not_fits hfits
    rw [heq]
    exact fun hrep => hfits ((Format.representable_number_iff (F := format) h).mp hrep)

/-! ## Normalised spellings -/

/-- Taking off zeros keeps the sign and the value. -/
theorem normalize_go {negative : Bool} {m s : ℕ} (hm : m < 2 ^ 96) (hs : s ≤ 28) :
    (normalize.go negative m s hm hs).negative = negative
      ∧ (normalize.go negative m s hm hs).value = (⟨negative, m, s, hm, hs⟩ : Decimal).value
      ∧ Reduced 10 (normalize.go negative m s hm hs).signedMantissa
          (normalize.go negative m s hm hs).scale := by
  induction s generalizing m with
  | zero => exact ⟨rfl, rfl, Or.inl rfl⟩
  | succ s ih =>
    unfold normalize.go
    split_ifs with hmod
    · obtain ⟨k, rfl⟩ := Nat.dvd_of_mod_eq_zero hmod
      have hk : 10 * k / 10 = k := Nat.mul_div_cancel_left k (by decide)
      obtain ⟨hneg, hvalue, hreduced⟩ :=
        ih (m := 10 * k / 10) (Nat.lt_of_le_of_lt (Nat.div_le_self _ _) hm) (Nat.le_of_succ_le hs)
      refine ⟨hneg, hvalue.trans ?_, hreduced⟩
      have hstep := number_mul_pow (b := 10) (by decide)
        ((if negative then -(k : ℤ) else k)) s 1
      unfold value signedMantissa
      simp only [hk]
      rw [← hstep, pow_one]
      congr 1
      cases negative with
      | true =>
        show -(k : ℤ) * 10 = -((10 * k : ℕ) : ℤ)
        push_cast
        ring
      | false =>
        show (k : ℤ) * 10 = ((10 * k : ℕ) : ℤ)
        push_cast
        ring
    · refine ⟨rfl, rfl, Or.inr (fun hdvd => hmod ?_)⟩
      have hdvd' : (10 : ℤ) ∣ (m : ℤ) := by
        cases negative with
        | true => exact (Int.dvd_neg).mp hdvd
        | false => exact hdvd
      exact Nat.mod_eq_zero_of_dvd (by exact_mod_cast hdvd')

/-- **Normalising** keeps the value. -/
theorem normalize_value (d : Decimal) : d.normalize.value = d.value := by
  unfold normalize
  split_ifs with hzero
  · rw [value_eq_zero.mpr hzero]
    exact value_zero
  · exact (normalize_go d.mantissa_lt d.scale_le).2.1

/-- And leaves no zero at the end. -/
theorem normalize_reduced (d : Decimal) : Reduced 10 d.normalize.signedMantissa d.normalize.scale := by
  unfold normalize
  split_ifs with hzero
  · exact Or.inl rfl
  · exact (normalize_go d.mantissa_lt d.scale_le).2.2

/-- The sign of a normalised decimal is that of its mantissa. -/
theorem negative_normalize (d : Decimal) :
    d.normalize.negative = decide (d.normalize.signedMantissa < 0) := by
  have key : ∀ e : Decimal, e.mantissa ≠ 0 → e.negative = decide (e.signedMantissa < 0) := by
    intro e he
    unfold signedMantissa
    cases e.negative with
    | true => simp [Nat.pos_of_ne_zero he]
    | false => simp
  by_cases hzero : d.normalize.mantissa = 0
  · have hvalue : d.mantissa = 0 := by
      rw [← value_eq_zero, ← normalize_value, value_eq_zero]
      exact hzero
    unfold normalize
    rw [if_pos hvalue]
    rfl
  · exact key _ hzero

/-- Decimals are compared as numbers, whatever their scales and a zero's sign. -/
def sameValue (a b : Decimal) : Bool := a.normalize = b.normalize

/-- **Comparing normalised spellings compares the numbers.** -/
theorem sameValue_iff {a b : Decimal} : a.sameValue b = true ↔ a.value = b.value := by
  rw [sameValue, decide_eq_true_eq]
  constructor
  · intro h
    rw [← a.normalize_value, ← b.normalize_value, h]
  · intro h
    rw [← a.normalize_value, ← b.normalize_value] at h
    -- Two reduced spellings of one number are the same spelling.
    have hscale : a.normalize.scale = b.normalize.scale := by
      have hle : ∀ c d : Decimal, c.normalize.value = d.normalize.value →
          c.normalize.scale ≤ d.normalize.scale := by
        intro c d hcd
        rw [← isMultiple_number_iff (by decide) c.normalize_reduced]
        show IsMultiple 10 d.normalize.scale c.normalize.value
        rw [hcd]
        exact isMultiple_number (by decide) le_rfl
      exact le_antisymm (hle a b h) (hle b a h.symm)
    have hmantissa : a.normalize.signedMantissa = b.normalize.signedMantissa := by
      unfold value at h
      rw [hscale] at h
      exact number_injective (by decide) h
    have hneg : a.normalize.negative = b.normalize.negative := by
      rw [a.negative_normalize, b.negative_normalize, hmantissa]
    have habs : a.normalize.mantissa = b.normalize.mantissa := by
      rw [← natAbs_signedMantissa, hmantissa, natAbs_signedMantissa]
    cases ha : a.normalize
    cases hb : b.normalize
    simp_all

end Decimal

end Szamlazz
