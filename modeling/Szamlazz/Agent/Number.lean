import Mathlib.Data.Nat.Prime.Int
import Szamlazz.Agent.Decimal

/-!
# Exact arithmetic

The arithmetic the client does not leave to the decimal library, whose operations
may round on success. It works on integer coefficients and answers with the exact
number or with nothing: `exactMul_spec`, `exactDiv100_spec` and `exactAdd_spec`
say that *nothing* is only ever answered when no decimal is the number, which
takes more than that no step overflowed – a product of two 96-bit coefficients
may still be a decimal once the tens are cancelled, and is cancelled before it is
formed.
-/

namespace Szamlazz

open FixedPoint Machine

namespace Number

/-! ## Exact arithmetic -/

/-- Drops trailing zeros, and makes the decimal. -/
def exactCoefficient (coefficient : ℤ) (scale : ℕ) : Option Decimal :=
  let stripped := strip 10 coefficient scale
  if Decimal.maxScale < stripped.2 then none
  else (Decimal.tryFromI128WithScale stripped.1 stripped.2).toOption

/-- Cancels powers of ten before multiplying; their factors can straddle the
operands. -/
def cancelTens (a b : ℤ) : ℕ → ℤ × ℤ × ℕ
  | 0 => (a, b, 0)
  | scale + 1 =>
    if a.tmod 10 = 0 then cancelTens (a.tdiv 10) b scale
    else if b.tmod 10 = 0 then cancelTens a (b.tdiv 10) scale
    else if a.tmod 2 = 0 ∧ b.tmod 5 = 0 then cancelTens (a.tdiv 2) (b.tdiv 5) scale
    else if a.tmod 5 = 0 ∧ b.tmod 2 = 0 then cancelTens (a.tdiv 5) (b.tdiv 2) scale
    else (a, b, scale + 1)

def exactMul (left right : Decimal) : Except Panic (Option Decimal) := do
  let left := left.normalize
  let right := right.normalize
  let scale ← unsigned 32 (left.scale + right.scale : ℕ)
  let (a, b, scale) := cancelTens left.signedMantissa right.signedMantissa scale
  return (checked 128 (a * b)).bind (fun product => exactCoefficient product scale)

def exactDiv100 (value : Decimal) : Except Panic (Option Decimal) := do
  let scale ← unsigned 32 (value.scale + 2 : ℕ)
  return exactCoefficient value.signedMantissa scale

/-- The coefficient at a scale that is large enough. -/
def alignTo (value : Decimal) (scale : ℕ) : Except Panic (Option ℤ) := do
  let places ← unsigned 32 (scale - value.scale)
  let power ← signed 128 (10 ^ places)
  return checked 128 (value.signedMantissa * power)

def exactAdd (left right : Decimal) : Except Panic (Option Decimal) := do
  let left := left.normalize
  let right := right.normalize
  let scale := max left.scale right.scale
  match ← alignTo left scale with
  | none => return none
  | some a =>
    match ← alignTo right scale with
    | none => return none
    | some b => return (checked 128 (a + b)).bind (fun sum => exactCoefficient sum scale)

/-! ### What they answer -/

theorem exactCoefficient_spec (c : ℤ) (s : ℕ) :
    Decimal.Exactly (number 10 c s) (exactCoefficient c s) := by
  rw [← strip_number (by decide) c s]
  have hreduced := strip_reduced 10 c s
  unfold exactCoefficient
  dsimp only
  split_ifs with hscale
  · intro hrep
    have hfits := (Format.representable_number_iff (F := Decimal.format) hreduced).mp hrep
    exact absurd hfits.2 (not_le.mpr hscale)
  · exact Decimal.exactly_tryFrom hreduced

/-- A reduced spelling beyond 96 bits is no decimal. -/
theorem not_representable_of_large {c : ℤ} {s : ℕ} (hreduced : Reduced 10 c s)
    (hlarge : 2 ^ 96 ≤ c.natAbs) : ¬ Decimal.Representable (number 10 c s) := by
  intro hrep
  have hfits := (Format.representable_number_iff (F := Decimal.format) hreduced).mp hrep
  exact absurd hfits.1 (not_lt.mpr hlarge)

/-- A reduced coefficient that does not fit its word has more than 96 bits. -/
theorem not_representable_of_not_signed {c : ℤ} {s : ℕ} (hreduced : Reduced 10 c s)
    (hc : ¬ Signed 128 c) : ¬ Decimal.Representable (number 10 c s) := by
  refine not_representable_of_large hreduced ?_
  by_contra hlt
  exact hc (signed_of_natAbs_lt (lt_trans (not_le.mp hlt) (by decide)))

/-- A coefficient that does not fit its word is refused rightly, if it is reduced. -/
theorem exactly_checked {c : ℤ} {s : ℕ} (hreduced : ¬ Signed 128 c → Reduced 10 c s) :
    Decimal.Exactly (number 10 c s)
      ((checked 128 c).bind (fun c => exactCoefficient c s)) := by
  by_cases hc : Signed 128 c
  · rw [checked_of hc]
    exact exactCoefficient_spec c s
  · rw [checked_of_not hc]
    exact not_representable_of_not_signed (hreduced hc) hc

/-- **The cancellation changes no product, and leaves a reduced one.** -/
theorem cancelTens_spec (a b : ℤ) (s : ℕ) :
    let r := cancelTens a b s
    number 10 (r.1 * r.2.1) r.2.2 = number 10 (a * b) s ∧ Reduced 10 (r.1 * r.2.1) r.2.2 := by
  -- One place less, when a ten is taken out of the product.
  have step : ∀ x y : ℤ, ∀ s : ℕ, x = y * 10 → number 10 y s = number 10 x (s + 1) := by
    rintro x y s rfl
    exact (number_mul_pow (b := 10) (by decide) y s 1).symm
  induction s generalizing a b with
  | zero => exact ⟨rfl, Or.inl rfl⟩
  | succ s ih =>
    dsimp only
    unfold cancelTens
    split_ifs with ha hb hab hba
    · obtain ⟨k, rfl⟩ := Int.dvd_of_tmod_eq_zero ha
      rw [Int.mul_tdiv_cancel_left _ (by decide)]
      exact ⟨(ih k b).1.trans (step _ _ s (by ring)), (ih k b).2⟩
    · obtain ⟨k, rfl⟩ := Int.dvd_of_tmod_eq_zero hb
      rw [Int.mul_tdiv_cancel_left _ (by decide)]
      exact ⟨(ih a k).1.trans (step _ _ s (by ring)), (ih a k).2⟩
    · obtain ⟨k, rfl⟩ := Int.dvd_of_tmod_eq_zero hab.1
      obtain ⟨l, rfl⟩ := Int.dvd_of_tmod_eq_zero hab.2
      rw [Int.mul_tdiv_cancel_left _ (by decide), Int.mul_tdiv_cancel_left _ (by decide)]
      exact ⟨(ih k l).1.trans (step _ _ s (by ring)), (ih k l).2⟩
    · obtain ⟨k, rfl⟩ := Int.dvd_of_tmod_eq_zero hba.1
      obtain ⟨l, rfl⟩ := Int.dvd_of_tmod_eq_zero hba.2
      rw [Int.mul_tdiv_cancel_left _ (by decide), Int.mul_tdiv_cancel_left _ (by decide)]
      exact ⟨(ih k l).1.trans (step _ _ s (by ring)), (ih k l).2⟩
    · refine ⟨rfl, Or.inr ?_⟩
      have h10 : ((10 : ℕ) : ℤ) = 2 * 5 := by norm_num
      rw [h10]
      have h5 : Prime (5 : ℤ) := Nat.prime_iff_prime_int.mp Nat.prime_five
      refine not_dvd_mul_of_cancelled Int.prime_two h5 ⟨-2, 1, by norm_num⟩ ?_ ?_ ?_ ?_
      · exact fun h => ha (Int.tmod_eq_zero_of_dvd h)
      · exact fun h => hb (Int.tmod_eq_zero_of_dvd h)
      · exact fun h => hab ⟨Int.tmod_eq_zero_of_dvd h.1, Int.tmod_eq_zero_of_dvd h.2⟩
      · exact fun h => hba ⟨Int.tmod_eq_zero_of_dvd h.1, Int.tmod_eq_zero_of_dvd h.2⟩

/-- The product of two decimals, its tens cancelled. -/
theorem cancelTens_normalize (left right : Decimal) :
    let r := cancelTens left.normalize.signedMantissa right.normalize.signedMantissa
      (left.normalize.scale + right.normalize.scale)
    number 10 (r.1 * r.2.1) r.2.2 = left.value * right.value ∧ Reduced 10 (r.1 * r.2.1) r.2.2 := by
  have hproduct : left.value * right.value
      = number 10 (left.normalize.signedMantissa * right.normalize.signedMantissa)
        (left.normalize.scale + right.normalize.scale) := by
    rw [← left.normalize_value, ← right.normalize_value]
    exact number_mul_number _ _ _ _
  rw [hproduct]
  exact cancelTens_spec _ _ _

/-- **The product, or nothing because it is no decimal.** -/
theorem exactMul_spec (left right : Decimal) :
    ∃ o, exactMul left right = .ok o ∧ Decimal.Exactly (left.value * right.value) o := by
  have hscale : left.normalize.scale + right.normalize.scale < 2 ^ 32 := by
    have hl := left.normalize.scale_le
    have hr := right.normalize.scale_le
    omega
  obtain ⟨hnumber, hreduced⟩ := cancelTens_normalize left right
  unfold exactMul
  dsimp only
  rw [unsigned_natCast hscale]
  refine ⟨_, rfl, ?_⟩
  rw [← hnumber]
  exact exactly_checked (fun _ => hreduced)

theorem exactDiv100_spec (value : Decimal) :
    ∃ o, exactDiv100 value = .ok o ∧ Decimal.Exactly (value.value / 100) o := by
  have hscale : value.scale + 2 < 2 ^ 32 := by
    have := value.scale_le
    omega
  unfold exactDiv100
  rw [unsigned_natCast hscale]
  refine ⟨_, rfl, ?_⟩
  have hdiv : value.value / 100 = number 10 value.signedMantissa (value.scale + 2) := by
    rw [← number_div_pow, Decimal.value]
    norm_num
  rw [hdiv]
  exact exactCoefficient_spec _ _

theorem alignTo_eq {value : Decimal} {scale : ℕ} (hle : value.scale ≤ scale) (h : scale ≤ 28) :
    alignTo value scale
      = .ok (checked 128 (value.signedMantissa * 10 ^ (scale - value.scale))) := by
  have hpow : Signed 128 (10 ^ (scale - value.scale)) := by
    have hlarge : (10 : ℕ) ^ 28 < 2 ^ (128 - 1) := by norm_num
    have hle' : (10 : ℕ) ^ (scale - value.scale) ≤ 10 ^ 28 :=
      Nat.pow_le_pow_right (by norm_num) (by omega)
    refine signed_of_natAbs_lt ?_
    rw [Int.natAbs_pow]
    exact lt_of_le_of_lt hle' hlarge
  have hplaces : unsigned 32 ((scale : ℤ) - value.scale) = .ok (scale - value.scale) :=
    unsigned_sub hle (by omega)
  rw [alignTo, hplaces, ok_bind, signed_of hpow, ok_bind]
  exact rfl

/-- Two normalised decimals, aligned at the larger of their scales. -/
theorem number_alignTo (d : Decimal) {scale : ℕ} (hle : d.normalize.scale ≤ scale) :
    number 10 (d.normalize.signedMantissa * 10 ^ (scale - d.normalize.scale)) scale = d.value := by
  rw [← d.normalize_value, Decimal.value]
  have h := number_mul_pow (b := 10) (by decide) d.normalize.signedMantissa d.normalize.scale
    (scale - d.normalize.scale)
  rw [Nat.add_sub_cancel' hle] at h
  exact_mod_cast h

/-- **An alignment that overflows aligns for a sum that is no decimal**: the operand
already at the common scale does not end in zero, so neither does the sum. -/
theorem not_representable_of_align {left right : Decimal}
    (hover : ¬ Signed 128 (left.normalize.signedMantissa
      * 10 ^ (max left.normalize.scale right.normalize.scale - left.normalize.scale))) :
    ¬ Decimal.Representable (left.value + right.value) := by
  have hlt : left.normalize.scale < right.normalize.scale := by
    by_contra hge
    rw [max_eq_left (not_lt.mp hge), Nat.sub_self, pow_zero, mul_one] at hover
    exact hover left.normalize.signed_signedMantissa
  rw [max_eq_right hlt.le] at hover
  rw [← number_alignTo left hlt.le, ← right.normalize_value, Decimal.value, number_add_number]
  refine not_representable_of_large (reduced_align hlt right.normalize_reduced) ?_
  have hfar := natAbs_le_natAbs_add_of_not_signed (z := right.normalize.signedMantissa) hover
  have hsmall : right.normalize.signedMantissa.natAbs < 2 ^ 96 := right.normalize.fits.1
  have hbits : (2 : ℕ) ^ (128 - 1) = 2 ^ 96 * 2 ^ 31 := by norm_num
  omega

/-- The sum of two aligned coefficients that does not fit its word is reduced. -/
theorem reduced_of_sum_not_signed {left right : Decimal} :
    let scale := max left.normalize.scale right.normalize.scale
    let sum := left.normalize.signedMantissa * 10 ^ (scale - left.normalize.scale)
      + right.normalize.signedMantissa * 10 ^ (scale - right.normalize.scale)
    ¬ Signed 128 sum → Reduced 10 sum scale := by
  dsimp only
  intro hover
  rcases lt_trichotomy left.normalize.scale right.normalize.scale with hlt | heq | hgt
  · rw [max_eq_right hlt.le, Nat.sub_self, pow_zero, mul_one]
    exact reduced_align hlt right.normalize_reduced
  · -- At one scale, two coefficients of 96 bits have a sum of 97.
    refine absurd (signed_of_natAbs_lt ?_) hover
    rw [heq, max_self, Nat.sub_self, pow_zero, mul_one, mul_one]
    have hl : left.normalize.signedMantissa.natAbs < 2 ^ 96 := left.normalize.fits.1
    have hr : right.normalize.signedMantissa.natAbs < 2 ^ 96 := right.normalize.fits.1
    omega
  · rw [max_eq_left hgt.le, Nat.sub_self, pow_zero, mul_one, add_comm]
    exact reduced_align hgt left.normalize_reduced

/-- **The sum, or nothing because it is no decimal.** -/
theorem exactAdd_spec (left right : Decimal) :
    ∃ o, exactAdd left right = .ok o ∧ Decimal.Exactly (left.value + right.value) o := by
  have hscale : max left.normalize.scale right.normalize.scale ≤ 28 :=
    max_le left.normalize.scale_le right.normalize.scale_le
  have hl := alignTo_eq (le_max_left left.normalize.scale right.normalize.scale) hscale
  have hr := alignTo_eq (le_max_right left.normalize.scale right.normalize.scale) hscale
  unfold exactAdd
  dsimp only
  rw [hl]
  by_cases ha : Signed 128 (left.normalize.signedMantissa
      * 10 ^ (max left.normalize.scale right.normalize.scale - left.normalize.scale))
  · rw [checked_of ha, hr]
    by_cases hb : Signed 128 (right.normalize.signedMantissa
        * 10 ^ (max left.normalize.scale right.normalize.scale - right.normalize.scale))
    · rw [checked_of hb]
      refine ⟨_, rfl, ?_⟩
      rw [← number_alignTo left (le_max_left _ _), ← number_alignTo right (le_max_right _ _),
        number_add_number]
      exact exactly_checked reduced_of_sum_not_signed
    · rw [checked_of_not hb]
      refine ⟨none, rfl, ?_⟩
      rw [max_comm] at hb
      rw [add_comm]
      exact not_representable_of_align hb
  · rw [checked_of_not ha]
    exact ⟨none, rfl, not_representable_of_align ha⟩

/-- **The exact operations refuse no decimal.** Each answers with a decimal exactly when
some decimal is the number, and then with that number; before a product is formed its
tens are cancelled as far as there are places, so that one beyond 128 bits is no decimal. -/
theorem exact_iff_representable (a b : Decimal) :
    (∃ o, exactMul a b = .ok o ∧ (o.isSome = true ↔ Decimal.Representable (a.value * b.value))
        ∧ ∀ r ∈ o, r.value = a.value * b.value)
      ∧ (∃ o, exactAdd a b = .ok o ∧ (o.isSome = true ↔ Decimal.Representable (a.value + b.value))
        ∧ ∀ r ∈ o, r.value = a.value + b.value)
      ∧ (∃ o, exactDiv100 a = .ok o ∧ (o.isSome = true ↔ Decimal.Representable (a.value / 100))
        ∧ ∀ r ∈ o, r.value = a.value / 100)
      ∧ let (p, q, scale) := cancelTens a.normalize.signedMantissa b.normalize.signedMantissa
          (a.normalize.scale + b.normalize.scale)
        number 10 (p * q) scale = a.value * b.value ∧ (scale = 0 ∨ ¬ (10 : ℤ) ∣ p * q)
          ∧ (checked 128 (p * q) = none → ¬ Decimal.Representable (a.value * b.value)) := by
  obtain ⟨product, hproduct, hmul⟩ := exactMul_spec a b
  obtain ⟨sum, hsum, hadd⟩ := exactAdd_spec a b
  obtain ⟨hundredth, hhundredth, hdiv⟩ := exactDiv100_spec a
  obtain ⟨hnumber, hreduced⟩ := cancelTens_normalize a b
  refine ⟨⟨product, hproduct, hmul.isSome_iff, hmul.value_eq⟩,
    ⟨sum, hsum, hadd.isSome_iff, hadd.value_eq⟩,
    ⟨hundredth, hhundredth, hdiv.isSome_iff, hdiv.value_eq⟩, hnumber, hreduced, fun hover => ?_⟩
  rw [← hnumber]
  refine not_representable_of_not_signed hreduced (fun hsigned => ?_)
  rw [checked_of hsigned] at hover
  cases hover

end Number

end Szamlazz
