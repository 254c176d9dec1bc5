import Szamlazz.Agent.Number

/-!
# The decimal library

The operations of the decimal library whose results the client takes as they
come – its rounding, its rescaling, its addition – are a parameter
(`RustDecimal`), with what their documentation promises (`LawfulRustDecimal`).
The promises leave room: an addition may round where no decimal is the sum, and a
rescaling may stop short of the scale it was asked for. `RustDecimal.exact` is a
library that keeps them and rounds nothing on its own.
-/

namespace Szamlazz

open FixedPoint Machine

/-- The operations of the decimal library the client takes as they come: the
addition that may round, the change of scale, and the rounding to places, half
away from zero. -/
class RustDecimal where
  checkedAdd : Decimal → Decimal → Option Decimal
  rescale : ℕ → Decimal → Decimal
  roundDpAwayFromZero : ℕ → Decimal → Decimal

/-- **What the library documents of them.** A sum is exact whenever it can be; a
larger scale is reached without changing the number, as far as there is room;
rounding is one rounding of the number. -/
class LawfulRustDecimal [RustDecimal] : Prop where
  checkedAdd_value : ∀ a b, Decimal.Representable (a.value + b.value) →
    ∃ d, RustDecimal.checkedAdd a b = some d ∧ d.value = a.value + b.value
  rescale_value : ∀ n d, d.scale ≤ n → (RustDecimal.rescale n d).value = d.value
  roundDpAwayFromZero_value : ∀ n d,
    (RustDecimal.roundDpAwayFromZero n d).value = roundAt 10 n d.value

namespace RustDecimal

/-- One place more, if there is room for it. -/
def addPlace (d : Decimal) : Decimal :=
  if h : 10 * d.mantissa < 2 ^ 96 ∧ d.scale + 1 ≤ 28 then
    ⟨d.negative, 10 * d.mantissa, d.scale + 1, h.1, h.2⟩
  else d

theorem addPlace_value (d : Decimal) : (addPlace d).value = d.value := by
  unfold addPlace
  split_ifs
  · have hstep := number_mul_pow (b := 10) (by decide) d.signedMantissa d.scale 1
    have hmantissa : (if d.negative then -((10 * d.mantissa : ℕ) : ℤ)
        else ((10 * d.mantissa : ℕ) : ℤ)) = d.signedMantissa * ((10 : ℕ) : ℤ) ^ 1 := by
      unfold Decimal.signedMantissa
      split_ifs <;> push_cast <;> ring
    rw [← hmantissa] at hstep
    exact hstep
  · rfl

theorem fits_dropPlaces {n : ℕ} {d : Decimal} (h : n < d.scale) :
    Decimal.format.Fits (roundHalfAway ((d.signedMantissa : ℚ) / ((10 ^ (d.scale - n) : ℕ) : ℚ))) n :=
  ⟨(natAbs_roundHalfAway_div_le _ (Nat.pow_pos (by decide))).trans_lt d.fits.1,
    h.le.trans d.scale_le⟩

/-- Fewer places, rounded half away from zero. -/
def dropPlaces (n : ℕ) (d : Decimal) (h : n < d.scale) : Decimal :=
  Decimal.ofSigned _ n (fits_dropPlaces h)

theorem dropPlaces_value {n : ℕ} {d : Decimal} (h : n < d.scale) :
    (dropPlaces n d h).value = roundAt 10 n d.value := by
  rw [dropPlaces, Decimal.value_ofSigned, Decimal.value, roundAt_number (by decide) h.le]

/-- **A library that rounds only when asked to.** -/
@[reducible] def exact : RustDecimal where
  checkedAdd a b := (Number.exactAdd a b).toOption.join
  rescale n d := if h : n < d.scale then dropPlaces n d h else addPlace^[n - d.scale] d
  roundDpAwayFromZero n d := if h : n < d.scale then dropPlaces n d h else d

/-- **It keeps the promises.** -/
theorem lawful_exact : @LawfulRustDecimal exact := by
  refine @LawfulRustDecimal.mk exact ?_ ?_ ?_
  · intro a b hrep
    obtain ⟨o, ho, hexactly⟩ := Number.exactAdd_spec a b
    obtain ⟨d, rfl⟩ := Option.isSome_iff_exists.mp (hexactly.isSome_iff.mpr hrep)
    exact ⟨d, by show (Number.exactAdd a b).toOption.join = some d; rw [ho]; rfl, hexactly⟩
  · intro n d hle
    show (if h : n < d.scale then dropPlaces n d h else addPlace^[n - d.scale] d).value = d.value
    rw [dif_neg (not_lt.mpr hle)]
    induction n - d.scale with
    | zero => rfl
    | succ k ih => rw [Function.iterate_succ_apply', addPlace_value, ih]
  · intro n d
    show (if h : n < d.scale then dropPlaces n d h else d).value = roundAt 10 n d.value
    split_ifs with h
    · exact dropPlaces_value h
    · exact (roundAt_of_isMultiple (by decide) (isMultiple_number (by decide) (not_lt.mp h))).symm

end RustDecimal

end Szamlazz
