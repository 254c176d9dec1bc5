import Szamlazz.Agent.Item
import Szamlazz.Contract.Document

/-!
# Amounts of a document

What one row amounts to, and what the rows of a document amount to together. A
row either leaves its amounts to be calculated or asserts them; asserted amounts
are compared in integers of 128 bits, as whole minor units, against one rounding
of an exact ratio. Those integers can overflow, which is refused as such: it is
never an acceptance, and never the complaint that two amounts differ.

`verdict` is the same judgement of asserted amounts on rational numbers, check by
check, with the overflows where they are met; `explicitItem_eq` says that the code
passes it. The totals of a document are folds of an addition that the decimal
library may round, and are believed only after they were recomputed.
-/

namespace Szamlazz

open FixedPoint Machine

/-! ## Refusals -/

/-- Why the monetary content of a document is refused. -/
inductive MonetaryError where
  | arithmetic (error : ArithmeticError)
  | unrepresentable
  | unsupportedCurrency
  | unsupportedVatRate
  | noItems
  | totalsMismatch
  | amountPrecision
  | zeroQuantity
  | grossMismatch
  | netMismatch
  | vatMismatch
  /-- The row at a position, for a reason of its own. -/
  | item (index : ℕ) (source : MonetaryError)
deriving DecidableEq

def MonetaryError.display : MonetaryError → String
  | arithmetic error => error.display
  | unrepresentable => "monetary arithmetic is not exactly representable"
  | unsupportedCurrency => "explicit amounts support HUF/Ft and EUR only"
  | unsupportedVatRate =>
    "explicit amounts require a percentage in 0..=100 or a supported zero-VAT code"
  | noItems => "at least one line item is required"
  | totalsMismatch => "expected_totals differ from submitted line totals"
  | amountPrecision => "explicit amounts must already be rounded to the currency minor unit"
  | zeroQuantity => "explicit amounts require nonzero quantity"
  | grossMismatch => "amounts.gross must equal amounts.net + amounts.vat"
  | netMismatch => "amounts.net must equal rounded unit_price * quantity"
  | vatMismatch => "amounts.vat must follow net-first or gross-first rounding"
  | item index source => "items[" ++ toString index ++ "]: " ++ source.display

/-! ## Ratios of integers -/

namespace Money

def pow10 (scale : ℕ) : Except MonetaryError ℤ := okOr (checked 128 (10 ^ scale)) .unrepresentable

/-- One rounding of an exact ratio. -/
def roundedRatio (numerator denominator : ℤ) : Except MonetaryError ℤ :=
  let quotient := numerator.tdiv denominator
  let remainder := (numerator.tmod denominator).natAbs
  if remainder ≥ (denominator.natAbs + 1) / 2 then
    okOr (checked 128 (quotient + numerator.sign)) .unrepresentable
  else .ok quotient

def rescaleRound (coefficient : ℤ) (source target : ℕ) : Except MonetaryError ℤ :=
  if target < source then do
    roundedRatio coefficient (← pow10 (source - target))
  else do
    okOr (checked 128 (coefficient * (← pow10 (target - source)))) .unrepresentable

/-- An amount in minor units. -/
def units (value : Decimal) (scale : ℕ) : Except MonetaryError ℤ :=
  let value := value.normalize
  if scale < value.scale then .error .amountPrecision
  else do
    okOr (checked 128 (value.signedMantissa * (← pow10 (scale - value.scale)))) .unrepresentable

end Money

namespace Money

/-- Up to 38 places a power of ten is one of the integers. -/
theorem signed_pow10 {k : ℕ} (hk : k ≤ 38) : Signed 128 (10 ^ k) := by
  have hlarge : (10 : ℕ) ^ 38 < 2 ^ (128 - 1) := by norm_num
  refine signed_of_natAbs_lt ?_
  rw [Int.natAbs_pow]
  exact lt_of_le_of_lt (Nat.pow_le_pow_right (by norm_num) hk) hlarge

theorem pow10_of_signed {k : ℕ} (h : Signed 128 (10 ^ k)) : pow10 k = .ok (10 ^ k) := by
  rw [pow10, checked_of h, okOr_some]

theorem pow10_of_not_signed {k : ℕ} (h : ¬ Signed 128 (10 ^ k)) :
    pow10 k = .error .unrepresentable := by
  rw [pow10, checked_of_not h, okOr_none]

/-- **A ratio is rounded once**, and never overflows. -/
theorem roundedRatio_eq {n d : ℤ} (hn : Signed 128 n) (hd : 1 < d) :
    roundedRatio n d = .ok (roundHalfAway ((n : ℚ) / (d : ℚ))) := by
  rw [roundHalfAway_div n d (by omega)]
  unfold roundedRatio
  dsimp only
  split_ifs with hup
  · have hquotient : 2 * (n.tdiv d).natAbs ≤ n.natAbs := by
      rw [Int.natAbs_tdiv]
      have hd' : 2 ≤ d.natAbs := by omega
      calc 2 * (n.natAbs / d.natAbs) ≤ d.natAbs * (n.natAbs / d.natAbs) := Nat.mul_le_mul_right _ hd'
        _ ≤ n.natAbs := Nat.mul_div_le _ _
    have hsign : n.sign.natAbs ≤ 1 := by
      rw [Int.natAbs_sign]
      split_ifs <;> omega
    have hword : n.natAbs ≤ 2 ^ 127 := by
      obtain ⟨hlow, hhigh⟩ := hn
      have hlow' : -(2 : ℤ) ^ 127 ≤ n := hlow
      have hhigh' : n < (2 : ℤ) ^ 127 := hhigh
      norm_num at hlow' hhigh' ⊢
      omega
    have hsum : Signed 128 (n.tdiv d + n.sign) := by
      refine signed_of_natAbs_lt ?_
      have htriangle := Int.natAbs_add_le (n.tdiv d) n.sign
      norm_num at hword ⊢
      omega
    rw [checked_of hsum, okOr_some]
  · rfl

/-- Whether a coefficient can be brought to a scale within 128 bits. -/
def RescaleFits (coefficient : ℤ) (source target : ℕ) : Prop :=
  if target < source then Signed 128 (10 ^ (source - target))
  else Signed 128 (10 ^ (target - source)) ∧ Signed 128 (coefficient * 10 ^ (target - source))

/-- **Rescaling rounds a number once**, if its integers fit. -/
theorem rescaleRound_eq {c : ℤ} {s t : ℕ} (hc : Signed 128 c) (h : RescaleFits c s t) :
    rescaleRound c s t = .ok (roundHalfAway (number 10 c s * (10 : ℚ) ^ t)) := by
  unfold RescaleFits at h
  unfold rescaleRound
  split_ifs at h ⊢ with hst
  · have hpow : (1 : ℤ) < 10 ^ (s - t) := one_lt_pow₀ (by norm_num) (by omega)
    rw [pow10_of_signed h, ok_bind, roundedRatio_eq hc hpow]
    congr 2
    have hsplit : (10 : ℚ) ^ s = 10 ^ (s - t) * 10 ^ t := by
      rw [← pow_add, Nat.sub_add_cancel hst.le]
    rw [number]
    push_cast
    rw [hsplit]
    field_simp
  · have hts : s ≤ t := not_lt.mp hst
    have hmul := number_mul_pow (b := 10) (by decide) c s (t - s)
    rw [Nat.add_sub_cancel' hts] at hmul
    rw [pow10_of_signed h.1, ok_bind, checked_of h.2, okOr_some, ← hmul]
    have hcancel := number_mul_cancel (b := 10) (by decide) (c * ((10 : ℕ) : ℤ) ^ (t - s)) t
    push_cast at hcancel ⊢
    have hcast : (c : ℚ) * 10 ^ (t - s) = ((c * 10 ^ (t - s) : ℤ) : ℚ) := by push_cast; rfl
    rw [hcancel, hcast, roundHalfAway_intCast]

theorem rescaleRound_of_not_fits {c : ℤ} {s t : ℕ} (h : ¬ RescaleFits c s t) :
    rescaleRound c s t = .error .unrepresentable := by
  unfold RescaleFits at h
  unfold rescaleRound
  split_ifs at h ⊢ with hst
  · rw [pow10_of_not_signed h, error_bind]
  · by_cases hpow : Signed 128 (10 ^ (t - s))
    · rw [pow10_of_signed hpow, ok_bind, checked_of_not (fun hmul => h ⟨hpow, hmul⟩), okOr_none]
    · rw [pow10_of_not_signed hpow, error_bind]

/-- **An amount is a whole number of minor units**, or is refused. -/
theorem units_spec (d : Decimal) {scale : ℕ} (hscale : scale ≤ 2) :
    (IsMultiple 10 scale d.value ∧ ∃ z, units d scale = .ok z ∧ number 10 z scale = d.value
        ∧ z.natAbs < 2 ^ 96 * 100)
      ∨ (¬ IsMultiple 10 scale d.value ∧ units d scale = .error .amountPrecision) := by
  have hmultiple : IsMultiple 10 scale d.value ↔ d.normalize.scale ≤ scale := by
    rw [← d.normalize_value]
    exact isMultiple_number_iff (by decide) d.normalize_reduced
  unfold units
  dsimp only
  by_cases h : d.normalize.scale ≤ scale
  · have hpow : Signed 128 (10 ^ (scale - d.normalize.scale)) := signed_pow10 (by omega)
    have hlarge : (d.normalize.signedMantissa * 10 ^ (scale - d.normalize.scale)).natAbs
        < 2 ^ 96 * 100 := by
      have hmantissa : d.normalize.signedMantissa.natAbs < 2 ^ 96 := d.normalize.fits.1
      have hhundred : 10 ^ (scale - d.normalize.scale) ≤ 10 ^ 2 :=
        Nat.pow_le_pow_right (by norm_num) (by omega)
      rw [Int.natAbs_mul, Int.natAbs_pow]
      exact Nat.mul_lt_mul_of_lt_of_le hmantissa hhundred (by norm_num)
    have hfits : Signed 128 (d.normalize.signedMantissa * 10 ^ (scale - d.normalize.scale)) :=
      signed_of_natAbs_lt (hlarge.trans (by norm_num))
    refine Or.inl ⟨hmultiple.mpr h, _, ?_, Number.number_alignTo d h, hlarge⟩
    rw [if_neg (not_lt.mpr h), pow10_of_signed hpow, ok_bind, checked_of hfits, okOr_some]
  · exact Or.inr ⟨fun hm => h (hmultiple.mp hm), if_pos (not_le.mp h)⟩

end Money

/-! ## A row with asserted amounts -/

/-- The currencies whose amounts can be asserted, by the places of their minor unit. -/
def explicitScale (currency : Currency) : Except MonetaryError ℕ :=
  if currency.isHuf then .ok 0
  else if currency.code = "EUR" then .ok 2
  else .error .unsupportedCurrency

/-- The rates that can be asserted: a percentage, or a code of no VAT. -/
def explicitRate : VatRate → Except MonetaryError Decimal
  | .percent rate =>
    if Decimal.zero.le rate && rate.le Decimal.oneHundred then .ok rate.normalize
    else .error .unsupportedVatRate
  | .aam | .tam | .tahk | .atk | .eut | .eukt | .fAfa | .ho | .eue | .eufade | .eufad37 | .nam
  | .eam | .kbauk | .kbaet => .ok Decimal.zero
  | _ => .error .unsupportedVatRate

/-- The two conventions of an asserted VAT, net first and gross first. -/
def vatUnits (net gross : ℤ) (rate : Decimal) : Except MonetaryError (ℤ × ℤ) := do
  let power ← Money.pow10 rate.scale
  let hundred ← okOr (checked 128 (power * 100)) .unrepresentable
  let percent := rate.signedMantissa
  let netProduct ← okOr (checked 128 (net * percent)) .unrepresentable
  let netVat ← Money.roundedRatio netProduct hundred
  let grossProduct ← okOr (checked 128 (gross * percent)) .unrepresentable
  let grossHundred ← okOr (checked 128 (hundred + percent)) .unrepresentable
  let grossVat ← Money.roundedRatio grossProduct grossHundred
  return (netVat, grossVat)

section Rows

variable [RustDecimal]

namespace LineItemInput

/-- The rate as the client's open set of rates has it. -/
def rate (input : LineItemInput) : VatRate := VatRate.ofStr input.vatRate

/-- The row as it is sent, with these amounts. -/
def withAmounts (input : LineItemInput) (amounts : Amounts) : LineItem :=
  { LineItem.new input.name input.quantity input.unit input.unitPrice input.rate amounts.net
      amounts.vat amounts.gross with
    id := input.id
    comment := input.comment }

end LineItemInput

/-- A row whose amounts are asserted. -/
def explicitItem (input : LineItemInput) (amounts : Amounts) (currency : Currency) :
    Except MonetaryError LineItem := do
  let scale ← explicitScale currency
  let net ← Money.units amounts.net scale
  let vat ← Money.units amounts.vat scale
  let gross ← Money.units amounts.gross scale
  let sum ← okOr (checked 128 (net + vat)) .unrepresentable
  if sum ≠ gross then .error .grossMismatch
  else if input.quantity.isZero then .error .zeroQuantity
  else
    let price := input.unitPrice.normalize
    let quantity := input.quantity.normalize
    let product ← okOr (checked 128 (price.signedMantissa * quantity.signedMantissa)) .unrepresentable
    let netUnits ← Money.rescaleRound product (price.scale + quantity.scale) scale
    if netUnits ≠ net then .error .netMismatch
    else
      let rate ← explicitRate input.rate
      let (netVat, grossVat) ← vatUnits net gross rate
      if vat ≠ netVat ∧ vat ≠ grossVat then .error .vatMismatch
      else .ok (input.withAmounts amounts)

/-- A row as it is sent, with its amounts checked or calculated. -/
def LineItemInput.toLineItem (input : LineItemInput) (currency : Currency) :
    Except MonetaryError LineItem :=
  match input.amounts with
  | some amounts => explicitItem input amounts currency
  | none =>
    ((LineItem.tryCalculated input.name input.quantity input.unit input.unitPrice input.rate
      (Rounding.minorUnit currency)).mapError .arithmetic).map
        (fun item => { item with id := input.id, comment := input.comment })

end Rows

/-! ## The judgement on numbers -/

/-- The codes of no VAT that can be asserted. -/
def zeroVatCodes : List VatRate :=
  [.aam, .tam, .tahk, .atk, .eut, .eukt, .fAfa, .ho, .eue, .eufade, .eufad37, .nam, .eam, .kbauk,
    .kbaet]

/-- The percentage an asserted VAT is computed with. -/
def assertableRate : VatRate → Option ℚ
  | .percent rate => if 0 ≤ rate.value ∧ rate.value ≤ 100 then some rate.value else none
  | rate => if rate ∈ zeroVatCodes then some 0 else none

/-- Whether the integers of the net value fit. -/
def NetFits (input : LineItemInput) (scale : ℕ) : Prop :=
  let price := input.unitPrice.normalize
  let quantity := input.quantity.normalize
  Signed 128 (price.signedMantissa * quantity.signedMantissa)
    ∧ Money.RescaleFits (price.signedMantissa * quantity.signedMantissa)
        (price.scale + quantity.scale) scale

/-- Whether the integers of the VAT values fit: the minor units of net and gross, times
the digits of the percentage. -/
def VatFits (amounts : Amounts) (scale : ℕ) (rate : VatRate) : Prop :=
  ∀ d, explicitRate rate = .ok d → ∀ z,
    number 10 z scale = amounts.net.value ∨ number 10 z scale = amounts.gross.value →
      Signed 128 (z * d.signedMantissa)

/-- **The amounts agree** with the row, at so many places and this percentage: one
rounding of one exact product each. -/
structure Consistent (input : LineItemInput) (amounts : Amounts) (scale : ℕ) (rate : ℚ) : Prop where
  net_multiple : IsMultiple 10 scale amounts.net.value
  vat_multiple : IsMultiple 10 scale amounts.vat.value
  gross_multiple : IsMultiple 10 scale amounts.gross.value
  gross_eq : amounts.gross.value = amounts.net.value + amounts.vat.value
  quantity_ne : input.quantity.value ≠ 0
  net_eq : amounts.net.value = roundAt 10 scale (input.unitPrice.value * input.quantity.value)
  vat_eq : amounts.vat.value = roundAt 10 scale (amounts.net.value * rate / 100)
    ∨ amounts.vat.value = roundAt 10 scale (amounts.gross.value * rate / (100 + rate))

open scoped Classical in
/-- **The judgement**, check by check: the first one that fails, and in its place the
integers that do not fit. -/
noncomputable def verdict (input : LineItemInput) (amounts : Amounts) (currency : Currency)
    (vatRate : VatRate) : Except MonetaryError Unit :=
  match explicitScale currency with
  | .error e => .error e
  | .ok scale =>
    if ¬ (IsMultiple 10 scale amounts.net.value ∧ IsMultiple 10 scale amounts.vat.value
        ∧ IsMultiple 10 scale amounts.gross.value) then .error .amountPrecision
    else if amounts.net.value + amounts.vat.value ≠ amounts.gross.value then .error .grossMismatch
    else if input.quantity.value = 0 then .error .zeroQuantity
    else if ¬ NetFits input scale then .error .unrepresentable
    else if roundAt 10 scale (input.unitPrice.value * input.quantity.value) ≠ amounts.net.value then
      .error .netMismatch
    else
      match assertableRate vatRate with
      | none => .error .unsupportedVatRate
      | some rate =>
        if ¬ VatFits amounts scale vatRate then .error .unrepresentable
        else if amounts.vat.value ≠ roundAt 10 scale (amounts.net.value * rate / 100)
            ∧ amounts.vat.value ≠ roundAt 10 scale (amounts.gross.value * rate / (100 + rate)) then
          .error .vatMismatch
        else .ok ()

theorem assertableRate_other (code : String) : assertableRate (.other code) = none := by
  show (if VatRate.other code ∈ zeroVatCodes then some 0 else none) = none
  exact if_neg (by simp [zeroVatCodes])

/-- The rate that is computed with is the assertable one. -/
theorem explicitRate_spec (vatRate : VatRate) :
    (assertableRate vatRate = none ∧ explicitRate vatRate = .error .unsupportedVatRate)
      ∨ ∃ rate d, assertableRate vatRate = some rate ∧ explicitRate vatRate = .ok d
          ∧ d.value = rate ∧ 0 ≤ rate ∧ rate ≤ 100 := by
  cases vatRate with
  | percent rate =>
    have hle : (Decimal.zero.le rate && rate.le Decimal.oneHundred) = true
        ↔ 0 ≤ rate.value ∧ rate.value ≤ 100 := by
      rw [Bool.and_eq_true, Decimal.le, Decimal.le, decide_eq_true_eq, decide_eq_true_eq,
        Decimal.value_zero, Decimal.value_oneHundred]
    unfold assertableRate explicitRate
    dsimp only
    by_cases h : 0 ≤ rate.value ∧ rate.value ≤ 100
    · refine Or.inr ⟨rate.value, rate.normalize, if_pos h, if_pos (hle.mpr h),
        rate.normalize_value, h.1, h.2⟩
    · exact Or.inl ⟨if_neg h, if_neg (fun hp => h (hle.mp hp))⟩
  | other code => exact Or.inl ⟨assertableRate_other code, rfl⟩
  | kAfa => exact Or.inl ⟨rfl, rfl⟩
  | akk => exact Or.inl ⟨rfl, rfl⟩
  | eu => exact Or.inl ⟨rfl, rfl⟩
  | euk => exact Or.inl ⟨rfl, rfl⟩
  | maa => exact Or.inl ⟨rfl, rfl⟩
  | _ => exact Or.inr ⟨0, Decimal.zero, rfl, rfl, Decimal.value_zero, le_rfl, by norm_num⟩

/-- The rounded VAT at so many places, from minor units and the digits of the rate. -/
theorem roundHalfAway_units {z : ℤ} {scale : ℕ} {q r : ℚ} (hz : number 10 z scale = q) :
    number 10 (roundHalfAway ((z : ℚ) * r)) scale = roundAt 10 scale (q * r) := by
  have hcancel := number_mul_cancel (b := 10) (by decide) z scale
  rw [roundAt, ← hz, mul_right_comm, hcancel]

section Vat

variable {d : Decimal}

/-- The hundred that goes with the digits of a rate. -/
theorem signed_hundred (d : Decimal) : Signed 128 (10 ^ d.scale) ∧ Signed 128 (10 ^ d.scale * 100) := by
  have hle := d.scale_le
  have h := Money.signed_pow10 (k := d.scale + 2) (by omega)
  rw [pow_add] at h
  exact ⟨Money.signed_pow10 (by omega), by exact_mod_cast h⟩

theorem one_lt_hundred (d : Decimal) : (1 : ℤ) < 10 ^ d.scale * 100 := by
  have hpos : (0 : ℤ) < 10 ^ d.scale := by positivity
  omega

theorem signedMantissa_nonneg (h : 0 ≤ d.value) : 0 ≤ d.signedMantissa := by
  by_contra hneg
  have hpow : (0 : ℚ) < ((10 : ℕ) : ℚ) ^ d.scale := by positivity
  have hc : (d.signedMantissa : ℚ) < 0 := by exact_mod_cast not_le.mp hneg
  exact absurd h (not_le.mpr (div_neg_of_neg_of_pos hc hpow))

theorem grossHundred_eq (d : Decimal) (h : 0 ≤ d.value) :
    Signed 128 (10 ^ d.scale * 100 + d.signedMantissa)
      ∧ 1 < 10 ^ d.scale * 100 + d.signedMantissa := by
  have hnonneg := signedMantissa_nonneg h
  have hmantissa : d.signedMantissa.natAbs < 2 ^ 96 := d.fits.1
  have hle := d.scale_le
  have hpow : (10 : ℕ) ^ d.scale ≤ 10 ^ 28 := Nat.pow_le_pow_right (by norm_num) hle
  have hpow' : (10 : ℤ) ^ d.scale ≤ 10 ^ 28 := by exact_mod_cast hpow
  have hone := one_lt_hundred d
  refine ⟨signed_of_natAbs_lt ?_, by omega⟩
  norm_num at hpow' hmantissa ⊢
  omega

/-- The digits of a rate over the hundred that goes with them. -/
theorem ratio_net (z : ℤ) (d : Decimal) :
    ((z * d.signedMantissa : ℤ) : ℚ) / ((10 ^ d.scale * 100 : ℤ) : ℚ) = z * (d.value / 100) := by
  have hpow : (10 : ℚ) ^ d.scale ≠ 0 := by positivity
  rw [Decimal.value, number]
  push_cast
  field_simp

theorem ratio_gross (z : ℤ) (d : Decimal) (h : 0 ≤ d.value) :
    ((z * d.signedMantissa : ℤ) : ℚ) / ((10 ^ d.scale * 100 + d.signedMantissa : ℤ) : ℚ)
      = z * (d.value / (100 + d.value)) := by
  have hpow : (10 : ℚ) ^ d.scale ≠ 0 := by positivity
  have hsum : (100 : ℚ) + d.value ≠ 0 := by positivity
  have hvalue : (d.signedMantissa : ℚ) = d.value * 10 ^ d.scale := by
    rw [Decimal.value, number]
    push_cast
    field_simp
  have hsplit : (10 : ℚ) ^ d.scale * 100 + d.value * 10 ^ d.scale
      = 10 ^ d.scale * (100 + d.value) := by ring
  push_cast
  rw [hvalue, hsplit]
  field_simp

/-- **The VAT of both conventions**, each rounded once, if its product fits. -/
theorem vatUnits_spec {net gross : ℤ} (h : 0 ≤ d.value) :
    (Signed 128 (net * d.signedMantissa) ∧ Signed 128 (gross * d.signedMantissa)
        ∧ vatUnits net gross d
          = .ok (roundHalfAway ((net : ℚ) * (d.value / 100)),
              roundHalfAway ((gross : ℚ) * (d.value / (100 + d.value)))))
      ∨ (¬ (Signed 128 (net * d.signedMantissa) ∧ Signed 128 (gross * d.signedMantissa))
        ∧ vatUnits net gross d = .error .unrepresentable) := by
  obtain ⟨hpow, hhundred⟩ := signed_hundred d
  obtain ⟨hsum, hone⟩ := grossHundred_eq d h
  unfold vatUnits
  rw [Money.pow10_of_signed hpow, ok_bind, checked_of hhundred, okOr_some, ok_bind]
  dsimp only
  by_cases hnet : Signed 128 (net * d.signedMantissa)
  · rw [checked_of hnet, okOr_some, ok_bind, Money.roundedRatio_eq hnet (one_lt_hundred d), ok_bind]
    by_cases hgross : Signed 128 (gross * d.signedMantissa)
    · rw [checked_of hgross, okOr_some, ok_bind, checked_of hsum, okOr_some, ok_bind,
        Money.roundedRatio_eq hgross hone, ok_bind, ratio_net, ratio_gross gross d h]
      exact Or.inl ⟨hnet, hgross, rfl⟩
    · rw [checked_of_not hgross, okOr_none, error_bind]
      exact Or.inr ⟨fun hboth => hgross hboth.2, rfl⟩
  · rw [checked_of_not hnet, okOr_none, error_bind]
    exact Or.inr ⟨fun hboth => hnet hboth.1, rfl⟩

end Vat

section Explicit

variable [RustDecimal]

omit [RustDecimal] in
theorem explicitScale_le {currency : Currency} {scale : ℕ} (h : explicitScale currency = .ok scale) :
    scale ≤ 2 := by
  unfold explicitScale at h
  split_ifs at h
  · rw [← Except.ok.inj h]
    exact Nat.zero_le _
  · exact (Except.ok.inj h).ge

/-- The judgement, as far as it depends on the rate. -/
theorem explicitVat_eq (input : LineItemInput) (amounts : Amounts) {scale : ℕ} {net vat gross : ℤ}
    (vatRate : VatRate) (hnet : number 10 net scale = amounts.net.value)
    (hvat : number 10 vat scale = amounts.vat.value)
    (hgross : number 10 gross scale = amounts.gross.value) :
    (do
      let rate ← explicitRate vatRate
      let (netVat, grossVat) ← vatUnits net gross rate
      if vat ≠ netVat ∧ vat ≠ grossVat then Except.error MonetaryError.vatMismatch
      else .ok (input.withAmounts amounts))
      = (match assertableRate vatRate with
        | none => Except.error MonetaryError.unsupportedVatRate
        | some rate =>
          open scoped Classical in
          if ¬ VatFits amounts scale vatRate then .error .unrepresentable
          else if amounts.vat.value ≠ roundAt 10 scale (amounts.net.value * rate / 100)
              ∧ amounts.vat.value ≠ roundAt 10 scale (amounts.gross.value * rate / (100 + rate)) then
            .error .vatMismatch
          else .ok ()).map (fun _ => input.withAmounts amounts) := by
  obtain ⟨hnone, herror⟩ | ⟨rate, d, hsome, hok, hvalue, hnonneg, -⟩ := explicitRate_spec vatRate
  · rw [hnone, herror]
    rfl
  · rw [hsome, hok, ok_bind]
    subst hvalue
    have hfits : VatFits amounts scale vatRate
        ↔ Signed 128 (net * d.signedMantissa) ∧ Signed 128 (gross * d.signedMantissa) := by
      constructor
      · intro h
        exact ⟨h d hok net (Or.inl hnet), h d hok gross (Or.inr hgross)⟩
      · rintro ⟨hn, hg⟩ d' hd' z hz
        obtain rfl := Except.ok.inj (hok.symm.trans hd')
        obtain hz | hz := hz
        · rw [number_injective (by decide) (hz.trans hnet.symm)]
          exact hn
        · rw [number_injective (by decide) (hz.trans hgross.symm)]
          exact hg
    -- both conventions compare units with what a rounded amount has of them
    have hconvention : ∀ {z : ℤ} {q r : ℚ}, number 10 z scale = q →
        (vat = roundHalfAway ((z : ℚ) * r) ↔ amounts.vat.value = roundAt 10 scale (q * r)) := by
      intro z q r hz
      rw [← roundHalfAway_units hz, ← hvat]
      exact ⟨congrArg (fun c => number 10 c scale), number_injective (by decide)⟩
    obtain ⟨hn, hg, hunits⟩ | ⟨hnot, hunits⟩ := @vatUnits_spec d net gross hnonneg
    · rw [hunits, ok_bind]
      dsimp only
      have hneither := and_congr (not_congr (hconvention (r := d.value / 100) hnet))
        (not_congr (hconvention (r := d.value / (100 + d.value)) hgross))
      rw [if_neg (not_not.mpr (hfits.mpr ⟨hn, hg⟩)), mul_div_assoc, mul_div_assoc]
      by_cases hvatNeither : vat ≠ roundHalfAway ((net : ℚ) * (d.value / 100))
          ∧ vat ≠ roundHalfAway ((gross : ℚ) * (d.value / (100 + d.value)))
      · rw [if_pos hvatNeither, if_pos (hneither.mp hvatNeither)]
        rfl
      · rw [if_neg hvatNeither, if_neg (fun h => hvatNeither (hneither.mpr h))]
        rfl
    · rw [hunits, error_bind]
      dsimp only
      rw [if_pos (fun h => hnot (hfits.mp h))]
      rfl

/-- **The code passes the judgement on numbers**: it accepts and refuses what the
judgement does, with the same check, and sends the amounts as they were asserted. -/
theorem explicitItem_eq (input : LineItemInput) (amounts : Amounts) (currency : Currency) :
    explicitItem input amounts currency
      = (verdict input amounts currency input.rate).map (fun _ => input.withAmounts amounts) := by
  unfold explicitItem verdict
  cases hcurrency : explicitScale currency with
  | error e => rfl
  | ok scale =>
    have hscale := explicitScale_le hcurrency
    rw [ok_bind]
    dsimp only
    -- each amount has to be a whole number of units, in the order the code checks them
    obtain ⟨hnet, net, hnetUnits, hnetValue, hnetSmall⟩ | ⟨hnet, hunits⟩ :=
      Money.units_spec amounts.net hscale
    swap
    · rw [hunits, error_bind, if_pos (fun h => hnet h.1)]
      rfl
    obtain ⟨hvat, vat, hvatUnits, hvatValue, hvatSmall⟩ | ⟨hvat, hunits⟩ :=
      Money.units_spec amounts.vat hscale
    swap
    · rw [hnetUnits, ok_bind, hunits, error_bind, if_pos (fun h => hvat h.2.1)]
      rfl
    obtain ⟨hgross, gross, hgrossUnits, hgrossValue, -⟩ | ⟨hgross, hunits⟩ :=
      Money.units_spec amounts.gross hscale
    swap
    · rw [hnetUnits, ok_bind, hvatUnits, ok_bind, hunits, error_bind,
        if_pos (fun h => hgross h.2.2)]
      rfl
    -- units are too small for the sum to overflow
    have hsum : Signed 128 (net + vat) := by
      refine signed_of_natAbs_lt ?_
      norm_num at hnetSmall hvatSmall ⊢
      omega
    have hgrossIff : net + vat ≠ gross ↔ amounts.net.value + amounts.vat.value ≠ amounts.gross.value := by
      rw [← hnetValue, ← hvatValue, ← hgrossValue, number_add_number]
      exact not_congr ⟨congrArg (fun c => number 10 c scale), number_injective (by decide)⟩
    have hzero : input.quantity.isZero = true ↔ input.quantity.value = 0 := Decimal.isZero_iff
    have hmultiple : ¬ ¬ (IsMultiple 10 scale amounts.net.value ∧ IsMultiple 10 scale amounts.vat.value
        ∧ IsMultiple 10 scale amounts.gross.value) := not_not.mpr ⟨hnet, hvat, hgross⟩
    rw [hnetUnits, ok_bind, hvatUnits, ok_bind, hgrossUnits, ok_bind, checked_of hsum, okOr_some,
      ok_bind, if_neg hmultiple]
    by_cases hmismatch : net + vat ≠ gross
    · rw [if_pos hmismatch, if_pos (hgrossIff.mp hmismatch)]
      rfl
    rw [if_neg hmismatch, if_neg (fun h => hmismatch (hgrossIff.mpr h))]
    by_cases hquantity : input.quantity.isZero = true
    · rw [if_pos hquantity, if_pos (hzero.mp hquantity)]
      rfl
    rw [if_neg hquantity, if_neg (fun h => hquantity (hzero.mpr h))]
    -- the product is computed from the normalised mantissas, and may overflow
    by_cases hproduct : Signed 128 (input.unitPrice.normalize.signedMantissa
        * input.quantity.normalize.signedMantissa)
    swap
    · rw [checked_of_not hproduct, okOr_none, error_bind, if_pos (fun h => hproduct h.1)]
      rfl
    rw [checked_of hproduct, okOr_some, ok_bind]
    by_cases hrescale : Money.RescaleFits (input.unitPrice.normalize.signedMantissa
        * input.quantity.normalize.signedMantissa)
        (input.unitPrice.normalize.scale + input.quantity.normalize.scale) scale
    swap
    · rw [Money.rescaleRound_of_not_fits hrescale, error_bind, if_pos (fun h => hrescale h.2)]
      rfl
    have hproductValue : number 10 (input.unitPrice.normalize.signedMantissa
        * input.quantity.normalize.signedMantissa)
        (input.unitPrice.normalize.scale + input.quantity.normalize.scale)
        = input.unitPrice.value * input.quantity.value := by
      rw [← number_mul_number, ← input.unitPrice.normalize_value, ← input.quantity.normalize_value]
      rfl
    have hfits : ¬ ¬ NetFits input scale := not_not.mpr ⟨hproduct, hrescale⟩
    have hnetIff : roundHalfAway (input.unitPrice.value * input.quantity.value * (10 : ℚ) ^ scale) ≠ net
        ↔ roundAt 10 scale (input.unitPrice.value * input.quantity.value) ≠ amounts.net.value := by
      rw [← hnetValue]
      exact not_congr ⟨congrArg (fun c => number 10 c scale), number_injective (by decide)⟩
    rw [Money.rescaleRound_eq hproduct hrescale, hproductValue, ok_bind, if_neg hfits]
    by_cases hne : roundHalfAway (input.unitPrice.value * input.quantity.value * (10 : ℚ) ^ scale) ≠ net
    · rw [if_pos hne, if_pos (hnetIff.mp hne)]
      rfl
    rw [if_neg hne, if_neg (fun h => hne (hnetIff.mpr h))]
    exact explicitVat_eq input amounts input.rate hnetValue hvatValue hgrossValue

omit [RustDecimal] in
/-- **What the judgement accepts**: amounts that agree, in integers that fit. -/
theorem verdict_eq_ok_iff {input : LineItemInput} {amounts : Amounts} {currency : Currency}
    {vatRate : VatRate} :
    verdict input amounts currency vatRate = .ok ()
      ↔ ∃ scale rate, explicitScale currency = .ok scale ∧ assertableRate vatRate = some rate
          ∧ Consistent input amounts scale rate ∧ NetFits input scale
          ∧ VatFits amounts scale vatRate := by
  constructor
  · intro h
    unfold verdict at h
    cases hscale : explicitScale currency with
    | error e => rw [hscale] at h; exact absurd h (by simp)
    | ok scale =>
      cases hrate : assertableRate vatRate with
      | none =>
        rw [hscale, hrate] at h
        dsimp only at h
        split_ifs at h
      | some rate =>
        rw [hscale, hrate] at h
        dsimp only at h
        split_ifs at h with hmultiple hgross hquantity hfits hnet hvatFits hvat
        obtain ⟨hn, hv, hg⟩ := hmultiple
        refine ⟨scale, rate, rfl, rfl, ⟨hn, hv, hg, (not_not.mp hgross).symm, hquantity,
          (not_not.mp hnet).symm, ?_⟩, hfits, hvatFits⟩
        by_contra hneither
        exact hvat (not_or.mp hneither)
  · rintro ⟨scale, rate, hscale, hrate, hconsistent, hfits, hvatFits⟩
    unfold verdict
    rw [hscale, hrate]
    dsimp only
    rw [if_neg (not_not.mpr ⟨hconsistent.net_multiple, hconsistent.vat_multiple,
        hconsistent.gross_multiple⟩), if_neg (not_not.mpr hconsistent.gross_eq.symm),
      if_neg hconsistent.quantity_ne, if_neg (not_not.mpr hfits),
      if_neg (not_not.mpr hconsistent.net_eq.symm), if_neg (not_not.mpr hvatFits)]
    exact if_neg (fun h => hconsistent.vat_eq.elim h.1 h.2)

omit [RustDecimal] in
/-- **Amounts that agree are only ever refused for their size.** -/
theorem verdict_of_consistent {input : LineItemInput} {amounts : Amounts} {currency : Currency}
    {vatRate : VatRate} {scale : ℕ} {rate : ℚ} (hscale : explicitScale currency = .ok scale)
    (hrate : assertableRate vatRate = some rate) (h : Consistent input amounts scale rate) :
    verdict input amounts currency vatRate = .ok ()
      ∨ verdict input amounts currency vatRate = .error .unrepresentable := by
  by_cases hfits : NetFits input scale
  · by_cases hvatFits : VatFits amounts scale vatRate
    · exact Or.inl (verdict_eq_ok_iff.mpr ⟨scale, rate, hscale, hrate, h, hfits, hvatFits⟩)
    · refine Or.inr ?_
      unfold verdict
      rw [hscale, hrate]
      dsimp only
      rw [if_neg (not_not.mpr ⟨h.net_multiple, h.vat_multiple, h.gross_multiple⟩),
        if_neg (not_not.mpr h.gross_eq.symm), if_neg h.quantity_ne, if_neg (not_not.mpr hfits),
        if_neg (not_not.mpr h.net_eq.symm)]
      exact if_pos hvatFits
  · refine Or.inr ?_
    unfold verdict
    rw [hscale]
    dsimp only
    rw [if_neg (not_not.mpr ⟨h.net_multiple, h.vat_multiple, h.gross_multiple⟩),
      if_neg (not_not.mpr h.gross_eq.symm), if_neg h.quantity_ne]
    exact if_pos hfits

omit [RustDecimal] in
/-- The currencies whose amounts can be asserted round to their minor unit. -/
theorem minorUnit_of_explicitScale {currency : Currency} {scale : ℕ}
    (h : explicitScale currency = .ok scale) : Rounding.minorUnit currency = .scale scale := by
  unfold explicitScale at h
  split_ifs at h with hhuf heur
  · rw [← Except.ok.inj h, Rounding.minorUnit, Currency.minorUnitDigits, if_pos hhuf]
  · have hcurrency : currency = ⟨"EUR"⟩ := by
      cases currency
      exact congrArg Currency.mk heur
    rw [← Except.ok.inj h, hcurrency]
    decide

omit [RustDecimal] in
/-- An assertable rate is the percentage a line is calculated with, or a code of none. -/
theorem isPercentage_of_assertableRate {vatRate : VatRate} {rate : ℚ}
    (h : assertableRate vatRate = some rate) :
    ∃ p, vatRate.IsPercentage p ∧ ∀ net scale,
      Calculation.vat net (.scale scale) p = roundAt 10 scale (net * rate / 100) := by
  have hzero : ∀ scale, roundAt 10 scale 0 = 0 := fun scale =>
    roundAt_of_isMultiple (by decide) ⟨0, by simp [number]⟩
  have hcode : ∀ v : VatRate, (∀ d, v ≠ .percent d) → (∀ token, v ≠ .other token) → rate = 0 →
      ∃ p, v.IsPercentage p ∧ ∀ net scale,
        Calculation.vat net (.scale scale) p = roundAt 10 scale (net * rate / 100) := by
    rintro v hpercent hother rfl
    refine ⟨none, .code v hpercent (fun token _ htoken => absurd htoken (hother token)), ?_⟩
    intro net scale
    rw [mul_zero, zero_div, hzero]
    rfl
  cases vatRate with
  | percent d =>
    have hvalue : d.value = rate := by
      unfold assertableRate at h
      dsimp only at h
      split_ifs at h
      exact Option.some.inj h
    exact ⟨some d.value, .percent d, fun net scale => by rw [hvalue]; rfl⟩
  | other token => exact absurd ((assertableRate_other token).symm.trans h) (by simp)
  | _ =>
    refine hcode _ (by simp) (by simp) ?_
    unfold assertableRate at h
    dsimp only at h
    split_ifs at h
    exact (Option.some.inj h).symm

/-- **A calculated line agrees with itself.** -/
theorem consistent_of_tryCalculated [LawfulRustDecimal] {input : LineItemInput} {currency : Currency}
    {scale : ℕ} {rate : ℚ} {item : LineItem} (hscale : explicitScale currency = .ok scale)
    (hrate : assertableRate input.rate = some rate) (hquantity : input.quantity.value ≠ 0)
    (h : LineItem.tryCalculated input.name input.quantity input.unit input.unitPrice input.rate
      (Rounding.minorUnit currency) = .ok item) :
    Consistent input ⟨item.netValue, item.vatValue, item.grossValue⟩ scale rate := by
  obtain ⟨p, hp, hvat⟩ := isPercentage_of_assertableRate hrate
  rw [minorUnit_of_explicitScale hscale] at h
  have hrun := LineItem.run_of_tryCalculated h
  have hother : ∀ token, input.rate = .other token → token.toList.length < 2 ^ 62 := by
    intro token htoken
    rw [htoken, assertableRate_other] at hrate
    exact absurd hrate (by simp)
  obtain ⟨r, hr, hvalues⟩ := LineItem.run_tryCalculated input.name input.quantity input.unit
    input.unitPrice input.rate (.scale scale) hp hother
  obtain rfl := Except.ok.inj (hrun.symm.trans hr)
  have heq := Calculation.run_eq_ok hvalues.symm
  simp only [LineItem.values, Prod.mk.injEq, hvat] at heq
  obtain ⟨hnet, hvatValue, hgross⟩ := heq
  have hnetMultiple : IsMultiple 10 scale item.netValue.value := by
    rw [hnet]
    exact isMultiple_roundAt 10 scale _
  have hvatMultiple : IsMultiple 10 scale item.vatValue.value := by
    rw [hvatValue]
    exact isMultiple_roundAt 10 scale _
  have hsum : item.grossValue.value = item.netValue.value + item.vatValue.value := by
    rw [hgross, hnet, hvatValue]
  refine ⟨hnetMultiple, hvatMultiple, ?_, hsum, hquantity, hnet, Or.inl ?_⟩
  · show IsMultiple 10 scale item.grossValue.value
    rw [hsum]
    exact hnetMultiple.add hvatMultiple
  · show item.vatValue.value = roundAt 10 scale (item.netValue.value * rate / 100)
    rw [hvatValue, hnet]

/-- A row of two at ten, free of VAT. -/
def twoAtTen : LineItemInput where
  name := ""
  quantity := ⟨false, 2, 0, by decide, Decimal.zero_le_places⟩
  unit := ""
  unitPrice := ⟨false, 10, 0, Decimal.ten_lt_bound, Decimal.zero_le_places⟩
  vatRate := "AAM"

/-- Its amounts. -/
def twenty : Amounts :=
  ⟨⟨false, 20, 0, by decide, Decimal.zero_le_places⟩, Decimal.zero,
    ⟨false, 20, 0, by decide, Decimal.zero_le_places⟩⟩

omit [RustDecimal] in
theorem consistent_twenty : Consistent twoAtTen twenty 0 0 := by
  have hmultiple : ∀ d : Decimal, d.scale = 0 → IsMultiple 10 0 d.value :=
    fun d hd => isMultiple_number (by decide) hd.le
  have hproduct : twoAtTen.unitPrice.value * twoAtTen.quantity.value = number 10 20 0 := by
    norm_num [twoAtTen, Decimal.value, Decimal.signedMantissa, number]
  refine ⟨hmultiple _ rfl, hmultiple _ rfl, hmultiple _ rfl, ?_, ?_, ?_, Or.inl ?_⟩
  · norm_num [twenty, Decimal.value, Decimal.signedMantissa, Decimal.zero, number]
  · norm_num [twoAtTen, Decimal.value, Decimal.signedMantissa, number]
  · rw [hproduct, roundAt_of_isMultiple (by decide) ⟨20, rfl⟩]
    rfl
  · rw [mul_zero, zero_div, roundAt_of_isMultiple (by decide) ⟨0, by simp [number]⟩]
    exact Decimal.value_zero

omit [RustDecimal] in
theorem netFits_twenty : NetFits twoAtTen 0 :=
  ⟨signed_of_natAbs_lt (by decide), signed_of_natAbs_lt (by decide),
    signed_of_natAbs_lt (by decide)⟩

omit [RustDecimal] in
theorem vatFits_twenty : VatFits twenty 0 .aam := by
  intro d hd z _
  obtain rfl : Decimal.zero = d := Except.ok.inj hd
  refine signed_of_natAbs_lt ?_
  show (z * 0).natAbs < 2 ^ (128 - 1)
  rw [mul_zero]
  decide

omit [RustDecimal] in
theorem explicitScale_eq_ok {currency : Currency} {scale : ℕ} :
    explicitScale currency = .ok scale
      ↔ (currency.isHuf = true ∧ scale = 0) ∨ (currency.code = "EUR" ∧ scale = 2) := by
  unfold explicitScale
  split_ifs with hhuf heur
  · have hne : currency.code ≠ "EUR" := by
      intro heur
      have hcurrency : currency = ⟨"EUR"⟩ := by
        cases currency
        exact congrArg Currency.mk heur
      rw [hcurrency] at hhuf
      exact absurd hhuf (by decide)
    constructor
    · exact fun h => Or.inl ⟨hhuf, (Except.ok.inj h).symm⟩
    · rintro (⟨-, rfl⟩ | ⟨heur, -⟩)
      · rfl
      · exact absurd heur hne
  · constructor
    · exact fun h => Or.inr ⟨heur, (Except.ok.inj h).symm⟩
    · rintro (⟨hhuf', -⟩ | ⟨-, rfl⟩)
      · exact absurd hhuf' hhuf
      · rfl
  · refine iff_of_false (by simp) ?_
    rintro (⟨hhuf', -⟩ | ⟨heur', -⟩)
    · exact absurd hhuf' hhuf
    · exact absurd heur' heur

/-- **Asserted amounts are judged by one exact rounding.** The code passes the
judgement on numbers, integer overflows included; it accepts exactly the amounts that
agree in integers that fit; and what the client would have calculated is accepted as
it is, or does not fit. -/
theorem explicitItem_exact [LawfulRustDecimal] (input : LineItemInput) (amounts : Amounts)
    (currency : Currency) :
    explicitItem input amounts currency
        = (verdict input amounts currency input.rate).map (fun _ => input.withAmounts amounts)
      ∧ ((∃ item, explicitItem input amounts currency = .ok item)
        ↔ ∃ scale rate,
            ((currency.isHuf = true ∧ scale = 0) ∨ (currency.code = "EUR" ∧ scale = 2))
            ∧ assertableRate input.rate = some rate ∧ Consistent input amounts scale rate
            ∧ NetFits input scale ∧ VatFits amounts scale input.rate)
      ∧ ∀ item, (currency.isHuf = true ∨ currency.code = "EUR") → input.quantity.value ≠ 0 →
          (assertableRate input.rate).isSome = true →
          LineItem.tryCalculated input.name input.quantity input.unit input.unitPrice input.rate
            (Rounding.minorUnit currency) = .ok item →
          (∃ row, explicitItem input ⟨item.netValue, item.vatValue, item.grossValue⟩ currency
              = .ok row ∧ row.netValue = item.netValue ∧ row.vatValue = item.vatValue
              ∧ row.grossValue = item.grossValue)
            ∨ explicitItem input ⟨item.netValue, item.vatValue, item.grossValue⟩ currency
              = .error .unrepresentable := by
  refine ⟨explicitItem_eq input amounts currency, ?_, ?_⟩
  · rw [explicitItem_eq]
    have hok : (∃ item, (verdict input amounts currency input.rate).map
        (fun _ => input.withAmounts amounts) = .ok item)
        ↔ verdict input amounts currency input.rate = .ok () := by
      cases verdict input amounts currency input.rate with
      | error e => exact iff_of_false (by simp [Except.map]) (by simp)
      | ok u => exact iff_of_true ⟨_, rfl⟩ rfl
    rw [hok, verdict_eq_ok_iff]
    simp only [explicitScale_eq_ok]
  · intro item hcurrency hquantity hrate hitem
    obtain ⟨rate, hrate⟩ := Option.isSome_iff_exists.mp hrate
    obtain ⟨scale, hscale⟩ : ∃ scale, explicitScale currency = .ok scale := by
      obtain hhuf | heur := hcurrency
      · exact ⟨0, explicitScale_eq_ok.mpr (Or.inl ⟨hhuf, rfl⟩)⟩
      · exact ⟨2, explicitScale_eq_ok.mpr (Or.inr ⟨heur, rfl⟩)⟩
    rw [explicitItem_eq]
    obtain hok | herror := verdict_of_consistent hscale hrate
      (consistent_of_tryCalculated hscale hrate hquantity hitem)
    · rw [hok]
      exact Or.inl ⟨_, rfl, rfl, rfl, rfl⟩
    · rw [herror]
      exact Or.inr rfl

omit [RustDecimal] in
/-- Two at ten forints, free of VAT. -/
theorem explicitItem_exact_twenty :
    ∃ item, @explicitItem RustDecimal.exact twoAtTen twenty ⟨"HUF"⟩ = .ok item :=
  (@explicitItem_exact RustDecimal.exact RustDecimal.lawful_exact twoAtTen twenty ⟨"HUF"⟩).2.1.mpr
    ⟨0, 0, Or.inl ⟨by decide, rfl⟩, rfl, consistent_twenty, netFits_twenty, vatFits_twenty⟩

end Explicit

section Preflight

variable [RustDecimal]

/-! ## Totals -/

/-- The library's sum, if integers confirm it. -/
def exactAddRun (left right : Decimal) : Except Panic (Option Decimal) :=
  match RustDecimal.checkedAdd left right with
  | none => return none
  | some result => do
    let left := left.normalize
    let right := right.normalize
    let scale := max left.scale right.scale
    match ← Number.alignTo left scale with
    | none => return none
    | some a =>
      match ← Number.alignTo right scale with
      | none => return none
      | some b =>
        match checked 128 (a + b) with
        | none => return none
        | some coefficient =>
          let (coefficient, scale) := strip 10 coefficient scale
          match Decimal.tryFromI128WithScale coefficient scale with
          | .error _ => return none
          | .ok exact => return if result.sameValue exact then some result else none

omit [RustDecimal] in
/-- What the integers of a sum come to is what an exact addition answers. -/
theorem exactCoefficient_eq (c : ℤ) (s : ℕ) :
    Number.exactCoefficient c s
      = (Decimal.tryFromI128WithScale (strip 10 c s).1 (strip 10 c s).2).toOption := by
  unfold Number.exactCoefficient
  dsimp only
  split_ifs with hscale
  · unfold Decimal.tryFromI128WithScale
    rw [dif_pos hscale]
    rfl
  · rfl

/-- **The library's sum is taken if it is the exact one.** -/
theorem exactAddRun_eq (left right : Decimal) :
    ∃ o, Number.exactAdd left right = .ok o
      ∧ exactAddRun left right = .ok ((RustDecimal.checkedAdd left right).bind (fun result =>
          o.bind (fun exact => if result.sameValue exact then some result else none))) := by
  obtain ⟨o, ho, -⟩ := Number.exactAdd_spec left right
  refine ⟨o, ho, ?_⟩
  unfold exactAddRun
  cases RustDecimal.checkedAdd left right with
  | none => rfl
  | some result =>
    unfold Number.exactAdd at ho
    dsimp only at ho ⊢
    cases ha : Number.alignTo left.normalize (max left.normalize.scale right.normalize.scale) with
    | error p => rw [ha] at ho; exact absurd ho (by simp)
    | ok a =>
      rw [ha, ok_bind] at ho
      rw [ok_bind]
      cases a with
      | none => rw [← Except.ok.inj ho]; rfl
      | some a =>
        dsimp only at ho ⊢
        cases hb : Number.alignTo right.normalize (max left.normalize.scale right.normalize.scale) with
        | error p => rw [hb] at ho; exact absurd ho (by simp)
        | ok b =>
          rw [hb, ok_bind] at ho
          rw [ok_bind]
          cases b with
          | none => rw [← Except.ok.inj ho]; rfl
          | some b =>
            dsimp only at ho ⊢
            rw [← Except.ok.inj ho]
            cases checked 128 (a + b) with
            | none => rfl
            | some coefficient =>
              rw [Option.bind_some, Option.bind_some, exactCoefficient_eq]
              dsimp only
              cases Decimal.tryFromI128WithScale (strip 10 coefficient _).1 _ with
              | error e => rfl
              | ok exact => rfl

theorem exactAddRun_total (left right : Decimal) : ∃ o, exactAddRun left right = .ok o := by
  obtain ⟨o, -, ho⟩ := exactAddRun_eq left right
  exact ⟨_, ho⟩

/-- The sum of two amounts, where it is exact. -/
def exactAdd (left right : Decimal) : Option Decimal := get _ (exactAddRun_total left right)

/-- The rows from a position on, up to the first that is refused. -/
def lineItems (currency : Currency) (index : ℕ) :
    List LineItemInput → Except MonetaryError (List LineItem)
  | [] => .ok []
  | item :: items =>
    match item.toLineItem currency with
    | .error source => .error (.item index source)
    | .ok item => (lineItems currency (index + 1) items).map (item :: ·)

/-- The exact totals of the rows. -/
def sumTotals (totals : Amounts) : List LineItem → Option Amounts
  | [] => some totals
  | item :: items => do
    let net ← exactAdd totals.net item.netValue
    let vat ← exactAdd totals.vat item.vatValue
    let gross ← exactAdd totals.gross item.grossValue
    sumTotals ⟨net, vat, gross⟩ items

/-- The rows as they are sent, with their exact totals. -/
structure MonetaryPreflight where
  items : List LineItem
  totals : Amounts
deriving DecidableEq

def DocumentInput.monetaryPreflight (document : DocumentInput) (currency : Currency) :
    Except MonetaryError MonetaryPreflight :=
  if document.items.isEmpty then .error .noItems
  else
    match lineItems currency 0 document.items with
    | .error error => .error error
    | .ok items =>
      match sumTotals ⟨.zero, .zero, .zero⟩ items with
      | none => .error .unrepresentable
      | some totals =>
        if document.expectedTotals.any (fun expected => !expected.sameValue totals) then
          .error .totalsMismatch
        else .ok ⟨items, totals⟩

/-- The gross less the credit entries, where it is known and exact. -/
def outstanding (gross : Option Decimal) (creditEntries : List Decimal) : Option Decimal := do
  let paid ← creditEntries.foldlM exactAdd .zero
  let gross ← gross
  exactAdd gross paid.neg

/-! ## Documents that balance -/

/-- **The sum, or nothing because it is no decimal**, if the addition that may round
does not where it need not. -/
theorem exactly_exactAdd
    (hadd : ∀ a b, Decimal.Representable (a.value + b.value) →
      ∃ d, RustDecimal.checkedAdd a b = some d ∧ d.value = a.value + b.value)
    (left right : Decimal) :
    Decimal.Exactly (left.value + right.value) (exactAdd left right) := by
  obtain ⟨o, ho, hrun⟩ := exactAddRun_eq left right
  obtain ⟨o', ho', hexactly⟩ := Number.exactAdd_spec left right
  obtain rfl := Except.ok.inj (ho.symm.trans ho')
  rw [exactAdd, get_of_eq_ok hrun]
  cases o with
  | none =>
    cases RustDecimal.checkedAdd left right with
    | none => exact hexactly
    | some result => exact hexactly
  | some exact =>
    have hvalue : exact.value = left.value + right.value := hexactly
    obtain ⟨result, hresult, hsum⟩ := hadd left right (hvalue ▸ exact.representable_value)
    have hsame : result.sameValue exact = true := Decimal.sameValue_iff.mpr (hsum.trans hvalue.symm)
    rw [hresult, Option.bind_some, Option.bind_some, if_pos hsame]
    exact hsum

theorem exactAdd_spec [LawfulRustDecimal] (left right : Decimal) :
    Decimal.Exactly (left.value + right.value) (exactAdd left right) :=
  exactly_exactAdd LawfulRustDecimal.checkedAdd_value left right

/-- The sum of what the rows have of something. -/
abbrev sumOf (f : LineItem → Decimal) (items : List LineItem) : ℚ :=
  (items.map (fun item => (f item).value)).sum

theorem sumTotals_eq_some [LawfulRustDecimal] {items : List LineItem} {start totals : Amounts}
    (h : sumTotals start items = some totals) :
    totals.net.value = start.net.value + sumOf LineItem.netValue items
      ∧ totals.vat.value = start.vat.value + sumOf LineItem.vatValue items
      ∧ totals.gross.value = start.gross.value + sumOf LineItem.grossValue items := by
  induction items generalizing start with
  | nil =>
    rw [← Option.some.inj h]
    simp [sumOf]
  | cons item items ih =>
    obtain ⟨net, hnet, h⟩ := Option.bind_eq_some_iff.mp h
    obtain ⟨vat, hvat, h⟩ := Option.bind_eq_some_iff.mp h
    obtain ⟨gross, hgross, h⟩ := Option.bind_eq_some_iff.mp h
    have hn := exactAdd_spec start.net item.netValue
    have hv := exactAdd_spec start.vat item.vatValue
    have hg := exactAdd_spec start.gross item.grossValue
    rw [hnet, Decimal.exactly_some] at hn
    rw [hvat, Decimal.exactly_some] at hv
    rw [hgross, Decimal.exactly_some] at hg
    obtain ⟨ihn, ihv, ihg⟩ := ih h
    dsimp only at ihn ihv ihg
    simp only [sumOf, List.map_cons, List.sum_cons, ← add_assoc, ← hn, ← hv, ← hg]
    exact ⟨ihn, ihv, ihg⟩

/-- **The fold only fails at a sum that is no decimal.** -/
theorem exists_sumTotals [LawfulRustDecimal] {items : List LineItem} {start : Amounts}
    (h : ∀ k, Decimal.Representable (start.net.value + sumOf LineItem.netValue (items.take k))
      ∧ Decimal.Representable (start.vat.value + sumOf LineItem.vatValue (items.take k))
      ∧ Decimal.Representable (start.gross.value + sumOf LineItem.grossValue (items.take k))) :
    ∃ totals, sumTotals start items = some totals := by
  induction items generalizing start with
  | nil => exact ⟨start, rfl⟩
  | cons item items ih =>
    have hfirst := h 1
    simp only [sumOf, List.take_succ_cons, List.take_zero, List.map_cons, List.map_nil,
      List.sum_cons, List.sum_nil, add_zero] at hfirst
    obtain ⟨net, hnet⟩ := Option.isSome_iff_exists.mp
      ((exactAdd_spec start.net item.netValue).isSome_iff.mpr hfirst.1)
    obtain ⟨vat, hvat⟩ := Option.isSome_iff_exists.mp
      ((exactAdd_spec start.vat item.vatValue).isSome_iff.mpr hfirst.2.1)
    obtain ⟨gross, hgross⟩ := Option.isSome_iff_exists.mp
      ((exactAdd_spec start.gross item.grossValue).isSome_iff.mpr hfirst.2.2)
    have hn := exactAdd_spec start.net item.netValue
    have hv := exactAdd_spec start.vat item.vatValue
    have hg := exactAdd_spec start.gross item.grossValue
    rw [hnet, Decimal.exactly_some] at hn
    rw [hvat, Decimal.exactly_some] at hv
    rw [hgross, Decimal.exactly_some] at hg
    have hrest : ∀ k, Decimal.Representable (net.value + sumOf LineItem.netValue (items.take k))
        ∧ Decimal.Representable (vat.value + sumOf LineItem.vatValue (items.take k))
        ∧ Decimal.Representable (gross.value + sumOf LineItem.grossValue (items.take k)) := by
      intro k
      have hk := h (k + 1)
      simp only [sumOf, List.take_succ_cons, List.map_cons, List.sum_cons, ← add_assoc] at hk
      rw [hn, hv, hg]
      exact hk
    obtain ⟨totals, htotals⟩ := @ih ⟨net, vat, gross⟩ hrest
    exact ⟨totals, by rw [sumTotals, hnet, hvat, hgross]; exact htotals⟩

omit [RustDecimal] in
/-- A calculated row is the calculated line, named by its request. -/
theorem calculated_eq_ok {x : Except ArithmeticError LineItem} {f : LineItem → LineItem}
    {row : LineItem} (h : (x.mapError MonetaryError.arithmetic).map f = .ok row) :
    ∃ item, x = .ok item ∧ row = f item := by
  cases x with
  | error e => exact absurd h (by simp [Except.mapError, Except.map])
  | ok item => exact ⟨item, rfl, (Except.ok.inj h).symm⟩

/-- A row that converts adds up. -/
theorem gross_of_toLineItem {input : LineItemInput} {currency : Currency} {row : LineItem}
    (h : input.toLineItem currency = .ok row) :
    row.grossValue.value = row.netValue.value + row.vatValue.value := by
  unfold LineItemInput.toLineItem at h
  cases hamounts : input.amounts with
  | some amounts =>
    rw [hamounts] at h
    dsimp only at h
    rw [explicitItem_eq] at h
    cases hverdict : verdict input amounts currency input.rate with
    | error e => rw [hverdict] at h; exact absurd h (by simp [Except.map])
    | ok u =>
      rw [hverdict] at h
      obtain ⟨scale, rate, -, -, hconsistent, -, -⟩ := verdict_eq_ok_iff.mp hverdict
      rw [← Except.ok.inj h]
      exact hconsistent.gross_eq
  | none =>
    rw [hamounts] at h
    obtain ⟨item, hitem, rfl⟩ := calculated_eq_ok h
    exact (LineItem.tryCalculatedRun_eq_ok (LineItem.run_of_tryCalculated hitem)).2

theorem lineItems_eq_ok {currency : Currency} {index : ℕ} {inputs : List LineItemInput}
    {rows : List LineItem} :
    lineItems currency index inputs = .ok rows
      ↔ List.Forall₂ (fun input row => input.toLineItem currency = .ok row) inputs rows := by
  induction inputs generalizing index rows with
  | nil =>
    rw [List.forall₂_nil_left_iff]
    exact ⟨fun h => (Except.ok.inj h).symm, fun h => by rw [h]; rfl⟩
  | cons input inputs ih =>
    rw [List.forall₂_cons_left_iff]
    unfold lineItems
    cases hrow : input.toLineItem currency with
    | error e => exact iff_of_false (by simp) (by simp)
    | ok row =>
      dsimp only
      cases hrest : lineItems currency (index + 1) inputs with
      | error e =>
        refine iff_of_false (by simp [Except.map]) ?_
        rintro ⟨row', rows', -, hrows, -⟩
        rw [← @ih (index + 1) rows', hrest] at hrows
        exact absurd hrows (by simp)
      | ok rest =>
        have hrest' := (@ih (index + 1) rest).mp hrest
        constructor
        · intro h
          exact ⟨row, rest, rfl, hrest', (Except.ok.inj h).symm⟩
        · rintro ⟨row', rows', hrow', hrows, rfl⟩
          rw [← @ih (index + 1) rows', hrest] at hrows
          rw [Except.ok.inj hrow', Except.ok.inj hrows]
          rfl

/-- A document of these rows. -/
def documentOf (items : List LineItemInput) : DocumentInput where
  buyer := { name := "", zip := "", city := "", address := "" }
  items := items
  fulfillmentDate := ⟨2026, 1, 1, by decide, by decide, by decide, by decide⟩
  dueDate := ⟨2026, 1, 1, by decide, by decide, by decide, by decide⟩
  paymentMethod := .transfer

theorem gross_of_rows {currency : Currency} {inputs : List LineItemInput} {rows : List LineItem}
    (h : List.Forall₂ (fun input row => input.toLineItem currency = .ok row) inputs rows) :
    ∀ row ∈ rows, row.grossValue.value = row.netValue.value + row.vatValue.value := by
  induction h with
  | nil => simp
  | cons hrow _ ih =>
    intro row hmem
    obtain rfl | hmem := List.mem_cons.mp hmem
    · exact gross_of_toLineItem hrow
    · exact ih row hmem

theorem monetaryPreflight_eq_ok {document : DocumentInput} {currency : Currency}
    {p : MonetaryPreflight} :
    document.monetaryPreflight currency = .ok p
      ↔ document.items ≠ [] ∧ lineItems currency 0 document.items = .ok p.items
          ∧ sumTotals ⟨.zero, .zero, .zero⟩ p.items = some p.totals
          ∧ document.expectedTotals.any (fun expected => !expected.sameValue p.totals) = false := by
  unfold DocumentInput.monetaryPreflight
  by_cases hempty : document.items.isEmpty = true
  · rw [if_pos hempty]
    exact iff_of_false (by simp) (fun h => h.1 (List.isEmpty_iff.mp hempty))
  · have hne : document.items ≠ [] := fun hnil => hempty (List.isEmpty_iff.mpr hnil)
    rw [if_neg hempty]
    cases hrows : lineItems currency 0 document.items with
    | error e => exact iff_of_false (by simp) (by simp)
    | ok rows =>
      dsimp only
      cases htotals : sumTotals ⟨.zero, .zero, .zero⟩ rows with
      | none =>
        refine iff_of_false (by simp) ?_
        rintro ⟨-, hp, hsum, -⟩
        rw [← Except.ok.inj hp, htotals] at hsum
        exact absurd hsum (by simp)
      | some totals =>
        dsimp only
        constructor
        · intro h
          split_ifs at h with hexpected
          obtain rfl := Except.ok.inj h
          exact ⟨hne, rfl, htotals, Bool.not_eq_true _ ▸ hexpected⟩
        · rintro ⟨-, hp, hsum, hexpected⟩
          rw [← Except.ok.inj hp, htotals] at hsum
          have htotals' : totals = p.totals := Option.some.inj hsum
          rw [htotals', if_neg (by rw [hexpected]; exact Bool.false_ne_true), Except.ok.inj hp]

omit [RustDecimal] in
theorem Amounts.sameValue_iff {a b : Amounts} :
    a.sameValue b = true
      ↔ a.net.value = b.net.value ∧ a.vat.value = b.vat.value ∧ a.gross.value = b.gross.value := by
  rw [Amounts.sameValue, Bool.and_eq_true, Bool.and_eq_true, Decimal.sameValue_iff,
    Decimal.sameValue_iff, Decimal.sameValue_iff, and_assoc]

omit [RustDecimal] in
theorem any_not_sameValue {expected : Option Amounts} {totals : Amounts} :
    expected.any (fun e => !e.sameValue totals) = false
      ↔ ∀ e, expected = some e → e.net.value = totals.net.value ∧ e.vat.value = totals.vat.value
          ∧ e.gross.value = totals.gross.value := by
  cases expected with
  | none => simp
  | some e =>
    rw [Option.any_some, Bool.not_eq_false', Amounts.sameValue_iff]
    exact ⟨fun h e' he' => Option.some.inj he' ▸ h, fun h => h e rfl⟩

/-- **Accepted documents balance**: the totals are the sums of the rows, every row and
the totals add up, and the expected totals are these. And a document with a row is
accepted if its rows convert, their sums are decimals, and the expected totals agree. -/
theorem monetaryPreflight_balances [LawfulRustDecimal] (document : DocumentInput)
    (currency : Currency) :
    (∀ p, document.monetaryPreflight currency = .ok p →
        p.totals.net.value = sumOf LineItem.netValue p.items
        ∧ p.totals.vat.value = sumOf LineItem.vatValue p.items
        ∧ p.totals.gross.value = sumOf LineItem.grossValue p.items
        ∧ (∀ row ∈ p.items, row.grossValue.value = row.netValue.value + row.vatValue.value)
        ∧ p.totals.gross.value = p.totals.net.value + p.totals.vat.value
        ∧ ∀ expected, document.expectedTotals = some expected →
            expected.net.value = p.totals.net.value ∧ expected.vat.value = p.totals.vat.value
            ∧ expected.gross.value = p.totals.gross.value)
      ∧ ∀ rows, document.items ≠ [] →
          List.Forall₂ (fun input row => input.toLineItem currency = .ok row) document.items rows →
          (∀ k, Decimal.Representable (sumOf LineItem.netValue (rows.take k))
            ∧ Decimal.Representable (sumOf LineItem.vatValue (rows.take k))
            ∧ Decimal.Representable (sumOf LineItem.grossValue (rows.take k))) →
          (∀ expected, document.expectedTotals = some expected →
            expected.net.value = sumOf LineItem.netValue rows
            ∧ expected.vat.value = sumOf LineItem.vatValue rows
            ∧ expected.gross.value = sumOf LineItem.grossValue rows) →
          ∃ p, document.monetaryPreflight currency = .ok p ∧ p.items = rows := by
  constructor
  · intro p hp
    obtain ⟨-, hrows, hsum, hexpected⟩ := monetaryPreflight_eq_ok.mp hp
    obtain ⟨hnet, hvat, hgross⟩ := sumTotals_eq_some hsum
    rw [Decimal.value_zero, zero_add] at hnet hvat hgross
    have hadds := gross_of_rows (lineItems_eq_ok.mp hrows)
    refine ⟨hnet, hvat, hgross, hadds, ?_, any_not_sameValue.mp hexpected⟩
    rw [hnet, hvat, hgross, ← List.sum_map_add]
    exact congrArg List.sum (List.map_congr_left hadds)
  · intro rows hne hrows hrep hexpected
    obtain ⟨totals, htotals⟩ := @exists_sumTotals _ _ rows ⟨.zero, .zero, .zero⟩ (by
      simpa only [Decimal.value_zero, zero_add] using hrep)
    obtain ⟨hnet, hvat, hgross⟩ := sumTotals_eq_some htotals
    rw [Decimal.value_zero, zero_add] at hnet hvat hgross
    refine ⟨⟨rows, totals⟩, monetaryPreflight_eq_ok.mpr ⟨hne, lineItems_eq_ok.mpr hrows, htotals, ?_⟩,
      rfl⟩
    rw [any_not_sameValue]
    show ∀ e, document.expectedTotals = some e → e.net.value = totals.net.value
      ∧ e.vat.value = totals.vat.value ∧ e.gross.value = totals.gross.value
    rw [hnet, hvat, hgross]
    exact hexpected

omit [RustDecimal] in
/-- A document without rows has nothing that could fail to convert, and is refused. -/
theorem monetaryPreflight_empty :
    ¬ ∀ (document : DocumentInput) (currency : Currency) (rows : List LineItem),
      List.Forall₂ (fun input row => @LineItemInput.toLineItem RustDecimal.exact input currency
        = .ok row) document.items rows →
      (∀ k, Decimal.Representable (sumOf LineItem.netValue (rows.take k))
        ∧ Decimal.Representable (sumOf LineItem.vatValue (rows.take k))
        ∧ Decimal.Representable (sumOf LineItem.grossValue (rows.take k))) →
      (∀ expected, document.expectedTotals = some expected →
        expected.net.value = sumOf LineItem.netValue rows
        ∧ expected.vat.value = sumOf LineItem.vatValue rows
        ∧ expected.gross.value = sumOf LineItem.grossValue rows) →
      ∃ p, @DocumentInput.monetaryPreflight RustDecimal.exact document currency = .ok p := by
  intro h
  have hzero : Decimal.Representable 0 := ⟨0, 0, by decide, by simp [number]⟩
  obtain ⟨p, hp⟩ := h (documentOf []) ⟨"HUF"⟩ [] List.Forall₂.nil
    (fun k => by rw [List.take_nil]; exact ⟨hzero, hzero, hzero⟩) (by simp [documentOf])
  exact (@monetaryPreflight_eq_ok RustDecimal.exact _ _ _).mp hp |>.1 rfl

omit [RustDecimal] in
/-- The document of one row of two at ten. -/
theorem monetaryPreflight_balances_twenty :
    ∃ p, @DocumentInput.monetaryPreflight RustDecimal.exact
        (documentOf [{ twoAtTen with amounts := some twenty }]) ⟨"HUF"⟩ = .ok p
      ∧ p.items = [@LineItemInput.withAmounts RustDecimal.exact twoAtTen twenty] := by
  have hrow : @LineItemInput.toLineItem RustDecimal.exact { twoAtTen with amounts := some twenty }
      ⟨"HUF"⟩ = .ok (@LineItemInput.withAmounts RustDecimal.exact twoAtTen twenty) := by
    show @explicitItem RustDecimal.exact { twoAtTen with amounts := some twenty } twenty ⟨"HUF"⟩ = _
    have hverdict : verdict { twoAtTen with amounts := some twenty } twenty ⟨"HUF"⟩ .aam = .ok () :=
      verdict_eq_ok_iff.mpr ⟨0, 0, rfl, rfl, ⟨consistent_twenty.1, consistent_twenty.2,
        consistent_twenty.3, consistent_twenty.4, consistent_twenty.5, consistent_twenty.6,
        consistent_twenty.7⟩, netFits_twenty, vatFits_twenty⟩
    rw [@explicitItem_eq RustDecimal.exact]
    show Except.map _ (verdict { twoAtTen with amounts := some twenty } twenty ⟨"HUF"⟩ .aam) = _
    rw [hverdict]
    rfl
  have hrep : ∀ (d : Decimal) (k : ℕ), Decimal.Representable (([d].take k).map Decimal.value).sum := by
    intro d k
    cases k with
    | zero => exact ⟨0, 0, by decide, by simp [number]⟩
    | succ k => simpa using d.representable_value
  have hsum : ∀ (f : LineItem → Decimal) (row : LineItem) (k : ℕ),
      sumOf f ([row].take k) = (([f row].take k).map Decimal.value).sum := by
    intro f row k
    cases k with
    | zero => rfl
    | succ k => simp [sumOf]
  refine (@monetaryPreflight_balances RustDecimal.exact RustDecimal.lawful_exact _ _).2 _ ?_
    (List.Forall₂.cons hrow List.Forall₂.nil) (fun k => ?_) ?_
  · exact List.cons_ne_nil _ _
  · rw [hsum, hsum, hsum]
    exact ⟨hrep _ k, hrep _ k, hrep _ k⟩
  · simp [documentOf]

end Preflight

end Szamlazz
