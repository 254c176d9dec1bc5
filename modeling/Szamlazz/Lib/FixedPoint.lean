import Mathlib.Algebra.Order.Floor.Ring
import Mathlib.Data.Rat.Floor
import Mathlib.Data.Int.GCD
import Mathlib.RingTheory.Coprime.Lemmas
import Mathlib.Algebra.Prime.Lemmas
import Mathlib.Tactic.FieldSimp
import Mathlib.Tactic.Linarith
import Mathlib.Tactic.Positivity
import Mathlib.Tactic.Ring

/-!
# Numbers of a fixed-point format

A fixed-point format holds the numbers `c / b ^ s` whose coefficient stays below a
bound and whose scale stays below another. Which rational numbers those are is
not a matter of the spelling at hand: a number has many coefficients, one for
each scale that is large enough. It has only one *reduced* spelling, and
`representable_number_iff` says that this one decides – a reduced spelling that
does not fit the format means that no spelling does. Computing exactly in such a
format is therefore computing in integers, reducing, and looking at the size.

The second half is rounding to a number of places, half away from zero. On a
ratio of integers it is a division and a comparison of the remainder
(`roundHalfAway_div`), so that no quotient has to be rounded before it is rounded.
-/

namespace FixedPoint

/-! ## Coefficients and scales -/

/-- The number a coefficient denotes at a scale. -/
def number (b : ℕ) (c : ℤ) (s : ℕ) : ℚ := c / (b : ℚ) ^ s

/-- A spelling that cannot be shortened: no place is left to drop, or the last
one is not zero. -/
def Reduced (b : ℕ) (c : ℤ) (s : ℕ) : Prop := s = 0 ∨ ¬ (b : ℤ) ∣ c

/-- Drops places that are zero, as long as there are any. -/
def strip (b : ℕ) (c : ℤ) : ℕ → ℤ × ℕ
  | 0 => (c, 0)
  | s + 1 => if c.tmod b = 0 then strip b (c.tdiv b) s else (c, s + 1)

section Spelling

variable {b : ℕ} {c d : ℤ} {s t : ℕ}

theorem number_eq (b : ℕ) (c : ℤ) (s : ℕ) : number b c s = c / (b : ℚ) ^ s := rfl

theorem number_zero_scale (b : ℕ) (c : ℤ) : number b c 0 = c := by simp [number_eq]

theorem number_eq_zero (hb : b ≠ 0) : number b c s = 0 ↔ c = 0 := by
  have hpow : (b : ℚ) ^ s ≠ 0 := pow_ne_zero _ (Nat.cast_ne_zero.mpr hb)
  rw [number_eq, div_eq_zero_iff, or_iff_left hpow, Int.cast_eq_zero]

/-- **Zeros at the end say nothing.** -/
theorem number_mul_pow (hb : b ≠ 0) (c : ℤ) (s k : ℕ) :
    number b (c * (b : ℤ) ^ k) (s + k) = number b c s := by
  have hb' : (b : ℚ) ≠ 0 := Nat.cast_ne_zero.mpr hb
  simp only [number_eq]
  push_cast
  rw [pow_add]
  field_simp

theorem number_mul_number (c d : ℤ) (s t : ℕ) :
    number b c s * number b d t = number b (c * d) (s + t) := by
  simp only [number_eq]
  push_cast
  rw [pow_add, div_mul_div_comm]

theorem number_add_number (c d : ℤ) (s : ℕ) :
    number b c s + number b d s = number b (c + d) s := by
  simp only [number_eq]
  push_cast
  rw [add_div]

theorem number_div_pow (c : ℤ) (s k : ℕ) :
    number b c s / (b : ℚ) ^ k = number b c (s + k) := by
  simp only [number_eq]
  rw [div_div, pow_add]

theorem number_injective (hb : b ≠ 0) (h : number b c s = number b d s) : c = d := by
  have hpow : (b : ℚ) ^ s ≠ 0 := pow_ne_zero _ (Nat.cast_ne_zero.mpr hb)
  simp only [number_eq] at h
  rw [div_left_inj' hpow] at h
  exact_mod_cast h

theorem strip_number (hb : b ≠ 0) (c : ℤ) (s : ℕ) :
    number b (strip b c s).1 (strip b c s).2 = number b c s := by
  induction s generalizing c with
  | zero => rfl
  | succ s ih =>
    unfold strip
    split_ifs with h
    · obtain ⟨k, rfl⟩ := Int.dvd_of_tmod_eq_zero h
      rw [ih, Int.mul_tdiv_cancel_left _ (by exact_mod_cast hb)]
      have hstep := number_mul_pow hb k s 1
      rwa [pow_one, mul_comm, eq_comm] at hstep
    · rfl

theorem strip_reduced (b : ℕ) (c : ℤ) (s : ℕ) :
    Reduced b (strip b c s).1 (strip b c s).2 := by
  induction s generalizing c with
  | zero => exact Or.inl rfl
  | succ s ih =>
    unfold strip
    split_ifs with h
    · exact ih _
    · exact Or.inr (fun hdvd => h (Int.tmod_eq_zero_of_dvd hdvd))

theorem strip_le (b : ℕ) (c : ℤ) (s : ℕ) : (strip b c s).2 ≤ s := by
  induction s generalizing c with
  | zero => exact le_rfl
  | succ s ih =>
    unfold strip
    split_ifs
    · exact (ih _).trans (Nat.le_succ s)
    · exact le_rfl

/-- Of two reduced spellings, the sum at the larger scale is reduced, unless the
scales are the same. -/
theorem reduced_align (hst : s < t) (hd : Reduced b d t) :
    Reduced b (c * (b : ℤ) ^ (t - s) + d) t := by
  refine Or.inr (fun hsum => ?_)
  have hdvd : (b : ℤ) ∣ c * (b : ℤ) ^ (t - s) :=
    Dvd.dvd.mul_left (dvd_pow_self _ (by omega)) c
  exact hd.resolve_left (by omega) ((Int.dvd_add_right hdvd).mp hsum)

end Spelling

/-- **When no factor of the base is left to cancel between two coefficients,
their product does not end in zero.** -/
theorem not_dvd_mul_of_cancelled {p q a b : ℤ} (hp : Prime p) (hq : Prime q)
    (hpq : IsCoprime p q) (ha : ¬ p * q ∣ a) (hb : ¬ p * q ∣ b)
    (hab : ¬ (p ∣ a ∧ q ∣ b)) (hba : ¬ (q ∣ a ∧ p ∣ b)) : ¬ p * q ∣ a * b := by
  intro h
  have hp' : p ∣ a * b := (dvd_mul_right p q).trans h
  have hq' : q ∣ a * b := (dvd_mul_left q p).trans h
  rcases hp.dvd_or_dvd hp' with hpa | hpb
  · rcases hq.dvd_or_dvd hq' with hqa | hqb
    · exact ha (hpq.mul_dvd hpa hqa)
    · exact hab ⟨hpa, hqb⟩
  · rcases hq.dvd_or_dvd hq' with hqa | hqb
    · exact hba ⟨hqa, hpb⟩
    · exact hb (hpq.mul_dvd hpb hqb)

/-! ## Formats -/

/-- A format: its base, the bound its coefficients stay below, its largest scale. -/
structure Format where
  base : ℕ
  bound : ℕ
  maxScale : ℕ
  base_ne_zero : base ≠ 0

namespace Format

variable (F : Format)

/-- Whether a spelling fits. -/
def Fits (c : ℤ) (s : ℕ) : Prop := c.natAbs < F.bound ∧ s ≤ F.maxScale

instance (c : ℤ) (s : ℕ) : Decidable (F.Fits c s) := inferInstanceAs (Decidable (_ ∧ _))

/-- **The numbers of the format.** -/
def Representable (q : ℚ) : Prop := ∃ c s, F.Fits c s ∧ q = number F.base c s

variable {F}

/-- **A reduced spelling decides.** -/
theorem representable_number_iff {c : ℤ} {s : ℕ} (h : Reduced F.base c s) :
    F.Representable (number F.base c s) ↔ F.Fits c s := by
  constructor
  · rintro ⟨d, t, ⟨hd, ht⟩, heq⟩
    rcases Nat.lt_or_ge t s with hts | hst
    · -- A shorter spelling would make the last place of this one zero.
      rw [← number_mul_pow F.base_ne_zero d t (s - t), Nat.add_sub_cancel' hts.le] at heq
      have hc := number_injective F.base_ne_zero heq
      refine absurd ?_ (h.resolve_left (by omega))
      rw [hc]
      exact Dvd.dvd.mul_left (dvd_pow_self _ (by omega)) d
    · -- A longer one has this coefficient with zeros behind it.
      rw [← number_mul_pow F.base_ne_zero c s (t - s), Nat.add_sub_cancel' hst] at heq
      have hc := number_injective F.base_ne_zero heq
      refine ⟨lt_of_le_of_lt ?_ hd, hst.trans ht⟩
      rw [← hc, Int.natAbs_mul, Int.natAbs_pow, Int.natAbs_natCast]
      exact Nat.le_mul_of_pos_right _ (Nat.pow_pos (Nat.pos_of_ne_zero F.base_ne_zero))
  · exact fun hfits => ⟨c, s, hfits, rfl⟩

theorem Fits.representable {c : ℤ} {s : ℕ} (h : F.Fits c s) :
    F.Representable (number F.base c s) := ⟨c, s, h, rfl⟩

/-- The numbers of a format stay below its bound. -/
theorem abs_lt_of_representable {q : ℚ} (h : F.Representable q) : |q| < F.bound := by
  obtain ⟨c, s, ⟨hc, -⟩, rfl⟩ := h
  have hbase : (1 : ℚ) ≤ F.base := by exact_mod_cast Nat.pos_of_ne_zero F.base_ne_zero
  have hpow : (1 : ℚ) ≤ (F.base : ℚ) ^ s := one_le_pow₀ hbase
  have habs : |(c : ℚ)| = (c.natAbs : ℚ) := by rw [Nat.cast_natAbs, Int.cast_abs]
  have hlt : (c.natAbs : ℚ) < F.bound := by exact_mod_cast hc
  rw [number_eq, abs_div, abs_of_pos (lt_of_lt_of_le one_pos hpow), habs]
  exact (div_le_self (Nat.cast_nonneg _) hpow).trans_lt hlt

/-- The numbers of a format that are not zero are no smaller than its last place. -/
theorem le_abs_of_representable {q : ℚ} (h : F.Representable q) (hq : q ≠ 0) :
    1 / (F.base : ℚ) ^ F.maxScale ≤ |q| := by
  obtain ⟨c, s, ⟨-, hs⟩, rfl⟩ := h
  have hbase : (1 : ℚ) ≤ F.base := by exact_mod_cast Nat.pos_of_ne_zero F.base_ne_zero
  have hpos : (0 : ℚ) < (F.base : ℚ) ^ s := pow_pos (lt_of_lt_of_le one_pos hbase) s
  have hc : c ≠ 0 := fun hzero => hq ((number_eq_zero F.base_ne_zero).mpr hzero)
  have habs : (1 : ℚ) ≤ |(c : ℚ)| := by exact_mod_cast Int.one_le_abs hc
  rw [number_eq, abs_div, abs_of_pos hpos]
  calc 1 / (F.base : ℚ) ^ F.maxScale
      ≤ 1 / (F.base : ℚ) ^ s := one_div_le_one_div_of_le hpos (pow_le_pow_right₀ hbase hs)
    _ ≤ |(c : ℚ)| / (F.base : ℚ) ^ s := div_le_div_of_nonneg_right habs hpos.le

end Format

/-! ## Scales of either sign -/

/-- The number a coefficient denotes at a scale that may be below zero. -/
def scaled (b : ℕ) (c σ : ℤ) : ℚ := c * (b : ℚ) ^ (-σ)

section Scaled

variable {b : ℕ}

/-- A scale below zero puts zeros behind the coefficient. -/
theorem scaled_eq_number (hb : b ≠ 0) (c σ : ℤ) :
    scaled b c σ = number b (c * (b : ℤ) ^ (-σ).toNat) σ.toNat := by
  have hb' : (b : ℚ) ≠ 0 := Nat.cast_ne_zero.mpr hb
  have hexponent : -σ = ((-σ).toNat : ℤ) - (σ.toNat : ℤ) := by omega
  rw [scaled, number_eq, hexponent, zpow_sub₀ hb', zpow_natCast, zpow_natCast]
  push_cast
  rw [← hexponent, mul_div_assoc]

theorem scaled_mul_pow (hb : b ≠ 0) (c σ : ℤ) (k : ℕ) :
    scaled b (c * (b : ℤ) ^ k) σ = scaled b c (σ - k) := by
  have hb' : (b : ℚ) ≠ 0 := Nat.cast_ne_zero.mpr hb
  have hexponent : -(σ - (k : ℤ)) = (k : ℤ) + -σ := by ring
  unfold scaled
  push_cast
  rw [hexponent, zpow_add₀ hb', zpow_natCast, mul_assoc]

/-- An exponent moves the point. -/
theorem scaled_sub (hb : b ≠ 0) (c : ℤ) (s : ℕ) (e : ℤ) :
    scaled b c (s - e) = number b c s * (b : ℚ) ^ e := by
  have hb' : (b : ℚ) ≠ 0 := Nat.cast_ne_zero.mpr hb
  have hexponent : -((s : ℤ) - e) = e - s := by ring
  rw [scaled, number_eq, hexponent, zpow_sub₀ hb', zpow_natCast]
  ring

theorem scaled_natCast (hb : b ≠ 0) (c : ℤ) (s : ℕ) : scaled b c s = number b c s := by
  have h := scaled_sub hb c s 0
  rwa [sub_zero, zpow_zero, mul_one] at h

theorem reduced_scaled {c : ℤ} (h : ¬ (b : ℤ) ∣ c) (σ : ℤ) :
    Reduced b (c * (b : ℤ) ^ (-σ).toNat) σ.toNat := by
  by_cases hσ : σ ≤ 0
  · exact Or.inl (Int.toNat_of_nonpos hσ)
  · have hzero : (-σ).toNat = 0 := by omega
    rw [hzero, pow_zero, mul_one]
    exact Or.inr h

/-- **When a number without zeros at the end is one of the format.** -/
theorem Format.representable_scaled_iff {F : Format} {c : ℤ} (h : ¬ (F.base : ℤ) ∣ c) (σ : ℤ) :
    F.Representable (scaled F.base c σ)
      ↔ c.natAbs * F.base ^ (-σ).toNat < F.bound ∧ σ ≤ F.maxScale := by
  rw [scaled_eq_number F.base_ne_zero, representable_number_iff (reduced_scaled h σ), Fits,
    Int.natAbs_mul, Int.natAbs_pow, Int.natAbs_natCast, Int.toNat_le]

/-- **A coefficient of the format does not come back into it** from a scale so large or so
small that its digits cannot make up for it. -/
theorem Format.not_representable_scaled {F : Format} {c σ : ℤ} {m : ℕ} (hbase : 1 < F.base)
    (hbound : F.bound ≤ F.base ^ m) (hc : c ≠ 0) (hlt : c.natAbs < F.bound)
    (hσ : (m + F.maxScale : ℕ) ≤ σ ∨ σ ≤ -m) : ¬ F.Representable (scaled F.base c σ) := by
  intro hrep
  have hbase' : (1 : ℚ) < F.base := by exact_mod_cast hbase
  have hpos : (0 : ℚ) < F.base := zero_lt_one.trans hbase'
  have hzpow : (0 : ℚ) < (F.base : ℚ) ^ (-σ) := zpow_pos hpos _
  have habs : |scaled F.base c σ| = (c.natAbs : ℚ) * (F.base : ℚ) ^ (-σ) := by
    rw [scaled, abs_mul, abs_of_pos hzpow, Nat.cast_natAbs, Int.cast_abs]
  have hbound' : (F.bound : ℚ) ≤ (F.base : ℚ) ^ (m : ℤ) := by
    rw [zpow_natCast]
    exact_mod_cast hbound
  rcases hσ with hlarge | hsmall
  · -- A number below the last place, and not zero.
    have hne : scaled F.base c σ ≠ 0 :=
      mul_ne_zero (Int.cast_ne_zero.mpr hc) hzpow.ne'
    have hle := F.le_abs_of_representable hrep hne
    have hlt' : (c.natAbs : ℚ) < (F.base : ℚ) ^ (m : ℤ) :=
      lt_of_lt_of_le (by exact_mod_cast hlt) hbound'
    refine absurd hle (not_le.mpr ?_)
    rw [habs]
    calc (c.natAbs : ℚ) * (F.base : ℚ) ^ (-σ)
        < (F.base : ℚ) ^ (m : ℤ) * (F.base : ℚ) ^ (-σ) := mul_lt_mul_of_pos_right hlt' hzpow
      _ = (F.base : ℚ) ^ ((m : ℤ) + -σ) := (zpow_add₀ hpos.ne' _ _).symm
      _ ≤ (F.base : ℚ) ^ (-(F.maxScale : ℤ)) := by
          refine zpow_le_zpow_right₀ hbase'.le ?_
          push_cast at hlarge
          omega
      _ = 1 / (F.base : ℚ) ^ F.maxScale := by rw [zpow_neg, zpow_natCast, one_div]
  · have hlt' := F.abs_lt_of_representable hrep
    have hone : (1 : ℚ) ≤ c.natAbs := by exact_mod_cast Int.natAbs_pos.mpr hc
    refine absurd hlt' (not_lt.mpr ?_)
    rw [habs]
    calc (F.bound : ℚ)
        ≤ (F.base : ℚ) ^ (m : ℤ) := hbound'
      _ ≤ (F.base : ℚ) ^ (-σ) := zpow_le_zpow_right₀ hbase'.le (by omega)
      _ ≤ (c.natAbs : ℚ) * (F.base : ℚ) ^ (-σ) := le_mul_of_one_le_left hzpow.le hone

end Scaled

/-! ## Rounding half away from zero -/

section Rounding

variable {K : Type*} [Field K] [LinearOrder K] [IsStrictOrderedRing K] [FloorRing K]

omit [IsStrictOrderedRing K] in
/-- The nearest integer; of two equally near ones, the one further from zero. -/
def roundHalfAway (x : K) : ℤ := if x < 0 then ⌈x - 1 / 2⌉ else ⌊x + 1 / 2⌋

theorem roundHalfAway_intCast (z : ℤ) : roundHalfAway (z : K) = z := by
  unfold roundHalfAway
  have h2 : (0 : K) < 1 / 2 := by positivity
  have h1 : (1 : K) / 2 < 1 := by norm_num
  split_ifs
  · rw [Int.ceil_eq_iff]
    constructor <;> linarith
  · rw [Int.floor_eq_iff]
    constructor <;> linarith

theorem roundHalfAway_neg (x : K) : roundHalfAway (-x) = -roundHalfAway x := by
  unfold roundHalfAway
  rcases lt_trichotomy x 0 with hx | rfl | hx
  · rw [if_neg (by linarith), if_pos hx, ← Int.floor_neg]
    congr 1
    ring
  · have hfloor : ⌊(0 : K) + 1 / 2⌋ = 0 := by
      rw [Int.floor_eq_iff]
      norm_num
    rw [neg_zero, if_neg (lt_irrefl _), hfloor, neg_zero]
  · rw [if_pos (by linarith), if_neg (by linarith), ← Int.ceil_neg]
    congr 1
    ring

/-- The rounding of a ratio whose sides are not negative. -/
theorem roundHalfAway_natCast_div (n d : ℕ) (hd : 0 < d) :
    roundHalfAway ((n : K) / d) = (n / d : ℕ) + if d ≤ 2 * (n % d) then 1 else 0 := by
  have hd' : (0 : K) < d := Nat.cast_pos.mpr hd
  have hsplit : (n : K) = d * (n / d : ℕ) + (n % d : ℕ) := by
    exact_mod_cast (Nat.div_add_mod n d).symm
  have hrem : ((n % d : ℕ) : K) < d := Nat.cast_lt.mpr (Nat.mod_lt n hd)
  have hrem0 : (0 : K) ≤ ((n % d : ℕ) : K) := Nat.cast_nonneg _
  have hratio : (n : K) / d = (n / d : ℕ) + ((n % d : ℕ) : K) / d := by
    rw [div_eq_iff hd'.ne', add_mul, div_mul_cancel₀ _ hd'.ne', mul_comm]
    exact hsplit
  have hnonneg : ¬ (n : K) / d < 0 := not_lt.mpr (by positivity)
  unfold roundHalfAway
  rw [if_neg hnonneg, hratio, Int.floor_eq_iff]
  split_ifs with htie
  · have htie' : (d : K) ≤ 2 * ((n % d : ℕ) : K) := by exact_mod_cast htie
    have hge : 1 / 2 ≤ ((n % d : ℕ) : K) / d := by
      rw [div_le_div_iff₀ (by norm_num) hd']
      linarith
    have hlt : ((n % d : ℕ) : K) / d < 1 := (div_lt_one hd').mpr hrem
    rw [Int.cast_add, Int.cast_natCast, Int.cast_one]
    constructor <;> linarith
  · have htie' : 2 * ((n % d : ℕ) : K) < d := by exact_mod_cast not_le.mp htie
    have hlt : ((n % d : ℕ) : K) / d < 1 / 2 := by
      rw [div_lt_div_iff₀ hd' (by norm_num)]
      linarith
    have hge : 0 ≤ ((n % d : ℕ) : K) / d := by positivity
    rw [add_zero, Int.cast_natCast]
    constructor <;> linarith

/-- A division does not make a number larger, and neither does rounding its result. -/
theorem natAbs_roundHalfAway_div_le (c : ℤ) {d : ℕ} (hd : 0 < d) :
    (roundHalfAway ((c : K) / (d : K))).natAbs ≤ c.natAbs := by
  have key : ∀ m : ℕ, (roundHalfAway ((m : K) / (d : K))).natAbs ≤ m := by
    intro m
    rw [roundHalfAway_natCast_div m d hd]
    have hle : m / d + (if d ≤ 2 * (m % d) then 1 else 0) ≤ m := by
      by_cases hup : d ≤ 2 * (m % d)
      · -- What is rounded up is a quotient with a remainder.
        rw [if_pos hup]
        have hdiv := Nat.div_add_mod m d
        have hquotient : m / d ≤ d * (m / d) := Nat.le_mul_of_pos_left _ hd
        omega
      · rw [if_neg hup, Nat.add_zero]
        exact Nat.div_le_self m d
    have hcast : ((m / d : ℕ) : ℤ) + (if d ≤ 2 * (m % d) then 1 else 0)
        = ((m / d + (if d ≤ 2 * (m % d) then 1 else 0) : ℕ) : ℤ) := by
      push_cast
      rfl
    rw [hcast, Int.natAbs_natCast]
    exact hle
  obtain hc | hc := Int.natAbs_eq c
  · rw [hc, Int.natAbs_natCast, Int.cast_natCast]
    exact key c.natAbs
  · rw [hc, Int.natAbs_neg, Int.natAbs_natCast, Int.cast_neg, Int.cast_natCast, neg_div,
      roundHalfAway_neg, Int.natAbs_neg]
    exact key c.natAbs

/-- **One rounding of an exact ratio**: the quotient towards zero, and one more
away from zero when the remainder is at least half the denominator. -/
theorem roundHalfAway_div (n d : ℤ) (hd : 0 < d) :
    roundHalfAway ((n : K) / d)
      = if (n.tmod d).natAbs ≥ (d.natAbs + 1) / 2 then n.tdiv d + n.sign else n.tdiv d := by
  obtain ⟨e, rfl⟩ := Int.eq_ofNat_of_zero_le hd.le
  have he : 0 < e := by exact_mod_cast hd
  have key : ∀ m : ℕ, roundHalfAway (((m : ℤ) : K) / ((e : ℤ) : K))
      = if ((m : ℤ).tmod e).natAbs ≥ ((e : ℤ).natAbs + 1) / 2
        then (m : ℤ).tdiv e + (m : ℤ).sign else (m : ℤ).tdiv e := by
    intro m
    have hmod : ((m : ℤ).tmod e).natAbs = m % e := by
      rw [Int.tmod_eq_emod_of_nonneg (Int.natCast_nonneg m), ← Int.natCast_mod]
      exact Int.natAbs_natCast _
    have hdiv : (m : ℤ).tdiv e = (m / e : ℕ) := by
      rw [Int.tdiv_eq_ediv_of_nonneg (Int.natCast_nonneg m), Int.natCast_div]
    rw [Int.cast_natCast, Int.cast_natCast, roundHalfAway_natCast_div m e he, hmod, hdiv,
      Int.natAbs_natCast]
    have hiff : e ≤ 2 * (m % e) ↔ m % e ≥ (e + 1) / 2 := by omega
    by_cases htie : m % e ≥ (e + 1) / 2
    · have hpos : 0 < m := by
        rcases Nat.eq_zero_or_pos m with rfl | hpos
        · rw [Nat.zero_mod] at htie
          omega
        · exact hpos
      rw [if_pos htie, if_pos (hiff.mpr htie), Int.sign_eq_one_of_pos (by exact_mod_cast hpos)]
    · rw [if_neg htie, if_neg (fun h => htie (hiff.mp h)), add_zero]
  rcases Int.natAbs_eq n with hn | hn
  · rw [hn]
    exact key _
  · rw [hn, Int.cast_neg, neg_div, roundHalfAway_neg, key n.natAbs, Int.neg_tmod, Int.natAbs_neg,
      Int.neg_tdiv, Int.sign_neg]
    split_ifs
    · rw [neg_add]
    · rfl

end Rounding

/-! ## Rounding to places -/

/-- A multiple of the unit of a number of places. -/
def IsMultiple (b n : ℕ) (q : ℚ) : Prop := ∃ z : ℤ, q = number b z n

/-- The number rounded to places, half away from zero. -/
def roundAt (b n : ℕ) (q : ℚ) : ℚ := number b (roundHalfAway (q * (b : ℚ) ^ n)) n

section Places

variable {b n : ℕ} {q : ℚ}

theorem isMultiple_roundAt (b n : ℕ) (q : ℚ) : IsMultiple b n (roundAt b n q) := ⟨_, rfl⟩

theorem number_mul_cancel (hb : b ≠ 0) (c : ℤ) (n : ℕ) : number b c n * (b : ℚ) ^ n = c := by
  have hpow : (b : ℚ) ^ n ≠ 0 := pow_ne_zero _ (Nat.cast_ne_zero.mpr hb)
  rw [number_eq, div_mul_cancel₀ _ hpow]

/-- Rounding a number of more places divides its coefficient. -/
theorem roundAt_number (hb : b ≠ 0) {c : ℤ} {s : ℕ} (h : n ≤ s) :
    roundAt b n (number b c s) = number b (roundHalfAway ((c : ℚ) / ((b ^ (s - n) : ℕ) : ℚ))) n := by
  have hb' : (b : ℚ) ≠ 0 := Nat.cast_ne_zero.mpr hb
  have hscaled : number b c s * (b : ℚ) ^ n = (c : ℚ) / ((b ^ (s - n) : ℕ) : ℚ) := by
    have hpow : (b : ℚ) ^ s = (b : ℚ) ^ (s - n) * (b : ℚ) ^ n := by
      rw [← pow_add, Nat.sub_add_cancel h]
    rw [number_eq, hpow]
    push_cast
    field_simp
  rw [roundAt, hscaled]

/-- A number with no more places than that is its own rounding. -/
theorem roundAt_of_isMultiple (hb : b ≠ 0) (h : IsMultiple b n q) : roundAt b n q = q := by
  obtain ⟨z, rfl⟩ := h
  rw [roundAt, number_mul_cancel hb, roundHalfAway_intCast]

theorem isMultiple_number {c : ℤ} {s : ℕ} (hb : b ≠ 0) (h : s ≤ n) :
    IsMultiple b n (number b c s) := by
  refine ⟨c * (b : ℤ) ^ (n - s), ?_⟩
  rw [← number_mul_pow hb c s (n - s), Nat.add_sub_cancel' h]

theorem IsMultiple.add {r : ℚ} (hq : IsMultiple b n q) (hr : IsMultiple b n r) :
    IsMultiple b n (q + r) := by
  obtain ⟨z, rfl⟩ := hq
  obtain ⟨w, rfl⟩ := hr
  exact ⟨z + w, number_add_number z w n⟩

/-- A reduced spelling with more places is no multiple. -/
theorem isMultiple_number_iff {c : ℤ} {s : ℕ} (hb : b ≠ 0) (h : Reduced b c s) :
    IsMultiple b n (number b c s) ↔ s ≤ n := by
  refine ⟨fun ⟨z, hz⟩ => ?_, isMultiple_number hb⟩
  by_contra hlt
  rw [← number_mul_pow hb z n (s - n), Nat.add_sub_cancel' (by omega)] at hz
  refine h.resolve_left (by omega) ?_
  rw [number_injective hb hz]
  exact Dvd.dvd.mul_left (dvd_pow_self _ (by omega)) z

end Places

end FixedPoint
