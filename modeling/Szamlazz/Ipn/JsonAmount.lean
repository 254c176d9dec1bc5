import Szamlazz.Ipn.Amount

/-!
# Amounts of a notification in JSON

The amount of a notification that is read from JSON is the text of a token: a number, or a
string holding one. The reader behind the grammar of JSON is the one of the form, which
knows no exponent and refuses zeros behind the 28th place; so the significand is tried a
second time without its zeros, and the exponent moves the point of the decimal that was
read.

`significand_exactly` and `scientific_exactly` say that neither refuses too much. Each
refusal on the way – an exponent beyond 64 bits, a scale below zero that passes 28 places, a
coefficient beyond 128 bits – is one of a number that no decimal is: the significand is a
decimal that is not zero, and what moves its point further than its digits reach leaves the
format for good (`Format.not_representable_scaled`), while a spelling without zeros at the
end decides by itself.
-/

namespace Szamlazz

open FixedPoint Machine

/-! ## The numbers of JSON -/

namespace Number

namespace Numeral

/-- **The numbers of JSON**: no plus in front, a digit before the point and one behind it,
and no superfluous zero in front. -/
structure IsJson (n : Numeral) : Prop where
  sign : n.sign ≠ .plus
  whole : n.whole ≠ []
  leading : n.whole.head? = some '0' → n.whole = ['0']
  fraction : n.fraction ≠ some []

/-- The significand: what stands before the exponent. -/
def base (n : Numeral) : Numeral := { n with exponent := none }

/-- Its coefficient, with its sign. -/
def coefficient (n : Numeral) : ℤ := n.sign.factor * Digits.value n.digits

/-- How many of its digits stand behind the point. -/
def places (n : Numeral) : ℕ := (n.fraction.getD []).length

end Numeral

end Number

/-- What is used of the JSON library: the number a text is checked to be, the text a string
token holds, and the token a text is written as. -/
class JsonText where
  number : String → Except String Unit
  string : String → Except String String
  quote : String → String

/-- **The grammar of JSON** numbers, and that a text is read back from its token. -/
class LawfulJsonText [JsonText] : Prop where
  number_iff : ∀ text, JsonText.number text = .ok ()
    ↔ ∃ n : Number.Numeral, n.IsJson ∧ n.text = text.toList
  string_quote : ∀ text, JsonText.string (JsonText.quote text) = .ok text
  quote_head : ∀ text, (JsonText.quote text).toList.head? = some '"'

namespace Ipn

open Number (Numeral parseInt)

/-! ## The reader -/

/-- Why a token is no amount. -/
inductive AmountError where
  | json (message : String)
  | decimal (error : Decimal.Error)
deriving DecidableEq

/-- Zeros at the end of a fraction do not consume precision. -/
def significand (text : List Char) : Except Decimal.Error Decimal :=
  match exact text with
  | .ok decimal => .ok decimal
  | .error error =>
    if '.' ∈ text then
      exact ((Digits.trimEnd text).rdropWhile (fun c => c == '.'))
    else .error error

/-- Cancels zeros at the end as long as the scale is above zero. -/
def dropTens (coefficient scale : ℤ) : ℤ × ℤ :=
  if 0 < scale then
    let stripped := strip 10 coefficient scale.toNat
    (stripped.1, stripped.2)
  else (coefficient, scale)

/-- Writes out the zeros that a scale below zero stands for. -/
def upscale (coefficient scale : ℤ) : Except Panic (Option ℤ) :=
  if scale < 0 then
    match (checkedUnsigned 32 scale.natAbs).filter (fun extra => decide (extra ≤ 28)) with
    | none => .ok none
    | some extra => do
      let power ← signed 128 (10 ^ extra)
      return checked 128 (coefficient * power)
  else .ok (some coefficient)

section Reader

variable [RustDecimal]

/-- Shows an amount at the scale of its text, as far as there is room. -/
def toSourceScale (sourceScale : ℕ) (exponent : ℤ) (d : Decimal) : Decimal :=
  match (checked 64 (sourceScale - exponent)).bind (checkedUnsigned 32) with
  | none => d
  | some scale => RustDecimal.rescale (min scale Decimal.maxScale) d

/-- Moves the point of a significand that was read. -/
def movePoint (base : Decimal) (exponent : List Char) :
    Except Panic (Except Decimal.Error Decimal) :=
  let sourceScale := base.scale
  let base := base.normalize
  if base.isZero then
    .ok (.ok ((parseInt 64 exponent).elim base (fun e => toSourceScale sourceScale e base)))
  else
    match parseInt 64 exponent with
    | none => .ok (.error .underflow)
    | some exponent =>
      match checked 64 (base.scale - exponent) with
      | none => .ok (.error .underflow)
      | some scale =>
        let (coefficient, scale) := dropTens base.signedMantissa scale
        if (Decimal.maxScale : ℤ) < scale then .ok (.error .underflow)
        else do
          match ← upscale coefficient scale with
          | none => return .error .exceedsMaximumPossibleValue
          | some coefficient =>
            return do
              let scale ← okOr (checkedUnsigned 32 (max scale 0)) .underflow
              let result ← Decimal.tryFromI128WithScale coefficient scale
              return toSourceScale sourceScale exponent result

/-- A significand and an exponent. The significand is read on its own: an exponent does not
rescue one that is no decimal. -/
def scientific (base exponent : List Char) : Except Panic (Except Decimal.Error Decimal) :=
  match significand base with
  | .error error => .ok (.error error)
  | .ok base => movePoint base exponent

/-- The text of a number. -/
def readAmount (text : List Char) : Except Panic (Except Decimal.Error Decimal) :=
  match text.dropWhile (fun c => c != 'e' && c != 'E') with
  | [] => .ok (significand text)
  | _ :: exponent => scientific (text.takeWhile (fun c => c != 'e' && c != 'E')) exponent

variable [JsonText]

/-- The text of a token: what a string holds, and of everything else the token itself. -/
def tokenText (raw : String) : Except String String :=
  if raw.toList.head? = some '"' then JsonText.string raw else .ok raw

/-- **The amount of a field**, which may be absent. -/
def deserialize : Option String → Except Panic (Except AmountError (Option Decimal))
  | none => .ok (.ok none)
  | some raw =>
    if raw = "null" then .ok (.ok none)
    else
      match tokenText raw >>= fun text => JsonText.number text >>= fun _ => .ok text with
      | .error message => .ok (.error (.json message))
      | .ok text => do
        let amount ← readAmount text.toList
        return (amount.map some).mapError .decimal

omit [RustDecimal] in
/-- **The token of an amount.** -/
def serialize : Option Decimal → String
  | none => "null"
  | some amount => JsonText.quote amount.display

end Reader

/-! ## The significand -/

section Significand

variable (n : Numeral)

theorem text_base : n.base.text = n.sign.text ++ n.mantissa := by
  show n.sign.text ++ (n.mantissa ++ []) = _
  rw [List.append_nil]

theorem value_base : n.base.value = number 10 n.coefficient n.places := by
  show scaled 10 (n.sign.factor * Digits.value n.digits) (((n.fraction.getD []).length : ℤ) - 0) = _
  rw [scaled_sub (by decide), zpow_zero, mul_one]
  rfl

/-- The exponent moves the point of the significand. -/
theorem value_eq_mul (e : Number.Exponent) (he : n.exponent = some e) :
    n.value = n.base.value * (10 : ℚ) ^ e.value := by
  rw [value_base]
  unfold Numeral.value
  rw [he]
  exact scaled_sub (by decide) _ _ _

theorem natAbs_coefficient : n.coefficient.natAbs = Digits.value n.digits := by
  unfold Numeral.coefficient
  cases n.sign <;> simp [Number.Sign.factor]

theorem digits_of_isDigit {cs : List Char} (h : ∀ c ∈ cs, c.isDigit = true) : digits cs = cs :=
  List.filter_eq_self.mpr h

/-- A numeral has no separators among its digits. -/
theorem digits_numeral : digits (n.whole ++ n.fraction.getD []) = n.digits :=
  digits_of_isDigit n.isDigit_digits

/-- What stands before and behind the point is read off the text. -/
theorem mantissa_inj {whole whole' : List Char} {fraction fraction' : Option (List Char)}
    (hw : '.' ∉ whole) (hw' : '.' ∉ whole')
    (h : whole ++ fraction.elim [] (fun cs => '.' :: cs)
      = whole' ++ fraction'.elim [] (fun cs => '.' :: cs)) :
    whole = whole' ∧ fraction = fraction' := by
  cases fraction with
  | none =>
    cases fraction' with
    | none => exact ⟨by simpa using h, rfl⟩
    | some cs' =>
      refine absurd ?_ hw
      have hmem : '.' ∈ whole' ++ '.' :: cs' :=
        List.mem_append_right _ List.mem_cons_self
      rw [Option.elim_none, List.append_nil] at h
      rw [h]
      exact hmem
  | some cs =>
    cases fraction' with
    | none =>
      refine absurd ?_ hw'
      have hmem : '.' ∈ whole ++ '.' :: cs := List.mem_append_right _ List.mem_cons_self
      rw [Option.elim_none, List.append_nil] at h
      rw [← h]
      exact hmem
    | some cs' =>
      obtain ⟨hwhole, hfraction⟩ := Text.append_sep_inj hw hw' h
      exact ⟨hwhole, congrArg some hfraction⟩

/-- The amount of a significand that fits. -/
def amountOf (hfits : Decimal.format.Fits n.coefficient n.places) : Amount where
  sign := n.sign
  whole := n.whole
  fraction := n.fraction
  isDigit c hc := Or.inl (n.isDigit_digits c hc)
  first := by
    obtain ⟨c, rest, hcs⟩ := List.exists_cons_of_ne_nil n.some_digit
    exact ⟨c, rest, hcs, n.isDigit_digits c (by rw [Numeral.digits, hcs]; exact List.mem_cons_self)⟩
  places := by
    rw [digits_of_isDigit n.isDigit_fraction]
    exact hfits.2
  full before after hsplit hfull := by
    have hdigits : ∀ c ∈ before, c.isDigit = true := fun c hc =>
      n.isDigit_fraction c (by rw [hsplit]; exact List.mem_append_left _ hc)
    have hplaces : (before ++ after).length ≤ 28 := by
      rw [← hsplit]
      exact hfits.2
    rw [digits_of_isDigit hdigits] at hfull
    rw [List.length_append] at hplaces
    exact List.eq_nil_of_length_eq_zero (by omega)
  small := by
    rw [digits_numeral, ← natAbs_coefficient]
    exact hfits.1

theorem point_not_mem {cs : List Char} (h : ∀ c ∈ cs, c.isDigit = true ∨ c = '_') : '.' ∉ cs :=
  fun hmem => absurd (h '.' hmem) (by decide)

/-- **The reader of the form reads the significands that fit**, and no others. -/
theorem exact_base :
    (Decimal.format.Fits n.coefficient n.places →
        ∃ d, exact n.base.text = .ok d ∧ d.value = n.base.value)
      ∧ (¬ Decimal.format.Fits n.coefficient n.places → ∃ e, exact n.base.text = .error e) := by
  constructor
  · intro hfits
    have htext : (amountOf n hfits).text = n.base.text := (text_base n).symm
    obtain ⟨d, hd, hvalue, -⟩ := (amountOf n hfits).exact_text
    refine ⟨d, by rw [← htext, hd], ?_⟩
    rw [hvalue, value_base]
    show number 10 (n.sign.factor * Digits.value (digits (n.whole ++ n.fraction.getD [])))
      (digits (n.fraction.getD [])).length = _
    rw [digits_numeral, digits_of_isDigit n.isDigit_fraction]
    rfl
  · intro hfits
    cases hexact : exact n.base.text with
    | error e => exact ⟨e, rfl⟩
    | ok d =>
      -- The amount that was read is spelled as the numeral is, so it fits as the numeral does.
      refine absurd ?_ hfits
      obtain ⟨a, htext, -⟩ := exact_eq_ok hexact
      have hsigns : stripSign a.text = stripSign n.base.text := by rw [htext]
      have hfirst : ∀ c rest, n.mantissa = c :: rest → c ≠ '-' ∧ c ≠ '+' := by
        intro c rest hcs
        rcases n.mem_mantissa (by rw [hcs]; exact List.mem_cons_self) with hc | rfl
        · exact ⟨Lexical.isDigit_ne hc (by decide), Lexical.isDigit_ne hc (by decide)⟩
        · decide
      rw [text_base, Amount.text, stripSign_text a.sign (fun _ _ => a.not_sign),
        stripSign_text n.sign hfirst] at hsigns
      obtain ⟨-, hbody⟩ := Prod.mk.inj hsigns
      obtain ⟨hwhole, hfraction⟩ := mantissa_inj
        (point_not_mem (fun c hc => a.isDigit c (List.mem_append_left _ hc)))
        (point_not_mem (fun c hc => Or.inl (n.isDigit_whole c hc))) hbody
      have hsmall := a.small
      have hplaces := a.places
      rw [hwhole, hfraction, digits_numeral, ← natAbs_coefficient] at hsmall
      rw [hfraction, digits_of_isDigit n.isDigit_fraction] at hplaces
      exact ⟨hsmall, hplaces⟩

/-- The significand without the zeros at the end of its fraction, and without the point if
nothing is left behind it. -/
def trimmed (hwhole : n.whole ≠ []) : Numeral where
  sign := n.sign
  whole := n.whole
  fraction :=
    if Digits.trimEnd (n.fraction.getD []) = [] then none
    else some (Digits.trimEnd (n.fraction.getD []))
  exponent := none
  isDigit_whole := n.isDigit_whole
  isDigit_fraction c hc := by
    split_ifs at hc with hnil
    · exact absurd hc List.not_mem_nil
    · exact n.isDigit_fraction c (Digits.mem_of_mem_trimEnd hc)
  some_digit hnil := hwhole (List.append_eq_nil_iff.mp hnil).1

theorem getD_trimmed (hwhole : n.whole ≠ []) :
    (trimmed n hwhole).fraction.getD [] = Digits.trimEnd (n.fraction.getD []) := by
  show (if Digits.trimEnd (n.fraction.getD []) = [] then none
    else some (Digits.trimEnd (n.fraction.getD []))).getD [] = _
  split_ifs with hnil
  · exact hnil.symm
  · rfl

/-- Zeros at the end of the fraction say nothing. -/
theorem value_trimmed (hwhole : n.whole ≠ []) : (trimmed n hwhole).base.value = n.base.value := by
  have hsplit := Digits.trimEnd_append (n.fraction.getD [])
  have hlength : (Digits.trimEnd (n.fraction.getD [])).length
      + ((n.fraction.getD []).length - (Digits.trimEnd (n.fraction.getD [])).length)
      = (n.fraction.getD []).length := by
    conv_rhs => rw [← hsplit]
    rw [List.length_append, List.length_replicate]
  have hdigits : Digits.value n.digits = Digits.value (trimmed n hwhole).digits
      * 10 ^ ((n.fraction.getD []).length - (Digits.trimEnd (n.fraction.getD [])).length) := by
    unfold Numeral.digits
    rw [getD_trimmed]
    show Digits.value (n.whole ++ n.fraction.getD [])
      = Digits.value (n.whole ++ Digits.trimEnd (n.fraction.getD [])) * _
    conv_lhs => rw [← hsplit, ← List.append_assoc, Digits.value_append,
      Digits.value_replicate_zero, List.length_replicate, Nat.add_zero]
  have hcoefficient : n.coefficient = (trimmed n hwhole).coefficient * ((10 : ℕ) : ℤ)
      ^ ((n.fraction.getD []).length - (Digits.trimEnd (n.fraction.getD [])).length) := by
    unfold Numeral.coefficient
    rw [hdigits]
    show n.sign.factor * _ = n.sign.factor * _ * _
    push_cast
    ring
  have hplaces : n.places = (trimmed n hwhole).places
      + ((n.fraction.getD []).length - (Digits.trimEnd (n.fraction.getD [])).length) := by
    unfold Numeral.places
    rw [getD_trimmed, hlength]
  rw [value_base, value_base, hcoefficient, hplaces, number_mul_pow (by decide)]

theorem reduced_trimmed (hwhole : n.whole ≠ []) :
    Reduced 10 (trimmed n hwhole).coefficient (trimmed n hwhole).places := by
  unfold Numeral.places
  rw [getD_trimmed]
  by_cases hnil : Digits.trimEnd (n.fraction.getD []) = []
  · rw [hnil]
    exact Or.inl rfl
  · -- The last digit is that of the fraction, and not zero.
    refine Or.inr (fun hdvd => ?_)
    have hdigits : (trimmed n hwhole).digits = n.whole ++ Digits.trimEnd (n.fraction.getD []) := by
      unfold Numeral.digits
      rw [getD_trimmed]
      rfl
    have hne : (trimmed n hwhole).digits ≠ [] := (trimmed n hwhole).some_digit
    have hlast : (trimmed n hwhole).digits.getLast hne ≠ '0' := by
      simp only [hdigits, List.getLast_append_of_ne_nil _ hnil]
      exact Digits.getLast_trimEnd_ne hnil
    refine Digits.not_dvd_value (trimmed n hwhole).isDigit_digits hne hlast ?_
    rw [← natAbs_coefficient, ← Int.natCast_dvd]
    exact hdvd

theorem text_trimmed (hwhole : n.whole ≠ []) (hpoint : '.' ∈ n.base.text) :
    (Digits.trimEnd n.base.text).rdropWhile (fun c => c == '.') = (trimmed n hwhole).base.text := by
  have hpoint' : n.fraction ≠ none := by
    intro hnone
    rw [text_base] at hpoint
    rcases List.mem_append.mp hpoint with hmem | hmem
    · cases hs : n.sign with
      | none => rw [hs] at hmem; cases hmem
      | plus | minus =>
        rw [hs] at hmem
        exact absurd (List.mem_singleton.mp hmem) (by decide)
    · unfold Numeral.mantissa at hmem
      rw [hnone, Option.elim_none, List.append_nil] at hmem
      exact absurd (n.isDigit_whole '.' hmem) (by decide)
  obtain ⟨fraction, hfraction⟩ := Option.ne_none_iff_exists'.mp hpoint'
  have htext : n.base.text = (n.sign.text ++ n.whole) ++ '.' :: fraction := by
    rw [text_base, Numeral.mantissa, hfraction, Option.elim_some, List.append_assoc]
  have htrimmed : (trimmed n hwhole).base.text = n.sign.text ++ (n.whole
      ++ (if Digits.trimEnd fraction = [] then none
        else some (Digits.trimEnd fraction)).elim [] (fun cs => '.' :: cs)) := by
    rw [text_base, Numeral.mantissa]
    show n.sign.text ++ (n.whole ++ (if Digits.trimEnd (n.fraction.getD []) = [] then none
      else some (Digits.trimEnd (n.fraction.getD []))).elim [] (fun cs => '.' :: cs)) = _
    rw [hfraction, Option.getD_some]
  rw [htext, Digits.trimEnd_append_cons _ _ (by decide), htrimmed]
  by_cases hnil : Digits.trimEnd fraction = []
  · rw [hnil, if_pos rfl, Option.elim_none, List.append_nil,
      List.rdropWhile_concat_pos _ _ _ (by decide), List.rdropWhile_eq_self_iff]
    intro hne
    rw [List.getLast_append_of_ne_nil _ hwhole]
    have hdigit := n.isDigit_whole _ (List.getLast_mem hwhole)
    simpa using Lexical.isDigit_ne hdigit (by decide)
  · rw [if_neg hnil, Option.elim_some, ← List.append_assoc, List.rdropWhile_eq_self_iff]
    intro hne
    rw [List.getLast_append_of_ne_nil _ (List.cons_ne_nil _ _), List.getLast_cons hnil]
    have hmem := Digits.mem_of_mem_trimEnd (List.getLast_mem hnil)
    have hdigit := n.isDigit_fraction _ (by rw [hfraction, Option.getD_some]; exact hmem)
    simpa using Lexical.isDigit_ne hdigit (by decide)

/-- **A significand is read exactly, or no decimal is it.** -/
theorem significand_exactly (hwhole : n.whole ≠ []) :
    Decimal.Exactly n.base.value (significand n.base.text).toOption := by
  unfold significand
  by_cases hfits : Decimal.format.Fits n.coefficient n.places
  · obtain ⟨d, hd, hvalue⟩ := (exact_base n).1 hfits
    rw [hd]
    exact hvalue
  · obtain ⟨e, he⟩ := (exact_base n).2 hfits
    rw [he]
    dsimp only
    split_ifs with hpoint
    · rw [text_trimmed n hwhole hpoint, ← value_trimmed n hwhole]
      by_cases htrimmed : Decimal.format.Fits (trimmed n hwhole).coefficient (trimmed n hwhole).places
      · obtain ⟨d, hd, hvalue⟩ := (exact_base (trimmed n hwhole)).1 htrimmed
        rw [hd]
        exact hvalue
      · obtain ⟨e, he⟩ := (exact_base (trimmed n hwhole)).2 htrimmed
        rw [he, value_base]
        exact fun hrep => htrimmed ((Format.representable_number_iff
          (F := Decimal.format) (reduced_trimmed n hwhole)).mp hrep)
    · -- Without a point there is no place to drop.
      have hplaces : n.places = 0 := by
        unfold Numeral.places
        cases hf : n.fraction with
        | none => rfl
        | some cs =>
          refine absurd ?_ hpoint
          rw [text_base, Numeral.mantissa, hf]
          exact List.mem_append_right _ (List.mem_append_right _ List.mem_cons_self)
      rw [value_base]
      exact fun hrep => hfits ((Format.representable_number_iff
        (F := Decimal.format) (Or.inl hplaces)).mp hrep)

end Significand

/-! ## The exponent -/

section Exponent

/-- What moves its point further than its digits reach leaves the format. -/
theorem not_representable_far {c σ : ℤ} (hc : c ≠ 0) (hlt : c.natAbs < 2 ^ 96)
    (hσ : 57 ≤ σ ∨ σ ≤ -29) : ¬ Decimal.Representable (scaled 10 c σ) :=
  Format.not_representable_scaled (F := Decimal.format) (m := 29) (by decide) (by decide) hc hlt hσ

theorem dropTens_scaled (c σ : ℤ) :
    scaled 10 (dropTens c σ).1 (dropTens c σ).2 = scaled 10 c σ := by
  unfold dropTens
  split_ifs with hpos
  · have hσ : ((σ.toNat : ℕ) : ℤ) = σ := Int.toNat_of_nonneg hpos.le
    show scaled 10 (strip 10 c σ.toNat).1 ((strip 10 c σ.toNat).2 : ℕ) = _
    rw [scaled_natCast (by decide), strip_number (by decide), ← scaled_natCast (by decide), hσ]
  · rfl

theorem dropTens_le (c σ : ℤ) : (dropTens c σ).2 ≤ σ := by
  unfold dropTens
  split_ifs with hpos
  · have hle := strip_le 10 c σ.toNat
    show ((strip 10 c σ.toNat).2 : ℤ) ≤ σ
    omega
  · exact le_rfl

/-- Below zero nothing is dropped. -/
theorem dropTens_of_neg {c σ : ℤ} (h : (dropTens c σ).2 < 0) : dropTens c σ = (c, σ) := by
  unfold dropTens at h ⊢
  split_ifs at h ⊢ with hpos
  · have hnat : ¬ ((strip 10 c σ.toNat).2 : ℤ) < 0 := by omega
    exact absurd h hnat
  · rfl

/-- **What is left is reduced**, its scale below zero written out. -/
theorem dropTens_reduced (c σ : ℤ) :
    Reduced 10 ((dropTens c σ).1 * ((10 : ℕ) : ℤ) ^ (-(dropTens c σ).2).toNat)
      (dropTens c σ).2.toNat := by
  unfold dropTens
  split_ifs with hpos
  · have hzero : (-((strip 10 c σ.toNat).2 : ℤ)).toNat = 0 := by omega
    show Reduced 10 ((strip 10 c σ.toNat).1 * _ ^ (-((strip 10 c σ.toNat).2 : ℤ)).toNat)
      (((strip 10 c σ.toNat).2 : ℕ) : ℤ).toNat
    rw [hzero, pow_zero, mul_one, Int.toNat_natCast]
    exact strip_reduced 10 c σ.toNat
  · exact Or.inl (Int.toNat_of_nonpos (not_lt.mp hpos))

/-- **The zeros are written out, or the number is no decimal.** -/
theorem upscale_spec {c σ : ℤ} (hneg : σ < 0 → c ≠ 0 ∧ c.natAbs < 2 ^ 96) :
    ∃ o, upscale c σ = .ok o ∧ (∀ c' ∈ o, c' = c * ((10 : ℕ) : ℤ) ^ (-σ).toNat)
      ∧ (o = none → ¬ Decimal.Representable (scaled 10 c σ)) := by
  unfold upscale
  split_ifs with hσ
  · obtain ⟨hc, hlt⟩ := hneg hσ
    have habs : (σ.natAbs : ℕ) = (-σ).toNat := by omega
    by_cases hextra : (-σ).toNat ≤ 28
    · have hword : (-σ).toNat < 2 ^ 32 := by omega
      have hpow : Signed 128 (10 ^ (-σ).toNat) := by
        refine signed_of_natAbs_lt ?_
        rw [Int.natAbs_pow]
        calc (10 : ℤ).natAbs ^ (-σ).toNat
            ≤ 10 ^ 28 := Nat.pow_le_pow_right (by norm_num) hextra
          _ < 2 ^ (128 - 1) := by norm_num
      rw [habs, checkedUnsigned_natCast hword, Option.filter_some,
        if_pos (decide_eq_true hextra)]
      dsimp only
      rw [signed_of hpow, ok_bind]
      refine ⟨_, rfl, fun c' hc' => ?_, fun hnone hrep => ?_⟩
      · rw [checked_eq_some (Option.mem_def.mp hc')]
        norm_cast
      · -- Beyond 128 bits, at a scale of zero.
        have hover : ¬ Signed 128 (c * 10 ^ (-σ).toNat) := by
          intro hsigned
          rw [checked_of hsigned] at hnone
          cases hnone
        rw [scaled_eq_number (by decide), Int.toNat_of_nonpos hσ.le] at hrep
        have hbound := ((Format.representable_number_iff (F := Decimal.format)
          (Or.inl rfl)).mp hrep).1
        refine hover (signed_of_natAbs_lt ?_)
        have hlarge : (2 : ℕ) ^ 96 < 2 ^ (128 - 1) := by norm_num
        exact lt_trans (show (c * 10 ^ (-σ).toNat).natAbs < 2 ^ 96 by exact_mod_cast hbound) hlarge
    · have hfilter : (checkedUnsigned 32 (σ.natAbs : ℤ)).filter
          (fun extra => decide (extra ≤ 28)) = none := by
        rw [Option.filter_eq_none_iff]
        intro extra hsome
        have hnat := checkedUnsigned_eq_some hsome
        simp only [decide_eq_true_eq, not_le]
        omega
      rw [hfilter]
      exact ⟨none, rfl, fun c' h => absurd h (Option.not_mem_none c'),
        fun _ => not_representable_far hc hlt (Or.inr (by omega))⟩
  · refine ⟨some c, rfl, fun c' hc' => ?_, fun h => by cases h⟩
    have hzero : (-σ).toNat = 0 := by omega
    rw [hzero, pow_zero, mul_one]
    exact (Option.some.inj hc').symm

theorem scale_normalize_le (d : Decimal) : d.normalize.scale ≤ d.scale := by
  rw [← isMultiple_number_iff (b := 10) (by decide) d.normalize_reduced]
  show IsMultiple 10 d.scale d.normalize.value
  rw [d.normalize_value]
  exact isMultiple_number (by decide) le_rfl

variable [RustDecimal] [LawfulRustDecimal]

/-- The scale the text shows is never a smaller one. -/
theorem toSourceScale_value {s : ℕ} {e : ℤ} {d : Decimal} (h : ∀ t : ℕ, (t : ℤ) = s - e → d.scale ≤ t) :
    (toSourceScale s e d).value = d.value := by
  unfold toSourceScale
  split
  · rfl
  · rename_i t ht
    obtain ⟨z, hz, ht⟩ := Option.bind_eq_some_iff.mp ht
    have hvalue : (t : ℤ) = s - e := by
      rw [← checkedUnsigned_eq_some ht, checked_eq_some hz]
    exact LawfulRustDecimal.rescale_value _ _ (le_min (h t hvalue) d.scale_le)

/-- The decimal of a reduced coefficient, at the scale of the text. -/
theorem exactly_result {c : ℤ} {σ e : ℤ} {s : ℕ} (hreduced : Reduced 10 c σ.toNat) (hσ : σ ≤ 28)
    (hs : σ ≤ s - e) :
    Decimal.Exactly (number 10 c σ.toNat)
      (do
        let scale ← okOr (checkedUnsigned 32 (max σ 0)) Decimal.Error.underflow
        let result ← Decimal.tryFromI128WithScale c scale
        return toSourceScale s e result : Except Decimal.Error Decimal).toOption := by
  have hmax : max σ 0 = (σ.toNat : ℤ) := by omega
  have hword : σ.toNat < 2 ^ 32 := by omega
  rw [hmax, checkedUnsigned_natCast hword, okOr_some, ok_bind]
  have hexactly := Decimal.exactly_tryFrom hreduced
  cases hresult : Decimal.tryFromI128WithScale c σ.toNat with
  | error error =>
    rw [hresult] at hexactly
    exact hexactly
  | ok d =>
    rw [hresult] at hexactly
    refine (toSourceScale_value (fun t ht => ?_)).trans hexactly
    rw [Decimal.scale_of_tryFrom hresult]
    omega

/-- **The point is moved exactly, or no decimal is the number.** -/
theorem movePoint_exactly (d : Decimal) (e : Number.Exponent) :
    ∃ r, movePoint d (e.sign.text ++ e.digits) = .ok r
      ∧ Decimal.Exactly (d.value * (10 : ℚ) ^ e.value) r.toOption := by
  obtain ⟨hinteger, hvalue⟩ := e.integer_text
  have hparse : parseInt 64 (e.sign.text ++ e.digits) = checked 64 e.value := by
    rw [Number.parseInt_of_isInteger hinteger, hvalue]
  have hsource := scale_normalize_le d
  have hreduced := d.normalize_reduced
  rw [← d.normalize_value]
  unfold movePoint
  dsimp only
  rw [hparse]
  generalize d.scale = source at hsource ⊢
  generalize d.normalize = base at hsource hreduced ⊢
  by_cases hzero : base.isZero = true
  · -- Zero stays zero, wherever its point is.
    have hmantissa : base.signedMantissa = 0 := by
      rw [← Int.natAbs_eq_zero, base.natAbs_signedMantissa]
      exact beq_iff_eq.mp hzero
    have hscale : base.scale = 0 := by
      rw [hmantissa] at hreduced
      exact hreduced.resolve_right (not_not.mpr (dvd_zero _))
    rw [if_pos hzero, Decimal.isZero_iff.mp hzero, zero_mul]
    refine ⟨_, rfl, ?_⟩
    show Decimal.value _ = 0
    cases checked 64 e.value with
    | none => exact Decimal.isZero_iff.mp hzero
    | some z =>
      rw [← Decimal.isZero_iff.mp hzero]
      exact toSourceScale_value (fun t _ => by rw [hscale]; exact Nat.zero_le t)
  rw [if_neg hzero]
  have hne : base.signedMantissa ≠ 0 := by
    intro hmantissa
    refine hzero (beq_iff_eq.mpr ?_)
    rw [← base.natAbs_signedMantissa, hmantissa, Int.natAbs_zero]
  have hlt : base.signedMantissa.natAbs < 2 ^ 96 := base.fits.1
  have hle := base.scale_le
  have hmoved : base.value * (10 : ℚ) ^ e.value
      = scaled 10 base.signedMantissa (base.scale - e.value) :=
    (scaled_sub (by decide) _ _ _).symm
  rw [hmoved]
  by_cases hexponent : Signed 64 e.value
  · rw [checked_of hexponent]
    dsimp only
    by_cases hscale : Signed 64 (base.scale - e.value)
    · rw [checked_of hscale]
      dsimp only
      have hreduced' := dropTens_reduced base.signedMantissa (base.scale - e.value)
      have hshown := dropTens_le base.signedMantissa (base.scale - e.value)
      rw [← dropTens_scaled]
      by_cases hmax : (Decimal.maxScale : ℤ) < (dropTens base.signedMantissa (base.scale - e.value)).2
      · -- A reduced spelling of more than 28 places.
        rw [if_pos hmax]
        refine ⟨_, rfl, fun hrep => ?_⟩
        rw [scaled_eq_number (by decide)] at hrep
        have hfits := ((Format.representable_number_iff (F := Decimal.format) hreduced').mp hrep).2
        have hfits' : (dropTens base.signedMantissa (base.scale - e.value)).2.toNat ≤ 28 := hfits
        have hmax' : (28 : ℤ) < (dropTens base.signedMantissa (base.scale - e.value)).2 := hmax
        omega
      · rw [if_neg hmax]
        obtain ⟨o, ho, hsome, hnone⟩ := upscale_spec
          (c := (dropTens base.signedMantissa (base.scale - e.value)).1)
          (σ := (dropTens base.signedMantissa (base.scale - e.value)).2)
          (fun hneg => by rw [dropTens_of_neg hneg]; exact ⟨hne, hlt⟩)
        rw [ho, ok_bind]
        cases o with
        | none => exact ⟨_, rfl, hnone rfl⟩
        | some c =>
          refine ⟨_, rfl, ?_⟩
          rw [scaled_eq_number (by decide), ← hsome c rfl]
          refine exactly_result ?_ (not_lt.mp hmax) (by omega)
          rw [hsome c rfl]
          exact hreduced'
    · rw [checked_of_not hscale]
      refine ⟨_, rfl, not_representable_far hne hlt ?_⟩
      have hfar := natAbs_le_natAbs_add_of_not_signed (z := 0) hscale
      norm_num at hfar
      omega
  · rw [checked_of_not hexponent]
    refine ⟨_, rfl, not_representable_far hne hlt ?_⟩
    have hfar := natAbs_le_natAbs_add_of_not_signed (z := 0) hexponent
    norm_num at hfar
    omega

/-- **A number is read exactly**, from a significand that is a decimal. -/
theorem readAmount_exactly (n : Numeral) (hwhole : n.whole ≠ []) :
    ∃ r, readAmount n.text = .ok r
      ∧ ((∃ d, r = .ok d) ↔ Decimal.Representable n.base.value ∧ Decimal.Representable n.value)
      ∧ ∀ d, r = .ok d → d.value = n.value := by
  have hunmarked : ∀ c ∈ n.base.text, (c != 'e' && c != 'E') = true := by
    intro c hc
    have hnot : ¬ Number.isMark c := by
      rw [text_base] at hc
      rcases List.mem_append.mp hc with hc | hc
      · cases hs : n.sign with
        | none => rw [hs] at hc; cases hc
        | plus | minus =>
          rw [hs] at hc
          rw [List.mem_singleton.mp hc]
          decide
      · rcases n.mem_mantissa hc with hc | rfl
        · exact Number.not_isMark_of_isDigit hc
        · decide
    simpa [Number.isMark, not_or] using hnot
  have hbase := significand_exactly n hwhole
  unfold readAmount
  cases he : n.exponent with
  | none =>
    have hn : n = n.base := by
      cases n
      cases he
      rfl
    rw [← hn] at hbase hunmarked ⊢
    rw [List.dropWhile_eq_nil_iff.mpr hunmarked, and_self]
    exact ⟨_, rfl, hbase.eq_ok⟩
  | some e =>
    have hmark : (e.mark != 'e' && e.mark != 'E') = false := by
      obtain h | h := e.mark_eq <;> rw [h] <;> rfl
    have htext : n.text = n.base.text ++ e.mark :: (e.sign.text ++ e.digits) := by
      rw [text_base, List.append_assoc, Numeral.text, he]
      rfl
    rw [htext, List.dropWhile_append_of_pos hunmarked, List.takeWhile_append_of_pos hunmarked,
      List.dropWhile_cons_of_neg (by simp [hmark]), List.takeWhile_cons_of_neg (by simp [hmark]),
      List.append_nil]
    show ∃ r, scientific n.base.text (e.sign.text ++ e.digits) = .ok r ∧ _
    unfold scientific
    cases hsignificand : significand n.base.text with
    | error error =>
      rw [hsignificand] at hbase
      exact ⟨_, rfl, iff_of_false (by simp) (fun h => hbase h.1), by simp⟩
    | ok d =>
      rw [hsignificand] at hbase
      have hd : d.value = n.base.value := hbase
      obtain ⟨r, hr, hexactly⟩ := movePoint_exactly d e
      rw [hd, ← value_eq_mul n e he] at hexactly
      rw [and_iff_right (hd ▸ d.representable_value)]
      exact ⟨r, hr, hexactly.eq_ok⟩

end Exponent

/-! ## What is written -/

section Display

variable (d : Decimal)

theorem wholeDigits_append_fractionDigits : d.wholeDigits ++ d.fractionDigits = d.paddedDigits :=
  List.take_append_drop _ _

theorem length_fractionDigits : d.fractionDigits.length = d.scale := by
  have hlt := d.scale_lt_length_paddedDigits
  unfold Decimal.fractionDigits
  rw [List.length_drop]
  omega

/-- The number a decimal is written as. -/
def numeral : Numeral where
  sign := if d.negative then .minus else .none
  whole := d.wholeDigits
  fraction := if d.scale = 0 then none else some d.fractionDigits
  exponent := none
  isDigit_whole := d.wholeDigits_isDigit
  isDigit_fraction c hc := by
    split_ifs at hc
    · exact absurd hc List.not_mem_nil
    · exact d.fractionDigits_isDigit c hc
  some_digit hnil := d.wholeDigits_ne_nil (List.append_eq_nil_iff.mp hnil).1

theorem getD_numeral : (numeral d).fraction.getD [] = d.fractionDigits := by
  show (if d.scale = 0 then none else some d.fractionDigits).getD [] = _
  split_ifs with hscale
  · exact (List.eq_nil_of_length_eq_zero ((length_fractionDigits d).trans hscale)).symm
  · rfl

theorem text_numeral : (numeral d).text = d.display.toList := by
  unfold Decimal.display
  rw [String.toList_ofList]
  show (if d.negative then Number.Sign.minus else .none).text ++ ((d.wholeDigits
    ++ (if d.scale = 0 then none else some d.fractionDigits).elim [] (fun cs => '.' :: cs)) ++ [])
    = _
  rw [List.append_nil, List.append_assoc]
  cases d.negative with
  | true => split_ifs <;> rfl
  | false => split_ifs <;> rfl

/-- **A decimal is written as the number it is.** -/
theorem value_numeral : (numeral d).value = d.value := by
  have hdigits : Digits.value (numeral d).digits = d.mantissa := by
    unfold Numeral.digits
    rw [getD_numeral]
    show Digits.value (d.wholeDigits ++ d.fractionDigits) = _
    rw [wholeDigits_append_fractionDigits]
    unfold Decimal.paddedDigits
    rw [Digits.value_append, Digits.value_replicate_zero, Nat.zero_mul, Nat.zero_add]
    exact Nat.ofDigitChars_ten_toDigits
  have hplaces : (numeral d).places = d.scale := by
    rw [Numeral.places, getD_numeral, length_fractionDigits]
  have hcoefficient : (numeral d).coefficient = d.signedMantissa := by
    rw [Numeral.coefficient, hdigits]
    show (if d.negative then Number.Sign.minus else .none).factor * (d.mantissa : ℤ) = _
    unfold Decimal.signedMantissa
    cases d.negative with
    | true => exact neg_one_mul _
    | false => exact one_mul _
  show (numeral d).base.value = d.value
  rw [value_base, hcoefficient, hplaces]
  rfl

theorem isJson_numeral : (numeral d).IsJson where
  sign := by
    show (if d.negative then Number.Sign.minus else .none) ≠ .plus
    cases d.negative <;> decide
  whole := d.wholeDigits_ne_nil
  leading hzero := by
    have hzero' : d.wholeDigits.head? = some '0' := hzero
    show d.wholeDigits = ['0']
    obtain ⟨rest, hrest⟩ := List.head?_eq_some_iff.mp hzero'
    have hlength : d.wholeDigits.length = d.paddedDigits.length - d.scale := by
      have hle : d.paddedDigits.length - d.scale ≤ d.paddedDigits.length := Nat.sub_le _ _
      rw [Decimal.wholeDigits, List.length_take, min_eq_left hle]
    have hone : d.wholeDigits.length = 1 := by
      have hpadded : d.paddedDigits.length
          = d.scale + 1 - (Nat.toDigits 10 d.mantissa).length + (Nat.toDigits 10 d.mantissa).length := by
        rw [Decimal.paddedDigits, List.length_append, List.length_replicate]
      by_cases hshort : (Nat.toDigits 10 d.mantissa).length ≤ d.scale + 1
      · omega
      · -- Nothing is padded, so the zero in front is the whole number.
        have hdigits : d.paddedDigits = Nat.toDigits 10 d.mantissa := by
          have hnone : d.scale + 1 - (Nat.toDigits 10 d.mantissa).length = 0 := by omega
          rw [Decimal.paddedDigits, hnone, List.replicate_zero, List.nil_append]
        have hhead : (Nat.toDigits 10 d.mantissa).head? = some '0' := by
          rw [← hdigits, ← wholeDigits_append_fractionDigits, hrest]
          rfl
        rw [Digits.toDigits_of_head?_eq_zero hhead, List.length_singleton] at hshort
        omega
    rw [hrest, List.length_cons] at hone
    rw [hrest, List.eq_nil_of_length_eq_zero (by omega : rest.length = 0)]
  fraction := by
    show (if d.scale = 0 then none else some d.fractionDigits) ≠ some []
    split_ifs with hscale
    · exact Option.some_ne_none _ |>.symm
    · intro hnil
      have hlength := length_fractionDigits d
      rw [Option.some.inj hnil] at hlength
      exact hscale hlength.symm

end Display

/-! ## A library for plain texts -/

/-- Whether a number is one of JSON, seen from its text. -/
def jsonShape (text : List Char) : Bool :=
  let body := Lexical.unsigned text
  let whole := body.takeWhile Char.isDigit
  text.head? != some '+' && !whole.isEmpty && (whole.head? != some '0' || whole == ['0'])
    && match body.dropWhile Char.isDigit with
      | '.' :: fraction => fraction.head?.any Char.isDigit
      | _ => true

theorem head_text_iff (n : Numeral) : n.text.head? = some '+' ↔ n.sign = .plus := by
  unfold Numeral.text
  cases hs : n.sign with
  | plus | minus => simp [Number.Sign.text]
  | none =>
    refine iff_of_false (fun hplus => ?_) (by decide)
    obtain ⟨c, cs, hcs⟩ := List.exists_cons_of_ne_nil n.mantissa_ne_nil
    rw [hcs] at hplus
    rcases n.mem_mantissa (hcs ▸ List.mem_cons_self) with hc | hc
    · exact Lexical.isDigit_ne hc (by decide) (Option.some.inj hplus)
    · rw [hc] at hplus
      exact absurd (Option.some.inj hplus) (by decide)

/-- The whole part of a number, and what follows it. -/
theorem splitWhole (n : Numeral) (rest : List Char)
    (h : rest.head?.all (fun c => !c.isDigit) = true) :
    (n.whole ++ rest).takeWhile Char.isDigit = n.whole
      ∧ (n.whole ++ rest).dropWhile Char.isDigit = rest := by
  rw [List.takeWhile_append_of_pos n.isDigit_whole, List.dropWhile_append_of_pos n.isDigit_whole]
  cases rest with
  | nil => simp
  | cons c cs =>
    have hc : ¬ c.isDigit = true := by simpa using h
    rw [List.takeWhile_cons_of_neg hc, List.dropWhile_cons_of_neg hc, List.append_nil]
    exact ⟨rfl, rfl⟩

theorem mark_not_isDigit (e : Number.Exponent) : e.mark.isDigit = false ∧ e.mark ≠ '.' := by
  obtain h | h := e.mark_eq <;> rw [h] <;> decide

theorem jsonShape_text (n : Numeral) : jsonShape n.text = true ↔ n.IsJson := by
  obtain ⟨hwhole, hfraction⟩ : (Lexical.unsigned n.text).takeWhile Char.isDigit = n.whole
      ∧ ((match (Lexical.unsigned n.text).dropWhile Char.isDigit with
        | '.' :: fraction => fraction.head?.any Char.isDigit
        | _ => true) = true ↔ n.fraction ≠ some []) := by
    rw [n.unsigned_text.1, Numeral.mantissa, List.append_assoc]
    cases hf : n.fraction with
    | none =>
      rw [Option.elim_none, List.nil_append]
      cases he : n.exponent with
      | none =>
        obtain ⟨htake, hdrop⟩ := splitWhole n [] rfl
        rw [Option.elim_none, hdrop]
        exact ⟨htake, by simp⟩
      | some e =>
        obtain ⟨hdigit, hpoint⟩ := mark_not_isDigit e
        obtain ⟨htake, hdrop⟩ := splitWhole n e.text (by simp [Number.Exponent.text, hdigit])
        rw [Option.elim_some, hdrop]
        refine ⟨htake, iff_of_true ?_ (by simp)⟩
        unfold Number.Exponent.text
        split
        · rename_i heq
          exact absurd (List.cons.inj heq).1 hpoint
        · rfl
    | some fraction =>
      obtain ⟨htake, hdrop⟩ := splitWhole n
        ('.' :: (fraction ++ n.exponent.elim [] Number.Exponent.text)) rfl
      rw [Option.elim_some, List.cons_append, hdrop]
      refine ⟨htake, ?_⟩
      cases fraction with
      | nil =>
        refine iff_of_false ?_ (by simp)
        cases he : n.exponent with
        | none => simp
        | some e => simp [Number.Exponent.text, (mark_not_isDigit e).1]
      | cons c cs =>
        have hc := n.isDigit_fraction c (by rw [hf]; exact List.mem_cons_self)
        exact iff_of_true (by simp [hc]) (by simp)
  unfold jsonShape
  dsimp only
  rw [hwhole, Bool.and_eq_true, Bool.and_eq_true, Bool.and_eq_true, hfraction, bne_iff_ne,
    Bool.not_eq_true', List.isEmpty_eq_false_iff, Bool.or_eq_true, bne_iff_ne, beq_iff_eq,
    Ne, head_text_iff]
  constructor
  · rintro ⟨⟨⟨hsign, hne⟩, hleading⟩, hfraction⟩
    exact ⟨hsign, hne, fun hzero => hleading.resolve_left (not_not.mpr hzero), hfraction⟩
  · rintro ⟨hsign, hne, hleading, hfraction⟩
    exact ⟨⟨⟨hsign, hne⟩, by tauto⟩, hfraction⟩

/-- A JSON library that writes texts as they are. -/
@[reducible] def plainJson : JsonText where
  number text :=
    if (Number.read text.toList).isSome && jsonShape text.toList then .ok ()
    else .error "invalid number"
  string raw :=
    match raw.toList with
    | '"' :: cs =>
      if cs.getLast? = some '"' then .ok (String.ofList cs.dropLast) else .error "EOF"
    | _ => .error "invalid type"
  quote text := String.ofList ('"' :: (text.toList ++ ['"']))

theorem lawful_plainJson : @LawfulJsonText plainJson := by
  refine @LawfulJsonText.mk plainJson (fun text => ?_) (fun text => ?_) (fun text => ?_)
  · show (if _ then Except.ok () else Except.error "invalid number") = .ok () ↔ _
    rw [ite_eq_left_iff]
    constructor
    · intro h
      have hboth : ((Number.read text.toList).isSome && jsonShape text.toList) = true := by
        by_contra hnot
        cases h hnot
      obtain ⟨hread, hshape⟩ := Bool.and_eq_true_iff.mp hboth
      obtain ⟨r, hr⟩ := Option.isSome_iff_exists.mp hread
      obtain ⟨n, hn⟩ := Number.exists_numeral hr
      rw [← hn] at hshape
      exact ⟨n, (jsonShape_text n).mp hshape, hn⟩
    · rintro ⟨n, hjson, hn⟩ hnot
      refine absurd ?_ hnot
      rw [← hn, n.read_text, (jsonShape_text n).mpr hjson]
      rfl
  · show (match (String.ofList ('"' :: (text.toList ++ ['"']))).toList with
      | '"' :: cs =>
        if cs.getLast? = some '"' then Except.ok (String.ofList cs.dropLast) else .error "EOF"
      | _ => .error "invalid type") = .ok text
    rw [String.toList_ofList]
    show (if (text.toList ++ ['"']).getLast? = some '"'
      then Except.ok (String.ofList (text.toList ++ ['"']).dropLast) else Except.error "EOF") = _
    rw [if_pos List.getLast?_concat, List.dropLast_concat, String.ofList_toList]
  · show (String.ofList ('"' :: (text.toList ++ ['"']))).toList.head? = some '"'
    rw [String.toList_ofList]
    rfl

/-! ## The token -/

section Token

variable [RustDecimal] [JsonText]

omit [RustDecimal] in
/-- **What a token holds**: a number of JSON, itself or in a string. -/
def Holds (raw : String) (n : Numeral) : Prop :=
  n.IsJson ∧ (raw.toList.head? ≠ some '"' ∧ n.text = raw.toList
    ∨ raw.toList.head? = some '"' ∧ ∃ text, JsonText.string raw = .ok text ∧ n.text = text.toList)

omit [RustDecimal] in
theorem holds_iff {raw : String} {n : Numeral} :
    Holds raw n ↔ n.IsJson ∧ ∃ text, tokenText raw = .ok text ∧ n.text = text.toList := by
  unfold Holds tokenText
  by_cases hquote : raw.toList.head? = some '"'
  · rw [if_pos hquote]
    simp [hquote]
  · rw [if_neg hquote]
    simp [hquote]

theorem deserialize_null : deserialize (some "null") = .ok (.ok none) := by
  rw [deserialize, if_pos rfl]

variable [LawfulRustDecimal] [LawfulJsonText]

/-- **A token is read exactly, or refused.** -/
theorem deserialize_token {raw : String} (hnull : raw ≠ "null") :
    ∃ r, deserialize (some raw) = .ok r
      ∧ ((∃ v, r = .ok v) ↔ ∃ n, Holds raw n ∧ Decimal.Representable n.base.value
        ∧ Decimal.Representable n.value)
      ∧ ∀ v n, r = .ok v → Holds raw n → ∃ d, v = some d ∧ d.value = n.value := by
  show ∃ r, (if raw = "null" then _ else _) = Except.ok r ∧ _
  rw [if_neg hnull]
  cases htoken : tokenText raw with
  | error message =>
    refine ⟨_, rfl, iff_of_false (by simp) ?_, by simp⟩
    rintro ⟨n, hn, -⟩
    obtain ⟨-, text, htext, -⟩ := holds_iff.mp hn
    exact absurd (htoken.symm.trans htext) (by simp)
  | ok text =>
    have hholds : ∀ n, Holds raw n ↔ n.IsJson ∧ n.text = text.toList := by
      intro n
      rw [holds_iff, htoken]
      simp
    rw [ok_bind]
    cases hnumber : JsonText.number text with
    | error message =>
      refine ⟨_, rfl, iff_of_false (by simp) ?_, by simp⟩
      rintro ⟨n, hn, -⟩
      have hok := (LawfulJsonText.number_iff text).mpr ⟨n, (hholds n).mp hn⟩
      exact absurd (hnumber.symm.trans hok) (by simp)
    | ok u =>
      obtain ⟨n, hn⟩ := (LawfulJsonText.number_iff text).mp hnumber
      rw [ok_bind]
      dsimp only
      -- Whatever numeral spells the text, it is read as that one.
      have hread : ∀ m, Holds raw m → ∃ r, readAmount text.toList = .ok r
          ∧ ((∃ d, r = .ok d) ↔ Decimal.Representable m.base.value
            ∧ Decimal.Representable m.value)
          ∧ ∀ d, r = .ok d → d.value = m.value := by
        intro m hm
        obtain ⟨hjson, htext⟩ := (hholds m).mp hm
        rw [← htext]
        exact readAmount_exactly m hjson.whole
      obtain ⟨r, hr, hok, -⟩ := hread n ((hholds n).mpr hn)
      have hread' : ∀ m, Holds raw m → ((∃ d, r = .ok d) ↔ Decimal.Representable m.base.value
            ∧ Decimal.Representable m.value)
          ∧ ∀ d, r = .ok d → d.value = m.value := by
        intro m hm
        obtain ⟨r', hr', h⟩ := hread m hm
        obtain rfl : r = r' := Except.ok.inj (hr.symm.trans hr')
        exact h
      rw [hr, ok_bind]
      refine ⟨_, rfl, ?_, ?_⟩
      · constructor
        · rintro ⟨v, hv⟩
          refine ⟨n, (hholds n).mpr hn, hok.mp ?_⟩
          cases r with
          | error e => cases hv
          | ok d => exact ⟨d, rfl⟩
        · rintro ⟨m, hm, hrep⟩
          obtain ⟨d, rfl⟩ := (hread' m hm).1.mpr hrep
          exact ⟨some d, rfl⟩
      · intro v m hv hm
        cases r with
        | error e => cases hv
        | ok d => exact ⟨d, (Except.ok.inj hv).symm, (hread' m hm).2 d rfl⟩

/-- **The amounts of a notification in JSON are exact, and are read back.** A field that is
null or absent is unknown. Every other token is an amount exactly if it is a number of JSON
or a string holding one, its significand is a decimal and so is its value; the amount then is
that value, and there is an error otherwise. What is written of an amount is read as an
equal one. -/
theorem json_amounts_exact :
    deserialize none = .ok (.ok none)
      ∧ deserialize (some "null") = .ok (.ok none)
      ∧ (∀ raw : String, raw ≠ "null" → ∃ r, deserialize (some raw) = .ok r
        ∧ ((∃ v, r = .ok v) ↔ ∃ n, Holds raw n ∧ Decimal.Representable n.base.value
          ∧ Decimal.Representable n.value)
        ∧ ∀ v n, r = .ok v → Holds raw n → ∃ d, v = some d ∧ d.value = n.value)
      ∧ ∀ v : Option Decimal, ∃ v', deserialize (some (serialize v)) = .ok (.ok v')
        ∧ v'.map Decimal.value = v.map Decimal.value := by
  refine ⟨rfl, deserialize_null, fun raw => deserialize_token, fun v => ?_⟩
  cases v with
  | none => exact ⟨none, deserialize_null, rfl⟩
  | some d =>
    have hhead := LawfulJsonText.quote_head d.display
    have hholds : Holds (JsonText.quote d.display) (numeral d) :=
      ⟨isJson_numeral d, Or.inr ⟨hhead, d.display, LawfulJsonText.string_quote _, text_numeral d⟩⟩
    have hnull : JsonText.quote d.display ≠ "null" := by
      intro hnull
      rw [hnull] at hhead
      exact absurd hhead (by decide)
    have hrep : Decimal.Representable (numeral d).value := by
      rw [value_numeral]
      exact d.representable_value
    obtain ⟨r, hr, hok, hvalue⟩ := deserialize_token hnull
    obtain ⟨v, rfl⟩ := hok.mpr ⟨numeral d, hholds, hrep, hrep⟩
    obtain ⟨d', rfl, hd'⟩ := hvalue v (numeral d) rfl hholds
    refine ⟨some d', hr, ?_⟩
    rw [Option.map_some, Option.map_some, hd', value_numeral]

omit [RustDecimal] [JsonText] [LawfulRustDecimal] [LawfulJsonText] in
/-- A string, with a sign, zeros at the end and an exponent. -/
theorem json_amounts_exact_minus_fifteen :
    ∃ d, @deserialize RustDecimal.exact plainJson (some "\"-1.50e1\"") = .ok (.ok (some d))
      ∧ d.value = -15 := by
  let n : Numeral := ⟨.minus, ['1'], some ['5', '0'],
    some ⟨'e', .none, ['1'], Or.inl rfl, by decide, List.all_eq_true.mp rfl⟩,
    List.all_eq_true.mp rfl, List.all_eq_true.mp rfl, by decide⟩
  have hbase : n.base.value = -3 / 2 := by
    show scaled 10 (-1 * (150 : ℕ)) ((2 : ℕ) - 0) = -3 / 2
    norm_num [scaled]
  have hvalue : n.value = -15 := by
    show scaled 10 (-1 * (150 : ℕ)) ((2 : ℕ) - 1 * (1 : ℕ)) = -15
    norm_num [scaled]
  have hrep : Decimal.Representable n.base.value ∧ Decimal.Representable n.value := by
    rw [hbase, hvalue]
    refine ⟨⟨-15, 1, ⟨by decide, by decide⟩, ?_⟩, ⟨-15, 0, ⟨by decide, by decide⟩, ?_⟩⟩
    · norm_num [number, Decimal.format]
    · norm_num [number, Decimal.format]
  have hholds : @Holds plainJson "\"-1.50e1\"" n :=
    ⟨⟨by decide, by decide, by decide, by decide⟩, Or.inr ⟨by decide, "-1.50e1", by decide, by decide⟩⟩
  obtain ⟨-, -, htokens, -⟩ := @json_amounts_exact RustDecimal.exact plainJson
    RustDecimal.lawful_exact lawful_plainJson
  obtain ⟨r, hr, hok, hread⟩ := htokens "\"-1.50e1\"" (by decide)
  obtain ⟨v, rfl⟩ := hok.mpr ⟨n, hholds, hrep⟩
  obtain ⟨d, rfl, hd⟩ := hread v n rfl hholds
  exact ⟨d, hr, hd.trans hvalue⟩

end Token

end Ipn

end Szamlazz
