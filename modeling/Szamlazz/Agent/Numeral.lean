import Szamlazz.Agent.RustDecimal
import Szamlazz.Lib.Digits
import Szamlazz.Lib.Text

/-!
# Numbers on the wire

The parser of the numbers in the vendor's answers and in rate tokens. What is a
number is said by a grammar (`Numeral`), which also says what number it is: a
rational one, since an exponent may have any size. The parser works on the digits
instead. It drops the zeros at both ends, adds up a scale in 64 bits, and writes
zeros behind the digits only after it has compared lengths, so that no exponent
makes it write many.

`read_eq_some_iff` is the grammar: what is read is what some numeral spells.
`denote_spec` is the number: of what was read, the parser makes the decimal that
is this number, and fails only if there is none. Dropping the zeros is what makes
every refusal right, whichever check it comes from – a number that does not end
in zero has one spelling, and lengths and scales are compared for that one.
-/

namespace Szamlazz

open FixedPoint Machine

namespace Number

/-! ## The grammar -/

inductive Sign where
  | none
  | plus
  | minus
deriving DecidableEq

namespace Sign

def text : Sign → List Char
  | none => []
  | plus => ['+']
  | minus => ['-']

/-- What a number is multiplied by. -/
def factor : Sign → ℤ
  | none => 1
  | plus => 1
  | minus => -1

end Sign

/-- A power of ten. -/
structure Exponent where
  mark : Char
  sign : Sign
  digits : List Char
  mark_eq : mark = 'e' ∨ mark = 'E'
  digits_ne : digits ≠ []
  isDigit : ∀ c ∈ digits, c.isDigit = true

namespace Exponent

def text (e : Exponent) : List Char := e.mark :: (e.sign.text ++ e.digits)

def value (e : Exponent) : ℤ := e.sign.factor * Digits.value e.digits

end Exponent

/-- **A number**: an optional sign, digits with at most one point among them, and
an optional exponent. There is a digit on one side of the point. -/
structure Numeral where
  sign : Sign
  whole : List Char
  fraction : Option (List Char)
  exponent : Option Exponent
  isDigit_whole : ∀ c ∈ whole, c.isDigit = true
  isDigit_fraction : ∀ c ∈ fraction.getD [], c.isDigit = true
  some_digit : whole ++ fraction.getD [] ≠ []

namespace Numeral

variable (n : Numeral)

def digits : List Char := n.whole ++ n.fraction.getD []

def mantissa : List Char := n.whole ++ n.fraction.elim [] (fun cs => '.' :: cs)

def text : List Char := n.sign.text ++ (n.mantissa ++ n.exponent.elim [] Exponent.text)

/-- **The number it denotes.** -/
def value : ℚ :=
  scaled 10 (n.sign.factor * Digits.value n.digits)
    ((n.fraction.getD []).length - n.exponent.elim 0 Exponent.value)

end Numeral

/-! ## The parser -/

/-- What is read off a text: its digits, where the point stands among them, and
the text of its exponent. -/
structure Reading where
  negative : Bool
  digits : List Char
  point : Option ℕ
  exponent : List Char
deriving DecidableEq

/-- The text around the mark of the exponent; without one, the exponent is zero. -/
def splitExponent (unsigned : List Char) : List Char × List Char :=
  match unsigned.dropWhile (fun c => c != 'e' && c != 'E') with
  | [] => (unsigned, ['0'])
  | _ :: exponent => (unsigned.takeWhile (fun c => c != 'e' && c != 'E'), exponent)

/-- Collects the digits of a mantissa, and the number of them before its point. -/
def scan : List Char → List Char → Option ℕ → Option (List Char × Option ℕ)
  | [], digits, point => some (digits, point)
  | c :: mantissa, digits, point =>
    if c.isDigit then scan mantissa (digits ++ [c]) point
    else if c = '.' ∧ point = none then scan mantissa digits (some digits.length)
    else none

/-- The shape of the text, before anything is computed. -/
def read (value : List Char) : Option Reading :=
  let (mantissa, exponent) := splitExponent (Lexical.unsigned value)
  let exponentDigits := Lexical.unsigned exponent
  if exponentDigits.isEmpty || !exponentDigits.all Char.isDigit then none
  else
    match scan mantissa [] none with
    | none => none
    | some (digits, point) =>
      if digits.isEmpty then none
      else some ⟨value.head? == some '-', digits, point, exponent⟩

/-- The integer an optionally signed string of digits denotes. -/
def integer (text : List Char) : ℤ :=
  if text.head? = some '-' then -Digits.value (Lexical.unsigned text)
  else Digits.value (Lexical.unsigned text)

/-- An integer that fits its word. -/
def parseInt (w : ℕ) (text : List Char) : Option ℤ :=
  let digits := Lexical.unsigned text
  if digits.isEmpty || !digits.all Char.isDigit then none else checked w (integer text)

namespace Reading

variable (r : Reading)

/-- How many digits stand behind the point. -/
def fractional : ℕ := r.point.elim 0 (fun p => r.digits.length - p)

/-- The scale the text itself shows. -/
def sourceScale : Option ℕ :=
  (parseInt 64 r.exponent).bind (fun exponent =>
    (checked 64 r.fractional).bind (fun fractional =>
      (checked 64 (fractional - exponent)).bind (checkedUnsigned 32)))

/-- The scale once the zeros at the end are dropped. -/
def scale (trailing : ℕ) (exponent : ℤ) : Option ℤ :=
  (checked 64 r.fractional).bind (fun n =>
    (checked 64 trailing).bind (fun trailing =>
      (checked 64 (n - trailing)).bind (fun n => checked 64 (n - exponent))))

end Reading

/-- The zeros written behind the digits, one by one. -/
def pushZeros : ℕ → List Char → List Char
  | 0, normalized => normalized
  | extra + 1, normalized => pushZeros extra (normalized ++ ['0'])

/-- The digits of an integer coefficient, the zeros that were written behind them,
and its scale. -/
structure Expansion where
  normalized : List Char
  pushed : ℕ
  scale : ℤ

/-- Writes out a coefficient. Lengths are compared first: at most 29 digits fit. -/
def expand (r : Reading) (significant : List Char) : Except Decimal.Error Expansion := do
  let coefficient := Digits.trimEnd significant
  let trailing := significant.length - coefficient.length
  let exponent ← okOr (parseInt 64 r.exponent) .underflow
  let scale ← okOr (r.scale trailing exponent) .underflow
  if (Decimal.maxScale : ℤ) < scale then .error .underflow
  else
    let extra := if scale < 0 then scale.natAbs else 0
    if 29 < coefficient.length ∨ 29 - coefficient.length < extra then
      .error .exceedsMaximumPossibleValue
    else .ok ⟨pushZeros extra coefficient, extra, scale⟩

section Parse

variable [RustDecimal]

/-- Shows a number at the scale of its text, as far as there is room. -/
def toSourceScale (r : Reading) (d : Decimal) : Decimal :=
  match r.sourceScale with
  | none => d
  | some scale => RustDecimal.rescale (min scale Decimal.maxScale) d

/-- The decimal of what was read. -/
def denote (r : Reading) : Except Decimal.Error Decimal :=
  let significant := Digits.trimStart r.digits
  if significant.isEmpty then .ok (toSourceScale r Decimal.zero)
  else do
    let expansion ← expand r significant
    let integer ← okOr (parseInt 128 expansion.normalized) .exceedsMaximumPossibleValue
    let integer := if r.negative then -integer else integer
    let scale ← okOr (checkedUnsigned 32 (max expansion.scale 0)) .underflow
    let result ← Decimal.tryFromI128WithScale integer scale
    return toSourceScale r result

/-- **The parser**: nothing for a text that is no number, and an error for a
number that is no decimal. -/
def numeric (value : String) : Option (Except Decimal.Error Decimal) :=
  (read value.toList).map denote

/-- The parser where only a number will do. -/
def parse (value : String) : Except Decimal.Error Decimal :=
  (numeric value).getD (.error (.errorString "expected a finite decimal number"))

end Parse

/-- How many zeros the parser writes. -/
def zerosPushed (value : String) : ℕ :=
  match read value.toList with
  | none => 0
  | some r =>
    if (Digits.trimStart r.digits).isEmpty then 0
    else
      match expand r (Digits.trimStart r.digits) with
      | .error _ => 0
      | .ok expansion => expansion.pushed

/-! ## What is read -/

namespace Sign

/-- Every text has an optional sign in front of the rest. -/
theorem exists_text (cs : List Char) :
    ∃ s : Sign, s.text ++ Lexical.unsigned cs = cs ∧ (cs.head? = some '-' ↔ s = minus) := by
  unfold Lexical.unsigned
  split
  · exact ⟨minus, rfl, by simp⟩
  · exact ⟨plus, rfl, by simp⟩
  · rename_i hminus hplus
    refine ⟨none, rfl, iff_of_false (fun h => ?_) (by simp)⟩
    obtain ⟨cs', rfl⟩ := List.head?_eq_some_iff.mp h
    exact hminus cs' rfl

/-- Taking the sign away leaves what is behind it, if that has none of its own. -/
theorem unsigned_text (s : Sign) {c : Char} (cs : List Char) (hminus : c ≠ '-') (hplus : c ≠ '+') :
    Lexical.unsigned (s.text ++ c :: cs) = c :: cs
      ∧ ((s.text ++ c :: cs).head? = some '-' ↔ s = minus) := by
  cases s with
  | plus => exact ⟨rfl, by simp [text]⟩
  | minus => exact ⟨rfl, by simp [text]⟩
  | none =>
    refine ⟨?_, by simpa [text] using hminus⟩
    show Lexical.unsigned (c :: cs) = c :: cs
    unfold Lexical.unsigned
    split
    · rename_i heq
      exact absurd (List.cons.inj heq).1 hminus
    · rename_i heq
      exact absurd (List.cons.inj heq).1 hplus
    · rfl

theorem unsigned_digits (s : Sign) {cs : List Char} (hne : cs ≠ [])
    (h : ∀ c ∈ cs, c.isDigit = true) :
    Lexical.unsigned (s.text ++ cs) = cs ∧ ((s.text ++ cs).head? = some '-' ↔ s = minus) := by
  cases cs with
  | nil => exact absurd rfl hne
  | cons c cs =>
    have hc := h c List.mem_cons_self
    exact s.unsigned_text cs (Lexical.isDigit_ne hc (by decide)) (Lexical.isDigit_ne hc (by decide))

end Sign

/-- The mark of an exponent. -/
abbrev isMark (c : Char) : Prop := c = 'e' ∨ c = 'E'

theorem not_isMark_of_isDigit {c : Char} (h : c.isDigit = true) : ¬ isMark c := by
  rintro (rfl | rfl) <;> exact absurd h (by decide)

theorem splitExponent_of_unmarked {cs : List Char} (h : ∀ c ∈ cs, ¬ isMark c) :
    splitExponent cs = (cs, ['0']) := by
  have hdrop : cs.dropWhile (fun c => c != 'e' && c != 'E') = [] := by
    rw [List.dropWhile_eq_nil_iff]
    intro c hc
    have := h c hc
    simpa [isMark, not_or] using this
  unfold splitExponent
  rw [hdrop]

theorem splitExponent_append {cs exponent : List Char} {mark : Char} (h : ∀ c ∈ cs, ¬ isMark c)
    (hmark : isMark mark) : splitExponent (cs ++ mark :: exponent) = (cs, exponent) := by
  have hcs : ∀ c ∈ cs, (c != 'e' && c != 'E') = true := by
    intro c hc
    have := h c hc
    simpa [isMark, not_or] using this
  have hm : (mark != 'e' && mark != 'E') = false := by
    obtain rfl | rfl := hmark <;> rfl
  unfold splitExponent
  rw [List.dropWhile_append_of_pos hcs, List.takeWhile_append_of_pos hcs,
    List.dropWhile_cons_of_neg (by simp [hm]), List.takeWhile_cons_of_neg (by simp [hm]),
    List.append_nil]

/-- What is split at a mark had one. -/
theorem splitExponent_spec (cs : List Char) :
    splitExponent cs = (cs, ['0'])
      ∨ ∃ mark, isMark mark ∧ cs = (splitExponent cs).1 ++ mark :: (splitExponent cs).2 := by
  unfold splitExponent
  split
  · exact Or.inl rfl
  · rename_i mark exponent heq
    refine Or.inr ⟨mark, ?_, ?_⟩
    · have hhead := List.head_dropWhile_not (fun c => c != 'e' && c != 'E')
        (l := cs) (by rw [heq]; exact List.cons_ne_nil _ _)
      simp only [heq, List.head_cons] at hhead
      by_contra hmark
      simp [isMark, not_or] at hmark
      simp [hmark] at hhead
    · show cs = cs.takeWhile _ ++ mark :: exponent
      rw [← heq, List.takeWhile_append_dropWhile]

theorem scan_append {cs : List Char} (h : ∀ c ∈ cs, c.isDigit = true) (rest digits : List Char)
    (point : Option ℕ) : scan (cs ++ rest) digits point = scan rest (digits ++ cs) point := by
  induction cs generalizing digits with
  | nil => rw [List.nil_append, List.append_nil]
  | cons c cs ih =>
    show scan (c :: (cs ++ rest)) digits point = scan rest (digits ++ c :: cs) point
    rw [scan, if_pos (h c List.mem_cons_self),
      ih (fun d hd => h d (List.mem_cons_of_mem _ hd)), List.append_assoc, List.singleton_append]

/-- **A scan with the point behind it** goes over digits only. -/
theorem scan_some_eq_some {cs digits : List Char} {p : ℕ} {r : List Char × Option ℕ}
    (h : scan cs digits (some p) = some r) :
    (∀ c ∈ cs, c.isDigit = true) ∧ r = (digits ++ cs, some p) := by
  induction cs generalizing digits with
  | nil => exact ⟨by simp, by rw [← Option.some.inj h, List.append_nil]⟩
  | cons c cs ih =>
    rw [scan] at h
    by_cases hc : c.isDigit = true
    · rw [if_pos hc] at h
      obtain ⟨hcs, hr⟩ := ih h
      refine ⟨by simpa [hc] using hcs, ?_⟩
      rw [hr, List.append_assoc, List.singleton_append]
    · rw [if_neg hc, if_neg (by simp)] at h
      exact absurd h (by simp)

/-- **A scan goes over digits** and at most one point. -/
theorem scan_none_eq_some {cs digits : List Char} {r : List Char × Option ℕ}
    (h : scan cs digits none = some r) :
    ∃ (whole : List Char) (fraction : Option (List Char)), cs = whole ++ fraction.elim [] (fun cs => '.' :: cs)
      ∧ (∀ c ∈ whole, c.isDigit = true) ∧ (∀ c ∈ fraction.getD [], c.isDigit = true)
      ∧ r = (digits ++ (whole ++ fraction.getD []),
          fraction.map (fun _ => (digits ++ whole).length)) := by
  induction cs generalizing digits with
  | nil =>
    refine ⟨[], none, rfl, by simp, by simp, ?_⟩
    rw [← Option.some.inj h]
    simp
  | cons c cs ih =>
    rw [scan] at h
    by_cases hc : c.isDigit = true
    · rw [if_pos hc] at h
      obtain ⟨whole, fraction, hcs, hwhole, hfraction, hr⟩ := ih h
      refine ⟨c :: whole, fraction, by rw [hcs, List.cons_append], by simpa [hc] using hwhole,
        hfraction, ?_⟩
      rw [hr]
      simp
    · rw [if_neg hc] at h
      by_cases hpoint : c = '.'
      · rw [if_pos ⟨hpoint, rfl⟩] at h
        obtain ⟨hcs, hr⟩ := scan_some_eq_some h
        exact ⟨[], some cs, by rw [hpoint]; rfl, by simp, hcs, by rw [hr]; simp⟩
      · rw [if_neg (by simp [hpoint])] at h
        exact absurd h (by simp)

theorem scan_mantissa {whole : List Char} {fraction : Option (List Char)}
    (hwhole : ∀ c ∈ whole, c.isDigit = true) (hfraction : ∀ c ∈ fraction.getD [], c.isDigit = true) :
    scan (whole ++ fraction.elim [] (fun cs => '.' :: cs)) [] none
      = some (whole ++ fraction.getD [], fraction.map (fun _ => whole.length)) := by
  rw [scan_append hwhole, List.nil_append]
  cases fraction with
  | none => simp [scan]
  | some cs =>
    show scan ('.' :: cs) whole none = _
    have hend := scan_append (show ∀ c ∈ cs, c.isDigit = true from hfraction) [] whole (some whole.length)
    rw [List.append_nil] at hend
    rw [scan, if_neg (by decide), if_pos ⟨rfl, rfl⟩, hend]
    rfl

namespace Numeral

variable (n : Numeral)

/-- What the parser reads of it. -/
def reading : Reading :=
  ⟨decide (n.sign = .minus), n.digits, n.fraction.map (fun _ => n.whole.length),
    n.exponent.elim ['0'] (fun e => e.sign.text ++ e.digits)⟩

theorem isDigit_digits : ∀ c ∈ n.digits, c.isDigit = true := by
  intro c hc
  obtain hc | hc := List.mem_append.mp hc
  · exact n.isDigit_whole c hc
  · exact n.isDigit_fraction c hc

/-- What stands before the exponent is made of digits and points. -/
theorem mem_mantissa {c : Char} (h : c ∈ n.mantissa) : c.isDigit = true ∨ c = '.' := by
  obtain hc | hc := List.mem_append.mp h
  · exact Or.inl (n.isDigit_whole c hc)
  · cases hf : n.fraction with
    | none => simp [hf] at hc
    | some cs =>
      rw [hf] at hc
      obtain rfl | hc := List.mem_cons.mp hc
      · exact Or.inr rfl
      · exact Or.inl (n.isDigit_fraction c (by rw [hf]; exact hc))

theorem mantissa_ne_nil : n.mantissa ≠ [] := by
  intro hnil
  obtain ⟨hwhole, hfraction⟩ := List.append_eq_nil_iff.mp hnil
  refine n.some_digit ?_
  cases hf : n.fraction with
  | none => simpa using hwhole
  | some cs => simp [hf] at hfraction

/-- What is behind the sign. -/
theorem unsigned_text :
    Lexical.unsigned n.text = n.mantissa ++ n.exponent.elim [] Exponent.text
      ∧ (n.text.head? = some '-' ↔ n.sign = .minus) := by
  obtain ⟨c, cs, hcs⟩ := List.exists_cons_of_ne_nil n.mantissa_ne_nil
  have hc : c ≠ '-' ∧ c ≠ '+' := by
    rcases n.mem_mantissa (hcs ▸ List.mem_cons_self) with hc | rfl
    · exact ⟨Lexical.isDigit_ne hc (by decide), Lexical.isDigit_ne hc (by decide)⟩
    · decide
  unfold text
  rw [hcs, List.cons_append]
  exact n.sign.unsigned_text _ hc.1 hc.2

theorem read_text : read n.text = some n.reading := by
  have hunmarked : ∀ c ∈ n.mantissa, ¬ isMark c := by
    intro c hc
    obtain hc | rfl := n.mem_mantissa hc
    · exact not_isMark_of_isDigit hc
    · decide
  obtain ⟨hunsigned, hnegative⟩ := n.unsigned_text
  have hsplit : splitExponent (Lexical.unsigned n.text)
      = (n.mantissa, n.exponent.elim ['0'] (fun e => e.sign.text ++ e.digits)) := by
    rw [hunsigned]
    cases n.exponent with
    | none =>
      show splitExponent (n.mantissa ++ []) = _
      rw [List.append_nil]
      exact splitExponent_of_unmarked hunmarked
    | some e => exact splitExponent_append hunmarked e.mark_eq
  have hexponent : (Lexical.unsigned (n.exponent.elim ['0'] (fun e => e.sign.text ++ e.digits))).isEmpty
      = false ∧ (Lexical.unsigned (n.exponent.elim ['0'] (fun e => e.sign.text ++ e.digits))).all
        Char.isDigit = true := by
    cases n.exponent with
    | none => decide
    | some e =>
      show (Lexical.unsigned (e.sign.text ++ e.digits)).isEmpty = false
        ∧ (Lexical.unsigned (e.sign.text ++ e.digits)).all Char.isDigit = true
      rw [(e.sign.unsigned_digits e.digits_ne e.isDigit).1]
      exact ⟨List.isEmpty_eq_false_iff.mpr e.digits_ne, List.all_eq_true.mpr e.isDigit⟩
  have hdigits : n.digits.isEmpty = false := List.isEmpty_eq_false_iff.mpr n.some_digit
  have hscan : scan n.mantissa [] none
      = some (n.digits, n.fraction.map (fun _ => n.whole.length)) :=
    scan_mantissa n.isDigit_whole n.isDigit_fraction
  unfold read
  rw [hsplit]
  dsimp only
  rw [hexponent.1, hexponent.2, hscan]
  dsimp only
  rw [hdigits]
  have hminus : (n.text.head? == some '-') = decide (n.sign = .minus) := by
    rw [Bool.eq_iff_iff, beq_iff_eq, decide_eq_true_eq, hnegative]
  rw [hminus]
  rfl

end Numeral

/-- What is read is spelled by a numeral. -/
theorem exists_numeral {cs : List Char} {r : Reading} (h : read cs = some r) :
    ∃ n : Numeral, n.text = cs := by
  obtain ⟨sign, hsign, -⟩ := Sign.exists_text cs
  unfold read at h
  dsimp only at h
  split_ifs at h with hexponent
  split at h
  · exact absurd h (by simp)
  · rename_i digits point hscan
    split_ifs at h with hempty
    obtain ⟨whole, fraction, hmantissa, hwhole, hfraction, hr⟩ := scan_none_eq_some hscan
    have hsome : whole ++ fraction.getD [] ≠ [] := by
      intro hnil
      rw [hnil] at hr
      exact hempty (List.isEmpty_iff.mpr (Prod.mk.inj hr).1)
    obtain hunmarked | ⟨mark, hmark, hsplit⟩ := splitExponent_spec (Lexical.unsigned cs)
    · rw [hunmarked] at hmantissa
      refine ⟨⟨sign, whole, fraction, none, hwhole, hfraction, hsome⟩, ?_⟩
      show sign.text ++ ((whole ++ fraction.elim [] (fun cs => '.' :: cs)) ++ []) = cs
      rw [← hmantissa, List.append_nil, hsign]
    · obtain ⟨esign, hesign, -⟩ := Sign.exists_text (splitExponent (Lexical.unsigned cs)).2
      simp only [Bool.or_eq_true, Bool.not_eq_true', not_or, Bool.not_eq_false] at hexponent
      have hne : Lexical.unsigned (splitExponent (Lexical.unsigned cs)).2 ≠ [] :=
        fun hnil => hexponent.1 (List.isEmpty_iff.mpr hnil)
      refine ⟨⟨sign, whole, fraction, some ⟨mark, esign, _, hmark, hne,
        List.all_eq_true.mp hexponent.2⟩, hwhole, hfraction, hsome⟩, ?_⟩
      show sign.text ++ ((whole ++ fraction.elim [] (fun cs => '.' :: cs)) ++ mark ::
        (esign.text ++ Lexical.unsigned (splitExponent (Lexical.unsigned cs)).2)) = cs
      rw [hesign, ← hmantissa, ← hsplit, hsign]

/-- **What is read is what some numeral spells.** -/
theorem read_eq_some_iff {cs : List Char} {r : Reading} :
    read cs = some r ↔ ∃ n : Numeral, n.text = cs ∧ n.reading = r := by
  constructor
  · intro h
    obtain ⟨n, rfl⟩ := exists_numeral h
    exact ⟨n, rfl, Option.some.inj (n.read_text.symm.trans h)⟩
  · rintro ⟨n, rfl, rfl⟩
    exact n.read_text

/-! ## What it denotes -/

/-- The shape of an optionally signed integer. -/
def IsInteger (text : List Char) : Prop :=
  Lexical.unsigned text ≠ [] ∧ ∀ c ∈ Lexical.unsigned text, c.isDigit = true

theorem parseInt_of_isInteger {text : List Char} (h : IsInteger text) (w : ℕ) :
    parseInt w text = checked w (integer text) := by
  have hne : (Lexical.unsigned text).isEmpty = false := List.isEmpty_eq_false_iff.mpr h.1
  have hall : (Lexical.unsigned text).all Char.isDigit = true := List.all_eq_true.mpr h.2
  unfold parseInt
  dsimp only
  rw [hne, hall]
  rfl

theorem parseInt_eq_some {text : List Char} {w : ℕ} {z : ℤ} (h : parseInt w text = some z) :
    z = integer text := by
  unfold parseInt at h
  dsimp only at h
  split_ifs at h
  unfold checked at h
  split_ifs at h
  exact (Option.some.inj h).symm

theorem parseInt_digits {cs : List Char} {w : ℕ} (hne : cs ≠ []) (h : ∀ c ∈ cs, c.isDigit = true)
    (hw : Digits.value cs < 2 ^ (w - 1)) : parseInt w cs = some (Digits.value cs) := by
  obtain ⟨hunsigned, hnegative⟩ := Sign.none.unsigned_digits hne h
  have hinteger : integer cs = Digits.value cs := by
    unfold integer
    rw [if_neg (by simpa [Sign.text] using hnegative)]
    exact congrArg (fun l => (Digits.value l : ℤ)) hunsigned
  have hcs : Lexical.unsigned cs = cs := hunsigned
  rw [parseInt_of_isInteger ⟨by rw [hcs]; exact hne, by rw [hcs]; exact h⟩, hinteger]
  exact checked_of (signed_of_natAbs_lt hw)

/-- **The text of an exponent** is an integer, and denotes its value. -/
theorem Exponent.integer_text (e : Exponent) :
    IsInteger (e.sign.text ++ e.digits) ∧ integer (e.sign.text ++ e.digits) = e.value := by
  obtain ⟨hunsigned, hnegative⟩ := e.sign.unsigned_digits e.digits_ne e.isDigit
  refine ⟨⟨by rw [hunsigned]; exact e.digits_ne, by rw [hunsigned]; exact e.isDigit⟩, ?_⟩
  show integer (e.sign.text ++ e.digits) = e.sign.factor * Digits.value e.digits
  unfold integer
  rw [hunsigned]
  by_cases hminus : e.sign = .minus
  · rw [if_pos (hnegative.mpr hminus), hminus]
    exact (neg_one_mul _).symm
  · rw [if_neg (fun h => hminus (hnegative.mp h))]
    cases hsign : e.sign with
    | none | plus => exact (one_mul _).symm
    | minus => exact absurd hsign hminus

theorem pushZeros_eq (extra : ℕ) (cs : List Char) :
    pushZeros extra cs = cs ++ List.replicate extra '0' := by
  induction extra generalizing cs with
  | zero => exact (List.append_nil cs).symm
  | succ extra ih => rw [pushZeros, ih, List.append_assoc, List.replicate_succ, List.singleton_append]

namespace Reading

/-- **The number that was read.** -/
def value (r : Reading) : ℚ :=
  scaled 10 ((if r.negative then -1 else 1) * Digits.value r.digits)
    (r.fractional - integer r.exponent)

/-- What every reading of a numeral satisfies. -/
structure WellFormed (r : Reading) : Prop where
  isDigit : ∀ c ∈ r.digits, c.isDigit = true
  isInteger : IsInteger r.exponent

/-- The digits without the zeros at both ends. -/
def coefficient (r : Reading) : List Char := Digits.trimEnd (Digits.trimStart r.digits)

/-- How many zeros are dropped at the end. -/
def trailing (r : Reading) : ℕ := (Digits.trimStart r.digits).length - r.coefficient.length

/-- The coefficient, with its sign. -/
def signed (r : Reading) : ℤ := (if r.negative then -1 else 1) * Digits.value r.coefficient

/-- The scale of the coefficient. -/
def exactScale (r : Reading) : ℤ := r.fractional - r.trailing - integer r.exponent

/-- How many zeros a scale below zero stands for. -/
abbrev extra (r : Reading) : ℕ := (-r.exactScale).toNat

/-- **The comparisons the parser makes**, of lengths and scales. -/
def Short (r : Reading) : Prop := r.exactScale ≤ 28 ∧ r.coefficient.length + r.extra ≤ 29

section Coefficient

variable {r : Reading}

theorem natAbs_signed (r : Reading) : r.signed.natAbs = Digits.value r.coefficient := by
  unfold signed
  split_ifs <;> simp

theorem isDigit_coefficient (h : r.WellFormed) : ∀ c ∈ r.coefficient, c.isDigit = true :=
  fun c hc => h.isDigit c (Digits.mem_of_mem_trimStart (Digits.mem_of_mem_trimEnd hc))

theorem coefficient_ne_nil (hne : Digits.trimStart r.digits ≠ []) : r.coefficient ≠ [] :=
  (Digits.head_trimEnd hne (Digits.head_trimStart_ne hne)).1

/-- **The number is that of the coefficient at its scale.** -/
theorem value_eq_scaled (r : Reading) : r.value = scaled 10 r.signed r.exactScale := by
  have hdigits : Digits.value r.digits = Digits.value r.coefficient * 10 ^ r.trailing := by
    rw [← Digits.value_trimStart]
    exact Digits.value_trimEnd _
  have hsigned : (if r.negative then -1 else 1) * (Digits.value r.digits : ℤ)
      = r.signed * ((10 : ℕ) : ℤ) ^ r.trailing := by
    rw [hdigits, signed]
    push_cast
    ring
  rw [value, hsigned, scaled_mul_pow (by decide), exactScale]
  congr 1
  ring

theorem not_dvd_signed (h : r.WellFormed) (hne : Digits.trimStart r.digits ≠ []) :
    ¬ ((10 : ℕ) : ℤ) ∣ r.signed := by
  have hcoefficient := Digits.not_dvd_value (isDigit_coefficient h) (coefficient_ne_nil hne)
    (Digits.getLast_trimEnd_ne (coefficient_ne_nil hne))
  rw [Int.natCast_dvd, natAbs_signed]
  exact hcoefficient

/-- **A decimal is short**: a number without zeros at the end that passes 96 bits or 28
places is none. -/
theorem short_of_representable (h : r.WellFormed) (hne : Digits.trimStart r.digits ≠ [])
    (hrep : Decimal.Representable r.value) : r.Short := by
  rw [value_eq_scaled] at hrep
  obtain ⟨hbound, hscale⟩ := (Format.representable_scaled_iff (F := Decimal.format)
    (not_dvd_signed h hne) r.exactScale).mp hrep
  refine ⟨hscale, ?_⟩
  rw [natAbs_signed] at hbound
  have hpos : 0 < r.coefficient.length := List.length_pos_of_ne_nil (coefficient_ne_nil hne)
  obtain ⟨hne', hhead⟩ := Digits.head_trimEnd hne (Digits.head_trimStart_ne hne)
  have hlarge := Digits.pow_le_value (isDigit_coefficient h) hne' hhead
  -- The coefficient alone is a power of ten of its length.
  have hpow : 10 ^ (r.coefficient.length - 1 + r.extra) < 10 ^ 29 := by
    calc 10 ^ (r.coefficient.length - 1 + r.extra)
        = 10 ^ (r.coefficient.length - 1) * 10 ^ r.extra := pow_add _ _ _
      _ ≤ Digits.value r.coefficient * 10 ^ r.extra := Nat.mul_le_mul_right _ hlarge
      _ < 2 ^ 96 := hbound
      _ < 10 ^ 29 := by norm_num
  have hlt := (Nat.pow_lt_pow_iff_right (by norm_num)).mp hpow
  omega

end Coefficient

end Reading

namespace Reading

variable {r : Reading}

theorem scale_eq_some {t : ℕ} {e z : ℤ} (h : r.scale t e = some z) : z = r.fractional - t - e := by
  obtain ⟨f, hf, h⟩ := Option.bind_eq_some_iff.mp h
  obtain ⟨t', ht, h⟩ := Option.bind_eq_some_iff.mp h
  obtain ⟨n, hn, hz⟩ := Option.bind_eq_some_iff.mp h
  rw [checked_eq_some hz, checked_eq_some hn, checked_eq_some hf, checked_eq_some ht]

/-- Texts that fit the memory have sizes and differences of sizes that fit a word. -/
theorem scale_eq {t : ℕ} {e : ℤ} (hf : r.fractional < 2 ^ 62) (ht : t < 2 ^ 62)
    (h : Signed 64 (r.fractional - t - e)) :
    r.scale t e = some (r.fractional - t - e) := by
  have hf64 : Signed 64 r.fractional := signed_of_natAbs_lt (by norm_num; omega)
  have ht64 : Signed 64 t := signed_of_natAbs_lt (by norm_num; omega)
  have hsub : Signed 64 ((r.fractional : ℤ) - t) := signed_of_natAbs_lt (by norm_num; omega)
  rw [scale, checked_of hf64, Option.bind_some, checked_of ht64, Option.bind_some,
    checked_of hsub, Option.bind_some, checked_of h]

theorem sourceScale_eq_some {s : ℕ} (h : r.sourceScale = some s) :
    (s : ℤ) = r.fractional - integer r.exponent := by
  obtain ⟨e, he, h⟩ := Option.bind_eq_some_iff.mp h
  obtain ⟨f, hf, h⟩ := Option.bind_eq_some_iff.mp h
  obtain ⟨n, hn, hs⟩ := Option.bind_eq_some_iff.mp h
  rw [← checkedUnsigned_eq_some hs, checked_eq_some hn, checked_eq_some hf, parseInt_eq_some he]

end Reading

section Expand

variable {r : Reading} {x : Expansion}

theorem extra_eq (r : Reading) :
    (if r.exactScale < 0 then r.exactScale.natAbs else 0) = r.extra := by
  rw [Reading.extra]
  split_ifs <;> omega

/-- What is written out, if it is. -/
theorem expand_eq_ok (h : expand r (Digits.trimStart r.digits) = .ok x) :
    r.Short ∧ x = ⟨r.coefficient ++ List.replicate r.extra '0', r.extra, r.exactScale⟩ := by
  unfold expand at h
  obtain ⟨exponent, hexponent, h⟩ := okOr_bind_eq_ok h
  obtain ⟨scale, hscale, h⟩ := okOr_bind_eq_ok h
  have hexact : scale = r.exactScale := by
    rw [Reading.scale_eq_some hscale, parseInt_eq_some hexponent]
    rfl
  rw [hexact, extra_eq] at h
  dsimp only at h
  rw [pushZeros_eq] at h
  split_ifs at h with hmax hlength
  obtain ⟨hlen, hle⟩ := not_or.mp hlength
  have hlen' : r.coefficient.length ≤ 29 := not_lt.mp hlen
  have hle' : r.extra ≤ 29 - r.coefficient.length := not_lt.mp hle
  exact ⟨⟨not_lt.mp hmax, by omega⟩, (Except.ok.inj h).symm⟩

theorem fractional_le (r : Reading) : r.fractional ≤ r.digits.length := by
  unfold Reading.fractional
  cases r.point with
  | none => exact Nat.zero_le _
  | some p => exact Nat.sub_le _ _

theorem trailing_le (r : Reading) : r.trailing ≤ r.digits.length :=
  (Nat.sub_le _ _).trans (List.dropWhile_sublist (fun c => c == '0')).length_le

/-- **A short number is written out**, whatever its exponent. -/
theorem expand_of_short (hwf : r.WellFormed) (hsize : r.digits.length < 2 ^ 62) (h : r.Short) :
    expand r (Digits.trimStart r.digits)
      = .ok ⟨r.coefficient ++ List.replicate r.extra '0', r.extra, r.exactScale⟩ := by
  obtain ⟨hscale, hlength⟩ := h
  have hdef : r.exactScale = r.fractional - r.trailing - integer r.exponent := rfl
  have hextra : r.extra = (-r.exactScale).toNat := rfl
  have hfractional := (fractional_le r).trans_lt hsize
  have htrailing := (trailing_le r).trans_lt hsize
  have hexponent : parseInt 64 r.exponent = some (integer r.exponent) := by
    rw [parseInt_of_isInteger hwf.isInteger]
    refine checked_of (signed_of_natAbs_lt ?_)
    norm_num
    omega
  have hscale' : r.scale r.trailing (integer r.exponent) = some r.exactScale := by
    refine Reading.scale_eq hfractional htrailing (signed_of_natAbs_lt ?_)
    norm_num
    omega
  have hmax : ¬ (Decimal.maxScale : ℤ) < r.exactScale := not_lt.mpr hscale
  have hlen : ¬ (29 < r.coefficient.length ∨ 29 - r.coefficient.length < r.extra) := by omega
  unfold expand
  dsimp only
  rw [hexponent, okOr_some, ok_bind]
  show (okOr (r.scale r.trailing (integer r.exponent)) Decimal.Error.underflow >>= _) = _
  rw [hscale', okOr_some, ok_bind, if_neg hmax, extra_eq, pushZeros_eq]
  exact if_neg hlen

end Expand

section Denote

variable [RustDecimal] {r : Reading}

theorem toSourceScale_value [LawfulRustDecimal] {d : Decimal}
    (h : ∀ s, r.sourceScale = some s → d.scale ≤ s) : (toSourceScale r d).value = d.value := by
  unfold toSourceScale
  split
  · rfl
  · rename_i s hs
    exact LawfulRustDecimal.rescale_value _ _ (le_min (h s hs) d.scale_le)

omit [RustDecimal] in
/-- What is written out is the coefficient, times its power of ten. -/
theorem parseInt_normalized (hwf : r.WellFormed) (hzero : Digits.trimStart r.digits ≠ [])
    (h : r.Short) :
    parseInt 128 (r.coefficient ++ List.replicate r.extra '0')
      = some ((Digits.value r.coefficient * 10 ^ r.extra : ℕ) : ℤ) := by
  have hdigit : ∀ c ∈ r.coefficient ++ List.replicate r.extra '0', c.isDigit = true := by
    intro c hc
    obtain hc | hc := List.mem_append.mp hc
    · exact Reading.isDigit_coefficient hwf c hc
    · rw [List.eq_of_mem_replicate hc]
      rfl
  have hvalue : Digits.value (r.coefficient ++ List.replicate r.extra '0')
      = Digits.value r.coefficient * 10 ^ r.extra := by
    rw [Digits.value_append, List.length_replicate, Digits.value, Digits.value,
      Nat.ofDigitChars_replicate_zero, Nat.mul_zero, Nat.add_zero]
  have hne : r.coefficient ++ List.replicate r.extra '0' ≠ [] :=
    List.append_ne_nil_of_left_ne_nil (Reading.coefficient_ne_nil hzero) _
  rw [← hvalue]
  refine parseInt_digits hne hdigit ?_
  have hlength : (r.coefficient ++ List.replicate r.extra '0').length ≤ 29 := by
    rw [List.length_append, List.length_replicate]
    exact h.2
  calc Digits.value (r.coefficient ++ List.replicate r.extra '0')
      < 10 ^ (r.coefficient ++ List.replicate r.extra '0').length := Digits.value_lt hdigit
    _ ≤ 10 ^ 29 := Nat.pow_le_pow_right (by norm_num) hlength
    _ < 2 ^ (128 - 1) := by norm_num

/-- The result is shown at the scale of its text, which is never a smaller one. -/
theorem exactly_toSourceScale [LawfulRustDecimal] {c : ℤ} (h : Reduced 10 c r.exactScale.toNat) :
    Decimal.Exactly (number 10 c r.exactScale.toNat)
      (do
        let result ← Decimal.tryFromI128WithScale c r.exactScale.toNat
        return toSourceScale r result).toOption := by
  have hexactly := Decimal.exactly_tryFrom h
  cases hresult : Decimal.tryFromI128WithScale c r.exactScale.toNat with
  | error e =>
    rw [hresult] at hexactly
    exact hexactly
  | ok d =>
    rw [hresult] at hexactly
    refine (toSourceScale_value (fun s hs => ?_)).trans hexactly
    have hsource := Reading.sourceScale_eq_some hs
    have hdef : r.exactScale = r.fractional - r.trailing - integer r.exponent := rfl
    rw [Decimal.scale_of_tryFrom hresult]
    omega

/-- **What was read is denoted exactly, or by nothing.** -/
theorem denote_spec [LawfulRustDecimal] (hwf : r.WellFormed) (hsize : r.digits.length < 2 ^ 62) :
    Decimal.Exactly r.value (denote r).toOption := by
  unfold denote
  dsimp only
  by_cases hzero : Digits.trimStart r.digits = []
  · have hvalue : r.value = 0 := by
      have hdigits : Digits.value r.digits = 0 := by
        rw [← Digits.value_trimStart, hzero]
        rfl
      rw [Reading.value, hdigits]
      simp [scaled]
    rw [hzero, hvalue]
    exact (toSourceScale_value (fun _ _ => Nat.zero_le _)).trans Decimal.value_zero
  · rw [if_neg (by simpa using hzero)]
    by_cases hshort : r.Short
    · have hexpand := expand_of_short hwf hsize hshort
      have hscale : max r.exactScale 0 = (r.exactScale.toNat : ℤ) := by omega
      have hword : r.exactScale.toNat < 2 ^ 32 := by
        have hmax := hshort.1
        norm_num
        omega
      have hsigned : (if r.negative then -((Digits.value r.coefficient * 10 ^ r.extra : ℕ) : ℤ)
          else ((Digits.value r.coefficient * 10 ^ r.extra : ℕ) : ℤ))
          = r.signed * ((10 : ℕ) : ℤ) ^ r.extra := by
        unfold Reading.signed
        split_ifs <;> push_cast <;> ring
      rw [hexpand, ok_bind, parseInt_normalized hwf hzero hshort, okOr_some, ok_bind]
      dsimp only
      rw [hsigned, hscale, checkedUnsigned_natCast hword, okOr_some, ok_bind, Reading.value_eq_scaled,
        scaled_eq_number (by decide)]
      exact exactly_toSourceScale (reduced_scaled (Reading.not_dvd_signed hwf hzero) _)
    · cases hexpand : expand r (Digits.trimStart r.digits) with
      | ok x => exact absurd (expand_eq_ok hexpand).1 hshort
      | error e => exact fun hrep => hshort (Reading.short_of_representable hwf hzero hrep)

end Denote

/-! ## The parser is exact -/

namespace Numeral

variable (n : Numeral)

theorem wellFormed_reading : n.reading.WellFormed := by
  refine ⟨n.isDigit_digits, ?_⟩
  show IsInteger (n.exponent.elim ['0'] (fun e => e.sign.text ++ e.digits))
  cases n.exponent with
  | none => exact ⟨List.cons_ne_nil _ _, List.all_eq_true.mp rfl⟩
  | some e => exact e.integer_text.1

theorem reading_value : n.reading.value = n.value := by
  have hfractional : n.reading.fractional = (n.fraction.getD []).length := by
    show (n.fraction.map (fun _ => n.whole.length)).elim 0
      (fun p => (n.whole ++ n.fraction.getD []).length - p) = (n.fraction.getD []).length
    cases n.fraction with
    | none => rfl
    | some cs => simp
  have hexponent : integer n.reading.exponent = n.exponent.elim 0 Exponent.value := by
    show integer (n.exponent.elim ['0'] (fun e => e.sign.text ++ e.digits)) = _
    cases n.exponent with
    | none => rfl
    | some e => exact e.integer_text.2
  have hfactor : (if n.reading.negative then -1 else 1) = n.sign.factor := by
    show (if decide (n.sign = .minus) = true then (-1 : ℤ) else 1) = n.sign.factor
    cases n.sign <;> rfl
  rw [Reading.value, hfactor, hfractional, hexponent]
  rfl

theorem length_digits_le : n.digits.length ≤ n.text.length := by
  have hmantissa : n.digits.length ≤ n.mantissa.length := by
    unfold digits mantissa
    cases n.fraction with
    | none => simp
    | some cs => simp
  unfold text
  rw [List.length_append, List.length_append]
  omega

end Numeral

section Numeric

variable [RustDecimal] {s : String}

/-- **The grammar**: a text is a number exactly if some numeral spells it. -/
theorem isSome_numeric_iff : (numeric s).isSome = true ↔ ∃ n : Numeral, n.text = s.toList := by
  rw [numeric, Option.isSome_map, Option.isSome_iff_exists]
  constructor
  · rintro ⟨r, hr⟩
    exact exists_numeral hr
  · rintro ⟨n, hn⟩
    exact ⟨n.reading, by rw [← hn, n.read_text]⟩

/-- **The number**: what a numeral spells is parsed exactly, or refused because it is
no decimal. -/
theorem numeric_text [LawfulRustDecimal] (n : Numeral) (hn : n.text = s.toList)
    (hsize : s.toList.length < 2 ^ 62) :
    ∃ r, numeric s = some r ∧ Decimal.Exactly n.value r.toOption := by
  refine ⟨denote n.reading, ?_, ?_⟩
  · rw [numeric, ← hn, n.read_text]
    rfl
  · rw [← n.reading_value]
    refine denote_spec n.wellFormed_reading ?_
    have hlength := n.length_digits_le
    rw [hn] at hlength
    exact hlength.trans_lt hsize

omit [RustDecimal] in
/-- **Exponents do not make the parser write.** -/
theorem zerosPushed_le (s : String) : zerosPushed s ≤ 29 := by
  unfold zerosPushed
  split
  · exact Nat.zero_le _
  · rename_i r _
    split_ifs
    · exact Nat.zero_le _
    · split
      · exact Nat.zero_le _
      · rename_i x hx
        obtain ⟨⟨-, hlength⟩, rfl⟩ := expand_eq_ok hx
        exact (Nat.le_add_left _ _).trans hlength

/-- **The wire number parser accepts its grammar, and is exact**: a text that some
numeral spells gives the decimal that is the number of that numeral, or an error
exactly if there is none, and never makes more than 29 zeros. -/
theorem numeric_exact [LawfulRustDecimal] (s : String) (hsize : s.utf8ByteSize < 2 ^ 62) :
    ((numeric s).isSome = true ↔ ∃ n : Numeral, n.text = s.toList)
      ∧ (∀ (n : Numeral) (r : Except Decimal.Error Decimal), n.text = s.toList →
          numeric s = some r →
          ((∃ d, r = .ok d) ↔ Decimal.Representable n.value) ∧ ∀ d, r = .ok d → d.value = n.value)
      ∧ (∀ r, numeric s = some r → parse s = r)
      ∧ (numeric s = none → ∃ e, parse s = .error e)
      ∧ zerosPushed s ≤ 29 := by
  refine ⟨isSome_numeric_iff, ?_, ?_, ?_, zerosPushed_le s⟩
  · intro n r hn hr
    obtain ⟨r', hr', hexactly⟩ :=
      numeric_text n hn ((Text.length_le_utf8ByteSize s).trans_lt hsize)
    obtain rfl : r = r' := Option.some.inj (hr.symm.trans hr')
    exact hexactly.eq_ok
  · intro r hr
    rw [parse, hr, Option.getD_some]
  · intro hnone
    exact ⟨_, by rw [parse, hnone, Option.getD_none]⟩

omit [RustDecimal] in
/-- A sign, a point, zeros at the end and an exponent. -/
theorem numeric_exact_minus_fifteen :
    ∃ d, @numeric RustDecimal.exact "-1.50e1" = some (.ok d) ∧ d.value = -15 := by
  let n : Numeral := ⟨.minus, ['1'], some ['5', '0'],
    some ⟨'e', .none, ['1'], Or.inl rfl, by decide, List.all_eq_true.mp rfl⟩,
    List.all_eq_true.mp rfl, List.all_eq_true.mp rfl, by decide⟩
  have htext : n.text = "-1.50e1".toList := by decide
  have hvalue : n.value = -15 := by
    show scaled 10 (-1 * (150 : ℕ)) ((2 : ℕ) - 1 * (1 : ℕ)) = -15
    norm_num [scaled]
  have hrep : Decimal.Representable n.value := by
    rw [hvalue]
    refine ⟨-15, 0, ⟨by decide, by decide⟩, ?_⟩
    rw [number_zero_scale]
    norm_num
  obtain ⟨hsome, hexact, -⟩ :=
    @numeric_exact RustDecimal.exact RustDecimal.lawful_exact "-1.50e1" (by decide)
  obtain ⟨r, hr⟩ := Option.isSome_iff_exists.mp (hsome.mpr ⟨n, htext⟩)
  obtain ⟨hok, hd⟩ := hexact n r htext hr
  obtain ⟨d, rfl⟩ := hok.mpr hrep
  exact ⟨d, hr, (hd d rfl).trans hvalue⟩

end Numeric

end Number

end Szamlazz
