import Mathlib.Algebra.Ring.Nat
import Mathlib.Data.List.TakeWhile
import Mathlib.Tactic.Common

/-!
# Lexical spaces

Which texts stand for a value of the simple types of XML Schema, as functions
on text, and that the usual printers of numbers and dates stay inside them:
`isInt_toString` for bounded naturals, `isDouble_ofList` for a sign, digits, a
point and digits, `isDate_ofList` for a date of the calendar.
-/

namespace Lexical

/-- The number of days of a month of the proleptic Gregorian calendar. -/
def daysInMonth (year : Int) (month : Nat) : Nat :=
  if month = 2 then
    if (year % 4 = 0 ∧ year % 100 ≠ 0) ∨ year % 400 = 0 then 29 else 28
  else if month = 4 ∨ month = 6 ∨ month = 9 ∨ month = 11 then 30
  else 31

theorem daysInMonth_le (year : Int) (month : Nat) : daysInMonth year month ≤ 31 := by
  unfold daysInMonth
  split_ifs <;> decide

/-! ## Digits -/

/-- The last decimal digit of a number. -/
def digit (n : Nat) : Char := Nat.digitChar (n % 10)

/-- The value of a decimal digit. -/
def digitValue (c : Char) : Nat := c.toNat - '0'.toNat

/-- Two digits. -/
def pad2 (n : Nat) : List Char := [digit (n / 10), digit n]

/-- Four digits. -/
def pad4 (n : Nat) : List Char := [digit (n / 1000), digit (n / 100), digit (n / 10), digit n]

theorem isDigit_digit (n : Nat) : (digit n).isDigit = true := by
  have h : ∀ k < 10, (Nat.digitChar k).isDigit = true := by decide
  exact h (n % 10) (Nat.mod_lt _ (by decide))

theorem digitValue_digit (n : Nat) : digitValue (digit n) = n % 10 := by
  have h : ∀ k < 10, digitValue (Nat.digitChar k) = k := by decide
  exact h (n % 10) (Nat.mod_lt _ (by decide))

/-- A digit is neither sign and opens no exponent. -/
theorem isDigit_ne {c d : Char} (hc : c.isDigit = true) (hd : d.isDigit = false) : c ≠ d := by
  rintro rfl
  exact absurd (hc.symm.trans hd) (by decide)

/-! ## Simple types -/

def isBoolean (text : String) : Bool :=
  text == "true" || text == "false" || text == "1" || text == "0"

/-- A 32-bit integer: an optional sign and digits. -/
def isInt (text : String) : Bool :=
  match text.toList with
  | '-' :: digits =>
    !digits.isEmpty && digits.all Char.isDigit && Nat.ofDigitChars 10 digits 0 ≤ 2 ^ 31
  | '+' :: digits =>
    !digits.isEmpty && digits.all Char.isDigit && Nat.ofDigitChars 10 digits 0 < 2 ^ 31
  | digits =>
    !digits.isEmpty && digits.all Char.isDigit && Nat.ofDigitChars 10 digits 0 < 2 ^ 31

/-- A 32-bit integer that is not below zero. -/
def isNonNegativeInt (text : String) : Bool := isInt text && text.toList.head? != some '-'

/-- Digits with a point somewhere among them. -/
def isDecimal (cs : List Char) : Bool :=
  match cs.dropWhile Char.isDigit with
  | [] => !cs.isEmpty
  | '.' :: fraction =>
    fraction.all Char.isDigit && !((cs.takeWhile Char.isDigit).isEmpty && fraction.isEmpty)
  | _ => false

/-- What follows an optional sign. -/
def unsigned : List Char → List Char
  | '-' :: cs => cs
  | '+' :: cs => cs
  | cs => cs

/-- A double: a mantissa, an optional exponent, or one of the special values. -/
def isDouble (text : String) : Bool :=
  text == "INF" || text == "-INF" || text == "NaN"
    || (isDecimal ((unsigned text.toList).takeWhile (fun c => c != 'e' && c != 'E'))
      && match (unsigned text.toList).dropWhile (fun c => c != 'e' && c != 'E') with
        | [] => true
        | _ :: exponent =>
          !(unsigned exponent).isEmpty && (unsigned exponent).all Char.isDigit)

/-- A date of the calendar. The schema type also has years of more than four
digits, years before year 1 and time zones; this is its part without them. -/
def isDate (text : String) : Bool :=
  match text.toList with
  | [y₁, y₂, y₃, y₄, s, m₁, m₂, t, d₁, d₂] =>
    let year := 1000 * digitValue y₁ + 100 * digitValue y₂ + 10 * digitValue y₃ + digitValue y₄
    let month := 10 * digitValue m₁ + digitValue m₂
    let day := 10 * digitValue d₁ + digitValue d₂
    [y₁, y₂, y₃, y₄, m₁, m₂, d₁, d₂].all Char.isDigit && s == '-' && t == '-'
      && decide (1 ≤ year) && decide (1 ≤ month) && decide (month ≤ 12)
      && decide (1 ≤ day) && decide (day ≤ daysInMonth year month)
  | _ => false

/-! ## Printed values -/

theorem isNonNegativeInt_toString {n : Nat} (h : n < 2 ^ 31) :
    isNonNegativeInt (toString n) = true := by
  have hlist : (toString n).toList = Nat.toDigits 10 n := Nat.toList_repr
  have hdigit : ∀ c ∈ Nat.toDigits 10 n, c.isDigit = true := fun c hc =>
    Nat.isDigit_of_mem_toDigits (by decide) (by decide) hc
  have hvalue : Nat.ofDigitChars 10 (Nat.toDigits 10 n) 0 = n := Nat.ofDigitChars_ten_toDigits
  cases hcs : Nat.toDigits 10 n with
  | nil => exact absurd hcs Nat.toDigits_ne_nil
  | cons c cs =>
    rw [hcs] at hlist hdigit hvalue
    -- the first character is a digit, so neither sign
    have hc : c.isDigit = true := hdigit c List.mem_cons_self
    have hminus : c ≠ '-' := isDigit_ne hc (by decide)
    have hplus : c ≠ '+' := isDigit_ne hc (by decide)
    have hall : (c :: cs).all Char.isDigit = true := List.all_eq_true.mpr hdigit
    unfold isNonNegativeInt isInt
    rw [hlist]
    split
    · rename_i heq
      exact absurd (List.cons.inj heq).1 hminus
    · rename_i heq
      exact absurd (List.cons.inj heq).1 hplus
    · simp only [hall, hvalue, decide_eq_true h]
      simp [hminus]

theorem isInt_toString {n : Nat} (h : n < 2 ^ 31) : isInt (toString n) = true :=
  (Bool.and_eq_true_iff.mp (isNonNegativeInt_toString h)).1

theorem takeWhile_isDigit_append {whole : List Char} (rest : List Char)
    (hwhole : ∀ c ∈ whole, c.isDigit = true) (hrest : ∀ c ∈ rest.head?, c.isDigit = false) :
    (whole ++ rest).takeWhile Char.isDigit = whole
      ∧ (whole ++ rest).dropWhile Char.isDigit = rest := by
  rw [List.takeWhile_append_of_pos hwhole, List.dropWhile_append_of_pos hwhole]
  cases rest with
  | nil => simp
  | cons c rest =>
    have hc : c.isDigit = false := hrest c rfl
    simp [hc]

theorem unsigned_of_isDigit {c : Char} {cs : List Char} (hc : c.isDigit = true) :
    unsigned (c :: cs) = c :: cs := by
  unfold unsigned
  split
  · rename_i heq
    exact absurd (List.cons.inj heq).1 (isDigit_ne hc (by decide))
  · rename_i heq
    exact absurd (List.cons.inj heq).1 (isDigit_ne hc (by decide))
  · rfl

/-- Digits, and then nothing or a point and digits. -/
theorem isDouble_unsigned (cs : List Char) {text : String} (htext : unsigned text.toList = cs)
    (hexp : ∀ c ∈ cs, (c != 'e' && c != 'E') = true) (hdecimal : isDecimal cs = true) :
    isDouble text = true := by
  have htake : cs.takeWhile (fun c => c != 'e' && c != 'E') = cs :=
    List.takeWhile_eq_self_iff.mpr hexp
  have hdrop : cs.dropWhile (fun c => c != 'e' && c != 'E') = [] :=
    List.dropWhile_eq_nil_iff.mpr hexp
  unfold isDouble
  rw [htext, htake, hdrop, hdecimal]
  simp

/-- **A sign, digits, a point and digits are a double.** -/
theorem isDouble_ofList {negative : Bool} {whole rest : List Char} (hne : whole ≠ [])
    (hwhole : ∀ c ∈ whole, c.isDigit = true)
    (hrest : rest = [] ∨ ∃ fraction, rest = '.' :: fraction ∧ ∀ c ∈ fraction, c.isDigit = true) :
    isDouble (String.ofList ((if negative then ['-'] else []) ++ whole ++ rest)) = true := by
  have hdigitExp : ∀ c : Char, c.isDigit = true → (c != 'e' && c != 'E') = true := by
    intro c hc
    simp [isDigit_ne hc (d := 'e') (by decide), isDigit_ne hc (d := 'E') (by decide)]
  refine isDouble_unsigned (whole ++ rest) ?_ (fun c hc => ?_) ?_
  · rw [String.toList_ofList]
    cases negative with
    | true => rfl
    | false =>
      cases whole with
      | nil => exact absurd rfl hne
      | cons c cs => exact unsigned_of_isDigit (hwhole c List.mem_cons_self)
  · rcases List.mem_append.mp hc with hc | hc
    · exact hdigitExp c (hwhole c hc)
    · rcases hrest with rfl | ⟨fraction, rfl, hfraction⟩
      · cases hc
      · rcases List.mem_cons.mp hc with rfl | hc
        · decide
        · exact hdigitExp c (hfraction c hc)
  · unfold isDecimal
    rcases hrest with rfl | ⟨fraction, rfl, hfraction⟩
    · rw [(takeWhile_isDigit_append [] hwhole (by simp)).2]
      simpa using hne
    · obtain ⟨htake, hdrop⟩ := takeWhile_isDigit_append ('.' :: fraction) hwhole
        (by intro c hc; cases hc; decide)
      rw [htake, hdrop]
      simpa [hne] using hfraction

/-- **A date of the calendar, printed with four and two digits, is a date.** -/
theorem isDate_ofList {year month day : Nat} (hyear : 1 ≤ year ∧ year ≤ 9999)
    (hmonth : 1 ≤ month ∧ month ≤ 12) (hday : 1 ≤ day ∧ day ≤ daysInMonth year month) :
    isDate (String.ofList (pad4 year ++ '-' :: pad2 month ++ '-' :: pad2 day)) = true := by
  have hday' : day ≤ 31 := hday.2.trans (daysInMonth_le _ _)
  have hy : 1000 * (year / 1000 % 10) + 100 * (year / 100 % 10) + 10 * (year / 10 % 10)
      + year % 10 = year := by omega
  have hm : 10 * (month / 10 % 10) + month % 10 = month := by omega
  have hd : 10 * (day / 10 % 10) + day % 10 = day := by omega
  unfold isDate
  rw [String.toList_ofList]
  simp only [pad4, pad2, List.cons_append, List.nil_append, digitValue_digit, hy, hm, hd,
    List.all_cons, List.all_nil, isDigit_digit, Bool.and_true, BEq.rfl, Bool.true_and,
    Bool.and_eq_true, decide_eq_true_eq]
  exact ⟨⟨⟨⟨hyear.1, hmonth.1⟩, hmonth.2⟩, hday.1⟩, hday.2⟩

end Lexical
