import Mathlib.Algebra.Order.Group.Nat
import Mathlib.Data.List.DropRight
import Szamlazz.Lib.Lexical
import Szamlazz.Lib.Text

/-!
# Strings of decimal digits

What a string of digits denotes, and how much of it the zeros at either end say:
those in front nothing, those at the end a power of ten. A string trimmed of both
has a value that is large for its length (`pow_le_value`) and does not end
in zero (`not_dvd_value`), which is all that is needed to tell from the
length alone that a number is too large.

A signed number is a sign and such a string, padded to a width; it is read back from
any text that goes on with something else than a digit (`signed_append_inj`).
-/

namespace Digits

open Lexical

/-- The number a string of digits denotes. -/
abbrev value (l : List Char) : ℕ := Nat.ofDigitChars 10 l 0

/-- Without the zeros in front. -/
def trimStart (l : List Char) : List Char := l.dropWhile (fun c => c == '0')

/-- Without the zeros at the end. -/
def trimEnd (l : List Char) : List Char := l.rdropWhile (fun c => c == '0')

section Values

variable {l : List Char} {c : Char}

theorem value_append (l m : List Char) : value (l ++ m) = value l * 10 ^ m.length + value m := by
  rw [value, Nat.ofDigitChars_append, Nat.ofDigitChars_eq_ofDigitChars_zero, mul_comm]

theorem value_singleton (c : Char) : value [c] = digitValue c := by
  rw [value, Nat.ofDigitChars_cons, Nat.ofDigitChars_nil, Nat.mul_zero, Nat.zero_add, digitValue]

theorem digitValue_lt (h : c.isDigit = true) : digitValue c < 10 := by
  have hle : c.toNat ≤ '9'.toNat := by
    simp only [Char.isDigit, Bool.and_eq_true, decide_eq_true_eq] at h
    exact UInt32.le_iff_toNat_le.mp h.2
  have h9 : '9'.toNat = 57 := rfl
  have h0 : '0'.toNat = 48 := rfl
  unfold digitValue
  omega

theorem digitValue_pos (h : c.isDigit = true) (h0 : c ≠ '0') : 0 < digitValue c := by
  have hge : '0'.toNat ≤ c.toNat := by
    simp only [Char.isDigit, Bool.and_eq_true, decide_eq_true_eq] at h
    exact UInt32.le_iff_toNat_le.mp h.1
  have hne : c.toNat ≠ '0'.toNat := fun heq => h0 (Char.toNat_inj.mp heq)
  unfold digitValue
  omega

theorem value_lt (h : ∀ c ∈ l, c.isDigit = true) : value l < 10 ^ l.length := by
  induction l with
  | nil => simp [value]
  | cons c l ih =>
    have hc := digitValue_lt (h c List.mem_cons_self)
    have hl := ih (fun d hd => h d (List.mem_cons_of_mem _ hd))
    rw [← List.singleton_append, value_append, value_singleton, List.length_append,
      List.length_singleton, Nat.pow_add, Nat.pow_one]
    calc digitValue c * 10 ^ l.length + value l
        < digitValue c * 10 ^ l.length + 10 ^ l.length := Nat.add_lt_add_left hl _
      _ = (digitValue c + 1) * 10 ^ l.length := by rw [Nat.add_mul, Nat.one_mul]
      _ ≤ 10 * 10 ^ l.length := Nat.mul_le_mul_right _ hc

/-- **A string that does not begin with zero is large.** -/
theorem pow_le_value (h : ∀ c ∈ l, c.isDigit = true) (hne : l ≠ []) (h0 : l.head hne ≠ '0') :
    10 ^ (l.length - 1) ≤ value l := by
  cases l with
  | nil => exact absurd rfl hne
  | cons c l =>
    have hc := digitValue_pos (h c List.mem_cons_self) h0
    rw [← List.singleton_append, value_append, value_singleton]
    calc 10 ^ (l.length + 1 - 1) = 1 * 10 ^ l.length := by rw [Nat.add_sub_cancel, Nat.one_mul]
      _ ≤ digitValue c * 10 ^ l.length := Nat.mul_le_mul_right _ hc
      _ ≤ digitValue c * 10 ^ l.length + value l := Nat.le_add_right _ _

/-- **A string that does not end in zero denotes no multiple of ten.** -/
theorem not_dvd_value (h : ∀ c ∈ l, c.isDigit = true) (hne : l ≠ []) (h0 : l.getLast hne ≠ '0') :
    ¬ 10 ∣ value l := by
  have hlast := h _ (List.getLast_mem hne)
  have hlt := digitValue_lt hlast
  have hpos := digitValue_pos hlast h0
  rw [← List.dropLast_concat_getLast hne, value_append, value_singleton, List.length_singleton,
    Nat.pow_one]
  omega

/-! ## Trimming -/

theorem mem_of_mem_trimStart (h : c ∈ trimStart l) : c ∈ l :=
  (List.dropWhile_sublist _).mem h

theorem mem_of_mem_trimEnd (h : c ∈ trimEnd l) : c ∈ l :=
  (List.rdropWhile_prefix _ _).mem h

theorem value_trimStart (l : List Char) : value (trimStart l) = value l := by
  induction l with
  | nil => rfl
  | cons c l ih =>
    unfold trimStart
    by_cases hc : c = '0'
    · rw [hc, List.dropWhile_cons_of_pos rfl, ← List.singleton_append, value_append,
        value_singleton]
      show value (trimStart l) = 0 * 10 ^ l.length + value l
      rw [ih, Nat.zero_mul, Nat.zero_add]
    · rw [List.dropWhile_cons_of_neg (by simpa using hc)]

theorem head_trimStart_ne (hne : trimStart l ≠ []) : (trimStart l).head hne ≠ '0' := by
  have h := List.head_dropWhile_not (fun c => c == '0') hne
  exact beq_eq_false_iff_ne.mp h

/-- What is trimmed at the end are zeros. -/
theorem trimEnd_append (l : List Char) :
    trimEnd l ++ List.replicate (l.length - (trimEnd l).length) '0' = l := by
  have hrest : ∀ c ∈ l.rtakeWhile (fun c => c == '0'), c = '0' := by
    intro c hc
    simpa using List.mem_rtakeWhile_imp hc
  have hsplit : trimEnd l ++ l.rtakeWhile (fun c => c == '0') = l := List.rdropWhile_append_rtakeWhile
  have hlen : (l.rtakeWhile (fun c => c == '0')).length = l.length - (trimEnd l).length := by
    have := congrArg List.length hsplit
    rw [List.length_append] at this
    omega
  rw [← hlen, ← List.eq_replicate_length.mpr hrest]
  exact hsplit

theorem getLast_trimEnd_ne (hne : trimEnd l ≠ []) : (trimEnd l).getLast hne ≠ '0' := by
  have h := List.rdropWhile_last_not (fun c => c == '0') l hne
  exact fun heq => h (beq_iff_eq.mpr heq)

/-- Only what stands behind the last character that is not zero is trimmed. -/
theorem trimEnd_append_cons (l m : List Char) (h : c ≠ '0') :
    trimEnd (l ++ c :: m) = l ++ c :: trimEnd m := by
  induction m using List.reverseRecOn with
  | nil => exact List.rdropWhile_concat_neg _ _ _ (by simpa using h)
  | append_singleton m d ih =>
    have hsplit : l ++ c :: (m ++ [d]) = (l ++ c :: m) ++ [d] := by
      rw [List.append_assoc, List.cons_append]
    unfold trimEnd at ih ⊢
    by_cases hd : d = '0'
    · rw [hsplit, List.rdropWhile_concat_pos _ _ _ (by simpa using hd), ih,
        List.rdropWhile_concat_pos _ _ _ (by simpa using hd)]
    · rw [hsplit, List.rdropWhile_concat_neg _ _ _ (by simpa using hd),
        List.rdropWhile_concat_neg _ _ _ (by simpa using hd), List.append_assoc, List.cons_append]

/-- A string that does not begin with zero keeps its first digit. -/
theorem head_trimEnd (hne : l ≠ []) (h0 : l.head hne ≠ '0') :
    ∃ hne' : trimEnd l ≠ [], (trimEnd l).head hne' ≠ '0' := by
  have hsplit := trimEnd_append l
  have hne' : trimEnd l ≠ [] := by
    intro hnil
    rw [hnil, List.nil_append] at hsplit
    refine h0 (List.eq_of_mem_replicate (n := l.length - ([] : List Char).length) ?_)
    rw [hsplit]
    exact List.head_mem hne
  refine ⟨hne', ?_⟩
  have hhead : (trimEnd l).head hne' = l.head hne := by
    apply Option.some.inj
    rw [← List.head?_eq_some_head, ← List.head?_eq_some_head]
    conv_rhs => rw [← hsplit]
    rw [List.head?_append_of_ne_nil _ hne']
  rw [hhead]
  exact h0

theorem value_trimEnd (l : List Char) :
    value l = value (trimEnd l) * 10 ^ (l.length - (trimEnd l).length) := by
  conv_lhs => rw [← trimEnd_append l]
  rw [value_append, List.length_replicate, value, value, Nat.ofDigitChars_replicate_zero,
    Nat.mul_zero, Nat.add_zero]

end Values

/-- **The digits of a number have no superfluous zero in front.** -/
theorem toDigits_of_head?_eq_zero {n : ℕ} (h : (Nat.toDigits 10 n).head? = some '0') :
    Nat.toDigits 10 n = ['0'] := by
  obtain ⟨rest, hrest⟩ := List.head?_eq_some_iff.mp h
  have hdigits : ∀ c ∈ rest, c.isDigit = true := fun c hc =>
    Nat.isDigit_of_mem_toDigits (n := n) (b := 10) (by decide) (by decide)
      (by rw [hrest]; exact List.mem_cons_of_mem _ hc)
  cases rest with
  | nil => exact hrest
  | cons c rest =>
    -- What follows the zero denotes the number with one digit fewer.
    have hvalue : n = value (c :: rest) := by
      conv_lhs => rw [← Nat.ofDigitChars_ten_toDigits (n := n), hrest]
      show value (['0'] ++ c :: rest) = _
      rw [value_append, value_singleton]
      show 0 * _ + _ = _
      rw [Nat.zero_mul, Nat.zero_add]
    have hlength : (Nat.toDigits 10 n).length ≤ (c :: rest).length := by
      rw [Nat.length_toDigits_le_iff (by decide) (List.length_pos_of_ne_nil (List.cons_ne_nil _ _))]
      conv_lhs => rw [hvalue]
      exact value_lt hdigits
    rw [hrest, List.length_cons] at hlength
    omega

/-! ## Signed numbers -/

/-- A number as a sign and digits, with zeros in front of the digits until there are
`width` characters. -/
def signed (width : ℕ) (n : ℤ) : List Char :=
  let sign := if n < 0 then ['-'] else []
  let digits := Nat.toDigits 10 n.natAbs
  sign ++ (List.replicate (width - sign.length - digits.length) '0' ++ digits)

section Signed

variable {width : ℕ} {m n : ℤ}

theorem value_replicate_zero (k : ℕ) : value (List.replicate k '0') = 0 := by
  induction k with
  | zero => rfl
  | succ k ih =>
    rw [List.replicate_succ', value_append, ih, value_singleton, Nat.zero_mul]
    rfl

/-- A signed number is its sign and a string of digits for its absolute value. -/
theorem signed_eq (width : ℕ) (n : ℤ) : ∃ digits : List Char, digits ≠ []
    ∧ (∀ c ∈ digits, c.isDigit = true) ∧ value digits = n.natAbs
    ∧ signed width n = (if n < 0 then ['-'] else []) ++ digits := by
  refine ⟨_, ?_, ?_, ?_, rfl⟩
  · exact fun h => Nat.toDigits_ne_nil (List.append_eq_nil_iff.mp h).2
  · intro c hc
    rcases List.mem_append.mp hc with hc | hc
    · rw [List.eq_of_mem_replicate hc]
      rfl
    · exact Nat.isDigit_of_mem_toDigits (by decide) (by decide) hc
  · rw [value_append, value_replicate_zero, Nat.zero_mul, Nat.zero_add, value,
      Nat.ofDigitChars_ten_toDigits]

theorem mem_signed {c : Char} (h : c ∈ signed width n) : c = '-' ∨ c.isDigit = true := by
  obtain ⟨digits, -, hdigits, -, heq⟩ := signed_eq width n
  rw [heq] at h
  rcases List.mem_append.mp h with h | h
  · split_ifs at h
    · exact Or.inl (List.mem_singleton.mp h)
    · exact absurd h List.not_mem_nil
  · exact Or.inr (hdigits c h)

/-- **A signed number is read back** from what follows up to the separator. -/
theorem signed_append_inj {sep : Char} {x y : List Char} (hsep : sep.isDigit = false)
    (h : signed width m ++ sep :: x = signed width n ++ sep :: y) : m = n ∧ x = y := by
  obtain ⟨ds, hne, hds, hm, heq⟩ := signed_eq width m
  obtain ⟨ds', hne', hds', hn, heq'⟩ := signed_eq width n
  have hnot : ∀ l : List Char, (∀ c ∈ l, c.isDigit = true) → sep ∉ l := fun l hl hmem =>
    absurd (hl sep hmem) (by rw [hsep]; decide)
  have hminus : ∀ (l : List Char), l ≠ [] → (∀ c ∈ l, c.isDigit = true) → ∀ z z' : List Char,
      '-' :: z ≠ l ++ z' := by
    intro l hl hdigit z z' hzz
    cases l with
    | nil => exact hl rfl
    | cons c l =>
      have hc := hdigit c List.mem_cons_self
      rw [← (List.cons.inj hzz).1] at hc
      exact absurd hc (by decide)
  rw [heq, heq'] at h
  split_ifs at h with hneg hneg' hneg'
  · obtain ⟨rfl, hxy⟩ := Text.append_sep_inj (hnot ds hds) (hnot ds' hds')
      (List.cons.inj h).2
    exact ⟨by omega, hxy⟩
  · exact absurd h (hminus ds' hne' hds' _ _)
  · exact absurd h.symm (hminus ds hne hds _ _)
  · obtain ⟨rfl, hxy⟩ := Text.append_sep_inj (hnot ds hds) (hnot ds' hds') h
    exact ⟨by omega, hxy⟩

theorem signed_injective (h : signed width m = signed width n) : m = n :=
  (signed_append_inj (x := []) (y := []) (show ('.').isDigit = false from rfl)
    (congrArg (· ++ ['.']) h)).1

/-- An integer is displayed as a signed number. -/
theorem toList_toString_int (n : ℤ) : (toString n).toList = signed 0 n := by
  cases n with
  | ofNat n =>
    have hsign : ¬ (Int.ofNat n < 0) := by
      rw [Int.ofNat_eq_natCast]
      omega
    rw [signed, if_neg hsign, Nat.zero_sub, Nat.zero_sub]
    exact Nat.toList_repr
  | negSucc n =>
    rw [signed, if_pos (Int.negSucc_lt_zero n), Nat.zero_sub, Nat.zero_sub]
    show ("-" ++ Nat.repr (n + 1)).toList = _
    rw [String.toList_append, Nat.toList_repr]
    rfl

end Signed

end Digits
