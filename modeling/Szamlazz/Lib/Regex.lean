import Mathlib.Computability.Language
import Mathlib.Tactic.Common

/-!
# Regular expressions over Unicode text

The patterns of ECMA-262 as far as schemas use them: sets of code points, anchors,
alternatives and bounded repetition, with groups that capture nothing anybody asks for. A
pattern is a text, and `Regex.parse` reads it; what it matches is said of the tree that was
read.

A match is a piece of the text with what stands before and behind it, since an anchor looks
there (`Matches`). A pattern without anchors does not, and then it is a language
(`matches_iff`). Most patterns are such a language between two anchors, or at the beginning
of the text; `found_start` and `Ends` take the anchors off.
-/

/-- A set of code points: those of its ranges, or all others. -/
structure CharSet where
  negated : Bool
  ranges : List (ℕ × ℕ)
deriving DecidableEq

namespace CharSet

def mem (s : CharSet) (c : Char) : Bool :=
  s.negated != s.ranges.any (fun r => decide (r.1 ≤ c.toNat ∧ c.toNat ≤ r.2))

/-- The set of one code point. -/
def single (n : ℕ) : CharSet := ⟨false, [(n, n)]⟩

theorem mem_single {c d : Char} : (single d.toNat).mem c = true ↔ c = d := by
  have hmem : (single d.toNat).mem c = decide (d.toNat ≤ c.toNat ∧ c.toNat ≤ d.toNat) := by
    simp [mem, single]
  rw [hmem, decide_eq_true_eq, ← Char.toNat_inj]
  omega

end CharSet

/-- **A regular expression.** -/
inductive Regex where
  | set (s : CharSet)
  | start
  | stop
  | empty
  | seq (r s : Regex)
  | alt (r s : Regex)
  | times (r : Regex) (min : ℕ) (max : Option ℕ)
deriving DecidableEq

namespace Regex

/-! ## The text of a pattern -/

def hexValue (c : Char) : Option ℕ :=
  if c.isDigit then some (c.toNat - '0'.toNat)
  else if 'a' ≤ c ∧ c ≤ 'f' then some (c.toNat - 'a'.toNat + 10)
  else if 'A' ≤ c ∧ c ≤ 'F' then some (c.toNat - 'A'.toNat + 10)
  else none

/-- The characters of the syntax. -/
def isSyntax (c : Char) : Bool := "^$\\.*+?()[]\x7b\x7d|/".toList.contains c

/-- What a backslash stands in front of: a code point, a line end, or a character of the
syntax that means itself. -/
def escape : List Char → Option (ℕ × List Char)
  | 'u' :: a :: b :: c :: d :: rest => do
    let a ← hexValue a
    let b ← hexValue b
    let c ← hexValue c
    let d ← hexValue d
    return (((a * 16 + b) * 16 + c) * 16 + d, rest)
  | 'r' :: rest => some (13, rest)
  | 'n' :: rest => some (10, rest)
  | c :: rest => if isSyntax c then some (c.toNat, rest) else none
  | [] => none

/-- One end of a range. -/
def classAtom : List Char → Option (ℕ × List Char)
  | '\\' :: rest => escape rest
  | c :: rest => some (c.toNat, rest)
  | [] => none

/-- The ranges of a class, up to its closing bracket. A hyphen in front of the bracket
means itself. -/
def classRanges : ℕ → List Char → Option (List (ℕ × ℕ) × List Char)
  | 0, _ => none
  | fuel + 1, cs =>
    match cs with
    | ']' :: rest => some ([], rest)
    | _ => do
      let (low, rest) ← classAtom cs
      let (high, rest) ← match rest with
        | '-' :: c :: more => if c = ']' then some (low, rest) else classAtom (c :: more)
        | _ => some (low, rest)
      if low ≤ high then do
        let (ranges, rest) ← classRanges fuel rest
        return ((low, high) :: ranges, rest)
      else none

/-- A decimal number. -/
def number (cs : List Char) : Option (ℕ × List Char) :=
  match cs.takeWhile Char.isDigit with
  | [] => none
  | digits => some (Nat.ofDigitChars 10 digits 0, cs.dropWhile Char.isDigit)

/-- What may follow an expression: how often it is repeated. -/
def quantifier (r : Regex) : List Char → Option (Regex × List Char)
  | '*' :: rest => some (times r 0 none, rest)
  | '+' :: rest => some (times r 1 none, rest)
  | '?' :: rest => some (times r 0 (some 1), rest)
  | '\x7b' :: rest => do
    let (min, rest) ← number rest
    match rest with
    | '\x7d' :: rest => return (times r min (some min), rest)
    | ',' :: '\x7d' :: rest => return (times r min none, rest)
    | ',' :: rest => do
      let (max, rest) ← number rest
      match rest with
      | '\x7d' :: rest => if min ≤ max then some (times r min (some max), rest) else none
      | _ => none
    | _ => none
  | rest => some (r, rest)

/-- Nothing is put behind the last expression of a sequence. -/
def before (r : Regex) : Regex → Regex
  | .empty => r
  | s => seq r s

mutual

def disjunction : ℕ → List Char → Option (Regex × List Char)
  | 0, _ => none
  | fuel + 1, cs => do
    let (r, rest) ← alternative fuel cs
    match rest with
    | '|' :: rest => do
      let (s, rest) ← disjunction fuel rest
      return (alt r s, rest)
    | _ => return (r, rest)

def alternative : ℕ → List Char → Option (Regex × List Char)
  | 0, _ => none
  | fuel + 1, cs =>
    match cs with
    | [] => some (empty, [])
    | c :: _ =>
      if c = '|' ∨ c = ')' then some (empty, cs)
      else do
        let (r, rest) ← term fuel cs
        let (s, rest) ← alternative fuel rest
        return (before r s, rest)

def term : ℕ → List Char → Option (Regex × List Char)
  | 0, _ => none
  | fuel + 1, cs =>
    match cs with
    | '^' :: rest => some (start, rest)
    | '$' :: rest => some (stop, rest)
    | '(' :: '?' :: ':' :: rest => do
      let (r, rest) ← disjunction fuel rest
      match rest with
      | ')' :: rest => quantifier r rest
      | _ => none
    | '(' :: rest => do
      let (r, rest) ← disjunction fuel rest
      match rest with
      | ')' :: rest => quantifier r rest
      | _ => none
    | '[' :: '^' :: rest => do
      let (ranges, rest) ← classRanges fuel rest
      quantifier (set ⟨true, ranges⟩) rest
    | '[' :: rest => do
      let (ranges, rest) ← classRanges fuel rest
      quantifier (set ⟨false, ranges⟩) rest
    | '\\' :: rest => do
      let (n, rest) ← escape rest
      quantifier (set (CharSet.single n)) rest
    | c :: rest => if isSyntax c then none else quantifier (set (CharSet.single c.toNat)) rest
    | [] => none

end

/-- **The expression a pattern is the text of.** -/
def parse (pattern : String) : Option Regex :=
  match disjunction (2 * pattern.length + 2) pattern.toList with
  | some (r, []) => some r
  | _ => none

/-! ## What it matches -/

/-- So many pieces in a row, each of them a match. -/
def Repeats (P : List Char → List Char → List Char → Prop) :
    ℕ → List Char → List Char → List Char → Prop
  | 0, _, w, _ => w = []
  | n + 1, b, w, a => ∃ u v, w = u ++ v ∧ P b u (v ++ a) ∧ Repeats P n (b ++ u) v a

/-- **A match**: the piece `w` of a text, with `b` before it and `a` behind it. Without the
multiline flag the anchors are the two ends of the text. -/
def Matches : Regex → List Char → List Char → List Char → Prop
  | set s, _, w, _ => ∃ c, w = [c] ∧ s.mem c = true
  | start, b, w, _ => w = [] ∧ b = []
  | stop, _, w, a => w = [] ∧ a = []
  | empty, _, w, _ => w = []
  | seq r s, b, w, a => ∃ u v, w = u ++ v ∧ r.Matches b u (v ++ a) ∧ s.Matches (b ++ u) v a
  | alt r s, b, w, a => r.Matches b w a ∨ s.Matches b w a
  | times r min max, b, w, a =>
    ∃ n, min ≤ n ∧ (∀ m ∈ max, n ≤ m) ∧ Repeats r.Matches n b w a

/-- **A pattern is found** if it matches somewhere in the text. -/
def Found (r : Regex) (text : List Char) : Prop :=
  ∃ b w a, text = b ++ (w ++ a) ∧ r.Matches b w a

/-! ## Without anchors -/

/-- Whether an expression looks at nothing but what it matches. -/
def isPlain : Regex → Bool
  | set _ => true
  | start => false
  | stop => false
  | empty => true
  | seq r s => r.isPlain && s.isPlain
  | alt r s => r.isPlain && s.isPlain
  | times r _ _ => r.isPlain

/-- The language of an expression without anchors. -/
def language : Regex → Language Char
  | set s => {w | ∃ c, w = [c] ∧ s.mem c = true}
  | start => 0
  | stop => 0
  | empty => 1
  | seq r s => r.language * s.language
  | alt r s => r.language + s.language
  | times r min max => {w | ∃ n, min ≤ n ∧ (∀ m ∈ max, n ≤ m) ∧ w ∈ r.language ^ n}

section Plain

variable {r s : Regex} {cs : CharSet} {b w a : List Char} {c : Char} {n : ℕ} {L M : Language Char}

theorem repeats_iff {P : List Char → List Char → List Char → Prop}
    (hP : ∀ b w a, P b w a ↔ w ∈ L) : Repeats P n b w a ↔ w ∈ L ^ n := by
  induction n generalizing b w with
  | zero => exact (Language.mem_one w).symm
  | succ n ih =>
    rw [pow_succ', Language.mem_mul]
    show (∃ u v, w = u ++ v ∧ P b u (v ++ a) ∧ Repeats P n (b ++ u) v a) ↔ _
    constructor
    · rintro ⟨u, v, rfl, hu, hv⟩
      exact ⟨u, (hP _ _ _).mp hu, v, ih.mp hv, rfl⟩
    · rintro ⟨u, hu, v, hv, rfl⟩
      exact ⟨u, v, rfl, (hP _ _ _).mpr hu, ih.mpr hv⟩

/-- **Without anchors a match is a word of the language.** -/
theorem matches_iff (h : r.isPlain = true) : r.Matches b w a ↔ w ∈ r.language := by
  induction r generalizing b w a with
  | set s => exact Iff.rfl
  | start => cases h
  | stop => cases h
  | empty => exact (Language.mem_one w).symm
  | seq r s ihr ihs =>
    obtain ⟨hr, hs⟩ := Bool.and_eq_true_iff.mp h
    show (∃ u v, w = u ++ v ∧ r.Matches b u (v ++ a) ∧ s.Matches (b ++ u) v a)
      ↔ w ∈ r.language * s.language
    rw [Language.mem_mul]
    constructor
    · rintro ⟨u, v, rfl, hu, hv⟩
      exact ⟨u, (ihr hr).mp hu, v, (ihs hs).mp hv, rfl⟩
    · rintro ⟨u, hu, v, hv, rfl⟩
      exact ⟨u, v, rfl, (ihr hr).mpr hu, (ihs hs).mpr hv⟩
  | alt r s ihr ihs =>
    obtain ⟨hr, hs⟩ := Bool.and_eq_true_iff.mp h
    show r.Matches b w a ∨ s.Matches b w a ↔ w ∈ r.language + s.language
    rw [Language.mem_add, ihr hr, ihs hs]
  | times r min max ih =>
    show (∃ n, min ≤ n ∧ (∀ m ∈ max, n ≤ m) ∧ Repeats r.Matches n b w a)
      ↔ ∃ n, min ≤ n ∧ (∀ m ∈ max, n ≤ m) ∧ w ∈ r.language ^ n
    refine exists_congr (fun n => and_congr_right' (and_congr_right' ?_))
    exact repeats_iff (fun b w a => ih h)

/-! ## Between anchors -/

/-- An expression that matches at the end of the text only, and there the words of a
language. -/
def Ends (r : Regex) (L : Language Char) : Prop := ∀ b w a, r.Matches b w a ↔ a = [] ∧ w ∈ L

theorem ends_stop : Ends stop 1 := by
  intro b w a
  show w = [] ∧ a = [] ↔ a = [] ∧ w ∈ (1 : Language Char)
  rw [Language.mem_one, and_comm]

theorem ends_seq (hr : r.isPlain = true) (hs : Ends s L) : Ends (seq r s) (r.language * L) := by
  intro b w a
  rw [Language.mem_mul]
  constructor
  · rintro ⟨u, v, rfl, hu, hv⟩
    obtain ⟨ha, hv⟩ := (hs _ _ _).mp hv
    exact ⟨ha, u, (matches_iff hr).mp hu, v, hv, rfl⟩
  · rintro ⟨rfl, u, hu, v, hv, rfl⟩
    exact ⟨u, v, rfl, (matches_iff hr).mpr hu, (hs _ _ _).mpr ⟨rfl, hv⟩⟩

/-- **Between two anchors there is the whole text.** -/
theorem found_start (hs : Ends s L) : Found (seq start s) w ↔ w ∈ L := by
  constructor
  · rintro ⟨b, x, a, rfl, u, v, rfl, ⟨rfl, rfl⟩, hv⟩
    obtain ⟨ha, hword⟩ := (hs _ _ _).mp hv
    rw [ha, List.append_nil]
    exact hword
  · intro hw
    exact ⟨[], w, [], by simp, [], w, rfl, ⟨rfl, rfl⟩, (hs _ _ _).mpr ⟨rfl, hw⟩⟩

/-- Behind the first anchor there is a beginning of the text. -/
theorem found_start_plain (hr : r.isPlain = true) :
    Found (seq start r) w ↔ ∃ u a, w = u ++ a ∧ u ∈ r.language := by
  constructor
  · rintro ⟨b, x, a, rfl, u, v, rfl, ⟨rfl, rfl⟩, hv⟩
    exact ⟨v, a, by simp, (matches_iff hr).mp hv⟩
  · rintro ⟨u, a, rfl, hu⟩
    exact ⟨[], u, a, by simp, [], u, rfl, ⟨rfl, rfl⟩, (matches_iff hr).mpr hu⟩

/-- A set is found where one of its characters is. -/
theorem found_set : Found (set cs) w ↔ ∃ c ∈ w, cs.mem c = true := by
  constructor
  · rintro ⟨b, x, a, rfl, c, rfl, hc⟩
    exact ⟨c, by simp, hc⟩
  · rintro ⟨c, hmem, hc⟩
    obtain ⟨b, a, rfl⟩ := List.append_of_mem hmem
    exact ⟨b, [c], a, rfl, c, rfl, hc⟩

/-! ## Words -/

theorem mem_language_set : w ∈ (set cs).language ↔ ∃ c, w = [c] ∧ cs.mem c = true := Iff.rfl

theorem mem_pow_set : w ∈ (set cs).language ^ n ↔ w.length = n ∧ ∀ c ∈ w, cs.mem c = true := by
  induction n generalizing w with
  | zero =>
    rw [pow_zero, Language.mem_one, List.length_eq_zero_iff]
    refine ⟨?_, fun h => h.1⟩
    rintro rfl
    simp
  | succ n ih =>
    rw [pow_succ', Language.mem_mul]
    constructor
    · rintro ⟨u, ⟨c, rfl, hc⟩, v, hv, rfl⟩
      obtain ⟨hlength, hall⟩ := ih.mp hv
      refine ⟨by simp [hlength], ?_⟩
      intro d hd
      rcases List.mem_cons.mp hd with rfl | hd
      · exact hc
      · exact hall d hd
    · rintro ⟨hlength, hall⟩
      cases w with
      | nil => cases hlength
      | cons c v =>
        refine ⟨[c], ⟨c, rfl, hall c List.mem_cons_self⟩, v, ih.mpr ⟨?_, ?_⟩, rfl⟩
        · simpa using hlength
        · exact fun d hd => hall d (List.mem_cons_of_mem _ hd)

/-- **A repeated set** bounds the length and nothing else. -/
theorem mem_language_times_set {min : ℕ} {max : Option ℕ} :
    w ∈ (times (set cs) min max).language
      ↔ (min ≤ w.length ∧ ∀ m ∈ max, w.length ≤ m) ∧ ∀ c ∈ w, cs.mem c = true := by
  show (∃ n, min ≤ n ∧ (∀ m ∈ max, n ≤ m) ∧ w ∈ (set cs).language ^ n) ↔ _
  simp only [mem_pow_set]
  constructor
  · rintro ⟨n, hmin, hmax, rfl, hall⟩
    exact ⟨⟨hmin, hmax⟩, hall⟩
  · rintro ⟨⟨hmin, hmax⟩, hall⟩
    exact ⟨w.length, hmin, hmax, rfl, hall⟩

theorem mem_language_optional :
    w ∈ (times r 0 (some 1)).language ↔ w = [] ∨ w ∈ r.language := by
  show (∃ n, 0 ≤ n ∧ (∀ m ∈ some 1, n ≤ m) ∧ w ∈ r.language ^ n) ↔ _
  constructor
  · rintro ⟨n, -, hmax, hw⟩
    have hn := hmax 1 rfl
    rcases Nat.le_one_iff_eq_zero_or_eq_one.mp hn with rfl | rfl
    · exact Or.inl ((Language.mem_one w).mp (by simpa using hw))
    · exact Or.inr (by simpa using hw)
  · rintro (rfl | hw)
    · exact ⟨0, le_rfl, by simp, by rw [pow_zero]; exact Language.nil_mem_one⟩
    · exact ⟨1, Nat.zero_le _, by simp, by simpa using hw⟩

theorem mem_language_star : w ∈ (times r 0 none).language ↔ w ∈ KStar.kstar r.language := by
  rw [Language.kstar_eq_iSup_pow, Language.mem_iSup]
  show (∃ n, 0 ≤ n ∧ (∀ m ∈ none, n ≤ m) ∧ w ∈ r.language ^ n) ↔ _
  simp

/-- The words of a language with a separator between them. -/
theorem mem_separated {sep : Char} (hset : ∀ c, cs.mem c = true ↔ c = sep)
    (hsep : ∀ p ∈ r.language, sep ∉ p) :
    w ∈ r.language * (times (seq (set cs) r) 0 none).language
      ↔ ∀ p ∈ w.splitOn sep, p ∈ r.language := by
  have hpiece : ∀ x, x ∈ (seq (set cs) r).language ↔ ∃ p ∈ r.language, x = sep :: p := by
    intro x
    show x ∈ (set cs).language * r.language ↔ _
    rw [Language.mem_mul]
    constructor
    · rintro ⟨u, ⟨c, rfl, hc⟩, p, hp, rfl⟩
      obtain rfl := (hset c).mp hc
      exact ⟨p, hp, rfl⟩
    · rintro ⟨p, hp, rfl⟩
      exact ⟨[sep], ⟨sep, rfl, (hset sep).mpr rfl⟩, p, hp, rfl⟩
  rw [Language.mem_mul]
  constructor
  · rintro ⟨u, hu, v, hv, rfl⟩
    obtain ⟨pieces, rfl, hpieces⟩ := Language.mem_kstar.mp (mem_language_star.mp hv)
    clear hv
    induction pieces generalizing u with
    | nil =>
      rw [List.flatten_nil, List.append_nil, List.splitOn_eq_singleton (hsep u hu)]
      intro p hp
      rwa [List.mem_singleton.mp hp]
    | cons x pieces ih =>
      obtain ⟨p, hp, rfl⟩ := (hpiece x).mp (hpieces x List.mem_cons_self)
      have hrest := ih p hp (fun y hy => hpieces y (List.mem_cons_of_mem _ hy))
      rw [List.flatten_cons, List.cons_append,
        List.splitOn_append_cons_self_of_not_mem (hsep u hu)]
      intro q hq
      rcases List.mem_cons.mp hq with rfl | hq
      · exact hu
      · exact hrest q hq
  · intro hall
    have hjoin : [sep].intercalate (w.splitOn sep) = w := List.intercalate_splitOn sep
    cases hparts : w.splitOn sep with
    | nil => exact absurd hparts (List.splitOn_ne_nil sep w)
    | cons u parts =>
      rw [hparts] at hall hjoin
      refine ⟨u, hall u List.mem_cons_self, (parts.map (sep :: ·)).flatten, ?_, ?_⟩
      · refine mem_language_star.mpr (Language.mem_kstar.mpr ⟨_, rfl, fun x hx => ?_⟩)
        obtain ⟨p, hp, rfl⟩ := List.mem_map.mp hx
        exact (hpiece _).mpr ⟨p, hall p (List.mem_cons_of_mem _ hp), rfl⟩
      · rw [← hjoin]
        clear hall hjoin hparts
        induction parts generalizing u with
        | nil => simp
        | cons p parts ih =>
          rw [List.map_cons, List.flatten_cons, List.intercalate_cons_cons, ← ih p]
          simp

end Plain

end Regex
