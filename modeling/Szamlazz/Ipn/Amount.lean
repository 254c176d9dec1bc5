import Szamlazz.Agent.Numeral

/-!
# Amounts of a payment notification

The amount reader of the notification is a loop over the bytes of the text. It
keeps a coefficient below `2 ^ 96` and a scale of at most 28, and refuses as soon
as the next digit does not fit, or as anything follows the last place there is room
for. `Amount` is the grammar that comes out of it; by `exact_text` and `exact_eq_ok` the
loop reads all of the grammar and nothing else, exactly.
-/

namespace Szamlazz

namespace Ipn

open FixedPoint Lexical

/-! ## The reader -/

/-- What the loop has read. -/
structure Scanned where
  coefficient : ℕ
  scale : ℕ
  point : Bool
  digitSeen : Bool
deriving DecidableEq

/-- The loop over the text behind the sign. A character beyond ASCII is refused at its
first byte. -/
def scan (s : Scanned) : List Char → Except Decimal.Error Scanned
  | [] => .ok s
  | c :: cs =>
    if s.point && s.scale == Decimal.maxScale then .error .underflow
    else if c.isDigit then
      -- The coefficient so far has 96 bits, so this has no more than 128.
      let coefficient := s.coefficient * 10 + digitValue c
      if 2 ^ 96 - 1 < coefficient then .error .exceedsMaximumPossibleValue
      else
        scan { s with coefficient := coefficient, digitSeen := true
                      scale := if s.point then s.scale + 1 else s.scale } cs
    else if c = '.' && !s.point then scan { s with point := true } cs
    else if c = '_' && s.digitSeen then scan s cs
    else .error (.errorString "invalid decimal character")

/-- The sign in front, and the text behind it. -/
def stripSign : List Char → Bool × List Char
  | '-' :: cs => (true, cs)
  | '+' :: cs => (false, cs)
  | cs => (false, cs)

/-- Reads an amount exactly, or not at all. -/
def exact (text : List Char) : Except Decimal.Error Decimal := do
  let (negative, text) := stripSign text
  let s ← scan ⟨0, 0, false, false⟩ text
  if !s.digitSeen then .error (.errorString "decimal has no digits")
  else Decimal.tryFromI128WithScale (if negative then -(s.coefficient : ℤ) else s.coefficient) s.scale

/-- A lone comma, without a point, is one. -/
def parseDecimal (value : String) : Option Decimal :=
  let value := (Text.trim value).toList
  match exact value with
  | .ok decimal => some decimal
  | .error _ =>
    if value.count ',' = 1 && !value.contains '.' then
      (exact (value.map (fun c => if c = ',' then '.' else c))).toOption
    else none

/-! ## The grammar -/

/-- The digits of a text. -/
def digits (cs : List Char) : List Char := cs.filter Char.isDigit

/-- **An amount**: an optional sign, digits with at most one point among them and `_`
behind the first of them, at most 28 digits behind the point and nothing behind the
28th, and a coefficient below `2 ^ 96`. -/
structure Amount where
  sign : Number.Sign
  whole : List Char
  fraction : Option (List Char)
  isDigit : ∀ c ∈ whole ++ fraction.getD [], c.isDigit = true ∨ c = '_'
  first : ∃ c rest, whole ++ fraction.getD [] = c :: rest ∧ c.isDigit = true
  places : (digits (fraction.getD [])).length ≤ 28
  full : ∀ before after, fraction.getD [] = before ++ after → (digits before).length = 28 →
    after = []
  small : Digits.value (digits (whole ++ fraction.getD [])) < 2 ^ 96

namespace Amount

variable (a : Amount)

def text : List Char := a.sign.text ++ (a.whole ++ a.fraction.elim [] (fun cs => '.' :: cs))

/-- The coefficient with its sign. -/
def coefficient : ℤ := a.sign.factor * Digits.value (digits (a.whole ++ a.fraction.getD []))

/-- The digits behind the point. -/
def scale : ℕ := (digits (a.fraction.getD [])).length

/-- **The number it denotes.** -/
def value : ℚ := number 10 a.coefficient a.scale

end Amount

/-- How an amount is read: a lone comma, without a point, is one. -/
def pointed (cs : List Char) : List Char :=
  if cs.count ',' = 1 ∧ '.' ∉ cs then cs.map (fun c => if c = ',' then '.' else c) else cs

/-! ## What the loop accepts -/

section Digits

variable {c : Char} {cs ds : List Char}

@[simp] theorem digits_nil : digits [] = [] := rfl

theorem digits_cons_of_isDigit (h : c.isDigit = true) (cs : List Char) :
    digits (c :: cs) = c :: digits cs := List.filter_cons_of_pos h

theorem digits_underscore (cs : List Char) : digits ('_' :: cs) = digits cs :=
  List.filter_cons_of_neg (by decide)

@[simp] theorem digits_append (cs ds : List Char) : digits (cs ++ ds) = digits cs ++ digits ds :=
  List.filter_append cs ds

theorem value_digits_cons (h : c.isDigit = true) (cs : List Char) :
    Digits.value (digits (c :: cs))
      = digitValue c * 10 ^ (digits cs).length + Digits.value (digits cs) := by
  rw [digits_cons_of_isDigit h, ← List.singleton_append, Digits.value_append,
    Digits.value_singleton]

end Digits

namespace Scanned

/-- One digit more. -/
def digit (s : Scanned) (c : Char) : Scanned where
  coefficient := s.coefficient * 10 + digitValue c
  scale := if s.point then s.scale + 1 else s.scale
  point := s.point
  digitSeen := true

/-- What is read of digits and separators. -/
def after (s : Scanned) (cs : List Char) : Scanned where
  coefficient := s.coefficient * 10 ^ (digits cs).length + Digits.value (digits cs)
  scale := if s.point then s.scale + (digits cs).length else s.scale
  point := s.point
  digitSeen := s.digitSeen || !(digits cs).isEmpty

/-- Digits and separators the loop reads to their end. -/
structure Block (s : Scanned) (cs : List Char) : Prop where
  isDigit : ∀ c ∈ cs, c.isDigit = true ∨ c = '_'
  first : s.digitSeen = false → ∀ c rest, cs = c :: rest → c.isDigit = true
  room : s.point = true → ∀ before c after, cs = before ++ c :: after →
    s.scale + (digits before).length < 28
  small : (s.after cs).coefficient < 2 ^ 96

section Block

variable {s : Scanned} {c : Char} {cs : List Char}

theorem after_nil (s : Scanned) : s.after [] = s := by
  cases s
  simp [after, Digits.value]

theorem after_digit (h : c.isDigit = true) : s.after (c :: cs) = (s.digit c).after cs := by
  have hlength : (digits (c :: cs)).length = (digits cs).length + 1 := by
    rw [digits_cons_of_isDigit h, List.length_cons]
  have hempty : (digits (c :: cs)).isEmpty = false := by
    rw [digits_cons_of_isDigit h]
    rfl
  unfold after digit
  rw [Scanned.mk.injEq, value_digits_cons h, hlength, hempty]
  refine ⟨by ring, ?_, rfl, by simp⟩
  dsimp only
  split_ifs
  · omega
  · rfl

theorem after_underscore : s.after ('_' :: cs) = s.after cs := by
  unfold after
  rw [digits_underscore]

/-- A digit begins a block if there is room for it, and what follows is one. -/
theorem block_digit (h : c.isDigit = true) : s.Block (c :: cs)
    ↔ (s.point = true → s.scale < 28) ∧ (s.digit c).Block cs := by
  constructor
  · intro hb
    refine ⟨fun hp => ?_, ?_, fun hseen => ?_, fun hp before d after hcs => ?_, ?_⟩
    · simpa using hb.room hp [] c cs rfl
    · exact fun d hd => hb.isDigit d (List.mem_cons_of_mem _ hd)
    · cases hseen
    · have hroom := hb.room hp (c :: before) d after (by rw [hcs]; rfl)
      rw [digits_cons_of_isDigit h, List.length_cons] at hroom
      have hp' : s.point = true := hp
      simp only [digit, hp', if_true]
      omega
    · rw [← after_digit h]
      exact hb.small
  · rintro ⟨hroom, hb⟩
    refine ⟨?_, fun _ d rest hcs => ?_, fun hp before d after hcs => ?_, ?_⟩
    · intro d hd
      rcases List.mem_cons.mp hd with rfl | hd
      · exact Or.inl h
      · exact hb.isDigit d hd
    · rw [← (List.cons.inj hcs).1]
      exact h
    · cases before with
      | nil => simpa using hroom hp
      | cons e before =>
        obtain ⟨rfl, htail⟩ := List.cons.inj hcs
        have hrest := hb.room hp before d after htail
        simp only [digit, hp, if_true] at hrest
        rw [digits_cons_of_isDigit h, List.length_cons]
        omega
    · rw [after_digit h]
      exact hb.small

theorem block_underscore : s.Block ('_' :: cs)
    ↔ s.digitSeen = true ∧ (s.point = true → s.scale < 28) ∧ s.Block cs := by
  constructor
  · intro hb
    have hseen : s.digitSeen = true := by
      by_contra hnot
      exact absurd (hb.first (by simpa using hnot) '_' cs rfl) (by decide)
    refine ⟨hseen, fun hp => by simpa using hb.room hp [] '_' cs rfl, ?_, fun hnot => ?_,
      fun hp before d after hcs => ?_, ?_⟩
    · exact fun d hd => hb.isDigit d (List.mem_cons_of_mem _ hd)
    · rw [hseen] at hnot
      cases hnot
    · have hroom := hb.room hp ('_' :: before) d after (by rw [hcs]; rfl)
      rwa [digits_underscore] at hroom
    · rw [← after_underscore]
      exact hb.small
  · rintro ⟨hseen, hroom, hb⟩
    refine ⟨?_, fun hnot => ?_, fun hp before d after hcs => ?_, ?_⟩
    · intro d hd
      rcases List.mem_cons.mp hd with rfl | hd
      · exact Or.inr rfl
      · exact hb.isDigit d hd
    · rw [hseen] at hnot
      cases hnot
    · cases before with
      | nil => simpa using hroom hp
      | cons e before =>
        obtain ⟨rfl, htail⟩ := List.cons.inj hcs
        rw [digits_underscore]
        exact hb.room hp before d after htail
    · rw [after_underscore]
      exact hb.small

theorem block_nil (h : s.coefficient < 2 ^ 96) : s.Block [] where
  isDigit := fun _ hc => by cases hc
  first := fun _ _ _ hcs => by cases hcs
  room := fun _ before _ _ hcs => by simp at hcs
  small := by rwa [after_nil]

theorem coefficient_le_after (s : Scanned) (cs : List Char) :
    s.coefficient ≤ (s.after cs).coefficient :=
  (Nat.le_mul_of_pos_right _ (Nat.pow_pos (by decide))).trans (Nat.le_add_right _ _)

/-- The check before every byte. -/
theorem not_full (h : s.point = true → s.scale < 28) :
    ¬ (s.point && s.scale == Decimal.maxScale) = true := by
  simp only [Bool.and_eq_true, beq_iff_eq, Decimal.maxScale]
  rintro ⟨hp, hfull⟩
  exact absurd (h hp) (by omega)

theorem scan_digit (hc : c.isDigit = true) (hroom : s.point = true → s.scale < 28)
    (hsmall : (s.digit c).coefficient < 2 ^ 96) : scan s (c :: cs) = scan (s.digit c) cs := by
  have hfits : ¬ 2 ^ 96 - 1 < s.coefficient * 10 + digitValue c := by
    have : s.coefficient * 10 + digitValue c < 2 ^ 96 := hsmall
    omega
  rw [scan, if_neg (not_full hroom), if_pos hc, if_neg hfits]
  rfl

theorem scan_underscore (hseen : s.digitSeen = true) (hroom : s.point = true → s.scale < 28) :
    scan s ('_' :: cs) = scan s cs := by
  rw [scan, if_neg (not_full hroom), if_neg (by decide), if_neg (by simp), if_pos (by simp [hseen])]

/-- **A block is read to its end.** -/
theorem scan_block (h : s.Block cs) (rest : List Char) :
    scan s (cs ++ rest) = scan (s.after cs) rest := by
  induction cs generalizing s with
  | nil => rw [after_nil, List.nil_append]
  | cons c cs ih =>
    rcases h.isDigit c List.mem_cons_self with hc | rfl
    · obtain ⟨hroom, hb⟩ := (block_digit hc).mp h
      have hsmall := (coefficient_le_after (s.digit c) cs).trans_lt hb.small
      rw [List.cons_append, scan_digit hc hroom hsmall, ih hb, after_digit hc]
    · obtain ⟨hseen, hroom, hb⟩ := block_underscore.mp h
      rw [List.cons_append, scan_underscore hseen hroom, ih hb, after_underscore]

/-- The point. -/
def pointSeen (s : Scanned) : Scanned := { s with point := true }

/-- **What is read is a block**, or two with the point between them. -/
theorem block_of_scan {s' : Scanned} (hs : s.coefficient < 2 ^ 96) (hscale : s.scale ≤ 28)
    (h : scan s cs = .ok s') :
    (s.Block cs ∧ s' = s.after cs)
      ∨ s.point = false ∧ ∃ whole fraction, cs = whole ++ '.' :: fraction ∧ s.Block whole
        ∧ (s.after whole).pointSeen.Block fraction
        ∧ s' = (s.after whole).pointSeen.after fraction := by
  induction cs generalizing s with
  | nil =>
    have hs' : s = s' := Except.ok.inj h
    exact Or.inl ⟨block_nil hs, by rw [after_nil, hs']⟩
  | cons c cs ih =>
    unfold scan at h
    dsimp only at h
    split at h
    · cases h
    rename_i hfull
    have hroom : s.point = true → s.scale < 28 := by
      intro hp
      simp only [hp, Bool.true_and, beq_iff_eq, Decimal.maxScale] at hfull
      omega
    by_cases hc : c.isDigit = true
    · -- A digit: the block it begins is that of the rest.
      rw [if_pos hc] at h
      split at h
      · cases h
      rename_i hlarge
      have hsmall : (s.digit c).coefficient < 2 ^ 96 := by
        show s.coefficient * 10 + digitValue c < 2 ^ 96
        omega
      have hscale' : (s.digit c).scale ≤ 28 := by
        show (if s.point then s.scale + 1 else s.scale) ≤ 28
        split_ifs with hp
        · exact hroom hp
        · exact hscale
      rcases ih hsmall hscale' h with ⟨hb, rfl⟩ | ⟨hp, whole, fraction, rfl, hw, hf, rfl⟩
      · exact Or.inl ⟨(block_digit hc).mpr ⟨hroom, hb⟩, (after_digit hc).symm⟩
      · refine Or.inr ⟨hp, c :: whole, fraction, rfl, (block_digit hc).mpr ⟨hroom, hw⟩, ?_⟩
        rw [after_digit hc]
        exact ⟨hf, rfl⟩
    rw [if_neg hc] at h
    by_cases hpoint : (decide (c = '.') && !s.point) = true
    · -- The point: what follows is one block, since there is no second point.
      rw [if_pos hpoint] at h
      simp only [Bool.and_eq_true, decide_eq_true_eq, Bool.not_eq_true'] at hpoint
      obtain ⟨rfl, hp⟩ := hpoint
      rcases ih (s := s.pointSeen) hs hscale h with ⟨hb, rfl⟩ | ⟨hp', -⟩
      · refine Or.inr ⟨hp, [], cs, rfl, block_nil hs, ?_⟩
        rw [after_nil]
        exact ⟨hb, rfl⟩
      · cases hp'
    rw [if_neg hpoint] at h
    by_cases hseen : (decide (c = '_') && s.digitSeen) = true
    · rw [if_pos hseen] at h
      simp only [Bool.and_eq_true, decide_eq_true_eq] at hseen
      obtain ⟨rfl, hseen⟩ := hseen
      rcases ih hs hscale h with ⟨hb, rfl⟩ | ⟨hp, whole, fraction, rfl, hw, hf, rfl⟩
      · exact Or.inl ⟨block_underscore.mpr ⟨hseen, hroom, hb⟩, after_underscore.symm⟩
      · refine Or.inr ⟨hp, '_' :: whole, fraction, rfl, block_underscore.mpr ⟨hseen, hroom, hw⟩, ?_⟩
        rw [after_underscore]
        exact ⟨hf, rfl⟩
    · rw [if_neg hseen] at h
      cases h

end Block

end Scanned

/-! ## The amount -/

/-- A digit may follow everything before it. -/
theorem room_iff {fraction : List Char} :
    (∀ before c after, fraction = before ++ c :: after → (digits before).length < 28)
      ↔ (digits fraction).length ≤ 28 ∧ ∀ before after, fraction = before ++ after →
        (digits before).length = 28 → after = [] := by
  constructor
  · intro h
    refine ⟨?_, fun before after hsplit hfull => ?_⟩
    · rcases List.eq_nil_or_concat fraction with rfl | ⟨before, c, rfl⟩
      · exact Nat.zero_le _
      · have hlt := h before c [] (by simp)
        have hone : (digits [c]).length ≤ 1 := List.length_filter_le _ _
        rw [List.concat_eq_append, digits_append, List.length_append]
        omega
    · cases after with
      | nil => rfl
      | cons c after => exact absurd (h before c after hsplit) (by omega)
  · rintro ⟨hplaces, hfull⟩ before c after rfl
    rw [digits_append, List.length_append] at hplaces
    by_contra hge
    exact absurd (hfull before (c :: after) rfl (by omega)) (List.cons_ne_nil _ _)

theorem stripSign_text (sign : Number.Sign) {cs : List Char}
    (h : ∀ c rest, cs = c :: rest → c ≠ '-' ∧ c ≠ '+') :
    stripSign (sign.text ++ cs) = (decide (sign = .minus), cs) := by
  cases sign with
  | minus | plus => rfl
  | none =>
    cases cs with
    | nil => rfl
    | cons c cs =>
      obtain ⟨hminus, hplus⟩ := h c cs rfl
      show stripSign (c :: cs) = (false, c :: cs)
      unfold stripSign
      split
      · rename_i heq
        exact absurd (List.cons.inj heq).1 hminus
      · rename_i heq
        exact absurd (List.cons.inj heq).1 hplus
      · rfl

theorem exists_stripSign (cs : List Char) : ∃ sign : Number.Sign,
    stripSign cs = (decide (sign = .minus), (stripSign cs).2)
      ∧ sign.text ++ (stripSign cs).2 = cs := by
  unfold stripSign
  split
  · exact ⟨.minus, rfl, rfl⟩
  · exact ⟨.plus, rfl, rfl⟩
  · exact ⟨.none, rfl, rfl⟩

/-- What the loop starts from. -/
abbrev start : Scanned := ⟨0, 0, false, false⟩

/-- The block before the point, and the block behind it, of what is read. -/
theorem after_start (whole fraction : List Char) :
    ((start.after whole).pointSeen.after fraction).coefficient
        = Digits.value (digits (whole ++ fraction))
      ∧ ((start.after whole).pointSeen.after fraction).scale = (digits fraction).length
      ∧ ((start.after whole).pointSeen.after fraction).digitSeen
        = !(digits (whole ++ fraction)).isEmpty := by
  refine ⟨?_, ?_, ?_⟩
  · rw [digits_append, Digits.value_append]
    simp [Scanned.after, Scanned.pointSeen]
  · simp [Scanned.after, Scanned.pointSeen]
  · rw [digits_append]
    show ((false || !(digits whole).isEmpty) || !(digits fraction).isEmpty) = _
    cases digits whole with
    | nil => rfl
    | cons c cs => rfl

/-- The coefficient with its sign. -/
theorem signed_eq (sign : Number.Sign) (n : ℕ) :
    (if decide (sign = .minus) then -(n : ℤ) else n) = sign.factor * n := by
  cases sign with
  | minus => exact (neg_one_mul _).symm
  | plus | none => exact (one_mul _).symm

/-- What was read is made into the decimal it denotes. -/
theorem tryFrom_amount (sign : Number.Sign) {n k : ℕ} (hn : n < 2 ^ 96) (hk : k ≤ 28) :
    ∃ d, Decimal.tryFromI128WithScale (if decide (sign = .minus) then -(n : ℤ) else n) k = .ok d
      ∧ d.signedMantissa = sign.factor * n ∧ d.scale = k := by
  rw [signed_eq]
  refine Decimal.tryFromI128WithScale_of_fits ⟨?_, hk⟩
  show (sign.factor * (n : ℤ)).natAbs < 2 ^ 96
  cases sign with
  | minus =>
    show ((-1 : ℤ) * n).natAbs < 2 ^ 96
    omega
  | plus | none =>
    show ((1 : ℤ) * n).natAbs < 2 ^ 96
    omega

namespace Amount

variable (a : Amount)

theorem whole_block : start.Block a.whole where
  isDigit c hc := a.isDigit c (List.mem_append_left _ hc)
  first _ c rest hcs := by
    obtain ⟨d, rest', hfirst, hd⟩ := a.first
    rw [hcs, List.cons_append] at hfirst
    rw [(List.cons.inj hfirst).1]
    exact hd
  room hp := by cases hp
  small := by
    have hle : Digits.value (digits a.whole)
        ≤ Digits.value (digits (a.whole ++ a.fraction.getD [])) := by
      rw [digits_append, Digits.value_append]
      exact (Nat.le_mul_of_pos_right _ (Nat.pow_pos (by decide))).trans (Nat.le_add_right _ _)
    have hvalue : (start.after a.whole).coefficient = Digits.value (digits a.whole) := by
      simp [Scanned.after]
    rw [hvalue]
    exact hle.trans_lt a.small

theorem fraction_block : (start.after a.whole).pointSeen.Block (a.fraction.getD []) where
  isDigit c hc := a.isDigit c (List.mem_append_right _ hc)
  first hseen c rest hcs := by
    -- No digit was seen, so nothing stands before the point.
    have hwhole : a.whole = [] := by
      cases hw : a.whole with
      | nil => rfl
      | cons d ds =>
        obtain ⟨e, rest', hfirst, he⟩ := a.first
        rw [hw, List.cons_append] at hfirst
        obtain ⟨rfl, -⟩ := List.cons.inj hfirst
        rw [hw] at hseen
        simp [Scanned.after, Scanned.pointSeen, digits_cons_of_isDigit he] at hseen
    obtain ⟨e, rest', hfirst, he⟩ := a.first
    rw [hwhole, List.nil_append, hcs] at hfirst
    rw [(List.cons.inj hfirst).1]
    exact he
  room _ before c after hcs := by
    have h := room_iff.mpr ⟨a.places, a.full⟩ before c after hcs
    simpa [Scanned.after, Scanned.pointSeen] using h
  small := by
    rw [(after_start a.whole (a.fraction.getD [])).1]
    exact a.small

/-- Behind the sign of an amount there is no second one. -/
theorem not_sign {c : Char} {rest : List Char}
    (h : a.whole ++ a.fraction.elim [] (fun cs => '.' :: cs) = c :: rest) : c ≠ '-' ∧ c ≠ '+' := by
  have hpoint : c = '.' ∨ c.isDigit = true ∨ c = '_' := by
    cases hw : a.whole with
    | cons d ds =>
      rw [hw, List.cons_append] at h
      rw [← (List.cons.inj h).1]
      exact Or.inr (a.isDigit d (by rw [hw]; exact List.mem_cons_self))
    | nil =>
      rw [hw, List.nil_append] at h
      cases hf : a.fraction with
      | none => rw [hf] at h; cases h
      | some fraction =>
        rw [hf] at h
        exact Or.inl (List.cons.inj h).1.symm
  constructor
  · rintro rfl
    exact absurd hpoint (by decide)
  · rintro rfl
    exact absurd hpoint (by decide)

/-- The loop reads an amount to its end. -/
theorem scan_text : ∃ s, scan start (a.whole ++ a.fraction.elim [] (fun cs => '.' :: cs)) = .ok s
    ∧ s.coefficient = Digits.value (digits (a.whole ++ a.fraction.getD []))
    ∧ s.scale = (digits (a.fraction.getD [])).length
    ∧ s.digitSeen = !(digits (a.whole ++ a.fraction.getD [])).isEmpty := by
  cases hf : a.fraction with
  | none =>
    refine ⟨start.after a.whole, ?_, ?_⟩
    · show scan start (a.whole ++ []) = _
      rw [Scanned.scan_block a.whole_block]
      rfl
    · simp [Scanned.after]
  | some fraction =>
    have hblock := a.fraction_block
    rw [hf] at hblock
    refine ⟨(start.after a.whole).pointSeen.after fraction, ?_, after_start a.whole fraction⟩
    show scan start (a.whole ++ '.' :: fraction) = _
    rw [Scanned.scan_block a.whole_block]
    have hpoint : scan (start.after a.whole) ('.' :: fraction)
        = scan (start.after a.whole).pointSeen fraction := by
      have hroom : (start.after a.whole).point = true → (start.after a.whole).scale < 28 := by
        intro h
        cases h
      have hnot : (decide ('.' = '.') && !(start.after a.whole).point) = true := rfl
      rw [scan, if_neg (Scanned.not_full hroom), if_neg (by decide), if_pos hnot]
      rfl
    have hfraction := Scanned.scan_block hblock []
    rw [List.append_nil] at hfraction
    rw [hpoint]
    exact hfraction

/-- **An amount is read**, as the number it denotes. -/
theorem exact_text : ∃ d, exact a.text = .ok d ∧ d.value = a.value ∧ d.scale = a.scale := by
  obtain ⟨s, hscan, hcoefficient, hscale, hseen⟩ := a.scan_text
  obtain ⟨d, hd, hmantissa, hplaces⟩ := tryFrom_amount a.sign a.small a.places
  refine ⟨d, ?_, ?_, hplaces⟩
  · unfold exact text
    rw [stripSign_text a.sign (fun _ _ => a.not_sign)]
    show (scan start _ >>= fun s => _) = _
    rw [hscan]
    show (if !s.digitSeen then _ else _) = _
    have hdigit : s.digitSeen = true := by
      obtain ⟨c, rest, hfirst, hc⟩ := a.first
      rw [hseen, hfirst, digits_cons_of_isDigit hc]
      rfl
    rw [hdigit, hcoefficient, hscale]
    exact hd
  · rw [Decimal.value, hmantissa, hplaces]
    rfl

end Amount

/-- **What is read is an amount.** -/
theorem exact_eq_ok {text : List Char} {d : Decimal} (h : exact text = .ok d) :
    ∃ a : Amount, a.text = text ∧ d.value = a.value ∧ d.scale = a.scale := by
  obtain ⟨sign, hstrip, htext⟩ := exists_stripSign text
  unfold exact at h
  rw [hstrip] at h
  obtain ⟨s, hscan, h⟩ := Except.bind_eq_ok.mp h
  have hsound := Scanned.block_of_scan (s := start) (by decide) (by decide) hscan
  split at h
  · cases h
  rename_i hdigits
  -- The amount of the two blocks, the second one empty where there is no point.
  have key : ∀ (whole : List Char) (fraction : Option (List Char)),
      (stripSign text).2 = whole ++ fraction.elim [] (fun cs => '.' :: cs) →
      start.Block whole → (start.after whole).pointSeen.Block (fraction.getD []) →
      s.coefficient = Digits.value (digits (whole ++ fraction.getD [])) →
      s.scale = (digits (fraction.getD [])).length →
      s.digitSeen = !(digits (whole ++ fraction.getD [])).isEmpty →
      ∃ a : Amount, a.text = text ∧ d.value = a.value ∧ d.scale = a.scale := by
    intro whole fraction hbody hwhole hfraction hcoefficient hscale hseen
    have hroom : (digits (fraction.getD [])).length ≤ 28 ∧ ∀ before after,
        fraction.getD [] = before ++ after → (digits before).length = 28 → after = [] := by
      refine room_iff.mp (fun before c after hcs => ?_)
      have h := hfraction.room rfl before c after hcs
      simpa [Scanned.after, Scanned.pointSeen] using h
    have hsmall : Digits.value (digits (whole ++ fraction.getD [])) < 2 ^ 96 := by
      rw [← (after_start whole (fraction.getD [])).1]
      exact hfraction.small
    have hfirst : ∃ c rest, whole ++ fraction.getD [] = c :: rest ∧ c.isDigit = true := by
      cases hw : whole with
      | cons c rest => exact ⟨c, _, rfl, hwhole.first rfl c rest hw⟩
      | nil =>
        subst hw
        cases hf : fraction.getD [] with
        | nil =>
          rw [hf] at hseen
          rw [hseen] at hdigits
          exact absurd rfl hdigits
        | cons c rest =>
          refine ⟨c, rest, rfl, hfraction.first rfl c rest hf⟩
    refine ⟨⟨sign, whole, fraction, ?_, hfirst, hroom.1, hroom.2, hsmall⟩, ?_, ?_⟩
    · intro c hc
      rcases List.mem_append.mp hc with hc | hc
      · exact hwhole.isDigit c hc
      · exact hfraction.isDigit c hc
    · show sign.text ++ (whole ++ fraction.elim [] (fun cs => '.' :: cs)) = text
      rw [← hbody, htext]
    · obtain ⟨d', hd', hmantissa, hplaces⟩ := tryFrom_amount sign hsmall hroom.1
      rw [← hcoefficient, ← hscale] at hd'
      obtain rfl := Except.ok.inj (hd'.symm.trans h)
      refine ⟨?_, hplaces⟩
      rw [Decimal.value, hmantissa, hplaces]
      rfl
  rcases hsound with ⟨hblock, rfl⟩ | ⟨-, whole, fraction, hbody, hwhole, hfraction, rfl⟩
  · have hnil : (start.after (stripSign text).2).pointSeen.Block [] :=
      Scanned.block_nil hblock.small
    refine key (stripSign text).2 none (List.append_nil _).symm hblock hnil ?_ ?_ ?_
    all_goals simp [Scanned.after]
  · obtain ⟨hcoefficient, hscale, hseen⟩ := after_start whole fraction
    exact key whole (some fraction) hbody hwhole hfraction hcoefficient hscale hseen

/-! ## The comma -/

theorem Amount.comma_not_mem (a : Amount) : ',' ∉ a.text := by
  intro h
  rcases List.mem_append.mp h with h | h
  · cases hs : a.sign with
    | none => rw [hs] at h; cases h
    | plus | minus =>
      rw [hs] at h
      exact absurd (List.mem_singleton.mp h) (by decide)
  have hdigits : ∀ cs : List Char, (∀ c ∈ cs, c.isDigit = true ∨ c = '_') → ',' ∉ cs :=
    fun cs hcs hmem => absurd (hcs ',' hmem) (by decide)
  rcases List.mem_append.mp h with h | h
  · exact hdigits a.whole (fun c hc => a.isDigit c (List.mem_append_left _ hc)) h
  · cases hf : a.fraction with
    | none => rw [hf] at h; cases h
    | some fraction =>
      rw [hf] at h
      rcases List.mem_cons.mp h with h | h
      · exact absurd h (by decide)
      · refine hdigits fraction (fun c hc => a.isDigit c (List.mem_append_right _ ?_)) h
        rw [hf]
        exact hc

/-- The second attempt is the only one, where there is a lone comma. -/
theorem parseDecimal_eq (value : String) :
    parseDecimal value = (exact (pointed (Text.trim value).toList)).toOption := by
  unfold parseDecimal pointed
  dsimp only
  by_cases hcomma : (Text.trim value).toList.count ',' = 1 ∧ '.' ∉ (Text.trim value).toList
  · have herror : ∃ error, exact (Text.trim value).toList = .error error := by
      cases hexact : exact (Text.trim value).toList with
      | error error => exact ⟨error, rfl⟩
      | ok d =>
        obtain ⟨a, htext, -⟩ := exact_eq_ok hexact
        have hmem : ',' ∈ (Text.trim value).toList :=
          List.count_pos_iff.mp (by rw [hcomma.1]; exact Nat.one_pos)
        rw [← htext] at hmem
        exact absurd hmem a.comma_not_mem
    obtain ⟨error, herror⟩ := herror
    rw [herror, if_pos hcomma]
    have hcond : (decide ((Text.trim value).toList.count ',' = 1)
        && !(Text.trim value).toList.contains '.') = true := by
      simp [hcomma.1, hcomma.2]
    exact if_pos hcond
  · rw [if_neg hcomma]
    cases exact (Text.trim value).toList with
    | ok d => rfl
    | error error =>
      have hcond : ¬ (decide ((Text.trim value).toList.count ',' = 1)
          && !(Text.trim value).toList.contains '.') = true := by
        simpa using hcomma
      exact if_neg hcond

/-- **An amount is read exactly, and nothing else is**, a lone comma being the point. -/
theorem parseDecimal_eq_some {value : String} {d : Decimal} (h : parseDecimal value = some d) :
    ∃ a : Amount, a.text = pointed (Text.trim value).toList ∧ d.value = a.value
      ∧ d.scale = a.scale := by
  rw [parseDecimal_eq] at h
  cases hexact : exact (pointed (Text.trim value).toList) with
  | error error => rw [hexact] at h; cases h
  | ok read =>
    rw [hexact] at h
    obtain rfl := Option.some.inj h
    exact exact_eq_ok hexact

theorem parseDecimal_amount {value : String} {a : Amount}
    (h : a.text = pointed (Text.trim value).toList) :
    ∃ d, parseDecimal value = some d ∧ d.value = a.value ∧ d.scale = a.scale := by
  obtain ⟨d, hd, hvalue, hscale⟩ := a.exact_text
  refine ⟨d, ?_, hvalue, hscale⟩
  rw [parseDecimal_eq, ← h, hd]
  rfl

end Ipn

end Szamlazz
