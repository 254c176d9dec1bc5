import Szamlazz.Lib.Utf8

/-!
# The urlencoded form

What a decoder of `application/x-www-form-urlencoded` makes of a body: sequences
between `&`, each cut at its first `=`, `+` a space, and percent escapes bytes. It
decodes after it has cut. A validation that decodes the body as a whole says the
same of every piece (`whole_sequences`), since the separators are ASCII and no part
of an escape.
-/

namespace Urlencoded

/-- `%`. -/
abbrev percent : UInt8 := 0x25

/-- The value of a hexadecimal digit. -/
def hexValue (b : UInt8) : Option UInt8 :=
  if 0x30 ≤ b ∧ b ≤ 0x39 then some (b - 0x30)
  else if 0x61 ≤ b ∧ b ≤ 0x66 then some (b - 0x61 + 10)
  else if 0x41 ≤ b ∧ b ≤ 0x46 then some (b - 0x41 + 10)
  else none

/-- The byte two hexadecimal digits stand for. -/
def escape (high low : UInt8) : Option UInt8 :=
  (hexValue high).bind (fun h => (hexValue low).map (fun l => h * 16 + l))

/-- Percent escapes are bytes; what is no escape stays. -/
def percentDecode : List UInt8 → List UInt8
  | [] => []
  | [b] => [b]
  | [b, c] => [b, c]
  | b :: high :: low :: rest =>
    match if b = percent then escape high low else none with
    | some value => value :: percentDecode rest
    | none => b :: percentDecode (high :: low :: rest)

/-- `+` is a space. -/
def plusToSpace (bs : List UInt8) : List UInt8 := bs.map (fun b => if b = 0x2B then 0x20 else b)

/-- What stands before the first separator, and what stands after it. -/
def cut (sep : UInt8) : List UInt8 → List UInt8 × List UInt8
  | [] => ([], [])
  | b :: rest => if b = sep then ([], rest) else (b :: (cut sep rest).1, (cut sep rest).2)

/-- The sequences that are not empty, each a name and a value. -/
def sequences (body : List UInt8) : List (List UInt8 × List UInt8) :=
  ((body.splitOn 0x26).filter (fun s => s ≠ [])).map (cut 0x3D)

/-- The bytes a name or a value stands for. -/
def decoded (piece : List UInt8) : List UInt8 := percentDecode (plusToSpace piece)

/-! ## Escapes -/

/-- Every `%` begins an escape. -/
inductive Escaped : List UInt8 → Prop where
  | nil : Escaped []
  | byte {b : UInt8} {rest : List UInt8} (hb : b ≠ percent) (h : Escaped rest) :
      Escaped (b :: rest)
  | escape {high low h l : UInt8} {rest : List UInt8} (hhigh : hexValue high = some h)
      (hlow : hexValue low = some l) (hrest : Escaped rest) :
      Escaped (percent :: high :: low :: rest)

theorem escaped_byte {b : UInt8} (hb : b ≠ percent) {rest : List UInt8} :
    Escaped (b :: rest) ↔ Escaped rest := by
  constructor
  · intro h
    cases h with
    | byte _ h => exact h
    | escape => exact absurd rfl hb
  · exact .byte hb

theorem escaped_escape {high low : UInt8} {rest : List UInt8} :
    Escaped (percent :: high :: low :: rest)
      ↔ ∃ h l, hexValue high = some h ∧ hexValue low = some l ∧ Escaped rest := by
  constructor
  · intro h
    cases h with
    | byte hb => exact absurd rfl hb
    | escape hhigh hlow hrest => exact ⟨_, _, hhigh, hlow, hrest⟩
  · rintro ⟨h, l, hhigh, hlow, hrest⟩
    exact .escape hhigh hlow hrest

/-- An escape is three bytes long. -/
theorem not_escaped_short {rest : List UInt8} (h : rest.length < 2) :
    ¬ Escaped (percent :: rest) := by
  intro hescaped
  cases hescaped with
  | byte hb => exact absurd rfl hb
  | escape =>
    simp only [List.length_cons] at h
    omega

@[simp] theorem percentDecode_nil : percentDecode [] = [] := rfl

theorem percentDecode_byte {b : UInt8} (hb : b ≠ percent) (rest : List UInt8) :
    percentDecode (b :: rest) = b :: percentDecode rest := by
  match rest with
  | [] | [c] => rfl
  | high :: low :: rest => rw [percentDecode, if_neg hb]

theorem percentDecode_escape {high low h l : UInt8} (hhigh : hexValue high = some h)
    (hlow : hexValue low = some l) (rest : List UInt8) :
    percentDecode (percent :: high :: low :: rest) = (h * 16 + l) :: percentDecode rest := by
  rw [percentDecode, if_pos rfl, escape, hhigh, hlow]
  rfl

/-- A byte that is part of no escape. -/
def Plain (b : UInt8) : Prop := b ≠ percent ∧ hexValue b = none

/-- **A byte that is part of no escape** parts the body, before and after decoding. -/
theorem escaped_append_cons {s : UInt8} (hs : Plain s) {p q : List UInt8}
    (h : Escaped (p ++ s :: q)) :
    Escaped p ∧ Escaped q
      ∧ percentDecode (p ++ s :: q) = percentDecode p ++ s :: percentDecode q := by
  generalize hbody : p ++ s :: q = body at h
  induction h generalizing p with
  | nil => simp at hbody
  | @byte b rest hb h ih =>
    cases p with
    | nil =>
      obtain ⟨rfl, rfl⟩ := List.cons.inj hbody
      exact ⟨.nil, h, percentDecode_byte hs.1 _⟩
    | cons a p =>
      obtain ⟨rfl, hrest⟩ := List.cons.inj hbody
      obtain ⟨hp, hq, hdecode⟩ := ih hrest
      refine ⟨.byte hb hp, hq, ?_⟩
      rw [percentDecode_byte hb, percentDecode_byte hb, hdecode, List.cons_append]
  | @escape high low h l rest hhigh hlow hrest ih =>
    match p with
    | [] =>
      obtain ⟨rfl, -⟩ := List.cons.inj hbody
      exact absurd rfl hs.1
    | [a] =>
      obtain ⟨rfl, -⟩ := List.cons.inj (List.cons.inj hbody).2
      rw [hs.2] at hhigh
      cases hhigh
    | [a, c] =>
      obtain ⟨rfl, -⟩ := List.cons.inj (List.cons.inj (List.cons.inj hbody).2).2
      rw [hs.2] at hlow
      cases hlow
    | a :: c :: d :: p =>
      simp only [List.cons_append, List.cons.injEq] at hbody
      obtain ⟨rfl, rfl, rfl, hrest⟩ := hbody
      obtain ⟨hp, hq, hdecode⟩ := ih hrest
      refine ⟨.escape hhigh hlow hp, hq, ?_⟩
      rw [percentDecode_escape hhigh hlow, percentDecode_escape hhigh hlow, hdecode,
        List.cons_append]

theorem hexValue_percent : hexValue percent = none := by decide

/-- **Every `%` is followed by two hexadecimal digits.** -/
theorem escaped_iff {body : List UInt8} : Escaped body ↔ ∀ before after,
    body = before ++ percent :: after → ∃ high low rest, after = high :: low :: rest
      ∧ (hexValue high).isSome = true ∧ (hexValue low).isSome = true := by
  constructor
  · intro h
    induction h with
    | nil =>
      intro before after hbody
      simp at hbody
    | @byte b rest hb h ih =>
      intro before after hbody
      cases before with
      | nil => exact absurd (List.cons.inj hbody).1 hb
      | cons a before => exact ih before after (List.cons.inj hbody).2
    | @escape high low h l rest hhigh hlow hrest ih =>
      intro before after hbody
      -- A digit is no `%`, so the `%` that is asked about starts this escape or comes after it.
      match before with
      | [] =>
        obtain ⟨-, rfl⟩ := List.cons.inj hbody
        exact ⟨high, low, rest, rfl, by rw [hhigh]; rfl, by rw [hlow]; rfl⟩
      | [a] =>
        obtain ⟨rfl, -⟩ := List.cons.inj (List.cons.inj hbody).2
        rw [hexValue_percent] at hhigh
        cases hhigh
      | [a, c] =>
        obtain ⟨rfl, -⟩ := List.cons.inj (List.cons.inj (List.cons.inj hbody).2).2
        rw [hexValue_percent] at hlow
        cases hlow
      | a :: c :: d :: before =>
        exact ih before after (List.cons.inj (List.cons.inj (List.cons.inj hbody).2).2).2
  · intro h
    induction hn : body.length using Nat.strongRecOn generalizing body with
    | ind n ih =>
      subst hn
      cases body with
      | nil => exact .nil
      | cons b rest =>
        have hrest : ∀ pre {tail : List UInt8}, b :: rest = b :: pre ++ tail → Escaped tail := by
          intro pre tail heq
          refine ih tail.length ?_ (fun before after htail => ?_) rfl
          · have := congrArg List.length heq
            simp only [List.length_cons, List.length_append] at this ⊢
            omega
          · exact h (b :: pre ++ before) after (by rw [heq, htail, List.append_assoc])
        by_cases hb : b = percent
        · subst hb
          obtain ⟨high, low, tail, rfl, hhigh, hlow⟩ := h [] rest rfl
          obtain ⟨h, hhigh⟩ := Option.isSome_iff_exists.mp hhigh
          obtain ⟨l, hlow⟩ := Option.isSome_iff_exists.mp hlow
          exact .escape hhigh hlow (hrest [high, low] rfl)
        · exact .byte hb (hrest [] rfl)

/-! ## A body that decodes as a whole -/

/-- A body whose escapes are right and whose decoded bytes are UTF-8. -/
structure Whole (body : List UInt8) : Prop where
  escaped : Escaped body
  valid : Utf8.Valid (percentDecode body)

/-- **Both sides of an ASCII separator decode as a whole.** -/
theorem Whole.parts {s : UInt8} (hs : Plain s) (hascii : s.toNat < 0x80) {p q : List UInt8}
    (h : Whole (p ++ s :: q)) : Whole p ∧ Whole q := by
  obtain ⟨hp, hq, hdecode⟩ := escaped_append_cons hs h.escaped
  have hvalid := h.valid
  rw [hdecode] at hvalid
  obtain ⟨hp', hq'⟩ := (Utf8.valid_append_cons hascii).mp hvalid
  exact ⟨⟨hp, hp'⟩, ⟨hq, hq'⟩⟩

theorem whole_nil : Whole [] := ⟨.nil, Utf8.valid_nil⟩

theorem whole_of_intercalate {s : UInt8} (hs : Plain s) (hascii : s.toNat < 0x80)
    {pieces : List (List UInt8)} (h : Whole ([s].intercalate pieces)) :
    ∀ piece ∈ pieces, Whole piece := by
  induction pieces with
  | nil => exact fun _ hmem => by cases hmem
  | cons piece pieces ih =>
    cases pieces with
    | nil =>
      intro p hp
      rw [List.mem_singleton.mp hp]
      simpa [List.intercalate] using h
    | cons next pieces =>
      have hsplit : [s].intercalate (piece :: next :: pieces)
          = piece ++ s :: [s].intercalate (next :: pieces) := by
        simp [List.intercalate, List.intersperse]
      rw [hsplit] at h
      obtain ⟨hpiece, hrest⟩ := h.parts hs hascii
      intro p hp
      rcases List.mem_cons.mp hp with rfl | hp
      · exact hpiece
      · exact ih hrest p hp

theorem whole_cut {s : UInt8} (hs : Plain s) (hascii : s.toNat < 0x80) {piece : List UInt8}
    (h : Whole piece) : Whole (cut s piece).1 ∧ Whole (cut s piece).2 := by
  have hcut : piece = (cut s piece).1 ∧ (cut s piece).2 = []
      ∨ piece = (cut s piece).1 ++ s :: (cut s piece).2 := by
    clear h
    induction piece with
    | nil => exact Or.inl ⟨rfl, rfl⟩
    | cons b rest ih =>
      unfold cut
      split_ifs with hb
      · exact Or.inr (by rw [hb]; rfl)
      · rcases ih with ⟨hrest, hnil⟩ | hrest
        · exact Or.inl ⟨congrArg (b :: ·) hrest, hnil⟩
        · exact Or.inr (congrArg (b :: ·) hrest)
  rcases hcut with ⟨hname, hnil⟩ | hparts
  · rw [hnil, ← hname]
    exact ⟨h, whole_nil⟩
  · rw [hparts] at h
    exact h.parts hs hascii

/-- A space instead of `+` leaves UTF-8 what it is, whatever stands before it. -/
theorem valid_plusToSpace {piece : List UInt8} (h : Escaped piece) (pre : List UInt8)
    (hvalid : Utf8.Valid (pre ++ percentDecode piece)) :
    Utf8.Valid (pre ++ percentDecode (plusToSpace piece)) := by
  induction h generalizing pre with
  | nil => exact hvalid
  | @byte b rest hb h ih =>
    rw [percentDecode_byte hb] at hvalid
    by_cases hplus : b = 0x2B
    · subst hplus
      obtain ⟨hpre, hrest⟩ := (Utf8.valid_append_cons (by decide)).mp hvalid
      show Utf8.Valid (pre ++ percentDecode (0x20 :: plusToSpace rest))
      rw [percentDecode_byte (by decide)]
      exact (Utf8.valid_append_cons (by decide)).mpr ⟨hpre, ih [] hrest⟩
    · have hkeep : plusToSpace (b :: rest) = b :: plusToSpace rest := by
        simp [plusToSpace, hplus]
      rw [hkeep, percentDecode_byte hb, List.append_cons]
      exact ih _ (by rwa [List.append_cons] at hvalid)
  | @escape high low h l rest hhigh hlow hrest ih =>
    rw [percentDecode_escape hhigh hlow] at hvalid
    have hne : ∀ {b v : UInt8}, hexValue b = some v → b ≠ 0x2B := by
      rintro b v hv rfl
      rw [show hexValue 0x2B = none by decide] at hv
      cases hv
    have hkeep : plusToSpace (percent :: high :: low :: rest)
        = percent :: high :: low :: plusToSpace rest := by
      simp [plusToSpace, hne hhigh, hne hlow, percent]
    rw [hkeep, percentDecode_escape hhigh hlow, List.append_cons]
    exact ih _ (by rwa [List.append_cons] at hvalid)

theorem Whole.valid_decoded {piece : List UInt8} (h : Whole piece) : Utf8.Valid (decoded piece) :=
  valid_plusToSpace h.escaped [] h.valid

/-- **Every name and every value of a body that decodes as a whole is UTF-8.** -/
theorem whole_sequences {body : List UInt8} (h : Whole body) :
    ∀ s ∈ sequences body, Utf8.Valid (decoded s.1) ∧ Utf8.Valid (decoded s.2) := by
  intro s hs
  obtain ⟨piece, hpiece, rfl⟩ := List.mem_map.mp hs
  have hwhole : Whole piece := by
    refine whole_of_intercalate (s := 0x26) ⟨by decide, by decide⟩ (by decide) ?_ piece
      (List.mem_filter.mp hpiece).1
    rwa [List.intercalate_splitOn]
  obtain ⟨hname, hvalue⟩ := whole_cut (s := 0x3D) ⟨by decide, by decide⟩ (by decide) hwhole
  exact ⟨hname.valid_decoded, hvalue.valid_decoded⟩

end Urlencoded
