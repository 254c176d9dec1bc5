import Mathlib.Data.List.Basic
import Mathlib.Tactic.Common

/-!
# UTF-8 and its ASCII bytes

A byte below `0x80` in UTF-8 is a character of its own: it never lies within the
encoding of another (`valid_append_cons`), so that what stands on either side of it
is UTF-8 by itself. A text cut at ASCII separators is cut between characters,
whatever bytes it is made of.
-/

namespace Utf8

/-- The encoding of characters. -/
def encode (cs : List Char) : List UInt8 := cs.flatMap String.utf8EncodeChar

/-- Bytes that encode characters. -/
def Valid (bs : List UInt8) : Prop := ∃ cs, bs = encode cs

/-- The text that bytes encode, if they encode one. -/
def decode? (bs : List UInt8) : Option String := String.fromUTF8? bs.toByteArray

/-- The bytes of a text. -/
def bytes (s : String) : List UInt8 := encode s.toList

@[simp] theorem encode_nil : encode [] = [] := rfl

@[simp] theorem encode_cons (c : Char) (cs : List Char) :
    encode (c :: cs) = String.utf8EncodeChar c ++ encode cs := rfl

@[simp] theorem encode_append (cs ds : List Char) : encode (cs ++ ds) = encode cs ++ encode ds :=
  List.flatMap_append

theorem valid_nil : Valid [] := ⟨[], rfl⟩

theorem Valid.append {bs bs' : List UInt8} (h : Valid bs) (h' : Valid bs') : Valid (bs ++ bs') := by
  obtain ⟨cs, rfl⟩ := h
  obtain ⟨cs', rfl⟩ := h'
  exact ⟨cs ++ cs', (encode_append cs cs').symm⟩

/-! ## Decoding -/

theorem toByteArray_bytes (s : String) : (bytes s).toByteArray = s.toByteArray :=
  String.utf8Encode_toList

theorem valid_iff_isValidUTF8 {bs : List UInt8} : Valid bs ↔ bs.toByteArray.IsValidUTF8 := by
  constructor
  · rintro ⟨cs, rfl⟩
    exact ⟨cs, rfl⟩
  · rintro ⟨cs, hcs⟩
    refine ⟨cs, ?_⟩
    have hlist := congrArg (fun b => b.data.toList) hcs
    simpa [List.utf8Encode, encode] using hlist

/-- **Decoding finds the text**, and only if there is one. -/
theorem decode?_eq_some {bs : List UInt8} {s : String} : decode? bs = some s ↔ bs = bytes s := by
  unfold decode? String.fromUTF8?
  constructor
  · intro h
    split_ifs at h with hvalid
    have hbytes := congrArg String.toByteArray (Option.some.inj h)
    have harray : bs.toByteArray = (bytes s).toByteArray := by
      rw [toByteArray_bytes]
      exact hbytes
    have hlist := congrArg (fun b => b.data.toList) harray
    simpa using hlist
  · rintro rfl
    have hvalid : (bytes s).toByteArray.IsValidUTF8 := valid_iff_isValidUTF8.mp ⟨s.toList, rfl⟩
    rw [dif_pos hvalid]
    refine congrArg some (String.toByteArray_inj.mp ?_)
    exact toByteArray_bytes s

theorem decode?_bytes (s : String) : decode? (bytes s) = some s := decode?_eq_some.mpr rfl

theorem bytes_injective {s t : String} (h : bytes s = bytes t) : s = t :=
  Option.some.inj ((decode?_bytes s).symm.trans (h ▸ decode?_bytes t))

theorem bytes_append (s t : String) : bytes (s ++ t) = bytes s ++ bytes t := by
  rw [bytes, String.toList_append, encode_append]
  rfl

theorem decode?_isSome {bs : List UInt8} : (decode? bs).isSome = true ↔ Valid bs := by
  constructor
  · intro h
    obtain ⟨s, hs⟩ := Option.isSome_iff_exists.mp h
    exact ⟨s.toList, decode?_eq_some.mp hs⟩
  · rintro ⟨cs, rfl⟩
    have hbytes : encode cs = bytes (String.ofList cs) := by
      rw [bytes, String.toList_ofList]
    rw [hbytes, decode?_bytes]
    rfl

/-! ## ASCII bytes -/

/-- A character is its own byte, or none of its bytes is ASCII. -/
theorem utf8EncodeChar_cases (c : Char) :
    (c.toNat < 0x80 ∧ String.utf8EncodeChar c = [UInt8.ofNat c.toNat])
      ∨ ∀ b ∈ String.utf8EncodeChar c, 0x80 ≤ b.toNat := by
  -- Every byte but that of an ASCII character has its highest bit set.
  have high : ∀ n, 0x80 ≤ n → n < 0x100 → 0x80 ≤ (UInt8.ofNat n).toNat := by
    intro n hle hlt
    rw [UInt8.toNat_ofNat', Nat.mod_eq_of_lt hlt]
    exact hle
  unfold String.utf8EncodeChar
  dsimp only
  split_ifs with h1 h2 h3
  · exact Or.inl ⟨Nat.lt_succ_of_le h1, rfl⟩
  all_goals
    right
    intro b hb
    simp only [List.mem_cons, List.not_mem_nil, or_false] at hb
  · rcases hb with rfl | rfl
    all_goals exact high _ (by omega) (by omega)
  · rcases hb with rfl | rfl | rfl
    all_goals exact high _ (by omega) (by omega)
  · rcases hb with rfl | rfl | rfl | rfl
    all_goals exact high _ (by omega) (by omega)

/-- An ASCII byte is a character. -/
theorem encode_ascii {b : UInt8} (hb : b.toNat < 0x80) : encode [Char.ofNat b.toNat] = [b] := by
  have hall : ∀ n < 0x80, String.utf8EncodeChar (Char.ofNat n) = [UInt8.ofNat n] := by decide
  rw [encode_cons, encode_nil, List.append_nil, hall _ hb, UInt8.ofNat_toNat]

/-- A character has at least one byte. -/
theorem length_le_encode (cs : List Char) : cs.length ≤ (encode cs).length := by
  induction cs with
  | nil => exact Nat.le_refl _
  | cons c cs ih =>
    have hpos : 0 < (String.utf8EncodeChar c).length := by
      rw [String.length_utf8EncodeChar]
      exact Char.utf8Size_pos c
    rw [encode_cons, List.length_append, List.length_cons]
    omega

/-- An ASCII byte is one of the characters. -/
theorem mem_encode {cs : List Char} {b : UInt8} (hb : b.toNat < 0x80) (h : b ∈ encode cs) :
    Char.ofNat b.toNat ∈ cs := by
  obtain ⟨c, hc, hmem⟩ := List.mem_flatMap.mp h
  rcases utf8EncodeChar_cases c with ⟨hlt, hone⟩ | hhigh
  · rw [hone, List.mem_singleton] at hmem
    have hbyte : b.toNat = c.toNat := by
      rw [hmem, UInt8.toNat_ofNat', Nat.mod_eq_of_lt (by omega)]
    rw [hbyte, Char.ofNat_toNat]
    exact hc
  · exact absurd (hhigh b hmem) (Nat.not_le.mpr hb)

/-- **An ASCII byte stands between characters.** -/
theorem valid_append_cons {x y : List UInt8} {b : UInt8} (hb : b.toNat < 0x80) :
    Valid (x ++ b :: y) ↔ Valid x ∧ Valid y := by
  constructor
  · rintro ⟨cs, hcs⟩
    induction cs generalizing x with
    | nil => simp at hcs
    | cons c cs ih =>
      rw [encode_cons] at hcs
      rcases utf8EncodeChar_cases c with ⟨hc, hone⟩ | hhigh
      · rw [hone] at hcs
        cases x with
        | nil =>
          obtain ⟨rfl, rfl⟩ := List.cons.inj hcs
          exact ⟨valid_nil, cs, rfl⟩
        | cons a x =>
          obtain ⟨rfl, hrest⟩ := List.cons.inj hcs
          obtain ⟨⟨ds, rfl⟩, hy⟩ := ih hrest
          exact ⟨⟨c :: ds, by rw [encode_cons, hone]; rfl⟩, hy⟩
      · -- The byte lies beyond the first character.
        rcases List.append_eq_append_iff.mp hcs with ⟨t, ht, hrest⟩ | ⟨t, rfl, hrest⟩
        · cases t with
          | nil =>
            rw [List.append_nil] at ht
            obtain ⟨ds, hds⟩ : Valid (String.utf8EncodeChar c) := ⟨[c], by simp⟩
            subst ht
            rw [List.nil_append] at hrest
            obtain ⟨hx, hy⟩ := ih (x := []) hrest
            exact ⟨⟨[c], by simp⟩, hy⟩
          | cons a t =>
            obtain ⟨rfl, -⟩ := List.cons.inj hrest
            have hmem : b ∈ String.utf8EncodeChar c := by
              rw [ht]
              exact List.mem_append_right _ List.mem_cons_self
            exact absurd (hhigh b hmem) (Nat.not_le.mpr hb)
        · obtain ⟨⟨ds, rfl⟩, hy⟩ := ih hrest.symm
          exact ⟨⟨c :: ds, rfl⟩, hy⟩
  · rintro ⟨hx, hy⟩
    have hone : Valid [b] := ⟨_, (encode_ascii hb).symm⟩
    exact hx.append (hone.append hy)

end Utf8
