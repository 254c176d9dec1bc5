import Mathlib.Algebra.Ring.Nat
import Mathlib.Data.List.Basic
import Mathlib.Data.List.DropRight
import Mathlib.Tactic.Common

/-!
# Text as the standard library of the source reads it

Strings are sequences of Unicode scalar values; their length is counted in
UTF-8 bytes. `isWhitespace` and `isControl` are the `White_Space` property and
the general category `Cc`, `trim` drops white space at both ends.

The second half is about texts composed of segments with a separator between
them. `join` is injective on segments that do not hold the separator
(`join_inj`): the composed text says how many segments there are and what each
of them is.
-/

namespace Text

/-- The `White_Space` property. -/
def isWhitespace (c : Char) : Bool :=
  let n := c.toNat
  (0x09 ≤ n && n ≤ 0x0D) || n == 0x20 || n == 0x85 || n == 0xA0 || n == 0x1680
    || (0x2000 ≤ n && n ≤ 0x200A) || n == 0x2028 || n == 0x2029 || n == 0x202F
    || n == 0x205F || n == 0x3000

/-- The general category `Cc`. -/
def isControl (c : Char) : Bool :=
  let n := c.toNat
  n ≤ 0x1F || (0x7F ≤ n && n ≤ 0x9F)

/-- A list without its leading and trailing white space. -/
def trimChars (cs : List Char) : List Char :=
  ((cs.dropWhile isWhitespace).reverse.dropWhile isWhitespace).reverse

/-- `str::trim`. -/
def trim (s : String) : String := String.ofList (trimChars s.toList)

/-- Whether nothing but white space is in the text. -/
def isBlank (s : String) : Bool := (trim s).isEmpty

/-- Text without white space is its own trimming. -/
theorem trimChars_eq_self {cs : List Char} (h : ∀ c ∈ cs, isWhitespace c = false) :
    trimChars cs = cs := by
  have hdrop : ∀ l : List Char, (∀ c ∈ l, isWhitespace c = false) →
      l.dropWhile isWhitespace = l := by
    intro l hl
    cases l with
    | nil => rfl
    | cons c l => rw [List.dropWhile_cons_of_neg]; simp [hl c List.mem_cons_self]
  unfold trimChars
  rw [hdrop cs h, hdrop cs.reverse (fun c hc => h c (List.mem_reverse.mp hc)),
    List.reverse_reverse]

theorem trim_eq_self {s : String} (h : ∀ c ∈ s.toList, isWhitespace c = false) :
    trim s = s := by
  rw [trim, trimChars_eq_self h, String.ofList_toList]

/-- What is left begins with no white space. -/
theorem dropWhile_trimChars (cs : List Char) :
    (trimChars cs).dropWhile isWhitespace = trimChars cs := by
  unfold trimChars
  cases hm : cs.dropWhile isWhitespace with
  | nil => rfl
  | cons c m =>
    have hc : isWhitespace c = false := by
      have := List.head?_dropWhile_not isWhitespace cs
      simpa [hm] using this
    have hbegins : ((c :: m).reverse.dropWhile isWhitespace).reverse <+: c :: m := by
      have := List.reverse_prefix.mpr (List.dropWhile_suffix isWhitespace (l := (c :: m).reverse))
      rwa [List.reverse_reverse] at this
    obtain ⟨rest, hrest⟩ := hbegins
    cases hl : ((c :: m).reverse.dropWhile isWhitespace).reverse with
    | nil => rfl
    | cons d l =>
      rw [hl, List.cons_append] at hrest
      obtain ⟨rfl, -⟩ := List.cons.inj hrest
      rw [List.dropWhile_cons_of_neg]
      simp [hc]

theorem trim_trim (s : String) : trim (trim s) = trim s := by
  unfold trim
  rw [String.toList_ofList]
  congr 1
  show ((((trimChars s.toList)).dropWhile isWhitespace).reverse.dropWhile isWhitespace).reverse = _
  rw [dropWhile_trimChars]
  unfold trimChars
  rw [List.reverse_reverse, List.dropWhile_idempotent]

/-- A text is blank if all of it is white space. -/
theorem isBlank_iff (s : String) : isBlank s = true ↔ ∀ c ∈ s.toList, isWhitespace c = true := by
  unfold isBlank trim trimChars
  rw [String.isEmpty_iff, String.ofList_eq_empty_iff, List.reverse_eq_nil_iff,
    List.dropWhile_eq_nil_iff, ← List.dropWhile_eq_nil_iff (p := isWhitespace) (l := s.toList)]
  constructor
  · intro h
    by_contra hne
    -- What is left would begin with a character that is no white space.
    have hhead := List.head_dropWhile_not isWhitespace (l := s.toList) hne
    have hspace := h _ (List.mem_reverse.mpr (List.head_mem hne))
    exact absurd (hspace.symm.trans hhead) (by decide)
  · intro h
    rw [h]
    simp

theorem utf8ByteSize_eq_size (s : String) : s.utf8ByteSize = s.toList.utf8Encode.size := by
  rw [String.utf8Encode_toList, String.size_toByteArray]

/-- The first character, and the rest. -/
theorem size_utf8Encode_cons (c : Char) (cs : List Char) :
    (c :: cs).utf8Encode.size = c.utf8Size + cs.utf8Encode.size := by
  rw [List.utf8Encode_cons, ByteArray.size_append, List.utf8Encode_singleton,
    List.size_toByteArray, String.length_utf8EncodeChar]

/-- There are as many bytes as characters, or more. -/
theorem length_le_utf8ByteSize (s : String) : s.toList.length ≤ s.utf8ByteSize := by
  have hencode : ∀ cs : List Char, cs.length ≤ cs.utf8Encode.size := by
    intro cs
    induction cs with
    | nil => exact Nat.zero_le _
    | cons c cs ih =>
      have hc := Char.utf8Size_pos c
      rw [size_utf8Encode_cons, List.length_cons]
      omega
  rw [utf8ByteSize_eq_size]
  exact hencode s.toList

/-- A character of ASCII is one byte. -/
theorem utf8ByteSize_of_ascii {s : String} (h : ∀ c ∈ s.toList, c.toNat < 128) :
    s.utf8ByteSize = s.toList.length := by
  have hencode : ∀ cs : List Char, (∀ c ∈ cs, c.toNat < 128) → cs.utf8Encode.size = cs.length := by
    intro cs hcs
    induction cs with
    | nil => rfl
    | cons c cs ih =>
      have hc : c.utf8Size = 1 := by
        rw [Char.utf8Size_eq_one_iff, UInt32.le_iff_toNat_le]
        exact Nat.le_of_lt_succ (hcs c List.mem_cons_self)
      rw [size_utf8Encode_cons, hc, ih (fun d hd => hcs d (List.mem_cons_of_mem _ hd)),
        List.length_cons, Nat.add_comm]
  rw [utf8ByteSize_eq_size]
  exact hencode s.toList h

/-- `str::strip_prefix`. -/
def stripPrefix (start text : String) : Option String :=
  if start.toList <+: text.toList then some (String.ofList (text.toList.drop start.length))
  else none

@[simp] theorem stripPrefix_append (start rest : String) :
    stripPrefix start (start ++ rest) = some rest := by
  unfold stripPrefix
  rw [if_pos (by rw [String.toList_append]; exact List.prefix_append _ _), String.toList_append,
    ← String.length_toList, List.drop_left, String.ofList_toList]

/-! ## Segments and a separator -/

/-- The segments in order with `sep` between them. -/
def joinChars (sep : Char) : List (List Char) → List Char
  | [] => []
  | [x] => x
  | x :: y :: rest => x ++ sep :: joinChars sep (y :: rest)

/-- **Where the separator first stands is where the first segment ends.** -/
theorem append_sep_inj {α : Type} {sep : α} {x x' y y' : List α} (hx : sep ∉ x) (hx' : sep ∉ x')
    (h : x ++ sep :: y = x' ++ sep :: y') : x = x' ∧ y = y' := by
  induction x generalizing x' with
  | nil =>
    cases x' with
    | nil => exact ⟨rfl, (List.cons.inj h).2⟩
    | cons c x' => exact absurd (List.mem_cons.mpr (Or.inl (List.cons.inj h).1)) hx'
  | cons c x ih =>
    cases x' with
    | nil => exact absurd (List.mem_cons.mpr (Or.inl (List.cons.inj h).1.symm)) hx
    | cons c' x' =>
      obtain ⟨hc, ht⟩ := List.cons.inj h
      obtain ⟨hxx, hyy⟩ := ih (fun hm => hx (List.mem_cons_of_mem _ hm))
        (fun hm => hx' (List.mem_cons_of_mem _ hm)) ht
      exact ⟨by rw [hc, hxx], hyy⟩

/-- A single segment is never a text with a separator in it. -/
theorem notMem_ne_append_sep {sep : Char} {x x' y' : List Char} (hx : sep ∉ x) :
    x ≠ x' ++ sep :: y' := by
  rintro rfl
  exact hx (List.mem_append_right _ List.mem_cons_self)

theorem joinChars_inj {sep : Char} {xs ys : List (List Char)} (hxs : ∀ x ∈ xs, sep ∉ x)
    (hys : ∀ y ∈ ys, sep ∉ y) (hne : xs ≠ []) (hne' : ys ≠ [])
    (h : joinChars sep xs = joinChars sep ys) : xs = ys := by
  induction xs generalizing ys with
  | nil => exact absurd rfl hne
  | cons x xs ih =>
    have hx : sep ∉ x := hxs x List.mem_cons_self
    cases ys with
    | nil => exact absurd rfl hne'
    | cons y ys =>
      have hy : sep ∉ y := hys y List.mem_cons_self
      cases xs with
      | nil =>
        cases ys with
        | nil => exact congrArg (fun z => [z]) h
        | cons y' ys => exact absurd h (notMem_ne_append_sep hx)
      | cons x' xs =>
        cases ys with
        | nil => exact absurd h.symm (notMem_ne_append_sep hy)
        | cons y' ys =>
          obtain ⟨hxy, hrest⟩ := append_sep_inj hx hy h
          rw [hxy, ih (fun z hz => hxs z (List.mem_cons_of_mem _ hz))
            (fun z hz => hys z (List.mem_cons_of_mem _ hz)) (List.cons_ne_nil _ _)
            (List.cons_ne_nil _ _) hrest]

/-- The segments in order with `sep` between them, as text. -/
def join (sep : Char) (segments : List String) : String :=
  String.ofList (joinChars sep (segments.map String.toList))

theorem mem_joinChars {sep c : Char} {xs : List (List Char)} (h : c ∈ joinChars sep xs) :
    c = sep ∨ ∃ x ∈ xs, c ∈ x := by
  induction xs with
  | nil => exact absurd h List.not_mem_nil
  | cons x xs ih =>
    cases xs with
    | nil => exact Or.inr ⟨x, List.mem_cons_self, h⟩
    | cons y rest =>
      rcases List.mem_append.mp h with h | h
      · exact Or.inr ⟨x, List.mem_cons_self, h⟩
      · rcases List.mem_cons.mp h with rfl | h
        · exact Or.inl rfl
        · exact (ih h).imp_right fun ⟨z, hz, hc⟩ => ⟨z, List.mem_cons_of_mem _ hz, hc⟩

/-- What is in composed text is the separator or is in a segment. -/
theorem mem_join {sep c : Char} {xs : List String} (h : c ∈ (join sep xs).toList) :
    c = sep ∨ ∃ x ∈ xs, c ∈ x.toList := by
  rw [join, String.toList_ofList] at h
  rcases mem_joinChars h with rfl | ⟨x, hx, hc⟩
  · exact Or.inl rfl
  · obtain ⟨s, hs, rfl⟩ := List.mem_map.mp hx
    exact Or.inr ⟨s, hs, hc⟩

/-- **Composed text determines its segments**, as long as no segment holds the
separator. -/
theorem join_inj {sep : Char} {xs ys : List String} (hxs : ∀ x ∈ xs, sep ∉ x.toList)
    (hys : ∀ y ∈ ys, sep ∉ y.toList) (hne : xs ≠ []) (hne' : ys ≠ [])
    (h : join sep xs = join sep ys) : xs = ys := by
  have hchars : joinChars sep (xs.map String.toList) = joinChars sep (ys.map String.toList) := by
    simpa only [join, String.toList_ofList] using congrArg String.toList h
  have hmap : xs.map String.toList = ys.map String.toList := by
    refine joinChars_inj ?_ ?_ (by simpa using hne) (by simpa using hne') hchars
    · simpa using hxs
    · simpa using hys
  exact (List.map_injective_iff.mpr (fun _ _ => String.toList_inj.mp)) hmap

end Text
