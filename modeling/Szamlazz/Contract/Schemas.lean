import Szamlazz.Agent.Numeral
import Szamlazz.Contract.Marker
import Szamlazz.Contract.Order
import Szamlazz.Lib.JsonSchema

/-!
# Published string schemas

The schemas the worker publishes for the strings it decodes, and that they admit what the
decoders accept. Each rule is written twice: as patterns and lengths in code points for the
client, as splits, loops over bytes, predicates of characters and lengths in bytes in the
decoder. `schemas_agree` compares them for every text.

The two sides are brought together in the middle. A pattern is read to its expression, and
that to a language; the predicates of the decoder are conditions on the same code points, so
that a class agrees with a predicate by arithmetic on one character
(`mem_atom_iff`, `mem_nonblank_iff`, `mem_forbidden_iff`). Bytes are counted where the text is
ASCII anyway, or not at all: the one length in bytes that is no length in code points is the
one the schema of invoice numbers leaves to the decoder.
-/

namespace Szamlazz

/-! ## The schemas -/

/-- The pattern of a mailbox. -/
def StornoRecipient.pattern : String :=
  "^[A-Za-z0-9!#$%&'*+/=?^_`\x7b|\x7d~-]+(\\.[A-Za-z0-9!#$%&'*+/=?^_`\x7b|\x7d~-]+)*"
    ++ "@[A-Za-z0-9]([A-Za-z0-9-]\x7b0,61\x7d[A-Za-z0-9])?"
    ++ "(\\.[A-Za-z0-9]([A-Za-z0-9-]\x7b0,61\x7d[A-Za-z0-9])?)*$"

/-- The schema of a recipient. -/
def StornoRecipient.jsonSchema : JsonSchema := .object [
  .type ["string"],
  .minLength 3,
  .maxLength 254,
  .not (.pattern "[^\\u0021-\\u007e]"),
  .pattern StornoRecipient.pattern,
  .allOf [.pattern "^[^@]\x7b1,64\x7d@"]]

/-- What is not white space. -/
def ProviderDocumentNumber.pattern : String :=
  "[^\\u0009-\\u000D\\u0020\\u0085\\u00A0\\u1680\\u2000-\\u200A"
    ++ "\\u2028\\u2029\\u202F\\u205F\\u3000]"

/-- The schema of a number the vendor gave. -/
def ProviderDocumentNumber.jsonSchema : JsonSchema := .object [
  .type ["string"],
  .minLength 1,
  .pattern ProviderDocumentNumber.pattern,
  .not (.pattern "[\\u0000-\\u0008\\u000B\\u000C\\u000E-\\u001F\\uFFFE\\uFFFF]")]

/-- What no invoice number holds. -/
def InvoiceNumber.pattern : String :=
  "[\\u0000-\\u0020\\u007F-\\u00A0\\u1680\\u2000-\\u200A"
    ++ "\\u2028\\u2029\\u202F\\u205F\\u3000\\uFFFE\\uFFFF:]"

/-- The schema of an invoice number in a request. -/
def InvoiceNumber.jsonSchema : JsonSchema := .object [
  .type ["string"],
  .minLength 1,
  .maxLength 40,
  .not (.pattern InvoiceNumber.pattern)]

namespace ExactDecimal

/-- The grammar of a decimal, before the check that it is one. -/
def schema : JsonSchema := .object [
  .type ["string", "number"],
  .pattern "^[+-]?(?:[0-9]+(?:\\.[0-9]*)?|\\.[0-9]+)(?:[eE][+-]?[0-9]+)?$",
  .not (.object [.type ["string"], .pattern "[\\r\\n\\u2028\\u2029]"])]

/-- Why a text is refused: `expected an exactly representable decimal`, and this. -/
structure Inexact where
  error : Decimal.Error
deriving DecidableEq

/-- The exact decimal of a string. -/
def visitStr [RustDecimal] (text : String) : Except Inexact Decimal :=
  (Number.parse text).mapError Inexact.mk

end ExactDecimal

/-! ## Classes of characters -/

section Classes

open Regex

variable {c : Char}

/-- Letters and digits of ASCII, as a class of the pattern. -/
def alphanumSet : CharSet := ⟨false, [(65, 90), (97, 122), (48, 57)]⟩

/-- The characters of a domain label. -/
def labelSet : CharSet := ⟨false, [(65, 90), (97, 122), (48, 57), (45, 45)]⟩

/-- The characters of a mailbox in front of the at sign. -/
def atomSet : CharSet := ⟨false, [(65, 90), (97, 122), (48, 57), (33, 33), (35, 35), (36, 36),
  (37, 37), (38, 38), (39, 39), (42, 42), (43, 43), (47, 47), (61, 61), (63, 63), (94, 94),
  (95, 95), (96, 96), (123, 123), (124, 124), (125, 125), (126, 126), (45, 45)]⟩

/-- Digits, by their code points. -/
theorem isDigit_iff : c.isDigit = true ↔ 48 ≤ c.toNat ∧ c.toNat ≤ 57 := by
  simp only [Char.isDigit, Bool.and_eq_true, decide_eq_true_eq, ge_iff_le,
    UInt32.le_iff_toNat_le]
  exact Iff.rfl

/-- Letters and digits, by their code points. -/
theorem isAlphanum_iff : c.isAlphanum = true ↔ (65 ≤ c.toNat ∧ c.toNat ≤ 90)
    ∨ (97 ≤ c.toNat ∧ c.toNat ≤ 122) ∨ (48 ≤ c.toNat ∧ c.toNat ≤ 57) := by
  have hupper : c.isUpper = true ↔ 65 ≤ c.toNat ∧ c.toNat ≤ 90 := by
    delta Char.isUpper
    simp only [decide_eq_true_eq, ge_iff_le, UInt32.le_iff_toNat_le]
    exact Iff.rfl
  have hlower : c.isLower = true ↔ 97 ≤ c.toNat ∧ c.toNat ≤ 122 := by
    delta Char.isLower
    simp only [Bool.and_eq_true, decide_eq_true_eq, ge_iff_le, UInt32.le_iff_toNat_le]
    exact Iff.rfl
  show (c.isUpper || c.isLower || c.isDigit) = true ↔ _
  rw [Bool.or_eq_true, Bool.or_eq_true, hupper, hlower, isDigit_iff,
    or_assoc]

/-- The class of the pattern is that of the decoder. -/
theorem mem_alphanum_iff : alphanumSet.mem c = true ↔ c.isAlphanum = true := by
  rw [isAlphanum_iff]
  simp [CharSet.mem, alphanumSet]

/-- So is the class of the labels. -/
theorem mem_label_iff : labelSet.mem c = true ↔ (c.isAlphanum || c == '-') = true := by
  rw [Bool.or_eq_true, isAlphanum_iff, beq_iff_eq, ← Char.toNat_inj]
  simp [CharSet.mem, labelSet]
  omega

/-- And that of the atoms. -/
theorem mem_atom_iff : atomSet.mem c = true ↔ StornoRecipient.isAtom c = true := by
  unfold StornoRecipient.isAtom
  rw [Bool.or_eq_true, isAlphanum_iff]
  simp [CharSet.mem, atomSet, ← Char.toNat_inj]
  omega

end Classes

/-! ## Mailboxes -/

namespace StornoRecipient

open Regex

/-- The part of a mailbox between two points. -/
def atom : Regex := times (set atomSet) 1 none

/-- A label of the domain. -/
def label : Regex :=
  seq (set alphanumSet) (times (seq (times (set labelSet) 0 (some 61)) (set alphanumSet)) 0 (some 1))

/-- With points between them. -/
def dotted (r : Regex) : Regex := times (seq (set (CharSet.single 46)) r) 0 none

/-- **The pattern of a mailbox**, as an expression. -/
def mailbox : Regex :=
  seq start (seq atom (seq (dotted atom) (seq (set (CharSet.single 64))
    (seq (set alphanumSet) (seq (times (seq (times (set labelSet) 0 (some 61)) (set alphanumSet)) 0
      (some 1)) (seq (dotted label) stop))))))

variable {w : List Char}

/-- What the pattern of an atom matches. -/
theorem mem_atom {p : List Char} : p ∈ atom.language ↔ (!p.isEmpty && p.all isAtom) = true := by
  unfold atom
  rw [mem_language_times_set, Bool.and_eq_true, Bool.not_eq_true', List.isEmpty_eq_false_iff,
    List.all_eq_true, ← List.length_pos_iff]
  simp only [mem_atom_iff, Nat.lt_iff_add_one_le, Nat.zero_add]
  simp

/-- What the pattern of a label matches. -/
theorem mem_label {p : List Char} : p ∈ label.language ↔ isLabel p = true := by
  -- behind the first character a label has nothing, or a middle and a last character
  have hmiddle : ∀ x, x ∈ (seq (times (set labelSet) 0 (some 61)) (set alphanumSet)).language
      ↔ ∃ y d, x = y ++ [d] ∧ y.length ≤ 61 ∧ (∀ c ∈ y, (c.isAlphanum || c == '-') = true)
        ∧ d.isAlphanum = true := by
    intro x
    show x ∈ (times (set labelSet) 0 (some 61)).language * (set alphanumSet).language ↔ _
    rw [Language.mem_mul]
    constructor
    · rintro ⟨y, hy, z, ⟨d, rfl, hd⟩, rfl⟩
      obtain ⟨⟨-, hlength⟩, hall⟩ := mem_language_times_set.mp hy
      exact ⟨y, d, rfl, hlength 61 rfl, fun c hc => mem_label_iff.mp (hall c hc),
        mem_alphanum_iff.mp hd⟩
    · rintro ⟨y, d, rfl, hlength, hall, hd⟩
      refine ⟨y, mem_language_times_set.mpr ⟨⟨Nat.zero_le _, ?_⟩, ?_⟩, [d],
        ⟨d, rfl, mem_alphanum_iff.mpr hd⟩, rfl⟩
      · rintro m hm
        rw [← Option.some.inj hm]
        exact hlength
      · exact fun c hc => mem_label_iff.mpr (hall c hc)
  show p ∈ (set alphanumSet).language * (times _ 0 (some 1)).language ↔ _
  rw [Language.mem_mul]
  unfold isLabel
  simp only [Bool.and_eq_true, Bool.not_eq_true', List.isEmpty_eq_false_iff, decide_eq_true_eq,
    List.all_eq_true]
  have halnum : ∀ {c : Char}, c.isAlphanum = true → c ≠ '-' := by
    rintro c hc rfl
    exact absurd hc (by decide)
  constructor
  · rintro ⟨u, ⟨c, rfl, hc⟩, x, hx, rfl⟩
    have hc' := mem_alphanum_iff.mp hc
    rcases mem_language_optional.mp hx with rfl | hx
    · exact ⟨⟨⟨⟨by simp, by simp⟩, by simpa using halnum hc'⟩, by simpa using halnum hc'⟩,
        by simp [hc']⟩
    · obtain ⟨y, d, rfl, hlength, hall, hd⟩ := (hmiddle x).mp hx
      refine ⟨⟨⟨⟨by simp, by simp; omega⟩, by simpa using halnum hc'⟩, ?_⟩, ?_⟩
      · rw [← List.append_assoc, List.getLast?_concat]
        simpa using halnum hd
      · intro e he
        rcases List.mem_append.mp he with he | he
        · rw [List.mem_singleton.mp he, hc', Bool.true_or]
        · rcases List.mem_append.mp he with he | he
          · exact hall e he
          · rw [List.mem_singleton.mp he, hd, Bool.true_or]
  · rintro ⟨⟨⟨⟨hne, hlength⟩, hhead⟩, hlast⟩, hall⟩
    have hend : ∀ e ∈ p, e ≠ '-' → e.isAlphanum = true := by
      intro e he hhyphen
      simpa [hhyphen] using hall e he
    cases p with
    | nil => exact absurd rfl hne
    | cons c x =>
      have hc : c.isAlphanum = true := hend c List.mem_cons_self (by simpa using hhead)
      refine ⟨[c], ⟨c, rfl, mem_alphanum_iff.mpr hc⟩, x, mem_language_optional.mpr ?_, rfl⟩
      -- the label is cut in front of its last character
      rcases List.eq_nil_or_concat x with rfl | ⟨y, d, rfl⟩
      · exact Or.inl rfl
      · rw [List.concat_eq_append] at *
        refine Or.inr ((hmiddle _).mpr ⟨y, d, rfl, ?_, ?_, ?_⟩)
        · simp at hlength
          omega
        · exact fun e he => hall e (by simp [he])
        · refine hend d (by simp) ?_
          rw [← List.cons_append, List.getLast?_concat] at hlast
          simpa using hlast

theorem parse_pattern : Regex.parse pattern = some mailbox := by decide +kernel

/-- The pattern of what is not printable. -/
theorem parse_printable :
    Regex.parse "[^\\u0021-\\u007e]" = some (.set ⟨true, [(0x21, 0x7e)]⟩) := by decide +kernel

/-- The pattern of the length of the front. -/
theorem parse_front : Regex.parse "^[^@]\x7b1,64\x7d@"
    = some (seq start (seq (times (set ⟨true, [(64, 64)]⟩) 1 (some 64)) (set (CharSet.single 64)))) := by
  decide +kernel

/-- The two sides of a mailbox. -/
structure Sides (w front domain : List Char) : Prop where
  split : w = front ++ '@' :: domain
  front_atoms : ∀ p ∈ front.splitOn '.', p ∈ atom.language
  domain_labels : ∀ p ∈ domain.splitOn '.', p ∈ label.language

/-- A character other than the separator is in one of the parts. -/
theorem mem_splitOn {sep c : Char} (h : c ∈ w) (hc : c ≠ sep) : ∃ p ∈ w.splitOn sep, c ∈ p := by
  have hjoin : [sep].intercalate (w.splitOn sep) = w := List.intercalate_splitOn sep
  rw [← hjoin] at h
  generalize w.splitOn sep = parts at h ⊢
  induction parts with
  | nil => exact absurd h List.not_mem_nil
  | cons p parts ih =>
    cases parts with
    | nil => exact ⟨p, List.mem_singleton_self p, by simpa using h⟩
    | cons q parts =>
      rw [List.intercalate_cons_cons] at h
      rcases List.mem_append.mp h with h | h
      · rcases List.mem_append.mp h with h | h
        · exact ⟨p, List.mem_cons_self, h⟩
        · exact absurd (List.mem_singleton.mp h) hc
      · obtain ⟨x, hx, hmem⟩ := ih h
        exact ⟨x, List.mem_cons_of_mem _ hx, hmem⟩

/-- **The pattern is that of two sides.** -/
theorem found_mailbox : mailbox.Found w ↔ ∃ front domain, Sides w front domain := by
  have hpoint : ∀ c, (CharSet.single 46).mem c = true ↔ c = '.' := fun c =>
    CharSet.mem_single (d := '.')
  have hatom : ∀ p ∈ atom.language, '.' ∉ p := by
    intro p hp hmem
    have hall := (Bool.and_eq_true_iff.mp (mem_atom.mp hp)).2
    exact absurd (List.all_eq_true.mp hall '.' hmem) (by decide)
  have hlabel : ∀ p ∈ label.language, '.' ∉ p := by
    intro p hp hmem
    have hall := (Bool.and_eq_true_iff.mp (mem_label.mp hp)).2
    exact absurd (List.all_eq_true.mp hall '.' hmem) (by decide)
  have hends : Ends (seq atom (seq (dotted atom) (seq (set (CharSet.single 64))
      (seq (set alphanumSet) (seq (times (seq (times (set labelSet) 0 (some 61)) (set alphanumSet)) 0
        (some 1)) (seq (dotted label) stop))))))
      ((atom.language * (dotted atom).language) * ((set (CharSet.single 64)).language
        * (label.language * (dotted label).language))) := by
    have h := ends_seq (r := atom) rfl (ends_seq (r := dotted atom) rfl
      (ends_seq (r := set (CharSet.single 64)) rfl (ends_seq (r := set alphanumSet) rfl
        (ends_seq (r := times (seq (times (set labelSet) 0 (some 61)) (set alphanumSet)) 0 (some 1))
          rfl (ends_seq (r := dotted label) rfl ends_stop)))))
    rw [mul_one] at h
    have hlabel : label.language = (set alphanumSet).language
        * (times (seq (times (set labelSet) 0 (some 61)) (set alphanumSet)) 0 (some 1)).language := rfl
    rw [hlabel]
    simp only [mul_assoc] at h ⊢
    exact h
  unfold mailbox
  rw [found_start hends, Language.mem_mul]
  constructor
  · rintro ⟨front, hfront, rest, hrest, rfl⟩
    obtain ⟨u, ⟨c, rfl, hc⟩, domain, hdomain, rfl⟩ := Language.mem_mul.mp hrest
    obtain rfl : c = '@' := (CharSet.mem_single (d := '@')).mp hc
    exact ⟨front, domain, rfl, (mem_separated hpoint hatom).mp hfront,
      (mem_separated hpoint hlabel).mp hdomain⟩
  · rintro ⟨front, domain, rfl, hfront, hdomain⟩
    refine ⟨front, (mem_separated hpoint hatom).mpr hfront, '@' :: domain, ?_, rfl⟩
    exact Language.mem_mul.mpr ⟨['@'], ⟨'@', rfl, (CharSet.mem_single (d := '@')).mpr rfl⟩, domain,
      (mem_separated hpoint hlabel).mpr hdomain, rfl⟩

namespace Sides

variable {front domain : List Char}

/-- Every character stands in a part of the front or in a label, or between them. -/
theorem isAtom_or (h : Sides w front domain) {c : Char} (hc : c ∈ w) :
    isAtom c = true ∨ c = '.' ∨ c = '@' := by
  have hlabel : ∀ {d : Char}, (d.isAlphanum || d == '-') = true → isAtom d = true := by
    intro d hd
    unfold isAtom
    rcases Bool.or_eq_true_iff.mp hd with hd | hd
    · rw [hd, Bool.true_or]
    · rw [beq_iff_eq.mp hd]
      decide
  rw [h.split] at hc
  by_cases hpoint : c = '.'
  · exact Or.inr (Or.inl hpoint)
  rcases List.mem_append.mp hc with hc | hc
  · obtain ⟨p, hp, hmem⟩ := mem_splitOn hc hpoint
    have hall := (Bool.and_eq_true_iff.mp (mem_atom.mp (h.front_atoms p hp))).2
    exact Or.inl (List.all_eq_true.mp hall c hmem)
  · rcases List.mem_cons.mp hc with hc | hc
    · exact Or.inr (Or.inr hc)
    · obtain ⟨p, hp, hmem⟩ := mem_splitOn hc hpoint
      have hall := (Bool.and_eq_true_iff.mp (mem_label.mp (h.domain_labels p hp))).2
      exact Or.inl (hlabel (List.all_eq_true.mp hall c hmem))

/-- There is no at sign in front of the at sign. -/
theorem at_not_mem (h : Sides w front domain) : '@' ∉ front := by
  intro hmem
  obtain ⟨p, hp, hmem⟩ := mem_splitOn hmem (by decide : '@' ≠ '.')
  have hall := (Bool.and_eq_true_iff.mp (mem_atom.mp (h.front_atoms p hp))).2
  exact absurd (List.all_eq_true.mp hall '@' hmem) (by decide)

/-- Both sides have a character. -/
theorem ne_nil (h : Sides w front domain) : front ≠ [] ∧ domain ≠ [] := by
  constructor
  · rintro rfl
    have hpart := mem_atom.mp (h.front_atoms [] (by simp))
    cases hpart
  · rintro rfl
    have hpart := mem_label.mp (h.domain_labels [] (by simp))
    cases hpart

end Sides

/-- **What is a mailbox** has two sides, one of them short. -/
theorem isMailbox_iff {value : String} : isMailbox value = true
    ↔ ∃ front domain, Sides value.toList front domain ∧ value.utf8ByteSize ≤ 254
      ∧ front.length ≤ 64 := by
  have hspan : value.toList.span (fun c => c != '@')
      = (value.toList.takeWhile (fun c => c != '@'), value.toList.dropWhile (fun c => c != '@')) :=
    List.span_eq_takeWhile_dropWhile _ _
  have hfront : ∀ c ∈ value.toList.takeWhile (fun c => c != '@'), c ≠ '@' := by
    intro c hc
    simpa using List.mem_takeWhile_imp hc
  have hsplit := List.takeWhile_append_dropWhile (p := fun c => c != '@') (l := value.toList)
  unfold isMailbox
  rw [hspan]
  dsimp only
  cases hrest : value.toList.dropWhile (fun c => c != '@') with
  | nil =>
    refine iff_of_false (by simp) ?_
    rintro ⟨front, domain, h, -⟩
    rw [List.dropWhile_eq_nil_iff] at hrest
    have hat := hrest '@' (by rw [h.split]; simp)
    simp at hat
  | cons c domain =>
    have hc : c = '@' := by
      have hhead := List.head_dropWhile_not (fun c => c != '@') (l := value.toList)
        (by rw [hrest]; exact List.cons_ne_nil _ _)
      simp only [hrest, List.head_cons] at hhead
      simpa using hhead
    rw [hrest, hc] at hsplit
    simp only [Bool.and_eq_true, decide_eq_true_eq, List.all_eq_true]
    constructor
    · rintro ⟨⟨⟨hsize, hlength⟩, hatoms⟩, hlabels⟩
      refine ⟨_, domain, ⟨hsplit.symm, fun p hp => ?_, fun p hp => ?_⟩, hsize, hlength⟩
      · rw [mem_atom, Bool.and_eq_true, List.all_eq_true]
        exact hatoms p hp
      · exact mem_label.mpr (hlabels p hp)
    · rintro ⟨front, domain', h, hsize, hlength⟩
      obtain ⟨rfl, rfl⟩ := Text.append_sep_inj h.at_not_mem
        (fun hmem => hfront '@' hmem rfl) (h.split.symm.trans hsplit.symm)
      refine ⟨⟨⟨hsize, hlength⟩, fun p hp => ?_⟩, fun p hp => mem_label.mp (h.domain_labels p hp)⟩
      have hpart := mem_atom.mp (h.front_atoms p hp)
      rwa [Bool.and_eq_true, List.all_eq_true] at hpart

/-- Every character of a mailbox is printable. -/
theorem isAtom_printable {c : Char} (h : isAtom c = true ∨ c = '.' ∨ c = '@') :
    0x21 ≤ c.toNat ∧ c.toNat ≤ 0x7e := by
  rcases h with h | rfl | rfl
  · have hmem := mem_atom_iff.mpr h
    simp [CharSet.mem, atomSet] at hmem
    omega
  · decide
  · decide

/-- What stands in front of the first at sign is not long. -/
theorem found_front : (seq start (seq (times (Regex.set ⟨true, [(64, 64)]⟩) 1 (some 64))
      (Regex.set (CharSet.single 64)))).Found w
    ↔ ∃ front rest, w = front ++ '@' :: rest ∧ '@' ∉ front ∧ 1 ≤ front.length
      ∧ front.length ≤ 64 := by
  have hset : ∀ c : Char, (CharSet.mk true [(64, 64)]).mem c = true ↔ c ≠ '@' := by
    intro c
    rw [Ne, ← Char.toNat_inj]
    simp [CharSet.mem]
  rw [found_start_plain rfl]
  constructor
  · rintro ⟨u, rest, rfl, hu⟩
    obtain ⟨front, hfront, x, ⟨c, rfl, hc⟩, rfl⟩ := Language.mem_mul.mp hu
    obtain rfl : c = '@' := (CharSet.mem_single (d := '@')).mp hc
    obtain ⟨⟨hmin, hmax⟩, hall⟩ := mem_language_times_set.mp hfront
    exact ⟨front, rest, by simp, fun hmem => (hset '@').mp (hall '@' hmem) rfl, hmin, hmax 64 rfl⟩
  · rintro ⟨front, rest, rfl, hat, hmin, hmax⟩
    refine ⟨front ++ ['@'], rest, by simp, Language.append_mem_mul ?_ ?_⟩
    · refine mem_language_times_set.mpr ⟨⟨hmin, ?_⟩, fun c hc => (hset c).mpr ?_⟩
      · rintro m hm
        rw [← Option.some.inj hm]
        exact hmax
      · rintro rfl
        exact hat hc
    · exact ⟨'@', rfl, (CharSet.mem_single (d := '@')).mpr rfl⟩

/-- **The schema of a mailbox admits the mailboxes.** -/
theorem admits_jsonSchema (s : String) : jsonSchema.Admits (.str s) ↔ isMailbox s = true := by
  have hprintable : ∀ c : Char, (CharSet.mk true [(0x21, 0x7e)]).mem c = true
      ↔ ¬ (0x21 ≤ c.toNat ∧ c.toNat ≤ 0x7e) := by
    intro c
    simp [CharSet.mem]
    omega
  rw [isMailbox_iff]
  unfold jsonSchema
  simp only [JsonSchema.admits_object, JsonSchema.admits_allOf, JsonSchema.AdmitsAll,
    JsonSchema.admits_type_str, JsonSchema.admits_minLength_str, JsonSchema.admits_maxLength_str,
    JsonSchema.admits_not, JsonSchema.admits_pattern_set parse_printable,
    JsonSchema.admits_pattern_str parse_pattern, JsonSchema.admits_pattern_str parse_front,
    found_mailbox, found_front, hprintable, and_true, List.mem_singleton, true_and]
  constructor
  · rintro ⟨-, hmax, -, ⟨front, domain, h⟩, front', rest, hsplit, hat, -, hlength⟩
    obtain ⟨rfl, -⟩ := Text.append_sep_inj h.at_not_mem hat (h.split.symm.trans hsplit)
    have hascii : ∀ c ∈ s.toList, c.toNat < 128 := fun c hc =>
      Nat.lt_of_le_of_lt (isAtom_printable (h.isAtom_or hc)).2 (by decide)
    refine ⟨front, domain, h, ?_, hlength⟩
    rw [Text.utf8ByteSize_of_ascii hascii, String.length_toList]
    exact hmax
  · rintro ⟨front, domain, h, hsize, hlength⟩
    obtain ⟨hfront, hdomain⟩ := h.ne_nil
    have hfront' := List.length_pos_of_ne_nil hfront
    have hdomain' := List.length_pos_of_ne_nil hdomain
    refine ⟨?_, ?_, ?_, ⟨front, domain, h⟩, front, domain, h.split, h.at_not_mem, hfront', hlength⟩
    · rw [← String.length_toList, h.split, List.length_append, List.length_cons]
      omega
    · rw [← String.length_toList]
      exact (Text.length_le_utf8ByteSize s).trans hsize
    · rintro ⟨c, hc, hout⟩
      exact hout (isAtom_printable (h.isAtom_or hc))

end StornoRecipient

/-! ## Document numbers -/

section Numbers

variable {c : Char}

/-- White space, by code points. -/
theorem isWhitespace_iff : Text.isWhitespace c = true ↔ (9 ≤ c.toNat ∧ c.toNat ≤ 13)
    ∨ c.toNat = 0x20 ∨ c.toNat = 0x85 ∨ c.toNat = 0xA0 ∨ c.toNat = 0x1680
    ∨ (0x2000 ≤ c.toNat ∧ c.toNat ≤ 0x200A) ∨ c.toNat = 0x2028 ∨ c.toNat = 0x2029
    ∨ c.toNat = 0x202F ∨ c.toNat = 0x205F ∨ c.toNat = 0x3000 := by
  simp [Text.isWhitespace, or_assoc]

/-- A character is a code point, and no surrogate. -/
theorem toNat_valid (c : Char) : c.toNat < 0xD800 ∨ 0xDFFF < c.toNat ∧ c.toNat < 0x110000 := c.valid

/-- The characters of XML 1.0, by code points. -/
theorem isXml10Character_iff : isXml10Character c = true ↔ c.toNat = 9 ∨ c.toNat = 10
    ∨ c.toNat = 13 ∨ 0x20 ≤ c.toNat ∧ c.toNat ≠ 0xFFFE ∧ c.toNat ≠ 0xFFFF := by
  have hvalid := toNat_valid c
  simp [isXml10Character, or_assoc]
  omega

namespace ProviderDocumentNumber

theorem parse_pattern : Regex.parse pattern = some (.set ⟨true, [(9, 13), (0x20, 0x20), (0x85, 0x85),
    (0xA0, 0xA0), (0x1680, 0x1680), (0x2000, 0x200A), (0x2028, 0x2028), (0x2029, 0x2029),
    (0x202F, 0x202F), (0x205F, 0x205F), (0x3000, 0x3000)]⟩) := by decide +kernel

/-- The pattern of the characters that XML does not have. -/
theorem parse_forbidden :
    Regex.parse "[\\u0000-\\u0008\\u000B\\u000C\\u000E-\\u001F\\uFFFE\\uFFFF]"
      = some (.set ⟨false, [(0, 8), (11, 11), (12, 12), (14, 31), (0xFFFE, 0xFFFE),
        (0xFFFF, 0xFFFF)]⟩) := by decide +kernel

/-- **The schema of a provider's number admits what is one.** -/
theorem admits_jsonSchema (s : String) :
    jsonSchema.Admits (.str s) ↔ (parse s).isSome = true := by
  have hnonblank : ∀ c : Char, (CharSet.mk true [(9, 13), (0x20, 0x20), (0x85, 0x85), (0xA0, 0xA0),
      (0x1680, 0x1680), (0x2000, 0x200A), (0x2028, 0x2028), (0x2029, 0x2029), (0x202F, 0x202F),
      (0x205F, 0x205F), (0x3000, 0x3000)]).mem c = true ↔ ¬ Text.isWhitespace c = true := by
    intro c
    rw [isWhitespace_iff]
    simp [CharSet.mem]
    omega
  have hforbidden : ∀ c : Char, (CharSet.mk false [(0, 8), (11, 11), (12, 12), (14, 31),
      (0xFFFE, 0xFFFE), (0xFFFF, 0xFFFF)]).mem c = true ↔ ¬ isXml10Character c = true := by
    intro c
    rw [isXml10Character_iff]
    simp [CharSet.mem]
    omega
  rw [isSome_parse, validateXmlText_eq_ok, ← Bool.not_eq_true, Text.isBlank_iff]
  unfold jsonSchema
  simp only [JsonSchema.admits_object, JsonSchema.AdmitsAll, JsonSchema.admits_type_str,
    JsonSchema.admits_minLength_str, JsonSchema.admits_not,
    JsonSchema.admits_pattern_set parse_pattern, JsonSchema.admits_pattern_set parse_forbidden,
    hnonblank, hforbidden, and_true, List.mem_singleton, true_and, not_exists, not_and, not_not,
    not_forall]
  constructor
  · rintro ⟨-, ⟨c, hc, hnot⟩, hxml⟩
    exact ⟨⟨c, hc, hnot⟩, hxml⟩
  · rintro ⟨⟨c, hc, hnot⟩, hxml⟩
    refine ⟨?_, ⟨c, hc, hnot⟩, hxml⟩
    rw [← String.length_toList]
    exact List.length_pos_of_mem hc

end ProviderDocumentNumber

namespace InvoiceNumber

theorem parse_pattern : Regex.parse pattern = some (.set ⟨false, [(0, 0x20), (0x7F, 0xA0),
    (0x1680, 0x1680), (0x2000, 0x200A), (0x2028, 0x2028), (0x2029, 0x2029), (0x202F, 0x202F),
    (0x205F, 0x205F), (0x3000, 0x3000), (0xFFFE, 0xFFFE), (0xFFFF, 0xFFFF), (58, 58)]⟩) := by
  decide +kernel

/-- A number is parsed when it is valid. -/
theorem exists_parse_iff (s : String) : (∃ n, parse s = .ok n) ↔ validate s = .ok () := by
  unfold parse
  split
  · rename_i hvalid
    exact iff_of_true ⟨_, rfl⟩ hvalid
  · rename_i error hinvalid
    exact iff_of_false (by simp) (by rw [hinvalid]; simp)

/-- **The schema of an invoice number leaves its bytes to the decoder.** -/
theorem exists_parse_iff_admits (s : String) :
    (∃ n, parse s = .ok n) ↔ jsonSchema.Admits (.str s) ∧ s.utf8ByteSize ≤ 40 := by
  have hset : ∀ c : Char, (CharSet.mk false [(0, 0x20), (0x7F, 0xA0), (0x1680, 0x1680),
      (0x2000, 0x200A), (0x2028, 0x2028), (0x2029, 0x2029), (0x202F, 0x202F), (0x205F, 0x205F),
      (0x3000, 0x3000), (0xFFFE, 0xFFFE), (0xFFFF, 0xFFFF), (58, 58)]).mem c = true
      ↔ Text.isControl c = true ∨ Text.isWhitespace c = true ∨ c = ExternalId.separator
        ∨ ¬ isXml10Character c = true := by
    intro c
    have hseparator : c = ExternalId.separator ↔ c.toNat = 58 := Char.toNat_inj.symm
    rw [isWhitespace_iff, isXml10Character_iff, hseparator]
    simp [CharSet.mem, Text.isControl]
    omega
  rw [exists_parse_iff, validate_eq_ok, validateXmlText_eq_ok]
  unfold jsonSchema
  simp only [JsonSchema.admits_object, JsonSchema.AdmitsAll, JsonSchema.admits_type_str,
    JsonSchema.admits_minLength_str, JsonSchema.admits_maxLength_str, JsonSchema.admits_not,
    JsonSchema.admits_pattern_set parse_pattern, hset, and_true, List.mem_singleton, true_and]
  have hnonempty : s.isEmpty = false ↔ 1 ≤ s.length := by
    rw [← Bool.not_eq_true, String.isEmpty_iff, ← String.length_eq_zero_iff]
    omega
  have hlength := Text.length_le_utf8ByteSize s
  rw [String.length_toList] at hlength
  constructor
  · rintro ⟨hne, hsize, hcontrol, hspace, hseparator, hxml⟩
    refine ⟨⟨hnonempty.mp hne, hlength.trans hsize, ?_⟩, hsize⟩
    rintro ⟨c, hc, hbad | hbad | rfl | hbad⟩
    · exact absurd (hcontrol c hc) (by rw [hbad]; decide)
    · exact absurd (hspace c hc) (by rw [hbad]; decide)
    · exact hseparator hc
    · exact hbad (hxml c hc)
  · rintro ⟨⟨hmin, -, hnone⟩, hsize⟩
    refine ⟨hnonempty.mpr hmin, hsize, fun c hc => ?_, fun c hc => ?_, fun hc => ?_, fun c hc => ?_⟩
    · exact Bool.eq_false_iff.mpr (fun h => hnone ⟨c, hc, Or.inl h⟩)
    · exact Bool.eq_false_iff.mpr (fun h => hnone ⟨c, hc, Or.inr (Or.inl h)⟩)
    · exact hnone ⟨_, hc, Or.inr (Or.inr (Or.inl rfl))⟩
    · by_contra h
      exact hnone ⟨c, hc, Or.inr (Or.inr (Or.inr h))⟩

end InvoiceNumber

end Numbers

/-! ## Decimals -/

namespace ExactDecimal

open Regex Number

/-- A digit, as the pattern has it. -/
def digit : Regex := .set ⟨false, [(48, 57)]⟩

/-- A sign, if there is one. -/
def sign : Regex := times (.set ⟨false, [(43, 43), (45, 45)]⟩) 0 (some 1)

/-- The decimal point. -/
def point : Regex := .set (CharSet.single 46)

/-- Digits with a point among them. -/
def mantissa : Regex :=
  alt (seq (times digit 1 none) (times (seq point (times digit 0 none)) 0 (some 1)))
    (seq point (times digit 1 none))

/-- The exponent, if there is one. -/
def exponent : Regex :=
  times (seq (.set ⟨false, [(101, 101), (69, 69)]⟩) (seq sign (times digit 1 none))) 0 (some 1)

theorem parse_pattern :
    Regex.parse "^[+-]?(?:[0-9]+(?:\\.[0-9]*)?|\\.[0-9]+)(?:[eE][+-]?[0-9]+)?$"
      = some (seq start (seq sign (seq mantissa (seq exponent stop)))) := by decide +kernel

/-- The pattern of line ends. -/
theorem parse_lineEnd : Regex.parse "[\\r\\n\\u2028\\u2029]"
    = some (.set ⟨false, [(13, 13), (10, 10), (0x2028, 0x2028), (0x2029, 0x2029)]⟩) := by
  decide +kernel

variable {w : List Char} {c : Char}

/-- The class of the pattern is that of the decoder. -/
theorem mem_digit : (CharSet.mk false [(48, 57)]).mem c = true ↔ c.isDigit = true := by
  rw [isDigit_iff]
  simp [CharSet.mem]

/-- Digits, at least so many. -/
theorem mem_digits {min : ℕ} : w ∈ (times digit min none).language
    ↔ min ≤ w.length ∧ ∀ c ∈ w, c.isDigit = true := by
  unfold digit
  simp only [mem_language_times_set, mem_digit]
  simp

/-- What the pattern of the sign matches. -/
theorem mem_sign : w ∈ sign.language ↔ ∃ s : Sign, w = s.text := by
  have hset : ∀ c : Char, (CharSet.mk false [(43, 43), (45, 45)]).mem c = true
      ↔ c = '+' ∨ c = '-' := by
    intro c
    rw [← Char.toNat_inj, ← Char.toNat_inj (d := '-')]
    simp [CharSet.mem]
    omega
  unfold sign
  rw [mem_language_optional, mem_language_set]
  simp only [hset]
  constructor
  · rintro (rfl | ⟨c, rfl, rfl | rfl⟩)
    · exact ⟨.none, rfl⟩
    · exact ⟨.plus, rfl⟩
    · exact ⟨.minus, rfl⟩
  · rintro ⟨s, rfl⟩
    cases s with
    | none => exact Or.inl rfl
    | plus => exact Or.inr ⟨'+', rfl, Or.inl rfl⟩
    | minus => exact Or.inr ⟨'-', rfl, Or.inr rfl⟩

/-- A point with digits behind it. -/
theorem mem_pointed {min : ℕ} : w ∈ (seq point (times digit min none)).language
    ↔ ∃ cs, w = '.' :: cs ∧ min ≤ cs.length ∧ ∀ c ∈ cs, c.isDigit = true := by
  show w ∈ point.language * (times digit min none).language ↔ _
  rw [Language.mem_mul]
  constructor
  · rintro ⟨u, ⟨c, rfl, hc⟩, cs, hcs, rfl⟩
    obtain rfl : c = '.' := (CharSet.mem_single (d := '.')).mp hc
    exact ⟨cs, rfl, mem_digits.mp hcs⟩
  · rintro ⟨cs, rfl, hcs⟩
    exact ⟨['.'], ⟨'.', rfl, (CharSet.mem_single (d := '.')).mpr rfl⟩, cs, mem_digits.mpr hcs, rfl⟩

/-- **Digits on one side of the point**, with or without it. -/
theorem mem_mantissa : w ∈ mantissa.language
    ↔ ∃ (whole : List Char) (fraction : Option (List Char)),
      w = whole ++ fraction.elim [] (fun cs => '.' :: cs) ∧ (∀ c ∈ whole, c.isDigit = true)
        ∧ (∀ c ∈ fraction.getD [], c.isDigit = true) ∧ whole ++ fraction.getD [] ≠ [] := by
  show w ∈ (times digit 1 none).language * (times (seq point (times digit 0 none)) 0
      (some 1)).language + (seq point (times digit 1 none)).language ↔ _
  rw [Language.mem_add, Language.mem_mul]
  simp only [mem_language_optional, mem_pointed, mem_digits]
  constructor
  · rintro (⟨whole, ⟨hlength, hwhole⟩, x, rfl | ⟨cs, rfl, -, hcs⟩, rfl⟩ | ⟨cs, rfl, hlength, hcs⟩)
    · exact ⟨whole, none, rfl, hwhole, by simp, by simpa using List.ne_nil_of_length_pos hlength⟩
    · refine ⟨whole, some cs, rfl, hwhole, hcs, ?_⟩
      exact List.append_ne_nil_of_left_ne_nil (List.ne_nil_of_length_pos hlength) _
    · exact ⟨[], some cs, rfl, by simp, hcs, by simpa using List.ne_nil_of_length_pos hlength⟩
  · rintro ⟨whole, fraction, rfl, hwhole, hfraction, hne⟩
    by_cases hnil : whole = []
    · -- Nothing before the point: there is one, and digits behind it.
      subst hnil
      cases fraction with
      | none => exact absurd rfl hne
      | some cs => exact Or.inr ⟨cs, rfl, List.length_pos_of_ne_nil hne, hfraction⟩
    · refine Or.inl ⟨whole, ⟨List.length_pos_of_ne_nil hnil, hwhole⟩, _, ?_, rfl⟩
      cases fraction with
      | none => exact Or.inl rfl
      | some cs => exact Or.inr ⟨cs, rfl, Nat.zero_le _, hfraction⟩

/-- What the pattern of the exponent matches. -/
theorem mem_exponent : w ∈ exponent.language
    ↔ ∃ e : Option Exponent, w = e.elim [] Exponent.text := by
  have hset : ∀ c : Char, (CharSet.mk false [(101, 101), (69, 69)]).mem c = true
      ↔ c = 'e' ∨ c = 'E' := by
    intro c
    rw [← Char.toNat_inj, ← Char.toNat_inj (d := 'E')]
    simp [CharSet.mem]
    omega
  unfold exponent
  rw [mem_language_optional]
  constructor
  · rintro (rfl | hw)
    · exact ⟨none, rfl⟩
    · obtain ⟨u, ⟨mark, rfl, hmark⟩, rest, hrest, rfl⟩ := Language.mem_mul.mp hw
      obtain ⟨x, hx, digits, hdigits, rfl⟩ := Language.mem_mul.mp hrest
      obtain ⟨s, rfl⟩ := mem_sign.mp hx
      obtain ⟨hlength, hall⟩ := mem_digits.mp hdigits
      exact ⟨some ⟨mark, s, digits, (hset mark).mp hmark, List.ne_nil_of_length_pos hlength, hall⟩,
        rfl⟩
  · rintro ⟨e, rfl⟩
    cases e with
    | none => exact Or.inl rfl
    | some e =>
      refine Or.inr (Language.append_mem_mul (a := [e.mark]) ⟨e.mark, rfl, (hset _).mpr e.mark_eq⟩ ?_)
      exact Language.append_mem_mul (mem_sign.mpr ⟨e.sign, rfl⟩)
        (mem_digits.mpr ⟨List.length_pos_of_ne_nil e.digits_ne, e.isDigit⟩)

/-- **The pattern of a decimal is the grammar of a numeral.** -/
theorem found_iff : (seq start (seq sign (seq mantissa (seq exponent stop)))).Found w
    ↔ ∃ n : Numeral, n.text = w := by
  have hends := ends_seq (r := sign) rfl (ends_seq (r := mantissa) rfl
    (ends_seq (r := exponent) rfl ends_stop))
  rw [found_start hends, mul_one]
  constructor
  · intro hw
    obtain ⟨x, hx, rest, hrest, rfl⟩ := Language.mem_mul.mp hw
    obtain ⟨y, hy, z, hz, rfl⟩ := Language.mem_mul.mp hrest
    obtain ⟨s, rfl⟩ := mem_sign.mp hx
    obtain ⟨whole, fraction, rfl, hwhole, hfraction, hne⟩ := mem_mantissa.mp hy
    obtain ⟨e, rfl⟩ := mem_exponent.mp hz
    exact ⟨⟨s, whole, fraction, e, hwhole, hfraction, hne⟩, rfl⟩
  · rintro ⟨n, rfl⟩
    refine Language.append_mem_mul (mem_sign.mpr ⟨n.sign, rfl⟩) (Language.append_mem_mul ?_ ?_)
    · exact mem_mantissa.mpr ⟨n.whole, n.fraction, rfl, n.isDigit_whole, n.isDigit_fraction,
        n.some_digit⟩
    · exact mem_exponent.mpr ⟨n.exponent, rfl⟩

/-- The characters of a numeral. -/
theorem mem_text (n : Numeral) {c : Char} (h : c ∈ n.text) :
    c.isDigit = true ∨ c ∈ ['+', '-', '.', 'e', 'E'] := by
  have hsign : ∀ s : Sign, c ∈ s.text → c.isDigit = true ∨ c ∈ ['+', '-', '.', 'e', 'E'] := by
    intro s hs
    cases s with
    | none => cases hs
    | plus | minus =>
      rw [List.mem_singleton.mp hs]
      decide
  rcases List.mem_append.mp h with h | h
  · exact hsign n.sign h
  rcases List.mem_append.mp h with h | h
  · rcases n.mem_mantissa h with h | rfl
    · exact Or.inl h
    · decide
  · cases he : n.exponent with
    | none =>
      rw [he] at h
      cases h
    | some e =>
      rw [he] at h
      rcases List.mem_cons.mp h with h | h
      · rw [h]
        obtain hmark | hmark := e.mark_eq <;> rw [hmark] <;> decide
      · rcases List.mem_append.mp h with h | h
        · exact hsign e.sign h
        · exact Or.inl (e.isDigit c h)

/-- **The schema of a decimal admits the numerals.** -/
theorem admits_schema (s : String) :
    schema.Admits (.str s) ↔ ∃ n : Numeral, n.text = s.toList := by
  have hset : ∀ c : Char, (CharSet.mk false [(13, 13), (10, 10), (0x2028, 0x2028),
      (0x2029, 0x2029)]).mem c = true → ¬ (c.isDigit = true ∨ c ∈ ['+', '-', '.', 'e', 'E']) := by
    intro c hc
    rw [isDigit_iff]
    simp [CharSet.mem] at hc
    simp [← Char.toNat_inj]
    omega
  unfold schema
  simp only [JsonSchema.admits_object, JsonSchema.AdmitsAll, JsonSchema.admits_type_str,
    JsonSchema.admits_not, JsonSchema.admits_pattern_str parse_pattern,
    JsonSchema.admits_pattern_set parse_lineEnd, found_iff, and_true, true_and, List.mem_cons,
    true_or]
  refine and_iff_left_of_imp ?_
  rintro ⟨n, hn⟩ ⟨c, hc, hend⟩
  rw [← hn] at hc
  exact hset c hend (mem_text n hc)

section Decode

variable [RustDecimal] [LawfulRustDecimal]

/-- **A string is decoded exactly**, if it is a numeral and some decimal is its number. -/
theorem visitStr_iff (s : String) (hsize : s.utf8ByteSize < 2 ^ 62) :
    ((∃ d, visitStr s = .ok d) ↔ ∃ n : Numeral, n.text = s.toList ∧ Decimal.Representable n.value)
      ∧ ∀ d (n : Numeral), visitStr s = .ok d → n.text = s.toList → d.value = n.value := by
  obtain ⟨hsome, hexact, hparse, hnone, -⟩ := numeric_exact s hsize
  unfold visitStr
  cases hnumeric : numeric s with
  | none =>
    obtain ⟨e, he⟩ := hnone hnumeric
    have hnumeral : ¬ ∃ n : Numeral, n.text = s.toList := by
      rw [← hsome, hnumeric]
      decide
    rw [he]
    refine ⟨iff_of_false ?_ ?_, ?_⟩
    · rintro ⟨d, hd⟩
      cases hd
    · rintro ⟨n, hn, -⟩
      exact hnumeral ⟨n, hn⟩
    · intro d n hd
      cases hd
  | some r =>
    rw [hparse r hnumeric]
    simp only [Except.mapError_eq_ok]
    refine ⟨?_, fun d n hd hn => (hexact n r hn hnumeric).2 d hd⟩
    obtain ⟨n, hn⟩ := hsome.mp (by rw [hnumeric]; rfl)
    constructor
    · exact fun hd => ⟨n, hn, (hexact n r hn hnumeric).1.mp hd⟩
    · rintro ⟨m, hm, hrep⟩
      exact (hexact m r hm hnumeric).1.mpr hrep

end Decode

end ExactDecimal

/-! ## The agreement -/

section Agreement

variable [RustDecimal] [LawfulRustDecimal]

/-- **The published schemas agree with the decoders**, for every text: the recipient of a
storno, a provider's number and a decimal have the grammar of their schema; an invoice number
has it and at most 40 bytes; and a text that fits the memory is decoded exactly if the schema
of a decimal admits it and some decimal is its number. -/
theorem schemas_agree (s : String) :
    (StornoRecipient.jsonSchema.Admits (.str s) ↔ (StornoRecipient.parse s).isSome = true)
      ∧ (ProviderDocumentNumber.jsonSchema.Admits (.str s)
        ↔ (ProviderDocumentNumber.parse s).isSome = true)
      ∧ ((∃ n, InvoiceNumber.parse s = .ok n)
        ↔ InvoiceNumber.jsonSchema.Admits (.str s) ∧ s.utf8ByteSize ≤ 40)
      ∧ (ExactDecimal.schema.Admits (.str s) ↔ (Number.numeric s).isSome = true)
      ∧ (s.utf8ByteSize < 2 ^ 62 → ((∃ d, ExactDecimal.visitStr s = .ok d)
        ↔ ExactDecimal.schema.Admits (.str s)
          ∧ ∃ n : Number.Numeral, n.text = s.toList ∧ Decimal.Representable n.value)) := by
  refine ⟨(StornoRecipient.admits_jsonSchema s).trans StornoRecipient.isSome_parse.symm,
    ProviderDocumentNumber.admits_jsonSchema s,
    InvoiceNumber.exists_parse_iff_admits s, ?_, fun hsize => ?_⟩
  · rw [ExactDecimal.admits_schema, Number.isSome_numeric_iff]
  · rw [(ExactDecimal.visitStr_iff s hsize).1, ExactDecimal.admits_schema]
    constructor
    · rintro ⟨n, hn, hrep⟩
      exact ⟨⟨n, hn⟩, n, hn, hrep⟩
    · exact fun h => h.2

omit [RustDecimal] [LawfulRustDecimal] in
/-- A decimal with a sign, zeros at the end and an exponent. -/
theorem schemas_agree_minus_fifteen : ExactDecimal.schema.Admits (.str "-1.50e1")
    ∧ ∃ d, @ExactDecimal.visitStr RustDecimal.exact "-1.50e1" = .ok d := by
  let n : Number.Numeral := ⟨.minus, ['1'], some ['5', '0'],
    some ⟨'e', .none, ['1'], Or.inl rfl, by decide, List.all_eq_true.mp rfl⟩,
    List.all_eq_true.mp rfl, List.all_eq_true.mp rfl, by decide⟩
  have htext : n.text = "-1.50e1".toList := by decide
  have hvalue : n.value = -15 := by
    show FixedPoint.scaled 10 (-1 * (150 : ℕ)) ((2 : ℕ) - 1 * (1 : ℕ)) = -15
    norm_num [FixedPoint.scaled]
  have hrep : Decimal.Representable n.value := by
    rw [hvalue]
    refine ⟨-15, 0, ⟨by decide, by decide⟩, ?_⟩
    rw [FixedPoint.number_zero_scale]
    norm_num
  obtain ⟨-, -, -, hnumeric, hdecode⟩ :=
    @schemas_agree RustDecimal.exact RustDecimal.lawful_exact "-1.50e1"
  have hadmits := hnumeric.mpr ((@Number.isSome_numeric_iff RustDecimal.exact _).mpr ⟨n, htext⟩)
  exact ⟨hadmits, (hdecode (by decide)).mpr ⟨hadmits, n, htext, hrep⟩⟩

end Agreement

end Szamlazz
