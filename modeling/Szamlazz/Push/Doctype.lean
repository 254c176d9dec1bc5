import Szamlazz.Push.Dtd

/-!
# The recogniser reads the grammar
-/

open scoped Computability

namespace Szamlazz.Adatkapcsolat

/-- The documented behaviour of `consume_name`: the longest name at the front of a text. -/
class LawfulXmlStream [XmlStream] : Prop where
  consumeName_eq_some : ∀ {text name rest : List Char},
    XmlStream.consumeName text = some (name, rest) ↔
      text = name ++ rest ∧ Xml.isName name = true ∧ Scan.Stops Xml.isNameChar rest

namespace Dtd

open Scan (Sound Complete Reads Before Stops NotNext Anything word letter letters onlyIf take need
  require refuse skip)
open Xml.Doctype

/-! ## Characters -/

/-- A character is compared by its number. -/
theorem beq_eq_decide (c d : Char) : (c == d) = decide (c.toNat = d.toNat) := by
  rw [Bool.eq_iff_iff, beq_iff_eq, decide_eq_true_eq, Char.toNat_inj]

/-- The characters the code accepts are those of production [2]. -/
theorem isXmlCharacter_eq : isXmlCharacter = Xml.isChar := by
  funext c
  rw [Bool.eq_iff_iff]
  simp only [isXmlCharacter, Xml.isChar, Xml.within, beq_eq_decide, List.any_cons, List.any_nil,
    Bool.or_eq_true, Bool.and_eq_true, decide_eq_true_eq, Bool.or_false, Char.reduceToNat]
  omega

/-- A name without a colon starts as a name does, but not with the colon. -/
theorem xmlNcnameStart_iff {c : Char} :
    xmlNcnameStart c = true ↔ Xml.isNameStartChar c = true ∧ c ≠ ':' := by
  rw [← Char.toNat_inj.ne]
  simp only [xmlNcnameStart, Xml.isNameStartChar, Xml.within, beq_eq_decide, List.any_cons,
    List.any_nil, Bool.or_eq_true, Bool.and_eq_true, decide_eq_true_eq, Bool.or_false,
    Char.reduceToNat]
  omega

/-- `xmlparser` and the grammar agree on what may stand in a name. -/
theorem nameChar_eq : nameChar = Xml.isNameChar := by
  funext c
  rw [Bool.eq_iff_iff]
  simp only [nameChar, Xml.isNameChar, xmlNcnameStart, Xml.isNameStartChar, Xml.within,
    beq_eq_decide, List.any_cons, List.any_nil, Bool.or_eq_true, Bool.and_eq_true,
    decide_eq_true_eq, Bool.or_false, Char.reduceToNat]
  omega

/-- The code's list of characters of a public identifier is that of production [13]. -/
theorem isPubidCharacter_eq : isPubidCharacter = isPubidChar := by
  funext c
  rw [Bool.eq_iff_iff]
  simp [isPubidCharacter, isPubidChar]
  grind

/-- `is_ncname` decides the unqualified names. -/
theorem isNcname_iff {w : List Char} : isNcname w = true ↔ w ∈ ncName := by
  cases w with
  | nil => exact iff_of_false Bool.false_ne_true (fun h => Bool.false_ne_true h.1)
  | cons c cs =>
    show (xmlNcnameStart c && cs.all (fun c => c != ':' && nameChar c)) = true
      ↔ (Xml.isNameStartChar c && cs.all Xml.isNameChar) = true ∧ ':' ∉ c :: cs
    rw [nameChar_eq, Bool.and_eq_true, Bool.and_eq_true, xmlNcnameStart_iff, List.all_eq_true,
      List.all_eq_true, List.mem_cons]
    grind

theorem isName_of_mem_ncName {w : List Char} (h : w ∈ ncName) : Xml.isName w = true := h.1

/-- A qualified name is one `Name` of XML, so `consume_name` takes it whole. -/
theorem isName_of_mem_qName {w : List Char} (h : w ∈ qName) : Xml.isName w = true := by
  rcases h with h | h
  · exact h.1
  · obtain ⟨p, hp, v, hv, rfl⟩ := Language.mem_mul.mp h
    obtain ⟨_, rfl, l, hl, rfl⟩ := Language.mem_mul.mp hv
    cases p with
    | nil => exact absurd hp.1 Bool.false_ne_true
    | cons c cs =>
      have hstart := hp.1
      rw [Xml.isName, Bool.and_eq_true, List.all_eq_true] at hstart
      show (Xml.isNameStartChar c && (cs ++ ([':'] ++ l)).all Xml.isNameChar) = true
      rw [Bool.and_eq_true, List.all_eq_true]
      refine ⟨hstart.1, fun d hd => ?_⟩
      rcases List.mem_append.mp hd with hd | hd
      · exact hstart.2 d hd
      · rcases List.mem_cons.mp hd with rfl | hd
        · decide
        · exact Xml.isNameChar_of_mem hl.1 d hd

/-- The split at the first colon decides the qualified names. -/
theorem isQname_iff {w : List Char} : isQname w = true ↔ w ∈ qName := by
  have hsplit := List.takeWhile_append_dropWhile (p := fun c => c != ':') (l := w)
  have hprefix : ':' ∉ w.takeWhile (fun c => c != ':') :=
    fun h => absurd (List.mem_takeWhile_imp h) (by decide)
  unfold isQname
  split
  · next hdrop =>
    rw [hdrop, List.append_nil] at hsplit
    rw [hsplit] at hprefix
    rw [isNcname_iff]
    refine ⟨Or.inl, ?_⟩
    rintro (h | h)
    · exact h
    · obtain ⟨p, hp, v, hv, rfl⟩ := Language.mem_mul.mp h
      obtain ⟨_, rfl, l, hl, rfl⟩ := Language.mem_mul.mp hv
      exact absurd (by simp) hprefix
  · next c localName hdrop =>
    have hc : c = ':' := by
      have hhead := List.head?_dropWhile_not (fun c => c != ':') w
      rw [hdrop] at hhead
      simpa using hhead
    rw [Bool.and_eq_true, isNcname_iff, isNcname_iff]
    constructor
    · rintro ⟨hp, hl⟩
      rw [← hsplit, hdrop, hc]
      exact Or.inr (Language.append_mem_mul hp (Language.append_mem_mul (a := [':']) rfl hl))
    · rintro (h | h)
      · exact absurd (hsplit ▸ hdrop ▸ hc ▸ by simp) h.2
      · obtain ⟨p, hp, v, hv, heq⟩ := Language.mem_mul.mp h
        obtain ⟨_, rfl, l, hl, rfl⟩ := Language.mem_mul.mp hv
        have hno : ∀ d ∈ p, (d != ':') = true := fun d hd => by
          rw [bne_iff_ne]
          rintro rfl
          exact hp.2 hd
        obtain ⟨htake, hrest⟩ := Scan.takeWhile_append_stops (r := ':' :: l) hno
          (Scan.stops_cons.mpr (bne_self_eq_false ':'))
        rw [← heq] at hdrop ⊢
        rw [List.singleton_append] at hdrop ⊢
        rw [hrest] at hdrop
        cases hdrop
        exact ⟨htake.symm ▸ hp, hl⟩

/-! ## Pieces -/

section Pieces

variable {F : List Char → Prop}

/-- `need` takes the one word it names. -/
theorem reads_token (text : String) : Reads (token text) (word text.toList) F :=
  Scan.reads_need text.toList _

/-- `space` reports white space exactly where there was some. -/
theorem sound_space : Sound space (fun found => if found = true then S else 1) := by
  refine (Scan.sound_takeWhile Xml.isSpace).bind (fun blanks => Scan.sound_pure _) ?_
  rintro blanks found
  refine Scan.mul_onlyIf_le ?_
  rintro rfl w ⟨rfl, hw⟩
  cases w with
  | nil => exact rfl
  | cons c cs => exact mem_S.mpr ⟨List.cons_ne_nil c cs, hw⟩

/-- White space is skipped whole, if something else stands behind it. -/
theorem complete_space {w : List Char} (hw : w ∈ blank) :
    Complete space (!w.isEmpty) (word w) (Stops Xml.isSpace) := by
  rw [blank_eq] at hw
  have h := (Scan.complete_takeWhile (ε := ParseError) hw).bind (Scan.complete_pure (!w.isEmpty))
    (Scan.before_one (fun r hr => hr)) (f := fun blanks => pure (!blanks.isEmpty))
  rwa [mul_one] at h

theorem complete_space_S : Complete space true S (Stops Xml.isSpace) := by
  refine Complete.of_words (fun w hw => ?_)
  have hne : (!w.isEmpty) = true := by simp [(mem_S.mp hw).1]
  exact hne ▸ complete_space (S_le_blank hw)

theorem complete_space_one : Complete space false 1 (Stops Xml.isSpace) :=
  complete_space (w := []) (Or.inr rfl)

/-- Optional white space. -/
theorem reads_skip_space : Reads (skip space) blank (Stops Xml.isSpace) where
  sound := by
    refine (sound_space.mono (fun found => ?_)).skip
    split
    · exact S_le_blank
    · exact one_le_blank
  complete := complete_space_S.skip.add complete_space_one.skip

/-- White space that has to be there. -/
theorem reads_separator : Reads separator S (Stops Xml.isSpace) where
  sound := by
    refine sound_space.bind (fun found => Scan.sound_require found _) (fun found _ => ?_)
    refine Scan.mul_onlyIf_le (fun hfound => ?_)
    rw [if_pos hfound]
  complete := by
    have h := complete_space_S.bind (Scan.complete_require rfl (invalid "missing DTD whitespace"))
      (Scan.before_one (fun r hr => hr)) (f := fun found => require found _)
    rwa [mul_one] at h

/-- A look at the next character takes nothing. -/
theorem complete_atQuote (seen : Bool) :
    Complete atQuote seen 1 (fun r => r.head?.any (fun c => c == '\'' || c == '"') = seen) :=
  Scan.complete_peek _ seen

/-! ## Literals -/

/-- The two quotes a literal may stand in. -/
def IsQuote (q : Char) : Prop := q = '\'' ∨ q = '"'

/-- A word in quotes, by its quote and its text. -/
theorem mem_quoted {L : Char → Scan.Words} {w : List Char} :
    w ∈ quoted L ↔ ∃ q v, IsQuote q ∧ v ∈ L q ∧ w = q :: (v ++ [q]) := by
  constructor
  · rintro (h | h)
    all_goals
      obtain ⟨_, rfl, t, ht, rfl⟩ := Language.mem_mul.mp h
      obtain ⟨v, hv, _, rfl, rfl⟩ := Language.mem_mul.mp ht
    · exact ⟨'\'', v, Or.inl rfl, hv, rfl⟩
    · exact ⟨'"', v, Or.inr rfl, hv, rfl⟩
  · rintro ⟨q, v, rfl | rfl, hv, rfl⟩
    · exact Or.inl (Language.append_mem_mul (a := ['\'']) rfl (Language.append_mem_mul hv rfl))
    · exact Or.inr (Language.append_mem_mul (a := ['"']) rfl (Language.append_mem_mul hv rfl))

/-- What a literal may be, whatever its text is for. -/
def IsText (q : Char) (v : List Char) : Prop := ∀ c ∈ v, Xml.isChar c = true ∧ c ≠ q

/-- The check on a literal's characters is made after the search for its quote; together
they say what the grammar says of every character. -/
theorem isText_iff {q : Char} {v : List Char} :
    IsText q v ↔ v.all isXmlCharacter = true ∧ Scan.Avoids [q] v := by
  rw [isXmlCharacter_eq, List.all_eq_true, Scan.avoids_singleton]
  grind [IsText]

/-- Up to the next quote of the same kind there is a literal's text. -/
theorem sound_literalAfter (q : Char) :
    Sound (literalAfter q) (fun v => {w | w = v ++ [q] ∧ IsText q v}) :=
  (Scan.sound_past [q] _).checked
    (fun _ hall _ hw => ⟨hw.1, isText_iff.mpr ⟨hall, hw.2⟩⟩)

/-- A literal's text has no quote of its own kind in it, so it is found whole. -/
theorem complete_literalAfter {q : Char} {v : List Char} (h : IsText q v) :
    Complete (literalAfter q) v (word (v ++ [q])) F :=
  (Scan.complete_past (List.cons_ne_nil q []) (isText_iff.mp h).2 _).checked (isText_iff.mp h).1

/-- A literal is taken with both of its quotes. -/
theorem sound_literal :
    Sound literal (fun v => {w | ∃ q, IsQuote q ∧ IsText q v ∧ w = q :: (v ++ [q])}) := by
  refine (sound_literalAfter '\'').ifTake
    ((reads_token "\"" (F := Anything)).sound.bind (fun _ => sound_literalAfter '"')
      (fun _ _ => le_rfl)) ?_ ?_
  · intro v w hw
    obtain ⟨_, rfl, t, ⟨rfl, hv⟩, rfl⟩ := Language.mem_mul.mp hw
    exact ⟨'\'', Or.inl rfl, hv, rfl⟩
  · intro v w hw
    obtain ⟨_, rfl, t, ⟨rfl, hv⟩, rfl⟩ := Language.mem_mul.mp hw
    exact ⟨'"', Or.inr rfl, hv, rfl⟩

theorem complete_literal {q : Char} {v : List Char} (hq : IsQuote q) (h : IsText q v) :
    Complete literal v (word (q :: (v ++ [q]))) F := by
  have hword : word (q :: (v ++ [q])) ≤ word [q] * word (v ++ [q]) := by
    rintro w rfl
    exact Language.append_mem_mul (a := [q]) rfl rfl
  rcases hq with rfl | rfl
  · exact (complete_literalAfter h).taken.of_le hword
  · refine Complete.passed (Complete.of_le ?_ hword) ?_
    · exact (reads_token "\"").complete.bind (complete_literalAfter h) Scan.before_anything
    · exact Scan.notNext_word (by simp) (by simp)

/-- A literal whose text is checked. -/
theorem reads_literal_check {check : List Char → Scan ParseError Unit} {c : List Char → Prop}
    {L : Char → Scan.Words} (hsound : ∀ v, Sound (check v) (fun _ => onlyIf (c v)))
    (hcomplete : ∀ v, c v → Complete (check v) () 1 F)
    (hL : ∀ q v, IsQuote q → (v ∈ L q ↔ IsText q v ∧ c v)) :
    Reads (literal >>= check) (quoted L) F where
  sound := by
    refine sound_literal.bind hsound (fun v _ => Scan.mul_onlyIf_le ?_)
    rintro hv w ⟨q, hq, htext, rfl⟩
    exact mem_quoted.mpr ⟨q, v, hq, (hL q v hq).mpr ⟨htext, hv⟩, rfl⟩
  complete := by
    refine Complete.of_words (fun w hw => ?_)
    obtain ⟨q, v, hq, hv, rfl⟩ := mem_quoted.mp hw
    obtain ⟨htext, hc⟩ := (hL q v hq).mp hv
    have h := (complete_literal hq htext).bind (hcomplete v hc) (Scan.before_one (fun r hr => hr))
    rwa [mul_one] at h

/-- A literal whose text is not used is a system literal. -/
theorem reads_skip_literal : Reads (skip literal) systemLiteral F := by
  refine reads_literal_check (c := fun _ => True) (fun _ => ?_) (fun _ _ => ?_) (fun q v _ => ?_)
  · exact (Scan.sound_pure ()).mono (fun _ => Scan.onlyIf_le (fun _ _ hw => ⟨hw, trivial⟩))
  · exact Scan.complete_pure ()
  · rw [Scan.kstar_letter, Scan.mem_letters]
    simp [IsText]

/-- A public identifier has fewer characters than a literal. -/
theorem reads_publicLiteral : Reads publicLiteral pubidLiteral F := by
  refine reads_literal_check (c := fun v => v.all isPubidCharacter = true)
    (fun v => Scan.sound_require _ _) (fun _ h => Scan.complete_require h _) (fun q v hq => ?_)
  rw [Scan.kstar_letter, Scan.mem_letters, isPubidCharacter_eq, List.all_eq_true]
  constructor
  · intro h
    have hboth : ∀ c ∈ v, isPubidChar c = true ∧ c ≠ q := fun c hc => by simpa using h c hc
    exact ⟨fun c hc => ⟨isChar_of_isPubidChar (hboth c hc).1, (hboth c hc).2⟩,
      fun c hc => (hboth c hc).1⟩
  · rintro ⟨htext, h⟩ c hc
    rw [Bool.and_eq_true, bne_iff_ne]
    exact ⟨h c hc, (htext c hc).2⟩

/-! ## External identifiers -/

/-- What is in quotes begins with one. -/
theorem before_quoted {F G : List Char → Prop} {L : Char → Scan.Words}
    (h : ∀ q r, IsQuote q → F (q :: r)) : Before F (quoted L) G :=
  Before.add (Scan.before_word (fun r => h _ r (Or.inl rfl))).mul_right
    (Scan.before_word (fun r => h _ r (Or.inr rfl))).mul_right

/-- What does not begin with a quote. -/
def NoQuote (r : List Char) : Prop := r.head?.any (fun c => c == '\'' || c == '"') = false

/-- Behind a public identifier there is a system literal, and in a notation there need not
be one. -/
theorem sound_publicSystem (ofNotation : Bool) :
    Sound (publicSystem ofNotation)
      (fun _ => S * systemLiteral + onlyIf (ofNotation = true) * blank) := by
  refine sound_space.bind (M := fun found _ =>
    onlyIf (found = true) * systemLiteral + onlyIf (ofNotation = true)) (fun found => ?_) ?_
  · refine (Scan.sound_peek _).bind (M := fun _ _ =>
      onlyIf (found = true) * systemLiteral + onlyIf (ofNotation = true)) (fun seen => ?_)
      (fun _ _ => (one_mul _).le)
    refine Sound.ite (fun _ => ?_) (fun hnot => ?_)
    · exact (Scan.sound_require found _).bind (fun _ => (reads_skip_literal (F := Anything)).sound)
        (fun _ _ => le_sup_left)
    · have hnotation : ofNotation = true := by
        cases ofNotation
        · exact absurd rfl hnot
        · rfl
      exact (Scan.sound_pure ()).mono (fun _ => le_sup_of_le_right
        (Scan.onlyIf_le (fun _ _ hw => ⟨hw, hnotation⟩)))
  · intro found _
    cases found with
    | false =>
      show (1 : Scan.Words) * _ ≤ _
      rw [one_mul]
      refine sup_le (Scan.onlyIf_mul_le (fun h => absurd h Bool.false_ne_true)) ?_
      refine le_sup_of_le_right (Scan.onlyIf_le (fun h w hw => ?_))
      exact Language.append_mem_mul (a := []) ⟨rfl, h⟩ (one_le_blank hw)
    | true =>
      show S * _ ≤ _
      rw [mul_add]
      refine add_le_add (mul_le_mul_right (Scan.onlyIf_mul_le (fun _ => le_rfl)) S) ?_
      refine Scan.mul_onlyIf_le (fun h w hw => ?_)
      exact Language.append_mem_mul (a := []) ⟨rfl, h⟩ (S_le_blank hw)

/-- With a system literal, in whatever declaration. -/
theorem complete_publicSystem (ofNotation : Bool) :
    Complete (publicSystem ofNotation) () (S * systemLiteral) F := by
  refine complete_space_S.bind ?_ (before_quoted (fun q r hq => ?_))
  · have h := (complete_atQuote true).bind (f := fun quoted =>
      if (!ofNotation || quoted) = true then
        require true (invalid "missing DTD external identifier whitespace") >>= fun _ => skip literal
      else pure ())
      (Complete.ite_pos (Bool.or_true _) ((Scan.complete_require rfl _ (F := Anything)).bind
        (reads_skip_literal (F := F)).complete Scan.before_anything))
      ((before_quoted (fun q r hq => ?_)).mono (one_mul systemLiteral).le (fun _ h => h))
    · rwa [one_mul, one_mul] at h
    · rcases hq with rfl | rfl <;> rfl
  · rcases hq with rfl | rfl <;> exact Scan.stops_cons.mpr rfl

/-- Without one, in a notation, the white space in front of the end is skipped. -/
theorem complete_publicSystem_notation :
    Complete (publicSystem true) () blank (fun r => Stops Xml.isSpace r ∧ NoQuote r) := by
  rintro w hw r ⟨hstops, hquote⟩
  refine Scan.bind_eq_ok.mpr ⟨_, r, complete_space hw w rfl r hstops, ?_⟩
  exact Scan.bind_eq_ok.mpr ⟨false, r, complete_atQuote false [] rfl r hquote, rfl⟩

/-- An external identifier, without the system identifier that a notation may lack. -/
def shortID (ofNotation : Bool) : Scan.Words := onlyIf (ofNotation = true) * (publicID * blank)

/-- An external identifier, or the public one alone where a notation is declared. -/
theorem sound_externalId (ofNotation : Bool) :
    Sound (externalId ofNotation) (fun _ => externalID + shortID ofNotation) := by
  have hsystem : Sound (separator >>= fun _ => skip literal) (fun _ => S * systemLiteral) :=
    reads_separator.sound.bind (fun _ => (reads_skip_literal (F := Anything)).sound)
      (fun _ _ => le_rfl)
  have hpublic : Sound (publicId ofNotation) (fun _ => word "PUBLIC".toList * (S * (pubidLiteral
      * (S * systemLiteral + onlyIf (ofNotation = true) * blank)))) :=
    (reads_token "PUBLIC" (F := Anything)).sound.bind (fun _ => reads_separator.sound.bind
      (fun _ => (reads_publicLiteral (F := Anything)).sound.bind
        (fun _ => sound_publicSystem ofNotation) (fun _ _ => le_rfl)) (fun _ _ => le_rfl))
      (fun _ _ => le_rfl)
  refine hsystem.ifTake hpublic (fun _ => ?_) (fun _ => ?_)
  · exact le_sup_of_le_left le_sup_left
  · have hshort : word "PUBLIC".toList * (S * (pubidLiteral * (onlyIf (ofNotation = true) * blank)))
        ≤ shortID ofNotation := by
      intro w hw
      obtain ⟨u, hu, v, hv, rfl⟩ := Language.mem_mul.mp hw
      obtain ⟨s, hs, t, ht, rfl⟩ := Language.mem_mul.mp hv
      obtain ⟨p, hp, x, hx, rfl⟩ := Language.mem_mul.mp ht
      obtain ⟨_, ⟨rfl, hn⟩, b, hb, rfl⟩ := Language.mem_mul.mp hx
      have hall := Language.append_mem_mul (Language.append_mem_mul hu
        (Language.append_mem_mul hs hp)) hb
      simp only [List.append_assoc] at hall
      exact Language.append_mem_mul (a := []) ⟨rfl, hn⟩ hall
    rw [mul_add, mul_add, mul_add]
    refine sup_le (le_sup_of_le_left (le_sup_of_le_right ?_)) (le_sup_of_le_right hshort)
    rw [publicID, mul_assoc, mul_assoc]

/-- The keyword `PUBLIC` is not `SYSTEM`, which the code tries first. -/
theorem before_publicID {G : List Char → Prop} {L : Scan.Words} :
    Before (NotNext "SYSTEM".toList) (word "PUBLIC".toList * L) G :=
  (Scan.notNext_word (by decide) (by decide)).mul_right

/-- No white space is left in front of a literal. -/
theorem stops_quoted {L : Char → Scan.Words} {G : List Char → Prop} :
    Before (Stops Xml.isSpace) (quoted L) G := by
  refine before_quoted (fun q r hq => ?_)
  rcases hq with rfl | rfl <;> exact Scan.stops_cons.mpr rfl

/-- Both forms of an external identifier are taken, in whatever declaration. -/
theorem complete_externalId (ofNotation : Bool) :
    Complete (externalId ofNotation) () externalID F := by
  have hsystem : Complete (separator >>= fun _ => skip literal) () (S * systemLiteral) F :=
    reads_separator.complete.bind reads_skip_literal.complete stops_quoted
  have hpublic : Complete (publicId ofNotation) ()
      (word "PUBLIC".toList * (S * (pubidLiteral * (S * systemLiteral)))) F :=
    (reads_token "PUBLIC" (F := Anything)).complete.bind
      (reads_separator.complete.bind ((reads_publicLiteral (F := Anything)).complete.bind
        (complete_publicSystem ofNotation) Scan.before_anything) stops_quoted.mul_right)
      Scan.before_anything
  refine Complete.add hsystem.taken (Complete.of_le (hpublic.passed before_publicID) ?_)
  rw [publicID, mul_assoc, mul_assoc]

/-- A notation's public identifier is taken with the white space behind it. -/
theorem complete_externalId_short :
    Complete (externalId true) () (publicID * blank) (fun r => Stops Xml.isSpace r ∧ NoQuote r) := by
  have hpublic : Complete (publicId true) () (word "PUBLIC".toList * (S * (pubidLiteral * blank)))
      (fun r => Stops Xml.isSpace r ∧ NoQuote r) :=
    (reads_token "PUBLIC" (F := Anything)).complete.bind
      (reads_separator.complete.bind ((reads_publicLiteral (F := Anything)).complete.bind
        complete_publicSystem_notation Scan.before_anything) stops_quoted.mul_right)
      Scan.before_anything
  refine Complete.of_le (hpublic.passed before_publicID) ?_
  rw [publicID, mul_assoc, mul_assoc]

/-- A declaration ends in `>`, with white space before it or not. -/
theorem reads_declEnd : Reads declEnd (blank * word ['>']) F :=
  reads_skip_space.seq (reads_token ">") (Scan.stops_word rfl)

theorem complete_declEnd : Complete declEnd () (word ['>']) F :=
  reads_declEnd.complete.of_le (fun _ hw => Language.append_mem_mul (a := []) (Or.inr rfl) hw)

/-! ## What follows names and white space -/

/-- White space ends a name. -/
theorem isNameChar_of_isSpace {c : Char} (h : Xml.isSpace c = true) : Xml.isNameChar c = false := by
  simp only [Xml.isSpace, Bool.or_eq_true, beq_iff_eq] at h
  rcases h with ((rfl | rfl) | rfl) | rfl <;> decide

/-- A name ends white space. -/
theorem isSpace_of_isNameStartChar {c : Char} (h : Xml.isNameStartChar c = true) :
    Xml.isSpace c = false := by
  rw [Bool.eq_false_iff]
  intro hspace
  have hname : Xml.isNameChar c = true := by rw [Xml.isNameChar, h, Bool.true_or]
  exact Bool.false_ne_true ((isNameChar_of_isSpace hspace).symm.trans hname)

/-- What begins with a name begins with the start of one. -/
theorem before_name {G F : List Char → Prop} {L : Scan.Words}
    (hL : ∀ w ∈ L, Xml.isName w = true)
    (h : ∀ c r, Xml.isNameStartChar c = true → F (c :: r)) : Before F L G := by
  intro w hw r _
  have hname := hL w hw
  cases w with
  | nil => cases hname
  | cons c cs =>
    rw [Xml.isName, Bool.and_eq_true] at hname
    exact h c (cs ++ r) hname.1

theorem before_ncName {G F : List Char → Prop}
    (h : ∀ c r, Xml.isNameStartChar c = true → F (c :: r)) : Before F ncName G :=
  before_name (fun _ hw => isName_of_mem_ncName hw) h

theorem before_qName {G F : List Char → Prop}
    (h : ∀ c r, Xml.isNameStartChar c = true → F (c :: r)) : Before F qName G :=
  before_name (fun _ hw => isName_of_mem_qName hw) h

/-- A keyword is not next where another character is. -/
theorem notNext_cons {c d : Char} {ds r : List Char} (h : c ≠ d) : NotNext (d :: ds) (c :: r) := by
  rintro ⟨rest, hrest⟩
  cases hrest
  exact h rfl

/-- A token that begins like no name does not come where a name does. -/
theorem notNext_of_isNameStartChar {c d : Char} {ds r : List Char}
    (h : Xml.isNameStartChar c = true) (hd : Xml.isNameStartChar d = false) :
    NotNext (d :: ds) (c :: r) := by
  refine notNext_cons ?_
  rintro rfl
  exact Bool.false_ne_true (hd.symm.trans h)

/-- White space before a name is skipped up to the name. -/
theorem stops_ncName {G : List Char → Prop} : Before (Stops Xml.isSpace) ncName G :=
  before_ncName (fun _ _ h => Scan.stops_cons.mpr (isSpace_of_isNameStartChar h))

theorem stops_qName {G : List Char → Prop} : Before (Stops Xml.isSpace) qName G :=
  before_qName (fun _ _ h => Scan.stops_cons.mpr (isSpace_of_isNameStartChar h))

/-- What holds before white space, and before what follows it, holds before both. -/
theorem before_blank {F : List Char → Prop} (h : ∀ c r, Xml.isSpace c = true → F (c :: r)) :
    Before F blank F := by
  rw [blank_eq]
  intro w hw r hr
  cases w with
  | nil => exact hr
  | cons c cs => exact h c (cs ++ r) (hw c List.mem_cons_self)

theorem before_S {F G : List Char → Prop} (h : ∀ c r, Xml.isSpace c = true → F (c :: r)) :
    Before F S G := by
  intro w hw r _
  obtain ⟨hne, hspace⟩ := mem_S.mp hw
  obtain ⟨c, cs, rfl⟩ := List.exists_cons_of_ne_nil hne
  exact h c (cs ++ r) (hspace c List.mem_cons_self)

/-- A name stops at white space, and at whatever stops it behind that. -/
theorem nameStops_blank : Before (Stops Xml.isNameChar) blank (Stops Xml.isNameChar) :=
  before_blank (fun _ _ h => Scan.stops_cons.mpr (isNameChar_of_isSpace h))

/-- A name stops at white space. -/
theorem nameStops_S {G : List Char → Prop} : Before (Stops Xml.isNameChar) S G :=
  before_S (fun _ _ h => Scan.stops_cons.mpr (isNameChar_of_isSpace h))

/-- Where no notation is declared there is no short form. -/
theorem sound_externalId_false : Sound (externalId false) (fun _ => externalID) := by
  refine (sound_externalId false).mono (fun _ => sup_le le_rfl ?_)
  exact Scan.onlyIf_mul_le (fun h => absurd h Bool.false_ne_true)

/-- An external identifier begins with one of its two keywords. -/
theorem stops_externalID {p : Char → Bool} {G : List Char → Prop} (hs : p 'S' = false)
    (hp : p 'P' = false) : Before (Stops p) externalID G :=
  Before.add (Scan.stops_word hs).mul_right ((Scan.stops_word hp).mul_right (M := S * pubidLiteral)
    |>.mul_right)

/-- The value of an entity begins with a quote. -/
theorem stops_entityValue {G : List Char → Prop} : Before (Stops Xml.isSpace) entityValue G := by
  unfold entityValue Xml.Doctype.valueLiteral
  exact stops_quoted

/-- An external identifier does not, which is how the code tells the two apart. -/
theorem noQuote_externalID {G : List Char → Prop} : Before NoQuote externalID G :=
  Before.add (Scan.before_word (fun _ => rfl)).mul_right
    (Scan.before_word (fun _ => rfl)).mul_right.mul_right

/-- The look ahead sees the quote of a value. -/
theorem atQuote_entityValue {G : List Char → Prop} :
    Before (fun r => r.head?.any (fun c => c == '\'' || c == '"') = true) entityValue G := by
  unfold entityValue Xml.Doctype.valueLiteral
  exact before_quoted (fun q r hq => by rcases hq with rfl | rfl <;> rfl)

/-- The end of a declaration, after what it defines. -/
abbrev closing : Scan.Words := blank * word ['>']

/-- A name stops at the end of a declaration. -/
theorem nameStops_closing {G : List Char → Prop} : Before (Stops Xml.isNameChar) closing G :=
  nameStops_blank.mul (Scan.stops_word rfl)

/-- White space before the end may be counted to the end. -/
theorem externalID_blank_closing : externalID * (blank * closing) = externalID * closing := by
  rw [← mul_assoc blank, blank_mul_blank]

/-- The tokens of an enumerated type. -/
def enumToken (names : Bool) : Scan.Words := if names = true then ncName else nmtoken

/-- A name token is any number of characters of names, but at least one. -/
theorem mem_nmtoken {w : List Char} :
    w ∈ nmtoken ↔ w ≠ [] ∧ ∀ c ∈ w, Xml.isNameChar c = true := by
  rw [nmtoken, Scan.kstar_letter, Language.mem_mul]
  constructor
  · rintro ⟨u, ⟨c, hc, rfl⟩, v, hv, rfl⟩
    exact ⟨List.cons_ne_nil c v, List.forall_mem_cons.mpr ⟨hc, hv⟩⟩
  · rintro ⟨hne, h⟩
    obtain ⟨c, cs, rfl⟩ := List.exists_cons_of_ne_nil hne
    obtain ⟨hc, hcs⟩ := List.forall_mem_cons.mp h
    exact ⟨[c], ⟨c, hc, rfl⟩, cs, hcs, rfl⟩

theorem isSpace_of_isNameChar {c : Char} (h : Xml.isNameChar c = true) : Xml.isSpace c = false := by
  rw [Bool.eq_false_iff]
  exact fun hspace => Bool.false_ne_true ((isNameChar_of_isSpace hspace).symm.trans h)

/-- A token of an enumeration does not begin with white space. -/
theorem stops_enumToken {names : Bool} {G : List Char → Prop} :
    Before (Stops Xml.isSpace) (enumToken names) G := by
  cases names with
  | true => exact stops_ncName
  | false =>
    intro w hw r _
    obtain ⟨hne, h⟩ := mem_nmtoken.mp hw
    obtain ⟨c, cs, rfl⟩ := List.exists_cons_of_ne_nil hne
    exact Scan.stops_cons.mpr (isSpace_of_isNameChar (h c List.mem_cons_self))

end Pieces

/-! ## Character references -/

/-- **A character reference** is checked exactly: its digits have to denote a character of
XML, however many there are. -/
theorem characterReference_eq_ok {digits : List Char} {radix : ℕ} :
    characterReference digits radix = .ok ()
      ↔ digits ∈ digitsOf (isDigitOf radix) radix := by
  have hchar : ∀ n, ((if n < 2 ^ 32 then some n else none).bind charFromU32).any isXmlCharacter
      = true ↔ ∃ c : Char, c.toNat = n ∧ Xml.isChar c = true := by
    intro n
    rw [isXmlCharacter_eq]
    constructor
    · intro h
      split at h
      · simp only [Option.bind_some, charFromU32] at h
        split at h
        · next hvalid =>
          rw [Option.any_some] at h
          have hn : (Char.ofNat n).toNat = n := by
            unfold Char.ofNat
            rw [dif_pos hvalid]
            rfl
          exact ⟨Char.ofNat n, hn, h⟩
        · cases h
      · cases h
    · rintro ⟨c, rfl, hc⟩
      have hlt : c.toNat < 2 ^ 32 := c.val.toNat_lt
      have hvalid : c.toNat.isValidChar := c.valid
      rw [if_pos hlt, Option.bind_some, charFromU32, if_pos hvalid, Char.ofNat_toNat,
        Option.any_some]
      exact hc
  unfold characterReference fromStrRadix
  have hempty : digits.isEmpty = true ↔ digits = [] := List.isEmpty_iff
  split
  · next h =>
    refine iff_of_false (fun h => by cases h) (fun hd => ?_)
    rw [Bool.or_eq_true, Bool.not_eq_true', Bool.eq_false_iff, Ne, List.all_eq_true, hempty] at h
    exact h.elim hd.1 (fun h => h hd.2.1)
  · next h =>
    rw [Bool.or_eq_true, Bool.not_eq_true', Bool.eq_false_iff, Ne, List.all_eq_true, hempty,
      not_or, not_not] at h
    split
    · next hnot =>
      refine iff_of_false (fun h => by cases h) (fun hd => ?_)
      rw [Bool.not_eq_true', Bool.eq_false_iff] at hnot
      exact hnot ((hchar _).mpr hd.2.2)
    · next hnot =>
      rw [Bool.not_eq_true', Bool.eq_false_iff, not_not] at hnot
      exact iff_of_true rfl ⟨h.1, h.2, (hchar _).mp hnot⟩

/-- The conversions of its digits are all provided for. -/
theorem characterReference_ne_unreachable (digits : List Char) (radix : ℕ) :
    characterReference digits radix ≠ .error .unreachable := by
  unfold characterReference
  split_ifs <;> exact fun h => by cases h

/-- The character that the value of an attribute or of an entity forbids. -/
def forbidden (inAttribute : Bool) : Char := if inAttribute = true then '<' else '%'

/-- The pieces of a value: a reference, or a character that begins none. -/
def pieces (inAttribute : Bool) : Scan.Words :=
  letter (fun c => c != '&' && c != forbidden inAttribute) + Xml.Doctype.reference

/-- A character that is not an ampersand is kept if it is not the forbidden one. -/
theorem sound_characterTurn (inAttribute : Bool) (ch : Char) :
    Sound (characterTurn inAttribute ch)
      (fun t => onlyIf (ch ≠ forbidden inAttribute ∧ t = .inl ())) := by
  refine (Scan.sound_require _ _).bind (fun _ => Scan.sound_pure _) (fun _ t => ?_)
  refine Scan.onlyIf_mul_le (fun h => Scan.onlyIf_le (fun ht _ hw => ⟨hw, ?_, ht⟩))
  rintro rfl
  cases inAttribute <;> cases h

/-- A turn over a value takes something, so the loop ends. -/
theorem nil_notMem_pieces (inAttribute : Bool) : [] ∉ pieces inAttribute := by
  rintro (⟨c, -, h⟩ | h)
  · cases h
  · obtain ⟨text, -, h⟩ := exists_of_mem_reference h
    cases h

/-- The text of a value literal is a text for its quote, made of pieces. -/
theorem mem_value_iff {q : Char} (hq : IsQuote q) {v : List Char} {inAttribute : Bool} :
    v ∈ (letter (fun c => Xml.isChar c && c != q && c != '&' && c != forbidden inAttribute)
        + Xml.Doctype.reference)∗ ↔ IsText q v ∧ v ∈ (pieces inAttribute)∗ := by
  have hreference : ∀ w ∈ Xml.Doctype.reference, IsText q w := by
    intro w hw c hc
    have hnot : Xml.isNameChar q = false := by rcases hq with rfl | rfl <;> decide
    rcases mem_of_mem_reference hw c hc with h | rfl | rfl | rfl
    · exact ⟨Xml.isChar_of_isNameChar h, Xml.ne_of_isNameChar h hnot⟩
    all_goals rcases hq with rfl | rfl <;> exact ⟨by decide, by decide⟩
  constructor
  · intro hv
    obtain ⟨words, rfl, hwords⟩ := Language.mem_kstar.mp hv
    have hpiece : ∀ w ∈ words, IsText q w ∧ w ∈ pieces inAttribute := by
      intro w hw
      rcases hwords w hw with ⟨c, hc, rfl⟩ | href
      · simp only [Bool.and_eq_true, bne_iff_ne] at hc
        obtain ⟨⟨⟨hchar, hquote⟩, hamp⟩, hforbidden⟩ := hc
        refine ⟨fun d hd => ?_, Or.inl ⟨c, ?_, rfl⟩⟩
        · rw [List.mem_singleton.mp hd]
          exact ⟨hchar, hquote⟩
        · rw [Bool.and_eq_true, bne_iff_ne, bne_iff_ne]
          exact ⟨hamp, hforbidden⟩
      · exact ⟨hreference w href, Or.inr href⟩
    refine ⟨fun c hc => ?_, Language.join_mem_kstar (fun w hw => (hpiece w hw).2)⟩
    obtain ⟨w, hw, hcw⟩ := List.mem_flatten.mp hc
    exact (hpiece w hw).1 c hcw
  · rintro ⟨htext, hv⟩
    obtain ⟨words, rfl, hwords⟩ := Language.mem_kstar.mp hv
    refine Language.join_mem_kstar (fun w hw => ?_)
    rcases hwords w hw with ⟨c, hc, rfl⟩ | href
    · obtain ⟨hchar, hquote⟩ := htext c (List.mem_flatten.mpr ⟨[c], hw, List.mem_singleton_self c⟩)
      refine Or.inl ⟨c, ?_, rfl⟩
      simp only [Bool.and_eq_true, bne_iff_ne] at hc ⊢
      exact ⟨⟨⟨hchar, hquote⟩, hc.1⟩, hc.2⟩
    · exact Or.inr href

/-! ## Names -/

section Names

variable [XmlStream] [LawfulXmlStream] {F : List Char → Prop}

/-- `consume_name` takes a name of XML. -/
theorem sound_name : Sound name (fun n => {w | w = n ∧ Xml.isName n = true}) where
  takes {s n r} hs := by
    unfold name at hs
    split at hs
    · next read hread =>
      cases hs
      obtain ⟨heq, hname, -⟩ := LawfulXmlStream.consumeName_eq_some.mp hread
      exact ⟨n, ⟨rfl, hname⟩, heq⟩
    · cases hs
  never s hs := by
    unfold name at hs
    split at hs <;> cases hs

/-- It takes the name that is there, if no character of a name follows. -/
theorem complete_name {n : List Char} (hn : Xml.isName n = true) :
    Complete name n (word n) (Stops Xml.isNameChar) := by
  rintro w rfl r hr
  unfold name
  rw [LawfulXmlStream.consumeName_eq_some.mpr ⟨rfl, hn, hr⟩]

/-- A name with at most one colon, and not at an end. -/
theorem sound_qname : Sound qname (fun n => {w | w = n ∧ n ∈ qName}) :=
  sound_name.checked (fun _ hq _ hw => ⟨hw.1, isQname_iff.mp hq⟩)

/-- A name without a colon. -/
theorem sound_ncname : Sound ncname (fun n => {w | w = n ∧ n ∈ ncName}) :=
  sound_name.checked (fun _ hn _ hw => ⟨hw.1, isNcname_iff.mp hn⟩)

/-- Such a name is taken whole. -/
theorem complete_ncname {n : List Char} (hn : n ∈ ncName) :
    Complete ncname n (word n) (Stops Xml.isNameChar) :=
  (complete_name (isName_of_mem_ncName hn)).checked (isNcname_iff.mpr hn)

/-- A qualified name that is not used further. -/
theorem reads_skip_qname : Reads (skip qname) qName (Stops Xml.isNameChar) where
  sound := by
    refine (sound_qname.mono (fun n => ?_)).skip
    rintro w ⟨rfl, hn⟩
    exact hn
  complete := Complete.of_words (fun _ hn =>
    ((complete_name (isName_of_mem_qName hn)).checked (isQname_iff.mpr hn)).skip)

/-- An unqualified name that is not used further. -/
theorem reads_skip_ncname : Reads (skip ncname) ncName (Stops Xml.isNameChar) where
  sound := by
    refine (sound_ncname.mono (fun n => ?_)).skip
    rintro w ⟨rfl, hn⟩
    exact hn
  complete := Complete.of_words (fun _ hn => (complete_ncname hn).skip)

/-! ## References -/

/-- The name of an entity is taken from between the ampersand and the semicolon, and nothing
else may stand there. -/
theorem entityReference_eq_ok {text : List Char} :
    entityReference text = .ok () ↔ text ∈ ncName := by
  constructor
  · intro h
    cases hread : ncname text with
    | error e =>
      rw [entityReference, hread] at h
      cases h
    | ok read =>
      obtain ⟨n, rest⟩ := read
      rw [entityReference, hread] at h
      obtain ⟨w, ⟨rfl, hn⟩, rfl⟩ := sound_ncname.takes hread
      cases rest with
      | nil => rwa [List.append_nil]
      | cons c cs => cases h
  · intro h
    have hread := complete_ncname h text rfl [] (fun c hc => by cases hc)
    rw [List.append_nil] at hread
    rw [entityReference, hread]
    rfl

/-- **What stands between an ampersand and a semicolon** is in order exactly in a
reference. -/
theorem reference_eq_ok (text : List Char) :
    reference text = .ok () ↔ '&' :: (text ++ [';']) ∈ Xml.Doctype.reference := by
  have hsign : ∀ {rest : List Char}, '#' :: rest ∉ ncName := fun h => Bool.false_ne_true h.1
  have hx : ∀ {rest : List Char}, 'x' :: rest ∉ digitsOf Char.isDigit 10 :=
    fun h => Bool.false_ne_true (h.2.1 'x' List.mem_cons_self)
  rw [mem_reference]
  unfold reference
  split
  · next digits =>
    rw [characterReference_eq_ok]
    refine ⟨fun h => Or.inr (Or.inr ⟨digits, h, rfl⟩), ?_⟩
    rintro (h | ⟨_, h, heq⟩ | ⟨_, h, heq⟩)
    · exact absurd h hsign
    · cases heq
      exact absurd h hx
    · cases heq
      exact h
  · next digits hnot =>
    rw [characterReference_eq_ok]
    refine ⟨fun h => Or.inr (Or.inl ⟨digits, h, rfl⟩), ?_⟩
    rintro (h | ⟨_, h, heq⟩ | ⟨_, h, heq⟩)
    · exact absurd h hsign
    · cases heq
      exact h
    · cases heq
      exact absurd rfl (hnot _)
  · next text hnothex hnot =>
    rw [entityReference_eq_ok]
    refine ⟨Or.inl, ?_⟩
    rintro (h | ⟨_, h, rfl⟩ | ⟨_, h, rfl⟩)
    · exact h
    · exact absurd rfl (hnot _)
    · exact absurd rfl (hnothex _)

/-- A reference is accepted or refused. -/
theorem reference_ne_unreachable (text : List Char) : reference text ≠ .error .unreachable := by
  have hentity : ∀ text : List Char, entityReference text ≠ .error .unreachable := by
    intro text h
    cases hread : ncname text with
    | error e =>
      rw [entityReference, hread] at h
      cases h
      exact sound_ncname.never text hread
    | ok read =>
      obtain ⟨n, rest⟩ := read
      rw [entityReference, hread] at h
      cases rest <;> cases h
  unfold reference
  split
  · exact characterReference_ne_unreachable _ _
  · exact characterReference_ne_unreachable _ _
  · exact hentity _

/-- Behind an ampersand there is a reference, up to the first semicolon. -/
theorem sound_referenceTurn :
    Sound referenceTurn
      (Sum.elim (fun _ => {w | '&' :: w ∈ Xml.Doctype.reference}) (fun _ => 0)) := by
  refine (Scan.sound_past [';'] _).bind (M := fun text t => onlyIf (reference text = .ok () ∧ t = .inl ()))
    (fun text => ?_) (fun text t => Scan.mul_onlyIf_le ?_)
  · refine (Scan.sound_lift (reference_ne_unreachable text)).bind (fun _ => Scan.sound_pure _)
      (fun _ t => ?_)
    exact Scan.onlyIf_mul_le (fun h => Scan.onlyIf_le (fun ht _ hw => ⟨hw, h, ht⟩))
  · rintro ⟨h, rfl⟩ w ⟨rfl, -⟩
    exact (reference_eq_ok text).mp h

/-- A turn over a value takes a reference or one character. -/
theorem sound_referencesTurn (inAttribute : Bool) :
    Sound (referencesTurn inAttribute ())
      (Sum.elim (fun _ => pieces inAttribute) (fun _ => 1)) where
  takes {s t r} hs := by
    cases s with
    | nil =>
      cases hs
      exact ⟨[], rfl, rfl⟩
    | cons c cs =>
      rw [referencesTurn] at hs
      split at hs
      · next hc =>
        obtain ⟨w, hw, rfl⟩ := sound_referenceTurn.takes hs
        cases t with
        | inl u => exact ⟨c :: w, Or.inr (hc ▸ hw), rfl⟩
        | inr u => exact absurd hw (Language.notMem_zero w)
      · next hc =>
        obtain ⟨w, ⟨rfl, hne, rfl⟩, rfl⟩ := (sound_characterTurn inAttribute c).takes hs
        refine ⟨[c], Or.inl ⟨c, ?_, rfl⟩, rfl⟩
        rw [Bool.and_eq_true, bne_iff_ne, bne_iff_ne]
        exact ⟨hc, hne⟩
  never s hs := by
    cases s with
    | nil => cases hs
    | cons c cs =>
      rw [referencesTurn] at hs
      split at hs
      · exact sound_referenceTurn.never cs hs
      · exact (sound_characterTurn inAttribute c).never cs hs

/-- Each piece of a value is one turn. -/
theorem complete_referencesTurn (inAttribute : Bool) :
    Complete (referencesTurn inAttribute ()) (.inl ()) (pieces inAttribute) F := by
  rintro w (⟨c, hc, rfl⟩ | hw) r -
  · rw [Bool.and_eq_true, bne_iff_ne, bne_iff_ne] at hc
    show (if c = '&' then referenceTurn r else characterTurn inAttribute c r) = _
    rw [if_neg hc.1]
    have hallowed : (!(inAttribute && c == '<' || !inAttribute && c == '%')) = true := by
      have hne := hc.2
      cases inAttribute <;> simpa [forbidden] using hne
    refine Scan.bind_eq_ok.mpr ⟨(), r, ?_, rfl⟩
    rw [hallowed]
    rfl
  · obtain ⟨text, htext, rfl⟩ := exists_of_mem_reference hw
    have hpast := Scan.complete_past (ε := ParseError) (List.cons_ne_nil ';' [])
      (Scan.avoids_singleton.mpr htext) (invalid "unclosed DTD reference") (F := Anything)
      (text ++ [';']) rfl r trivial
    show referenceTurn (text ++ [';'] ++ r) = _
    refine Scan.bind_eq_ok.mpr ⟨text, r, hpast, Scan.bind_eq_ok.mpr ⟨(), r, ?_, rfl⟩⟩
    rw [(reference_eq_ok text).mpr hw]
    rfl

/-- The turns over a value take pieces of it. -/
theorem sound_references (inAttribute : Bool) :
    Sound (Scan.loop (referencesTurn inAttribute) ()) (fun _ => (pieces inAttribute)∗) := by
  refine Sound.loop (N := fun _ _ => (pieces inAttribute)∗) (fun _ => True)
    (fun _ _ => sound_referencesTurn inAttribute)
    (fun _ _ w _ hw => ⟨trivial, fun hnil => nil_notMem_pieces inAttribute (hnil ▸ hw)⟩)
    (fun _ _ _ _ => mul_kstar_le_kstar) (fun _ _ _ => one_le_kstar) trivial

/-- **The references of a value are in order** where it is made of pieces. -/
theorem references_eq_ok {text : List Char} {inAttribute : Bool} :
    references text inAttribute = .ok () ↔ text ∈ (pieces inAttribute)∗ := by
  unfold references
  constructor
  · intro h
    cases hloop : Scan.loop (referencesTurn inAttribute) () text with
    | error e =>
      rw [hloop] at h
      cases h
    | ok read =>
      obtain ⟨⟨⟩, rest⟩ := read
      obtain ⟨w, hw, rfl⟩ := (sound_references inAttribute).takes hloop
      -- the last turn is at the end of the text
      obtain ⟨_, m, hlast⟩ := Scan.loop_last hloop
      have hrest : rest = [] := by
        cases m with
        | nil =>
          cases hlast
          rfl
        | cons c cs =>
          rw [referencesTurn] at hlast
          split at hlast
          · obtain ⟨v, hv, -⟩ := sound_referenceTurn.takes hlast
            exact absurd hv (Language.notMem_zero v)
          · obtain ⟨v, ⟨-, -, hv⟩, -⟩ := (sound_characterTurn inAttribute c).takes hlast
            cases hv
      rwa [hrest, List.append_nil]
  · intro h
    have hstop : Complete (referencesTurn inAttribute ()) (.inr ()) 1 (fun r => r = []) := by
      intro w hw r hr
      rw [(Language.mem_one w).mp hw, hr]
      rfl
    have hloop := Complete.loop (complete_referencesTurn inAttribute (F := Anything))
      (nil_notMem_pieces inAttribute) hstop Scan.before_anything Scan.before_anything
    rw [mul_one] at hloop
    have hrun := hloop text h [] rfl
    rw [List.append_nil] at hrun
    rw [hrun]
    rfl

/-- No turn comes to a place that it does not provide for. -/
theorem references_ne_unreachable (text : List Char) (inAttribute : Bool) :
    references text inAttribute ≠ .error .unreachable := by
  unfold references
  cases hloop : Scan.loop (referencesTurn inAttribute) () text with
  | error e =>
    intro h
    cases h
    exact (sound_references inAttribute).never text hloop
  | ok read => exact fun h => by cases h

/-- **A value in quotes** is a literal whose text is made of pieces: the literal is found
first and its references are checked afterwards, where the grammar does both at once. -/
theorem reads_valueLiteral (inAttribute : Bool) :
    Reads (valueLiteral inAttribute) (Xml.Doctype.valueLiteral (forbidden inAttribute)) F := by
  refine reads_literal_check (c := fun v => references v inAttribute = .ok ())
    (fun v => ?_) (fun v h => Scan.complete_lift _ h) (fun q v hq => ?_)
  · exact (Scan.sound_lift (references_ne_unreachable v inAttribute)).mono (fun _ => le_rfl)
  · rw [mem_value_iff hq, references_eq_ok]

/-! ## Entities and notations -/

/-- Only a general entity may name a notation. -/
theorem sound_unparsed (parameter : Bool) :
    Sound (unparsed parameter)
      (fun _ => onlyIf (parameter = false) * nDataDecl + blank) := by
  have hdata : Sound (require (!parameter) (invalid "NDATA on parameter entity") >>= fun _ =>
      separator >>= fun _ => skip ncname) (fun _ => onlyIf (parameter = false) * (S * ncName)) := by
    refine (Scan.sound_require _ _).bind (fun _ => reads_separator.sound.bind
      (fun _ => reads_skip_ncname.sound) (fun _ _ => le_rfl)) (fun _ _ => ?_)
    refine Scan.onlyIf_mul_le (fun h w hw => Language.append_mem_mul (a := []) ⟨rfl, ?_⟩ hw)
    simpa using h
  have hone : Sound (pure () : Scan ParseError Unit) (fun _ => 1) :=
    (Scan.sound_pure ()).mono (fun _ => Scan.onlyIf_le (fun _ => le_rfl))
  have htake := hdata.ifTake (t := "NDATA".toList) hone
    (N := fun _ => word "NDATA".toList * (onlyIf (parameter = false) * (S * ncName)) + 1)
    (fun _ => le_sup_left) (fun _ => le_sup_right)
  refine sound_space.bind (M := fun found _ => if found = true then
    word "NDATA".toList * (onlyIf (parameter = false) * (S * ncName)) + 1 else 1)
    (fun found => ?_) (fun found _ => ?_)
  · cases found with
    | false => exact hone
    | true => exact htake
  · cases found with
    | false => exact (one_mul (1 : Scan.Words)).le.trans (le_sup_of_le_right one_le_blank)
    | true =>
      show S * (word "NDATA".toList * (onlyIf (parameter = false) * (S * ncName)) + 1) ≤ _
      rw [mul_add, mul_one]
      refine sup_le (le_sup_of_le_left ?_) (le_sup_of_le_right S_le_blank)
      intro w hw
      obtain ⟨s, hs, v, hv, rfl⟩ := Language.mem_mul.mp hw
      obtain ⟨d, hd, t, ht, rfl⟩ := Language.mem_mul.mp hv
      obtain ⟨_, ⟨rfl, hn⟩, x, hx, rfl⟩ := Language.mem_mul.mp ht
      exact Language.append_mem_mul (a := []) ⟨rfl, hn⟩
        (Language.append_mem_mul hs (Language.append_mem_mul hd hx))

/-- The notation of an unparsed entity is taken. -/
theorem complete_unparsed :
    Complete (unparsed false) () nDataDecl (Stops Xml.isNameChar) := by
  refine complete_space_S.bind (Complete.ite_pos rfl (Complete.taken ?_)) ?_
  · have h := (Scan.complete_require (show (!false) = true from rfl)
      (invalid "NDATA on parameter entity") (F := Anything)).seq
      (reads_separator.complete.seq reads_skip_ncname.complete stops_ncName) Scan.before_anything
    rwa [one_mul] at h
  · exact (Scan.stops_word rfl).mul_right

omit [LawfulXmlStream] in
/-- Without the keyword nothing but white space is taken. -/
theorem complete_unparsed_blank (parameter : Bool) :
    Complete (unparsed parameter) () blank
      (fun r => Stops Xml.isSpace r ∧ NotNext "NDATA".toList r) := by
  rintro w hw r ⟨hstops, hnot⟩
  refine Scan.bind_eq_ok.mpr ⟨_, r, complete_space hw w rfl r hstops, ?_⟩
  split
  · exact Scan.bind_eq_ok.mpr ⟨false, r, Scan.take_of_notNext hnot, rfl⟩
  · rfl

/-- What an entity may be, and the white space that is read before the end is looked for. -/
def definition (parameter : Bool) : Scan.Words :=
  entityValue + externalID * (onlyIf (parameter = false) * nDataDecl + blank)

/-- The name of an entity, and its definition. -/
theorem sound_entityDefinition (parameter : Bool) :
    Sound (entityDefinition parameter) (fun _ => ncName * (S * definition parameter)) := by
  refine reads_skip_ncname.sound.bind (fun _ => reads_separator.sound.bind (fun _ => ?_)
    (fun _ _ => le_rfl)) (fun _ _ => le_rfl)
  refine (Scan.sound_peek _).bind (M := fun _ _ => definition parameter) (fun quoted => ?_)
    (fun _ _ => (one_mul _).le)
  refine Sound.ite (fun _ => ?_) (fun _ => ?_)
  · exact (reads_valueLiteral false (F := Anything)).sound.mono (fun _ => le_sup_left)
  · exact sound_externalId_false.bind (fun _ => sound_unparsed parameter) (fun _ _ => le_sup_right)

/-- An entity with a value. -/
theorem complete_entityDefinition_value (parameter : Bool) :
    Complete (entityDefinition parameter) () (ncName * (S * entityValue)) F := by
  have h := (complete_atQuote true).bind (f := fun quoted =>
      if quoted = true then valueLiteral false
      else externalId false >>= fun _ => unparsed parameter)
    (Complete.ite_pos rfl (reads_valueLiteral false (F := F)).complete) atQuote_entityValue
  rw [one_mul] at h
  exact reads_skip_ncname.complete.seq (reads_separator.complete.seq h stops_entityValue)
    nameStops_S.mul_right

/-- An entity that stands elsewhere. -/
theorem complete_entityDefinition_external {parameter : Bool} {L : Scan.Words}
    (hL : Complete (unparsed parameter) () L F) :
    Complete (entityDefinition parameter) () (ncName * (S * (externalID * L))) F := by
  have h := (complete_atQuote false).bind (f := fun quoted =>
      if quoted = true then valueLiteral false
      else externalId false >>= fun _ => unparsed parameter)
    (Complete.ite_neg Bool.false_ne_true ((complete_externalId false (F := Anything)).seq hL
      Scan.before_anything)) noQuote_externalID.mul_right
  rw [one_mul] at h
  exact reads_skip_ncname.complete.seq (reads_separator.complete.seq h
    (stops_externalID rfl rfl).mul_right) nameStops_S.mul_right

/-- The definition of an entity, with what it begins with. -/
def entityRest (L : Scan.Words) : Scan.Words := ncName * (S * (L * closing))

/-- Both kinds of entities are declared in the same ways; what comes first is what tells
them apart. -/
theorem complete_entity_ways (body : Scan ParseError Unit) (parameter : Bool)
    (first : Scan.Words) {L : Scan.Words}
    (hbody : ∀ {K : Scan.Words} {F : List Char → Prop},
      Complete (entityDefinition parameter) () (ncName * K) F →
        Complete body () (first * (ncName * K)) F)
    (hL : Complete (unparsed parameter) () L (Stops Xml.isNameChar)) :
    Complete (body >>= fun _ => declEnd) ()
      (first * entityRest (entityValue + externalID * (L + 1))) F := by
  have hvalue : Complete (body >>= fun _ => declEnd) ()
      (first * (ncName * (S * entityValue)) * closing) F :=
    (hbody (complete_entityDefinition_value parameter (F := Anything))).seq reads_declEnd.complete
      Scan.before_anything
  have hnamed : Complete (body >>= fun _ => declEnd) ()
      (first * (ncName * (S * (externalID * L))) * closing) F :=
    (hbody (complete_entityDefinition_external hL)).seq reads_declEnd.complete nameStops_closing
  have hplain : Complete (body >>= fun _ => declEnd) ()
      (first * (ncName * (S * (externalID * blank))) * word ['>']) F :=
    (hbody (complete_entityDefinition_external (complete_unparsed_blank parameter))).seq
      complete_declEnd (Scan.before_word (fun r => ⟨Scan.stops_cons.mpr rfl, notNext_cons (by decide)⟩))
  refine (hvalue.add (hnamed.add hplain)).of_le (le_of_eq ?_)
  simp only [entityRest, closing, mul_add, add_mul, mul_assoc, mul_one]

omit [XmlStream] [LawfulXmlStream] in
/-- A definition and the end of its declaration are one of the ways of the grammar. -/
theorem sound_entity_definition (parameter : Bool) :
    ncName * (S * definition parameter) * closing
      ≤ entityRest (entityValue + externalID * (onlyIf (parameter = false) * nDataDecl + 1)) := by
  refine le_of_eq ?_
  simp only [entityRest, definition, mul_add, add_mul, mul_assoc, mul_one,
    externalID_blank_closing]

/-- The percent sign decides between general and parameter entities. -/
theorem sound_entity : Sound entity
    (fun _ => S * (entityRest entityDef + word ['%'] * (S * entityRest peDef))) := by
  have hbody : Sound entityBody (fun _ => ncName * (S * definition false)
      + word ['%'] * (S * (ncName * (S * definition true)))) :=
    (reads_separator.sound.seq (sound_entityDefinition true)).ifTake
      (sound_entityDefinition false) (fun _ => le_sup_right) (fun _ => le_sup_left)
  refine (reads_separator.sound.seq (hbody.seq (reads_declEnd (F := Anything)).sound)).mono
    (fun _ => mul_le_mul_right ?_ S)
  have hmono : ∀ {L M : Scan.Words}, L ≤ M → entityRest L ≤ entityRest M := fun h =>
    mul_le_mul_right (mul_le_mul_right (mul_le_mul_left h _) _) _
  have hgeneral : entityValue + externalID * (onlyIf (false = false) * nDataDecl + 1) ≤ entityDef :=
    add_le_add le_rfl (mul_le_mul_right
      (add_le_add (Scan.onlyIf_mul_le (fun _ => le_rfl)) le_rfl) _)
  have hparameter : entityValue + externalID * (onlyIf (true = false) * nDataDecl + 1) ≤ peDef := by
    have hone : onlyIf (true = false) * nDataDecl + 1 ≤ (1 : Scan.Words) :=
      add_le (Scan.onlyIf_mul_le (fun h => absurd h Bool.false_ne_true.symm)) le_rfl
    refine add_le_add le_rfl ?_
    calc externalID * (onlyIf (true = false) * nDataDecl + 1)
        ≤ externalID * 1 := mul_le_mul_right hone _
      _ = externalID := mul_one _
  rw [add_mul]
  refine add_le_add ?_ ?_
  · exact (sound_entity_definition false).trans (hmono hgeneral)
  · have htrue := (sound_entity_definition true).trans (hmono hparameter)
    calc word ['%'] * (S * (ncName * (S * definition true))) * closing
        = word ['%'] * (S * (ncName * (S * definition true) * closing)) := by
          simp only [mul_assoc]
      _ ≤ word ['%'] * (S * entityRest peDef) := mul_le_mul_right (mul_le_mul_right htrue _) _

/-- Every declaration of an entity is taken. -/
theorem complete_entity : Complete entity ()
    (S * (entityRest entityDef + word ['%'] * (S * entityRest peDef))) F := by
  have hgeneral : Complete (entityBody >>= fun _ => declEnd) () (entityRest entityDef) F := by
    have h := complete_entity_ways entityBody false 1 (F := F) (fun hK => ?_)
      complete_unparsed
    · rwa [one_mul] at h
    · rw [one_mul]
      exact hK.passed (before_ncName (fun _ _ h => notNext_of_isNameStartChar h rfl)).mul_right
  have hparameter : Complete (entityBody >>= fun _ => declEnd) ()
      (word ['%'] * (S * entityRest peDef)) F := by
    have h := complete_entity_ways entityBody true (word ['%'] * S) (L := 0) (F := F)
      (fun hK => ?_) Scan.complete_zero
    · rw [zero_add, mul_one, mul_assoc] at h
      exact h
    · rw [mul_assoc]
      exact (reads_separator.complete.seq hK stops_ncName.mul_right).taken
  refine reads_separator.complete.seq (hgeneral.add hparameter) (Before.add stops_ncName.mul_right ?_)
  exact (Scan.stops_word rfl).mul_right

/-- A notation is declared with an external identifier, or with a public one. -/
theorem reads_notationDecl : Reads notationDecl
    (S * (ncName * (S * ((externalID + publicID) * closing)))) F where
  sound := by
    refine (reads_separator.sound.seq (reads_skip_ncname.sound.seq (reads_separator.sound.seq
      ((sound_externalId true).seq (reads_declEnd (F := Anything)).sound)))).mono (fun _ => ?_)
    have hshort : shortID true * closing ≤ publicID * closing := by
      rw [shortID, mul_assoc, mul_assoc, ← mul_assoc blank, blank_mul_blank]
      exact Scan.onlyIf_mul_le (fun _ => le_rfl)
    refine mul_le_mul_right (mul_le_mul_right (mul_le_mul_right ?_ _) _) _
    rw [add_mul, add_mul]
    exact add_le_add le_rfl hshort
  complete := by
    have hlong := (complete_externalId true (F := Anything)).seq
      (reads_declEnd (F := F)).complete Scan.before_anything
    have hshort := complete_externalId_short.seq (complete_declEnd (F := F))
      (Scan.before_word (fun _ => ⟨Scan.stops_cons.mpr rfl, rfl⟩))
    have hid : Complete (externalId true >>= fun _ => declEnd) ()
        ((externalID + publicID) * closing) F := by
      refine (hlong.add hshort).of_le (le_of_eq ?_)
      simp only [closing, add_mul, mul_assoc]
    refine reads_separator.complete.seq (reads_skip_ncname.complete.seq
      (reads_separator.complete.seq hid ?_) nameStops_S.mul_right) stops_ncName.mul_right
    exact (Before.add (stops_externalID rfl rfl) (Scan.stops_word rfl).mul_right).mul_right

/-! ## Attribute lists -/

/-- A token of an enumeration, a name where notations are listed. -/
theorem reads_enumerationToken (names : Bool) :
    Reads (enumerationToken names) (enumToken names) (Stops Xml.isNameChar) := by
  cases names with
  | true => exact reads_skip_ncname
  | false =>
    refine ⟨?_, ?_⟩
    · refine (Scan.sound_takeWhile nameChar).bind (fun text => Scan.sound_require _ _)
        (fun text _ => Scan.mul_onlyIf_le ?_)
      rintro hne w ⟨rfl, hw⟩
      rw [nameChar_eq] at hw
      refine mem_nmtoken.mpr ⟨?_, hw⟩
      rintro rfl
      exact Bool.false_ne_true hne
    · refine Complete.of_words (fun w hw => ?_)
      obtain ⟨hne, h⟩ := mem_nmtoken.mp hw
      have htake := Scan.complete_takeWhile (ε := ParseError) (p := nameChar) (w := w)
        (nameChar_eq ▸ h)
      rw [nameChar_eq] at htake
      have hnonempty : (!w.isEmpty) = true := by simpa using hne
      have hall := htake.bind (f := fun text => require (!text.isEmpty) _)
        (Scan.complete_require hnonempty (invalid "empty DTD enumeration token"))
        (Scan.before_one (fun _ hr => hr))
      rw [mul_one, ← nameChar_eq] at hall
      rw [← nameChar_eq]
      exact hall

/-- A token with the blanks around it, and the mark behind. -/
def enumItem (names : Bool) (mark : Char) : Scan.Words :=
  blank * (enumToken names * (blank * word [mark]))

/-- A turn takes one token, and goes on behind a bar. -/
theorem sound_enumerationTurn (names : Bool) :
    Sound (enumerationTurn names ())
      (Sum.elim (fun _ => enumItem names '|') (fun _ => enumItem names ')')) := by
  have htail := (Scan.sound_pure (ε := ParseError) (Sum.inr () : Unit ⊕ Unit)).ifTake
    (t := [')']) ((reads_token "|" (F := Anything)).sound.seq
      (Scan.sound_pure (Sum.inl () : Unit ⊕ Unit)))
    (N := Sum.elim (fun _ => word ['|']) (fun _ => word [')']))
    (fun t => Scan.mul_onlyIf_le (fun h => h ▸ le_rfl))
    (fun t => Scan.mul_onlyIf_le (fun h => h ▸ le_rfl))
  refine (reads_skip_space.sound.seq ((reads_enumerationToken names).sound.seq
    (reads_skip_space.sound.seq htail))).mono (fun t => ?_)
  cases t <;> exact le_rfl

/-- A token with its mark, and white space around it. -/
theorem complete_enumItem {names : Bool} {mark : Char} {t : Unit ⊕ Unit}
    {tail : Scan ParseError (Unit ⊕ Unit)} (htail : Complete tail t (word [mark]) F)
    (hspace : Xml.isSpace mark = false) (hname : Xml.isNameChar mark = false) :
    Complete (skip space >>= fun _ => enumerationToken names >>= fun _ => skip space >>= fun _ =>
      tail) t (enumItem names mark) F :=
  reads_skip_space.complete.seq ((reads_enumerationToken names).complete.seq
    (reads_skip_space.complete.seq htail (Scan.stops_word hspace))
    (nameStops_blank.mul (Scan.stops_word hname))) stops_enumToken.mul_right

/-- An enumeration is one token or more. -/
theorem reads_enumeration (names : Bool) :
    Reads (enumeration names) ((enumItem names '|')∗ * enumItem names ')') F := by
  have hmark : ∀ {mark : Char} {L M N : Scan.Words}, [] ∉ L * (M * (N * word [mark])) := by
    intro mark L M N h
    obtain ⟨a, -, b, hb, hab⟩ := Language.mem_mul.mp h
    obtain ⟨c, -, d, hd, rfl⟩ := Language.mem_mul.mp hb
    obtain ⟨e, -, f, rfl, rfl⟩ := Language.mem_mul.mp hd
    simp at hab
  refine Reads.loop (sound_enumerationTurn names) (complete_enumItem (F := Anything)
    (Complete.passed ?_ ?_) rfl rfl) hmark (complete_enumItem ?_ rfl rfl)
    Scan.before_anything Scan.before_anything
  · have h := (reads_token "|" (F := Anything)).complete.seq
      (Scan.complete_pure (Sum.inl () : Unit ⊕ Unit) (F := Anything)) Scan.before_anything
    rwa [mul_one] at h
  · exact Scan.notNext_word (by decide) (by decide)
  · have h := Complete.taken (t := [')']) (q := token "|" >>= fun _ => pure (Sum.inl ()))
      (Scan.complete_pure (ε := ParseError) (Sum.inr () : Unit ⊕ Unit) (F := F))
    rwa [mul_one] at h

omit [XmlStream] [LawfulXmlStream] in
/-- The tokens of an enumeration, each with the mark behind it, are those of the grammar
with the bars between them. -/
theorem enumerated_eq (names : Bool) :
    word ['('] * ((enumItem names '|')∗ * enumItem names ')') = enumerated (enumToken names) := by
  have hcomm := Scan.kstar_mul_comm (blank * enumToken names) (blank * word ['|'])
  calc word ['('] * ((enumItem names '|')∗ * enumItem names ')')
      = word ['('] * ((blank * enumToken names * (blank * word ['|']))∗
          * (blank * enumToken names) * (blank * word [')'])) := by
        simp only [enumItem, mul_assoc]
    _ = enumerated (enumToken names) := by
        rw [hcomm]
        simp only [enumerated, mul_assoc]

/-- The types that are a single word. -/
def typeNames : Scan.Words := {w | attributeTypes.any (fun type => type.toList == w) = true}

omit [XmlStream] [LawfulXmlStream] in
/-- The keywords of the types are the code's table. -/
theorem mem_typeNames {w : List Char} :
    w ∈ typeNames ↔ ∃ type ∈ attributeTypes, type.toList = w := by
  show attributeTypes.any (fun type => type.toList == w) = true ↔ _
  simp only [List.any_eq_true, beq_iff_eq]

omit [XmlStream] [LawfulXmlStream] in
/-- The types by what they begin with: a keyword, the one for notations, or a parenthesis. -/
theorem attType_eq : attType = typeNames + (notationType + enumerated nmtoken) := by
  have hnames : typeNames = word "CDATA".toList
      + (word "ID".toList + word "IDREF".toList + word "IDREFS".toList + word "ENTITY".toList
        + word "ENTITIES".toList + word "NMTOKEN".toList + word "NMTOKENS".toList) := by
    ext w
    rw [mem_typeNames]
    simp only [attributeTypes, List.mem_cons, List.not_mem_nil, or_false, exists_eq_or_imp,
      exists_eq_left, Language.mem_add, Scan.mem_word, eq_comm (a := w), or_assoc]
  rw [hnames, attType]

/-- The branch of a type that is named by a word. -/
theorem sound_namedType : Sound (name >>= fun text =>
    if text = "NOTATION".toList then separator >>= fun _ => token "(" >>= fun _ => enumeration true
    else require (attributeTypes.any (fun type => type.toList == text))
      (invalid "invalid DTD attribute type")) (fun _ => typeNames + notationType) := by
  have hnotation : Sound (separator >>= fun _ => token "(" >>= fun _ => enumeration true)
      (fun _ => S * enumerated ncName) := by
    have h := reads_separator.sound.seq ((reads_token "(" (F := Anything)).sound.seq
      (reads_enumeration true (F := Anything)).sound)
    exact h.mono (fun _ => mul_le_mul_right (enumerated_eq true).le _)
  refine sound_name.bind (M := fun text _ => if text = "NOTATION".toList then S * enumerated ncName
    else onlyIf (attributeTypes.any (fun type => type.toList == text) = true)) (fun text => ?_)
    (fun text _ => ?_)
  · split
    · exact hnotation
    · exact Scan.sound_require _ _
  · split
    · next heq =>
      refine le_sup_of_le_right (mul_le_mul_left ?_ _)
      rintro w ⟨rfl, -⟩
      exact heq
    · refine le_sup_of_le_left (Scan.mul_onlyIf_le ?_)
      rintro h w ⟨rfl, -⟩
      exact h

/-- A type that is taken is one of the grammar. -/
theorem sound_attributeType : Sound attributeType (fun _ => attType) := by
  rw [attType_eq]
  refine (reads_enumeration false (F := Anything)).sound.ifTake sound_namedType (fun _ => ?_)
    (fun _ => ?_)
  · exact (enumerated_eq false).le.trans (le_sup_of_le_right le_sup_right)
  · rw [← add_assoc]
    exact le_sup_left

/-- A whole name is read and compared, so no keyword is the beginning of a longer one. -/
theorem complete_attributeType : Complete attributeType () attType (Stops Xml.isNameChar) := by
  have hopen : ∀ {L : Scan.Words}, (∀ w ∈ L, Xml.isName w = true) →
      Before (NotNext ['(']) L (Stops Xml.isNameChar) := fun hL =>
    before_name hL (fun _ _ h => notNext_of_isNameStartChar h rfl)
  have hnames : ∀ w ∈ typeNames, Xml.isName w = true ∧ w ≠ "NOTATION".toList := by
    have hall : ∀ type ∈ attributeTypes,
        Xml.isName type.toList = true ∧ type.toList ≠ "NOTATION".toList := by decide
    intro w hw
    obtain ⟨type, htype, rfl⟩ := mem_typeNames.mp hw
    exact hall type htype
  rw [attType_eq]
  refine Complete.add (Complete.passed (Complete.of_words (fun w hw => ?_))
    (hopen (fun w hw => (hnames w hw).1))) (Complete.add (Complete.passed ?_ ?_) ?_)
  · have h := (complete_name (hnames w hw).1).bind (f := fun text =>
        if text = "NOTATION".toList then
          separator >>= fun _ => token "(" >>= fun _ => enumeration true
        else require (attributeTypes.any (fun type => type.toList == text))
          (invalid "invalid DTD attribute type"))
      (Complete.ite_neg (hnames w hw).2 (Scan.complete_require hw _))
      (Scan.before_one (fun _ hr => hr))
    rwa [mul_one] at h
  · have hrest : Complete (separator >>= fun _ => token "(" >>= fun _ => enumeration true) ()
        (S * enumerated ncName) (Stops Xml.isNameChar) := by
      have h := reads_separator.complete.seq ((reads_token "(" (F := Anything)).complete.seq
        (reads_enumeration true (F := Stops Xml.isNameChar)).complete Scan.before_anything)
        (Scan.stops_word rfl).mul_right
      exact h.of_le (mul_le_mul_right (enumerated_eq true).ge _)
    exact (complete_name (n := "NOTATION".toList) (by decide)).bind (Complete.ite_pos rfl hrest)
      nameStops_S.mul_right
  · exact (Scan.notNext_word (by decide) (by decide)).mul_right
  · exact (reads_enumeration false).complete.taken.of_le (enumerated_eq false).ge

/-- The default of an attribute. -/
theorem reads_attributeDefault : Reads attributeDefault defaultDecl F := by
  have hvalue : Reads (valueLiteral true) attValue F := reads_valueLiteral true
  have hquote : ∀ {text : List Char}, Before (NotNext ('#' :: text)) attValue F := by
    intro text
    unfold attValue Xml.Doctype.valueLiteral
    exact before_quoted (fun q r hq => notNext_cons (by rcases hq with rfl | rfl <;> decide))
  have hfixed : Reads (separator >>= fun _ => valueLiteral true) (S * attValue) F :=
    reads_separator.seq hvalue (by unfold attValue Xml.Doctype.valueLiteral; exact stops_quoted)
  have hlast := hfixed.ifTake (t := "#FIXED".toList) hvalue hquote
  have hnext := (Scan.reads_pure (ε := ParseError)).ifTake (t := "#IMPLIED".toList) hlast
    (Before.add (Scan.notNext_word (by decide) (by decide)).mul_right hquote)
  refine ((Scan.reads_pure (ε := ParseError)).ifTake (t := "#REQUIRED".toList) hnext
    (Before.add (Scan.notNext_word (by decide) (by decide)).mul_right
      (Before.add (Scan.notNext_word (by decide) (by decide)).mul_right hquote))).of_eq ?_
  simp only [defaultDecl, opt, mul_one, add_mul, one_mul, mul_assoc, add_assoc]

omit [XmlStream] [LawfulXmlStream] in
theorem stops_attType {G : List Char → Prop} : Before (Stops Xml.isSpace) attType G := by
  have hnames : ∀ w ∈ typeNames, Xml.isName w = true := by
    have hall : ∀ type ∈ attributeTypes, Xml.isName type.toList = true := by decide
    intro w hw
    obtain ⟨type, htype, rfl⟩ := mem_typeNames.mp hw
    exact hall type htype
  rw [attType_eq]
  refine Before.add (before_name hnames (fun _ _ h =>
    Scan.stops_cons.mpr (isSpace_of_isNameStartChar h))) (Before.add ?_ ?_)
  · exact (Scan.stops_word rfl).mul_right
  · exact (Scan.stops_word rfl).mul_right

omit [XmlStream] [LawfulXmlStream] in
theorem stops_defaultDecl {G : List Char → Prop} : Before (Stops Xml.isSpace) defaultDecl G := by
  have hvalue : ∀ {G : List Char → Prop}, Before (Stops Xml.isSpace) attValue G := by
    intro G
    unfold attValue Xml.Doctype.valueLiteral
    exact stops_quoted
  refine Before.add (Before.add (Scan.stops_word rfl) (Scan.stops_word rfl)) ?_
  rw [opt, add_mul, one_mul]
  exact Before.add ((Scan.stops_word rfl).mul_right.mul_right) hvalue

/-- A turn takes the definition of one attribute, or the end of the list. -/
theorem sound_attlistTurn : Sound (attlistTurn ())
    (Sum.elim (fun _ => attDef) (fun _ => closing)) := by
  have hrest : ∀ found, Sound (require found (invalid "missing DTD attribute separator") >>= fun _ =>
      skip qname >>= fun _ => separator >>= fun _ => attributeType >>= fun _ => separator >>= fun _ =>
      attributeDefault >>= fun _ => pure (Sum.inl () : Unit ⊕ Unit))
      (fun t => onlyIf (found = true) * (qName * (S * (attType * (S * (defaultDecl
        * onlyIf (t = Sum.inl ()))))))) := fun found =>
    (Scan.sound_require found _).seq (reads_skip_qname.sound.seq (reads_separator.sound.seq
      (sound_attributeType.seq (reads_separator.sound.seq
        ((reads_attributeDefault (F := Anything)).sound.seq (Scan.sound_pure _))))))
  have hend : ∀ t : Unit ⊕ Unit, onlyIf (t = Sum.inl ()) ≤ Sum.elim (fun _ => (1 : Scan.Words)) (fun _ => 0) t := by
    rintro (t | t)
    · exact Scan.onlyIf_le (fun _ => le_rfl)
    · exact Scan.onlyIf_le (fun h => by cases h)
  refine sound_space.bind (M := fun found => Sum.elim
    (fun _ => onlyIf (found = true) * (qName * (S * (attType * (S * defaultDecl)))))
    (fun _ => word ['>'])) (fun found => ?_) (fun found t => ?_)
  · refine (Scan.sound_pure _).ifTake (hrest found)
      (fun t => Scan.mul_onlyIf_le (fun h => h ▸ le_rfl)) (fun t => ?_)
    refine (mul_le_mul_right (mul_le_mul_right (mul_le_mul_right (mul_le_mul_right (mul_le_mul_right
      (mul_le_mul_right (hend t) _) _) _) _) _) _).trans ?_
    cases t with
    | inl u => exact (by simp only [Sum.elim_inl, mul_one]; exact le_rfl)
    | inr u => simp only [Sum.elim_inr, mul_zero]; exact bot_le
  · cases t with
    | inl u =>
      cases found with
      | true => exact mul_le_mul_right (Scan.onlyIf_mul_le (fun _ => le_rfl)) S
      | false =>
        refine (one_mul _).le.trans (Scan.onlyIf_mul_le (fun h => ?_))
        exact absurd h Bool.false_ne_true
    | inr u =>
      cases found with
      | true => exact mul_le_mul_left S_le_blank _
      | false => exact mul_le_mul_left one_le_blank _

omit [LawfulXmlStream] in
/-- The end of the list ends the loop. -/
theorem complete_attlistTurn_stop : Complete (attlistTurn ()) (.inr ()) closing F := by
  intro w hw r _
  obtain ⟨b, hb, _, rfl, rfl⟩ := Language.mem_mul.mp hw
  rw [List.append_assoc]
  refine Scan.bind_eq_ok.mpr ⟨_, _, complete_space hb b rfl _ (Scan.stops_cons.mpr rfl), ?_⟩
  exact Scan.bind_eq_ok.mpr ⟨true, r, Scan.take_append ['>'] r, rfl⟩

/-- A definition that is there is taken; the white space before it is what separates it from
the one before. -/
theorem complete_attlistTurn : Complete (attlistTurn ()) (.inl ()) attDef F := by
  have hrest := (Scan.complete_require (show true = true from rfl)
    (invalid "missing DTD attribute separator") (F := Anything)).seq
    (reads_skip_qname.complete.seq (reads_separator.complete.seq (complete_attributeType.seq
      (reads_separator.complete.seq ((reads_attributeDefault (F := Anything)).complete.seq
        (Scan.complete_pure (Sum.inl () : Unit ⊕ Unit) (F := F)) Scan.before_anything)
        stops_defaultDecl.mul_right) nameStops_S.mul_right) stops_attType.mul_right)
      nameStops_S.mul_right) Scan.before_anything
  rw [one_mul, mul_one] at hrest
  refine complete_space_S.bind (hrest.passed ?_) stops_qName.mul_right
  exact (before_qName (fun _ _ h => notNext_of_isNameStartChar h rfl)).mul_right

/-- **A list of attributes** declares any number of them for one element. -/
theorem reads_attlist : Reads attlist (S * (qName * (attDef∗ * closing))) F := by
  have hne : [] ∉ attDef := by
    intro h
    obtain ⟨s, hs, t, -, hst⟩ := Language.mem_mul.mp h
    exact (mem_S.mp hs).1 (List.append_eq_nil_iff.mp hst).1
  have hloop : Reads (Scan.loop attlistTurn ()) (attDef∗ * closing) F :=
    Reads.loop sound_attlistTurn (complete_attlistTurn (F := Anything)) hne
      complete_attlistTurn_stop Scan.before_anything Scan.before_anything
  refine reads_separator.seq (reads_skip_qname.seq hloop ?_) stops_qName.mul_right
  exact (Before.kstar nameStops_S.mul_right (fun _ hr => hr)).mul nameStops_closing

end Names

end Dtd

end Szamlazz.Adatkapcsolat
