import Szamlazz.Push.ContentModel

/-!
# The declaration is read exactly

The declarations of the internal subset one by one, the subset as a loop over them, and
the document type declaration as a whole.
-/

open scoped Computability

namespace Szamlazz.Adatkapcsolat.Dtd

open Scan (Sound Complete Reads Before Stops NotNext Anything Avoids word letter letters onlyIf take
  need require refuse skip)
open Xml.Doctype

/-! ## Comments -/

/-- The text of a comment: a dash is followed by something else. -/
def commentText : Scan.Words :=
  (letter (fun c => Xml.isChar c && c != '-')
    + word ['-'] * letter (fun c => Xml.isChar c && c != '-'))∗

/-- A text avoids a mark from its first character on. -/
theorem avoids_cons {mark w : List Char} {c : Char} :
    Avoids mark (c :: w) ↔ ¬ mark <+: c :: (w ++ mark) ∧ Avoids mark w := by
  constructor
  · intro h
    refine ⟨h [] (c :: w) rfl (List.cons_ne_nil c w), fun u v huv hv => h (c :: u) v ?_ hv⟩
    rw [huv, List.cons_append]
  · rintro ⟨hhere, hrest⟩ u v huv hv
    cases u with
    | nil =>
      rw [List.nil_append] at huv
      subst huv
      exact hhere
    | cons d u =>
      rw [List.cons_append, List.cons.injEq] at huv
      exact hrest u v huv.2 hv

/-- The empty text avoids any mark. -/
theorem avoids_nil {mark : List Char} : Avoids mark [] := fun _ _ huv hv =>
  absurd (List.append_eq_nil_iff.mp huv.symm).2 hv

/-- A character that does not start the mark goes in front. -/
theorem avoids_of_ne {mark w : List Char} {c d : Char} (h : c ≠ d) (hw : Avoids (d :: mark) w) :
    Avoids (d :: mark) (c :: w) :=
  avoids_cons.mpr ⟨fun ⟨_, hprefix⟩ => h (List.cons.inj hprefix).1.symm, hw⟩

/-- The text of a comment is of XML characters and avoids two hyphens. -/
theorem mem_commentText {w : List Char} :
    w ∈ commentText ↔ (∀ c ∈ w, Xml.isChar c = true) ∧ Avoids ['-', '-'] w := by
  have hletter : ∀ {c : Char}, Xml.isChar c = true → c ≠ '-' →
      [c] ∈ letter (fun c => Xml.isChar c && c != '-') := fun hc hne =>
    ⟨_, Bool.and_eq_true_iff.mpr ⟨hc, bne_iff_ne.mpr hne⟩, rfl⟩
  constructor
  · intro h
    obtain ⟨words, rfl, hwords⟩ := Language.mem_kstar.mp h
    clear h
    induction words with
    | nil => exact ⟨fun _ hc => absurd hc List.not_mem_nil, avoids_nil⟩
    | cons u us ih =>
      obtain ⟨hchars, havoids⟩ := ih (fun v hv => hwords v (List.mem_cons_of_mem u hv))
      rw [List.flatten_cons]
      rcases hwords u List.mem_cons_self with ⟨c, hc, rfl⟩ | hu
      · rw [Bool.and_eq_true, bne_iff_ne] at hc
        exact ⟨List.forall_mem_cons.mpr ⟨hc.1, hchars⟩, avoids_of_ne hc.2 havoids⟩
      · obtain ⟨_, rfl, _, ⟨c, hc, rfl⟩, rfl⟩ := Language.mem_mul.mp hu
        rw [Bool.and_eq_true, bne_iff_ne] at hc
        refine ⟨List.forall_mem_cons.mpr ⟨by decide, List.forall_mem_cons.mpr ⟨hc.1, hchars⟩⟩, ?_⟩
        refine avoids_cons.mpr ⟨?_, avoids_of_ne hc.2 havoids⟩
        rintro ⟨rest, hprefix⟩
        exact hc.2 (List.cons.inj (List.cons.inj hprefix).2).1.symm
  · rintro ⟨hchars, havoids⟩
    have hle : (letter (fun c => Xml.isChar c && c != '-')
        + word ['-'] * letter (fun c => Xml.isChar c && c != '-')) * commentText ≤ commentText :=
      mul_kstar_le_kstar
    -- the induction takes one character, or a dash and the character behind it
    obtain ⟨n, hn⟩ : ∃ n, w.length ≤ n := ⟨_, le_rfl⟩
    induction n generalizing w with
    | zero => exact List.eq_nil_of_length_eq_zero (Nat.le_zero.mp hn) ▸ Language.nil_mem_kstar _
    | succ n ih =>
      cases w with
      | nil => exact Language.nil_mem_kstar _
      | cons c w =>
        rw [List.length_cons] at hn
        obtain ⟨hc, hw⟩ := List.forall_mem_cons.mp hchars
        obtain ⟨hhere, hthere⟩ := avoids_cons.mp havoids
        by_cases hdash : c = '-'
        · subst hdash
          cases w with
          | nil => exact absurd ⟨['-'], rfl⟩ hhere
          | cons d w =>
            rw [List.length_cons] at hn
            obtain ⟨hd, hw⟩ := List.forall_mem_cons.mp hw
            have hne : d ≠ '-' := by
              rintro rfl
              exact hhere ⟨w ++ ['-', '-'], rfl⟩
            have hrest := ih hw (avoids_cons.mp hthere).2 (by omega)
            exact hle (Language.append_mem_mul (a := ['-', d])
              (Or.inr (Language.append_mem_mul (a := ['-']) rfl (hletter hd hne))) hrest)
        · exact hle (Language.append_mem_mul (a := [c]) (Or.inl (hletter hc hdash))
            (ih hw hthere (by omega)))

section Pieces

variable {F : List Char → Prop}

/-- **A comment** is read. -/
theorem reads_comment : Reads comment (commentText * word "-->".toList) F where
  sound := by
    refine (Scan.sound_upTo "--".toList _).bind (fun text => (Scan.sound_require _ _).seq
      (reads_token "-->" (F := Anything)).sound) (fun text _ => ?_)
    rintro w hw
    obtain ⟨_, ⟨rfl, havoids⟩, v, hv, rfl⟩ := Language.mem_mul.mp hw
    obtain ⟨_, ⟨rfl, hall⟩, y, hy, rfl⟩ := Language.mem_mul.mp hv
    refine Language.append_mem_mul (mem_commentText.mpr ⟨fun c hc => ?_, havoids⟩) hy
    exact isXmlCharacter_eq ▸ List.all_eq_true.mp hall c hc
  complete := by
    intro w hw r _
    obtain ⟨text, htext, _, rfl, rfl⟩ := Language.mem_mul.mp hw
    obtain ⟨hchars, havoids⟩ := mem_commentText.mp htext
    have hall : text.all isXmlCharacter = true :=
      List.all_eq_true.mpr (fun c hc => isXmlCharacter_eq ▸ hchars c hc)
    have h := (Scan.complete_upTo (ε := ParseError) (List.cons_ne_nil '-' ['-']) havoids
      (invalid "unclosed DTD comment")).bind (f := fun text =>
        require (text.all isXmlCharacter) (invalid "forbidden DTD comment character") >>= fun _ =>
          token "-->") ((Scan.complete_require hall _ (F := Anything)).seq
            (reads_token "-->" (F := Anything)).complete Scan.before_anything) ?_
    · rw [one_mul] at h
      exact h _ (Language.append_mem_mul rfl rfl) r trivial
    · rw [one_mul]
      rintro _ rfl r -
      exact ⟨'>' :: r, rfl⟩

end Pieces

/-! ## Processing instructions -/

/-- The target is the grammar's. -/
theorem validPiTarget_iff {w : List Char} (h : w ∈ ncName) :
    validPiTarget w = true ↔ w ∈ piTarget := by
  have htarget : isXmlTarget w = true ↔ w.map Char.toLower = "xml".toList := beq_iff_eq
  have hname := isNcname_iff.mpr h
  cases w with
  | nil => cases hname
  | cons c cs =>
    rw [isNcname, Bool.and_eq_true, List.all_eq_true] at hname
    have hall : cs.all (fun ch => xmlNcnameStart ch || ch == '-' || ch == '.'
        || Xml.within [(0x30, 0x39), (0xB7, 0xB7), (0x300, 0x36F), (0x203F, 0x2040)] ch) = true := by
      refine List.all_eq_true.mpr (fun d hd => ?_)
      have hd := hname.2 d hd
      simp only [nameChar, Bool.and_eq_true, bne_iff_ne, Bool.or_eq_true, beq_iff_eq] at hd ⊢
      tauto
    rw [validPiTarget, hname.1, hall, Bool.and_true, Bool.and_true, Bool.not_eq_true',
      Bool.eq_false_iff, Ne, htarget]
    exact ⟨fun hne => ⟨h, hne⟩, fun hw => hw.2⟩

/-- The end of an instruction is in its text where it begins in it. -/
theorem avoids_iff {w : List Char} : Avoids ['?', '>'] w ↔ ¬ ['?', '>'] <:+: w := by
  induction w with
  | nil => simp [avoids_nil]
  | cons c w ih =>
    have hhere : ['?', '>'] <+: c :: (w ++ ['?', '>']) ↔ ['?', '>'] <+: c :: w := by
      cases w with
      | nil =>
        simp
      | cons d w => simp
    rw [avoids_cons, ih, List.infix_cons_iff, not_or, hhere]

/-- The text of an instruction avoids its end. -/
theorem mem_piText {w : List Char} :
    w ∈ piText ↔ (∀ c ∈ w, Xml.isChar c = true) ∧ Avoids ['?', '>'] w := by
  rw [avoids_iff, piText, Scan.kstar_letter]
  rfl

/-- What comes behind the target of an instruction. -/
def piRest : Scan.Words := S * (piText * word "?>".toList) + word "?>".toList

/-- The pieces of an instruction are the grammar's. -/
theorem pi_eq : word "<?".toList * (piTarget * piRest) = Xml.Doctype.pi := by
  rw [Xml.Doctype.pi, piRest, opt, add_mul, one_mul, mul_assoc]

/-- The text of an instruction, as `instruction` reads it. -/
def instructionText : Scan ParseError Unit := do
  let text ← Scan.past "?>".toList (invalid "unclosed DTD processing instruction")
  require (text.all isXmlCharacter) (invalid "forbidden DTD instruction character")

/-- What `instruction` reads behind the target. -/
def instructionRest : Scan ParseError Unit := do
  if ← take "?>".toList then pure ()
  else
    separator
    instructionText

/-- The text is read to the end mark. -/
theorem reads_instructionText {F : List Char → Prop} :
    Reads instructionText (piText * word "?>".toList) F where
  sound := by
    refine (Scan.sound_past "?>".toList _).bind (fun text => Scan.sound_require _ _)
      (fun text _ => Scan.mul_onlyIf_le ?_)
    rintro hall w ⟨rfl, havoids⟩
    refine Language.append_mem_mul (mem_piText.mpr ⟨fun c hc => ?_, havoids⟩) rfl
    exact isXmlCharacter_eq ▸ List.all_eq_true.mp hall c hc
  complete := by
    intro w hw r _
    obtain ⟨text, htext, _, rfl, rfl⟩ := Language.mem_mul.mp hw
    obtain ⟨hchars, havoids⟩ := mem_piText.mp htext
    have hall : text.all isXmlCharacter = true :=
      List.all_eq_true.mpr (fun c hc => isXmlCharacter_eq ▸ hchars c hc)
    have h := (Scan.complete_past (ε := ParseError) (List.cons_ne_nil '?' ['>']) havoids
      (invalid "unclosed DTD processing instruction") (F := Anything)).bind (f := fun text =>
        require (text.all isXmlCharacter) (invalid "forbidden DTD instruction character"))
        (Scan.complete_require hall _ (F := Anything)) Scan.before_anything
    rw [mul_one] at h
    exact h _ rfl r trivial

/-- The text of an instruction, without the white space before it. -/
def piBody : Scan.Words := {w | w ∈ piText ∧ Stops Xml.isSpace w}

/-- Behind space the text is the grammar's. -/
theorem S_mul_piText : S * piText = S * piBody := by
  refine le_antisymm ?_ (mul_le_mul_right (fun w hw => hw.1) S)
  intro w hw
  obtain ⟨b, hb, t, ht, rfl⟩ := Language.mem_mul.mp hw
  obtain ⟨hchars, havoids⟩ := mem_piText.mp ht
  have hdrop : t.dropWhile Xml.isSpace ∈ piBody := by
    have hsuffix : t.dropWhile Xml.isSpace <:+ t := List.dropWhile_suffix _
    refine ⟨mem_piText.mpr ⟨fun c hc => hchars c (hsuffix.subset hc), ?_⟩, ?_⟩
    · rw [avoids_iff] at havoids ⊢
      exact fun h => havoids (h.trans hsuffix.isInfix)
    · intro c hc
      have h := List.head?_dropWhile_not Xml.isSpace t
      rw [Option.mem_def.mp hc] at h
      exact h
  have hspace : b ++ t.takeWhile Xml.isSpace ∈ S := by
    have h := mem_S.mp hb
    refine mem_S.mpr ⟨fun hnil => h.1 (List.append_eq_nil_iff.mp hnil).1, fun c hc => ?_⟩
    rcases List.mem_append.mp hc with hc | hc
    · exact h.2 c hc
    · exact List.mem_takeWhile_imp hc
  have hall := Language.append_mem_mul hspace hdrop
  rwa [List.append_assoc, List.takeWhile_append_dropWhile] at hall

section Names

variable [XmlStream] [LawfulXmlStream] {F : List Char → Prop}

omit [XmlStream] [LawfulXmlStream] in
/-- What is behind the space does not start with space. -/
theorem stops_piBody : Before (Stops Xml.isSpace) (piBody * word "?>".toList) F := by
  have hbody : Before (Stops Xml.isSpace) piBody (Stops Xml.isSpace) := by
    rintro (_ | ⟨c, cs⟩) ⟨-, hw⟩ r hr
    · exact hr
    · exact Scan.stops_cons.mpr (hw c rfl)
  exact hbody.mul (Scan.stops_word rfl)

omit [XmlStream] [LawfulXmlStream] in
/-- What is behind the target is read. -/
theorem reads_instructionRest : Reads instructionRest piRest F := by
  have htext := reads_instructionText (F := F)
  refine ⟨?_, Complete.add (Complete.passed ?_ ?_) ?_⟩
  · refine (Scan.sound_pure ()).ifTake (reads_separator.sound.seq htext.sound)
      (fun _ => Scan.mul_onlyIf_le (fun _ => le_sup_right)) (fun _ => le_sup_left)
  · refine (reads_separator.complete.seq (htext.complete.of_le ?_) stops_piBody).of_le (le_of_eq ?_)
    · exact mul_le_mul_left (fun w hw => hw.1) _
    · rw [← mul_assoc, ← mul_assoc, S_mul_piText]
  · refine Before.mul_right (before_S (fun c r hc => notNext_cons ?_))
    rintro rfl
    exact absurd hc (by decide)
  · have h := Complete.taken (t := "?>".toList) (q := separator >>= fun _ => instructionText)
      (Scan.complete_pure (ε := ParseError) () (F := F))
    rwa [mul_one] at h

/-- **A processing instruction** is read. -/
theorem reads_instruction : Reads instruction (piTarget * piRest) F where
  sound := by
    refine sound_ncname.bind (fun target => (Scan.sound_require _ _).seq
      (reads_instructionRest (F := Anything)).sound) (fun target _ w hw => ?_)
    obtain ⟨n, ⟨rfl, hn⟩, v, hv, rfl⟩ := Language.mem_mul.mp hw
    obtain ⟨_, ⟨rfl, hvalid⟩, y, hy, rfl⟩ := Language.mem_mul.mp hv
    exact Language.append_mem_mul ((validPiTarget_iff hn).mp hvalid) hy
  complete := by
    have hstops : Before (Stops Xml.isNameChar) piRest F :=
      Before.add nameStops_S.mul_right (Scan.stops_word (by decide))
    intro w hw r hr
    obtain ⟨n, hn, v, hv, rfl⟩ := Language.mem_mul.mp hw
    have h := (complete_ncname hn.1).bind (f := fun target => require (validPiTarget target)
      (invalid "invalid DTD processing instruction target") >>= fun _ => instructionRest)
      ((Scan.complete_require ((validPiTarget_iff hn.1).mpr hn) _ (F := Anything)).seq
        (reads_instructionRest (F := F)).complete Scan.before_anything) (by rwa [one_mul])
    rw [one_mul] at h
    exact h _ (Language.append_mem_mul rfl hv) r hr

/-- A reference to a parameter entity is read. -/
theorem reads_parameterReference : Reads parameterReference (ncName * word [';']) F :=
  reads_skip_ncname.seq (reads_token ";") (Scan.stops_word (by decide))

/-! ## The internal subset -/

/-- **The declaration of an entity** is read. -/
theorem reads_entity :
    Reads entity (S * (entityRest entityDef + word ['%'] * (S * entityRest peDef))) F :=
  ⟨sound_entity, complete_entity⟩

/-- **What stands between declarations**, and the declarations. -/
theorem reads_markup : Reads markup (markupdecl + peReference) F := by
  have hnot : ∀ {t t' : List Char} {L : Scan.Words}, ¬ t <+: t' → ¬ t' <+: t →
      Before (NotNext t) (word t' * L) F := fun h h' => (Scan.notNext_word h h').mul_right
  have hreference := reads_parameterReference.ifTake (t := ['%'])
    (Scan.reads_refuse (F := F) (invalid "invalid DTD internal subset")) Scan.before_zero
  have hinstruction := reads_instruction.ifTake (t := "<?".toList) hreference
    (Before.add (hnot (by decide) (by decide)) Scan.before_zero)
  have hcomment := reads_comment.ifTake (t := "<!--".toList) hinstruction
    (Before.add (hnot (by decide) (by decide)) (Before.add (hnot (by decide) (by decide))
      Scan.before_zero))
  have hnotation := reads_notationDecl.ifTake (t := "<!NOTATION".toList) hcomment
    (Before.add (hnot (by decide) (by decide)) (Before.add (hnot (by decide) (by decide))
      (Before.add (hnot (by decide) (by decide)) Scan.before_zero)))
  have hentity := reads_entity.ifTake (t := "<!ENTITY".toList) hnotation
    (Before.add (hnot (by decide) (by decide)) (Before.add (hnot (by decide) (by decide))
      (Before.add (hnot (by decide) (by decide)) (Before.add (hnot (by decide) (by decide))
        Scan.before_zero))))
  have hattlist := reads_attlist.ifTake (t := "<!ATTLIST".toList) hentity
    (Before.add (hnot (by decide) (by decide)) (Before.add (hnot (by decide) (by decide))
      (Before.add (hnot (by decide) (by decide)) (Before.add (hnot (by decide) (by decide))
        (Before.add (hnot (by decide) (by decide)) Scan.before_zero)))))
  refine (reads_element.ifTake (t := "<!ELEMENT".toList) hattlist
    (Before.add (hnot (by decide) (by decide)) (Before.add (hnot (by decide) (by decide))
      (Before.add (hnot (by decide) (by decide)) (Before.add (hnot (by decide) (by decide))
        (Before.add (hnot (by decide) (by decide)) (Before.add (hnot (by decide) (by decide))
          Scan.before_zero))))))).of_eq ?_
  have hentities : word "<!ENTITY".toList * (S * (entityRest entityDef
      + word ['%'] * (S * entityRest peDef))) = entityDecl := by
    simp only [entityDecl, entityRest, closing, mul_add]
  have hcomments : word "<!--".toList * (commentText * word "-->".toList) = Xml.Doctype.comment :=
    rfl
  rw [hentities, pi_eq, hcomments, add_zero, markupdecl]
  show elementdecl + (attlistDecl + (entityDecl + (Xml.Doctype.notationDecl
    + (Xml.Doctype.comment + (Xml.Doctype.pi + peReference))))) = _
  simp only [add_assoc, add_left_comm Xml.Doctype.comment]

/-- What a turn of the internal subset reads. -/
def subsetItem : Scan.Words := blank * (markupdecl + peReference)

omit [XmlStream] [LawfulXmlStream] in
/-- Every declaration of the internal subset begins with `<` or `%`. -/
theorem before_markup {F G : List Char → Prop} (hmarkup : ∀ r, F ('<' :: r))
    (hreference : ∀ r, F ('%' :: r)) : Before F (markupdecl + peReference) G := by
  have hword : ∀ {cs : List Char} {L : Scan.Words} {G : List Char → Prop},
      Before F (word ('<' :: cs) * L) G := (Scan.before_word hmarkup).mul_right
  refine Before.add ?_ (Scan.before_word hreference).mul_right
  exact Before.add (Before.add (Before.add (Before.add (Before.add hword hword)
    (Before.add hword hword)) hword) hword) hword

omit [XmlStream] [LawfulXmlStream] in
/-- A piece of the subset is not empty. -/
theorem nil_notMem_subsetItem : [] ∉ subsetItem := by
  intro h
  obtain ⟨b, -, m, hm, hnil⟩ := Language.mem_mul.mp h
  have hne : Before (fun r : List Char => r ≠ []) (markupdecl + peReference) Anything :=
    before_markup (fun _ => List.cons_ne_nil _ _) (fun _ => List.cons_ne_nil _ _)
  have hm := hne m hm [] trivial
  rw [List.append_nil] at hm
  exact hm (List.append_eq_nil_iff.mp hnil).2

/-- What is taken is a piece of the subset, or its end. -/
theorem sound_subsetTurn : Sound (subsetTurn ())
    (Sum.elim (fun _ => subsetItem) (fun _ => blank * word [']'])) := by
  refine (reads_skip_space.sound.seq ((Scan.sound_pure _).ifTake ((reads_markup
    (F := Anything)).sound.seq (Scan.sound_pure _)) (N := Sum.elim
      (fun _ => markupdecl + peReference) (fun _ => word [']'])) ?_ ?_)).mono ?_
  · rintro (_ | _)
    · exact Scan.mul_onlyIf_le (fun h => by cases h)
    · exact Scan.mul_onlyIf_le (fun _ => le_rfl)
  · rintro (_ | _)
    · exact Scan.mul_onlyIf_le (fun _ => le_rfl)
    · exact Scan.mul_onlyIf_le (fun h => by cases h)
  · rintro (_ | _)
    · exact le_rfl
    · exact le_rfl

/-- Every piece is taken. -/
theorem complete_subsetTurn : Complete (subsetTurn ()) (.inl ()) subsetItem F := by
  have hmarkup := (reads_markup (F := Anything)).complete.seq
    (Scan.complete_pure (Sum.inl () : Unit ⊕ Unit) (F := F)) Scan.before_anything
  rw [mul_one] at hmarkup
  refine reads_skip_space.complete.seq (hmarkup.passed ?_) ?_
  · exact before_markup (fun _ => notNext_cons (by decide)) (fun _ => notNext_cons (by decide))
  · exact before_markup (fun _ => Scan.stops_cons.mpr rfl) (fun _ => Scan.stops_cons.mpr rfl)

omit [LawfulXmlStream] in
/-- And so is the end. -/
theorem complete_subsetTurn_stop : Complete (subsetTurn ()) (.inr ()) (blank * word [']']) F := by
  have hstop := Complete.taken (t := [']']) (q := markup >>= fun _ => pure (Sum.inl ()))
    (Scan.complete_pure (ε := ParseError) (Sum.inr () : Unit ⊕ Unit) (F := F))
  rw [mul_one] at hstop
  exact reads_skip_space.complete.seq hstop (Scan.stops_word rfl)

omit [XmlStream] [LawfulXmlStream] in
/-- White space between the declarations is part of the subset. -/
theorem subsetItem_blank : subsetItem∗ * blank = intSubset := by
  have hblank : blank = S∗ := by
    refine le_antisymm (add_le le_kstar one_le_kstar) ?_
    calc S∗ ≤ ((letter Xml.isSpace)∗)∗ := kstar_mono (S_le_blank.trans opt_S.le)
      _ = (letter Xml.isSpace)∗ := kstar_idem _
      _ = blank := opt_S.symm
  rw [subsetItem, hblank, Scan.kstar_mul_kstar_eq, intSubset, add_comm, add_assoc]

/-- The internal subset, as the recogniser expects it. -/
theorem reads_internalSubset : Reads internalSubset
    (opt (word ['['] * (intSubset * (word [']'] * blank))))
    (fun r => Stops Xml.isSpace r ∧ NotNext ['['] r) := by
  have hloop : Reads (Scan.loop subsetTurn ()) (subsetItem∗ * (blank * word [']'])) Anything :=
    Reads.loop sound_subsetTurn (complete_subsetTurn (F := Anything)) nil_notMem_subsetItem
      complete_subsetTurn_stop Scan.before_anything Scan.before_anything
  have hblank : Reads (skip space) blank (fun r => Stops Xml.isSpace r ∧ NotNext ['['] r) :=
    reads_skip_space.mono rfl (fun _ hr => hr.1)
  refine ((hloop.seq hblank Scan.before_anything).ifTake (t := ['['])
    (Scan.reads_pure (ε := ParseError)) (Scan.before_one (fun _ hr => hr.2))).of_eq ?_
  simp only [opt, ← subsetItem_blank, mul_assoc]

/-! ## The declaration -/

/-- What comes behind the name of the document type and what is outside of the document. -/
def AtSubset (r : List Char) : Prop := ∃ c ∈ r.head?, c = '[' ∨ c = '>'

omit [XmlStream] [LawfulXmlStream] in
/-- A bracket stops a class that has neither. -/
theorem AtSubset.stops {p : Char → Bool} {r : List Char} (h : AtSubset r) (hopen : p '[' = false)
    (hclose : p '>' = false) : Stops p r := by
  obtain ⟨c, hc, rfl | rfl⟩ := h
  · intro d hd
    rw [Option.mem_unique hd hc]
    exact hopen
  · intro d hd
    rw [Option.mem_unique hd hc]
    exact hclose

/-- What `externalSubset` reads behind white space. -/
def externalPart : Scan ParseError Unit := do
  if ← Scan.peek (fun rest => rest.head?.any (fun c => c == '[' || c == '>')) then pure ()
  else
    externalId false
    skip space

omit [XmlStream] [LawfulXmlStream] in
/-- The external identifier is read, if there is one. -/
theorem reads_externalSubset :
    Reads externalSubset (opt (S * externalID) * blank) AtSubset := by
  have hid : Reads (externalId false >>= fun _ => skip space) (externalID * blank)
      (Stops Xml.isSpace) :=
    ⟨sound_externalId_false.seq reads_skip_space.sound,
      (complete_externalId false (F := Anything)).seq reads_skip_space.complete
        Scan.before_anything⟩
  refine ⟨?_, ?_⟩
  · refine sound_space.bind (M := fun found _ => if found = true then 1 + externalID * blank else 1)
      (fun found => ?_) (fun found _ => ?_)
    · cases found with
      | true =>
        refine (Scan.sound_peek _).bind (M := fun _ _ => 1 + externalID * blank) (fun seen => ?_)
          (fun _ _ => (one_mul _).le)
        cases seen with
        | true => exact (Scan.reads_pure (F := Anything)).sound.mono (fun _ => le_sup_left)
        | false => exact hid.sound.mono (fun _ => le_sup_right)
      | false => exact (Scan.reads_pure (F := Anything)).sound
    · cases found with
      | true =>
        show S * (1 + externalID * blank) ≤ _
        rw [mul_add, mul_one, opt, add_mul, one_mul, mul_assoc]
        exact add_le (S_le_blank.trans le_sup_right) le_sup_left
      | false =>
        show (1 : Scan.Words) * 1 ≤ _
        exact (mul_one _).le.trans (one_le_mul le_sup_right one_le_blank)
  · -- Three shapes: nothing at all, blank only, and an identifier after blank.
    have hnone : Complete externalSubset () 1 AtSubset := by
      have h := complete_space_one.bind (f := fun found =>
          if found = true then externalPart else pure ()) (Complete.ite_neg Bool.false_ne_true (Scan.complete_pure () (F := AtSubset)))
        (Scan.before_one (fun _ hr => hr.stops rfl rfl))
      rwa [mul_one] at h
    have hspace : ∀ {L : Scan.Words}, Complete externalPart () L AtSubset →
        Before (Stops Xml.isSpace) L AtSubset → Complete externalSubset () (S * L) AtSubset :=
      fun h hs => complete_space_S.bind (Complete.ite_pos rfl h) hs
    have hblank : Complete externalSubset () (S * 1) AtSubset := by
      refine hspace ?_ (Scan.before_one (fun _ hr => hr.stops rfl rfl))
      have h := (Scan.complete_peek (ε := ParseError) (fun rest => rest.head?.any
          (fun c => c == '[' || c == '>')) true).bind (f := fun seen => if seen = true then pure ()
            else externalId false >>= fun _ => skip space)
        (Complete.ite_pos rfl (Scan.complete_pure () (F := AtSubset))) (Scan.before_one ?_)
      · rwa [mul_one] at h
      · rintro r ⟨c, hc, rfl | rfl⟩ <;> rw [Option.mem_def.mp hc] <;> rfl
    have hnamed : Complete externalSubset () (S * (externalID * blank)) AtSubset := by
      refine hspace ?_ (stops_externalID rfl rfl).mul_right
      have hpeek : Before (fun r : List Char => r.head?.any (fun c => c == '[' || c == '>') = false)
          (externalID * blank) AtSubset :=
        (Before.add (Scan.before_word (fun _ => rfl)).mul_right
          (Scan.before_word (fun _ => rfl)).mul_right.mul_right : Before _ _ Anything).mul_right
      have h := (Scan.complete_peek (ε := ParseError) _ false).bind (f := fun seen =>
          if seen = true then pure () else externalId false >>= fun _ => skip space)
        (Complete.ite_neg Bool.false_ne_true (hid.complete.mono le_rfl
          (fun _ hr => hr.stops rfl rfl))) hpeek
      rwa [one_mul] at h
    rw [mul_one] at hblank
    refine (hnamed.add (hblank.add hnone)).of_le (le_of_eq ?_)
    rw [opt, add_mul, one_mul, mul_assoc]
    rfl

/-- **The declaration** is read. -/
theorem reads_declaration : Reads declaration doctypedecl F := by
  have hclose : Before (fun r => Stops Xml.isSpace r ∧ NotNext ['['] r) (word ['>']) F :=
    Scan.before_word (fun _ => ⟨Scan.stops_cons.mpr rfl, notNext_cons (by decide)⟩)
  have hsubset : Before AtSubset (opt (word ['['] * (intSubset * (word [']'] * blank)))
      * word ['>']) F := by
    rw [opt, add_mul, one_mul]
    exact Before.add (Scan.before_word (fun _ => ⟨_, rfl, Or.inl rfl⟩)).mul_right.mul_right
      (Scan.before_word (fun _ => ⟨_, rfl, Or.inr rfl⟩))
  have hname : Before (Stops Xml.isNameChar) (opt (S * externalID) * blank
      * (opt (word ['['] * (intSubset * (word [']'] * blank))) * word ['>'])) F := by
    refine ((Before.add nameStops_S.mul_right (Scan.before_one (fun _ hr => hr))).mul
      nameStops_blank).mul (fun w hw r hr => ?_)
    exact (hsubset w hw r hr).stops (by decide) (by decide)
  refine ((reads_token "<!DOCTYPE").seq (reads_separator.seq (reads_skip_qname.seq
    (reads_externalSubset.seq (reads_internalSubset.seq (reads_token ">") hclose) hsubset) hname)
    stops_qName.mul_right) Scan.before_anything).of_eq ?_
  show _ * (S * (qName * (opt (S * externalID) * blank * (_ * word ['>'])))) = _
  rw [doctypedecl, mul_assoc (opt (S * externalID))]

/-- **The declaration is read exactly.** The recogniser takes a document type declaration
of the grammar from the front of a text, leaving what is behind it, and refuses every
text that does not begin with one; it never comes to a place that it does not provide
for. -/
theorem declaration_exact (text rest : List Char) :
    (declaration text = .ok ((), rest) ↔ ∃ w ∈ doctypedecl, text = w ++ rest)
      ∧ declaration text ≠ .error .unreachable := by
  have h := reads_declaration (F := Anything)
  refine ⟨⟨fun hread => h.sound.takes hread, ?_⟩, h.sound.never text⟩
  rintro ⟨w, hw, rfl⟩
  exact h.complete w hw rest trivial

end Names

/-- The longest name at the front of a text. -/
abbrev longestName : XmlStream where
  consumeName text :=
    if Xml.isName (text.takeWhile Xml.isNameChar) = true then
      some (text.takeWhile Xml.isNameChar, text.dropWhile Xml.isNameChar)
    else none

/-- Taking the longest name is a lawful way to find one. -/
theorem lawful_longestName : @LawfulXmlStream longestName := by
  refine @LawfulXmlStream.mk longestName ?_
  intro text name rest
  show (if Xml.isName (text.takeWhile Xml.isNameChar) = true then _ else _) = _ ↔ _
  constructor
  · intro h
    split at h
    · next hname =>
      cases h
      refine ⟨List.takeWhile_append_dropWhile.symm, hname, fun c hc => ?_⟩
      have hhead := List.head?_dropWhile_not Xml.isNameChar text
      rw [Option.mem_def.mp hc] at hhead
      exact hhead
    · cases h
  · rintro ⟨rfl, hname, hstops⟩
    have hletters : name ∈ letters Xml.isNameChar := by
      cases name with
      | nil => cases hname
      | cons c cs =>
        rw [Xml.isName, Bool.and_eq_true, List.all_eq_true] at hname
        refine List.forall_mem_cons.mpr ⟨?_, hname.2⟩
        rw [Xml.isNameChar, hname.1, Bool.true_or]
    obtain ⟨htake, hdrop⟩ := Scan.takeWhile_append_stops hletters hstops
    rw [htake, hdrop, if_pos hname]

/-- A declaration with a content model is recognised. -/
theorem declaration_exact_sample :
    @declaration longestName "<!DOCTYPE a [<!ELEMENT a (b,c?)*>]><a/>".toList
        = .ok ((), "<a/>".toList)
      ∧ ∃ w ∈ doctypedecl,
        "<!DOCTYPE a [<!ELEMENT a (b,c?)*>]><a/>".toList = w ++ "<a/>".toList :=
  ⟨rfl, (@declaration_exact longestName lawful_longestName _ _).1.mp rfl⟩

end Szamlazz.Adatkapcsolat.Dtd
