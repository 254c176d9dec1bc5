import Szamlazz.Lib.Utf8
import Szamlazz.Push.Declaration

/-!
# The declaration is hidden

`withoutDeclaration` looks for the document type declaration in the prolog, checks it and
puts blanks in its place, so that it supplies no defaults, namespace bindings or entities
to what reads the document afterwards. A byte is replaced by a blank, and a line feed
stays: the offsets and line numbers that a later error names are those of the text that
was sent.

The tokens of the prolog are a parameter (`XmlTokenizer`). An offset that is not one of
the text, which would be a panic, is kept apart from the errors.
-/

namespace Szamlazz.Adatkapcsolat

/-- The tokens of `xmlparser` that are told apart. A declaration begins at a byte. -/
inductive Token where
  | dtdStart (start : ℕ)
  | emptyDtd (start : ℕ)
  | elementStart
  | other

/-- `xmlparser::Tokenizer`: the tokens of a text, or the position of an error as it is
displayed. -/
class XmlTokenizer where
  tokens : List Char → List (Except String Token)

/-- The documented behaviour of a token's span: it is a part of the text. -/
class LawfulXmlTokenizer [XmlTokenizer] : Prop where
  isPart : ∀ {text : List Char} {start : ℕ},
    .ok (.dtdStart start) ∈ XmlTokenizer.tokens text
        ∨ .ok (.emptyDtd start) ∈ XmlTokenizer.tokens text →
      ∃ before after, text = before ++ after ∧ (Utf8.encode before).length = start

namespace Dtd

open Xml.Doctype

/-! ## The text without the declaration -/

/-- `&text[..start]` and `&text[start..]`: nothing where the byte is inside of a character
or behind the text. -/
def splitAtByte : ℕ → List Char → Option (List Char × List Char)
  | 0, cs => some ([], cs)
  | _ + 1, [] => none
  | n + 1, c :: cs =>
    let size := (String.utf8EncodeChar c).length
    if size ≤ n + 1 then
      (splitAtByte (n + 1 - size) cs).map (fun cut => (c :: cut.1, cut.2))
    else none

/-- A blank for every byte, and a line feed for a line feed. -/
def blanks (cs : List Char) : List Char :=
  (Utf8.encode cs).map (fun b => if b = 10 then '\n' else ' ')

section Hiding

variable [XmlStream]

/-- The text with blanks for the declaration that begins at a byte. -/
def hide (text : List Char) (start : ℕ) : Except (Scan.Fault ParseError) (List Char) :=
  match splitAtByte start text with
  | none => .error .unreachable
  | some (before, rest) =>
    match declaration rest with
    | .error fault => .error fault
    | .ok ((), after) => .ok (before ++ blanks (rest.take (rest.length - after.length)) ++ after)

/-- The tokens up to the first declaration or the first element. -/
def hideFirst (text : List Char) :
    List (Except String Token) → Except (Scan.Fault ParseError) (List Char)
  | [] => .ok text
  | .error position :: _ => .error (.refused (invalid ("invalid XML syntax at " ++ position)))
  | .ok (.dtdStart start) :: _ => hide text start
  | .ok (.emptyDtd start) :: _ => hide text start
  | .ok .elementStart :: _ => .ok text
  | .ok .other :: tokens => hideFirst text tokens

def withoutDeclaration [XmlTokenizer] (text : List Char) :
    Except (Scan.Fault ParseError) (List Char) :=
  hideFirst text (XmlTokenizer.tokens text)

end Hiding

/-! ## Offsets -/

/-- Which bytes of a text are line feeds. -/
def lineFeeds (cs : List Char) : List Bool := (Utf8.encode cs).map (fun b => b == 10)

theorem lineFeeds_append (cs ds : List Char) : lineFeeds (cs ++ ds) = lineFeeds cs ++ lineFeeds ds := by
  rw [lineFeeds, lineFeeds, lineFeeds, Utf8.encode, List.flatMap_append, List.map_append]
  rfl

theorem lineFeeds_blanks (cs : List Char) : lineFeeds (blanks cs) = lineFeeds cs := by
  unfold blanks lineFeeds
  induction Utf8.encode cs with
  | nil => rfl
  | cons b bs ih =>
    rw [List.map_cons, List.map_cons, Utf8.encode_cons, List.map_append, ih]
    by_cases h : b = 10
    · subst h
      rfl
    · rw [if_neg h, beq_eq_false_iff_ne.mpr h]
      rfl

theorem splitAtByte_append (before after : List Char) :
    splitAtByte (Utf8.encode before).length (before ++ after) = some (before, after) := by
  induction before with
  | nil => exact splitAtByte.eq_1 after
  | cons c cs ih =>
    have hpos : 0 < (String.utf8EncodeChar c).length := by
      rw [String.length_utf8EncodeChar]
      exact Char.utf8Size_pos c
    rw [Utf8.encode_cons, List.length_append, List.cons_append]
    cases hsize : (String.utf8EncodeChar c).length with
    | zero => omega
    | succ k =>
      have hcomm : k + 1 + (Utf8.encode cs).length = k + (Utf8.encode cs).length + 1 := by omega
      have hrest : k + (Utf8.encode cs).length + 1 - (k + 1) = (Utf8.encode cs).length := by omega
      rw [hcomm, splitAtByte]
      simp only [hsize, hrest, ih]
      rw [if_pos (by omega)]
      rfl

theorem splitAtByte_eq_some {n : ℕ} {cs before after : List Char}
    (h : splitAtByte n cs = some (before, after)) :
    cs = before ++ after ∧ (Utf8.encode before).length = n := by
  induction cs generalizing n before with
  | nil =>
    cases n with
    | zero =>
      rw [splitAtByte] at h
      cases h
      exact ⟨rfl, rfl⟩
    | succ n => cases h
  | cons c cs ih =>
    cases n with
    | zero =>
      rw [splitAtByte] at h
      cases h
      exact ⟨rfl, rfl⟩
    | succ n =>
      simp only [splitAtByte] at h
      split at h
      · next hle =>
        obtain ⟨cut, hcut, heq⟩ := Option.map_eq_some_iff.mp h
        cases heq
        obtain ⟨rfl, hlength⟩ := ih hcut
        refine ⟨rfl, ?_⟩
        rw [Utf8.encode_cons, List.length_append, hlength]
        omega
      · cases h

section Hiding

variable [XmlStream] [LawfulXmlStream]

/-- The declaration that begins at a byte, and the text with blanks for it. -/
def HiddenAt (text output : List Char) (start : ℕ) : Prop :=
  ∃ before w after, w ∈ doctypedecl ∧ (Utf8.encode before).length = start
    ∧ text = before ++ (w ++ after) ∧ output = before ++ (blanks w ++ after)

omit [XmlStream] [LawfulXmlStream] in
theorem HiddenAt.lineFeeds_eq {text output : List Char} {start : ℕ}
    (h : HiddenAt text output start) : lineFeeds output = lineFeeds text := by
  obtain ⟨before, w, after, -, -, rfl, rfl⟩ := h
  simp only [lineFeeds_append, lineFeeds_blanks]

theorem hide_eq_ok {text output : List Char} {start : ℕ} :
    hide text start = .ok output ↔ HiddenAt text output start := by
  have hread := reads_declaration (F := Scan.Anything)
  have hblanks : ∀ (before w after : List Char), before ++ blanks ((w ++ after).take
      ((w ++ after).length - after.length)) ++ after = before ++ (blanks w ++ after) := by
    intro before w after
    rw [List.length_append, Nat.add_sub_cancel, List.take_left, List.append_assoc]
  constructor
  · intro h
    unfold hide at h
    split at h
    · cases h
    · next before rest hsplit =>
      obtain ⟨rfl, rfl⟩ := splitAtByte_eq_some hsplit
      split at h
      · cases h
      · next after hdeclaration =>
        obtain ⟨w, hw, rfl⟩ := hread.sound.takes hdeclaration
        cases h
        exact ⟨before, w, after, hw, rfl, rfl, hblanks before w after⟩
  · rintro ⟨before, w, after, hw, rfl, rfl, rfl⟩
    simp only [hide, splitAtByte_append, hread.complete w hw after trivial, hblanks]

theorem hide_ne_unreachable {text : List Char} {start : ℕ}
    (h : ∃ before after, text = before ++ after ∧ (Utf8.encode before).length = start) :
    hide text start ≠ .error .unreachable := by
  obtain ⟨before, rest, rfl, rfl⟩ := h
  intro h
  simp only [hide, splitAtByte_append] at h
  split at h
  · next hdeclaration =>
    cases h
    exact (reads_declaration (F := Scan.Anything)).sound.never rest hdeclaration
  · cases h

/-- Behind tokens of other kinds, the declaration that begins at a byte. -/
inductive Declares (start : ℕ) : List (Except String Token) → Prop where
  | dtdStart (tokens : List (Except String Token)) : Declares start (.ok (.dtdStart start) :: tokens)
  | emptyDtd (tokens : List (Except String Token)) : Declares start (.ok (.emptyDtd start) :: tokens)
  | other {tokens : List (Except String Token)} (h : Declares start tokens) :
      Declares start (.ok .other :: tokens)

omit [LawfulXmlStream] in
theorem hideFirst_declares {text : List Char} {start : ℕ} {tokens : List (Except String Token)}
    (h : Declares start tokens) : hideFirst text tokens = hide text start := by
  induction h with
  | dtdStart => rfl
  | emptyDtd => rfl
  | other h ih => exact ih

omit [LawfulXmlStream] in
/-- Without a declaration before the first element, nothing is changed. -/
theorem hideFirst_cases (text : List Char) (tokens : List (Except String Token)) :
    (∃ start, Declares start tokens) ∨ hideFirst text tokens = .ok text
      ∨ ∃ error, hideFirst text tokens = .error (.refused error) := by
  induction tokens with
  | nil => exact Or.inr (Or.inl rfl)
  | cons token tokens ih =>
    cases token with
    | error position => exact Or.inr (Or.inr ⟨_, rfl⟩)
    | ok token =>
      cases token with
      | dtdStart start => exact Or.inl ⟨start, .dtdStart tokens⟩
      | emptyDtd start => exact Or.inl ⟨start, .emptyDtd tokens⟩
      | elementStart => exact Or.inr (Or.inl rfl)
      | other => exact ih.imp (fun ⟨start, h⟩ => ⟨start, h.other⟩) id

omit [XmlStream] [LawfulXmlStream] in
theorem Declares.mem {start : ℕ} {tokens : List (Except String Token)} (h : Declares start tokens) :
    .ok (.dtdStart start) ∈ tokens ∨ .ok (.emptyDtd start) ∈ tokens := by
  induction h with
  | dtdStart => exact Or.inl List.mem_cons_self
  | emptyDtd => exact Or.inr List.mem_cons_self
  | other h ih => exact ih.imp (List.mem_cons_of_mem _) (List.mem_cons_of_mem _)

section Tokens

variable [XmlTokenizer] {text output : List Char}

omit [LawfulXmlStream] in
theorem withoutDeclaration_declares {start : ℕ} (h : Declares start (XmlTokenizer.tokens text)) :
    withoutDeclaration text = hide text start := hideFirst_declares h

omit [LawfulXmlStream] in
/-- A text that declares nothing is left as it is. -/
theorem withoutDeclaration_none (hnone : ∀ start, ¬ Declares start (XmlTokenizer.tokens text))
    (h : withoutDeclaration text = .ok output) : output = text := by
  rcases hideFirst_cases text (XmlTokenizer.tokens text) with ⟨start, hd⟩ | hd | ⟨error, hd⟩
  · exact absurd hd (hnone start)
  · cases hd.symm.trans h
    rfl
  · cases hd.symm.trans h

/-- A declaration is hidden exactly if it is one of the grammar. -/
theorem withoutDeclaration_eq_ok {start : ℕ} (h : Declares start (XmlTokenizer.tokens text)) :
    withoutDeclaration text = .ok output ↔ HiddenAt text output start := by
  rw [withoutDeclaration_declares h, hide_eq_ok]

/-- The line feeds stay where they are, and with them every byte. -/
theorem lineFeeds_withoutDeclaration (h : withoutDeclaration text = .ok output) :
    lineFeeds output = lineFeeds text := by
  rcases hideFirst_cases text (XmlTokenizer.tokens text) with ⟨start, hd⟩ | hd | ⟨error, hd⟩
  · exact ((withoutDeclaration_eq_ok hd).mp h).lineFeeds_eq
  · cases hd.symm.trans h
    rfl
  · cases hd.symm.trans h

/-- Every offset is one that the text has. -/
theorem withoutDeclaration_ne_unreachable [LawfulXmlTokenizer] (text : List Char) :
    withoutDeclaration text ≠ .error .unreachable := by
  intro hnever
  rcases hideFirst_cases text (XmlTokenizer.tokens text) with ⟨start, h⟩ | h | ⟨error, h⟩
  · exact hide_ne_unreachable (LawfulXmlTokenizer.isPart h.mem)
      ((withoutDeclaration_declares h).symm.trans hnever)
  · cases h.symm.trans hnever
  · cases h.symm.trans hnever

end Tokens

/-- **The declaration is hidden, and nothing else.** A text whose prolog has a document
type declaration is read on exactly when the declaration is one of the grammar, with
blanks in its place; a line feed is at the same byte as before, and there is no byte more
or less. A text without one is left as it is. No offset is one that the text does not
have. -/
theorem declaration_hidden [XmlTokenizer] [LawfulXmlTokenizer] (text : List Char) :
    withoutDeclaration text ≠ .error .unreachable
      ∧ (∀ start output, Declares start (XmlTokenizer.tokens text) →
        (withoutDeclaration text = .ok output ↔ ∃ before w after, w ∈ doctypedecl
          ∧ (Utf8.encode before).length = start ∧ text = before ++ (w ++ after)
          ∧ output = before ++ (blanks w ++ after)))
      ∧ (∀ output, (∀ start, ¬ Declares start (XmlTokenizer.tokens text)) →
        withoutDeclaration text = .ok output → output = text)
      ∧ ∀ output, withoutDeclaration text = .ok output → lineFeeds output = lineFeeds text :=
  ⟨withoutDeclaration_ne_unreachable text, fun _ _ h => withoutDeclaration_eq_ok h,
    fun _ hnone h => withoutDeclaration_none hnone h, fun _ h => lineFeeds_withoutDeclaration h⟩

omit [XmlStream] [LawfulXmlStream] in
/-- What follows the first parenthesis of a content model. -/
theorem cons_mem_children {w : List Char} : '(' :: w ∈ Xml.Doctype.children ↔ w ∈ groups := by
  rw [← children_eq]
  constructor
  · intro h
    obtain ⟨_, rfl, v, hv, heq⟩ := Language.mem_mul.mp h
    obtain rfl := (List.cons.inj heq).2
    exact hv
  · exact fun h => Language.append_mem_mul (a := ['(']) rfl h

/-- **The recogniser accepts the grammar.** A text is read as a declaration exactly when it
begins with a `doctypedecl`. The loop over a content model, behind its first parenthesis,
ends on every text and takes what the productions of `children`, `choice`, `seq` and `cp`
take, which refer to each other. And a document in which the tokenizer reports a declaration
is read on exactly when a `doctypedecl` begins there, with a blank for every byte of it but
the line feeds; no other document is changed. -/
theorem recogniser_accepts_grammar [XmlTokenizer] [LawfulXmlTokenizer] :
    (∀ text, declaration text ≠ .error .unreachable
      ∧ ∀ rest, declaration text = .ok ((), rest) ↔ ∃ w ∈ doctypedecl, text = w ++ rest)
    ∧ (particle = (qName + choice + seq) * Xml.Doctype.occurrence
      ∧ ∀ text, children text ≠ .error .unreachable
        ∧ ∀ rest, (children text = .ok ((), rest) →
            ∃ w, '(' :: w ∈ Xml.Doctype.children ∧ text = w ++ rest)
          ∧ (Scan.Stops isMark rest → (∃ w, '(' :: w ∈ Xml.Doctype.children ∧ text = w ++ rest) →
            children text = .ok ((), rest)))
    ∧ ∀ text, withoutDeclaration text ≠ .error .unreachable
      ∧ (∀ start, Declares start (XmlTokenizer.tokens text) → ∀ output,
        withoutDeclaration text = .ok output ↔ ∃ before w after, w ∈ doctypedecl
          ∧ (Utf8.encode before).length = start ∧ text = before ++ (w ++ after)
          ∧ output = before ++ (blanks w ++ after))
      ∧ ∀ output, withoutDeclaration text = .ok output →
        ((∀ start, ¬ Declares start (XmlTokenizer.tokens text)) → output = text)
          ∧ (Utf8.encode output).length = (Utf8.encode text).length
          ∧ lineFeeds output = lineFeeds text := by
  have hdeclaration := reads_declaration (F := Scan.Anything)
  refine ⟨fun text => ⟨hdeclaration.sound.never text, fun rest => ⟨fun h =>
      hdeclaration.sound.takes h, ?_⟩⟩,
    ⟨particle_eq, fun text => ⟨reads_children.sound.never text, fun rest => ⟨fun h => ?_, ?_⟩⟩⟩,
    fun text => ⟨withoutDeclaration_ne_unreachable text, fun start h output =>
      withoutDeclaration_eq_ok h, fun output h => ⟨fun hnone => withoutDeclaration_none hnone h,
      ?_, lineFeeds_withoutDeclaration h⟩⟩⟩
  · rintro ⟨w, hw, rfl⟩
    exact hdeclaration.complete w hw rest trivial
  · obtain ⟨w, hw, rfl⟩ := reads_children.sound.takes h
    exact ⟨w, cons_mem_children.mpr hw, rfl⟩
  · rintro hstops ⟨w, hw, rfl⟩
    exact reads_children.complete w (cons_mem_children.mp hw) rest hstops
  · have hlength := congrArg List.length (lineFeeds_withoutDeclaration h)
    simpa [lineFeeds] using hlength

end Hiding

/-- The tokens of one document, in which a comment comes before the declaration. -/
abbrev sampleTokenizer : XmlTokenizer where
  tokens text :=
    if text = "<!--é--><!DOCTYPE a [
]><a/>".toList then
      [.ok .other, .ok (.dtdStart 9), .ok .other, .ok .elementStart, .ok .other]
    else []

theorem lawful_sampleTokenizer : @LawfulXmlTokenizer sampleTokenizer := by
  refine @LawfulXmlTokenizer.mk sampleTokenizer ?_
  intro text start
  show Except.ok (Token.dtdStart start) ∈ (if text = _ then _ else _)
    ∨ Except.ok (Token.emptyDtd start) ∈ (if text = _ then _ else _) → _
  split
  · next heq =>
    subst heq
    intro h
    have hstart : start = 9 := by simpa using h
    refine ⟨"<!--é-->".toList, "<!DOCTYPE a [\n]><a/>".toList, rfl, ?_⟩
    rw [hstart]
    decide
  · intro h
    simp at h

/-- The declaration of the sample begins behind its comment. -/
theorem declares_sample :
    Declares 9 (sampleTokenizer.tokens "<!--é--><!DOCTYPE a [\n]><a/>".toList) := by
  show Declares 9 (if _ = _ then _ else _)
  rw [if_pos rfl]
  exact (Declares.dtdStart _).other

/-- The sample is read on. -/
theorem withoutDeclaration_sample : ∃ output, @withoutDeclaration longestName sampleTokenizer
    "<!--é--><!DOCTYPE a [\n]><a/>".toList = .ok output := by
  have hread : @declaration longestName "<!DOCTYPE a [\n]><a/>".toList
      = .ok ((), "<a/>".toList) := rfl
  have hsplit : splitAtByte 9 ("<!--é-->".toList ++ "<!DOCTYPE a [\n]><a/>".toList) = some
      ("<!--é-->".toList, "<!DOCTYPE a [\n]><a/>".toList) :=
    splitAtByte_append "<!--é-->".toList _
  have hhide : ∃ output, @hide longestName
      ("<!--é-->".toList ++ "<!DOCTYPE a [\n]><a/>".toList) 9 = .ok output := by
    simp only [hide, hsplit, hread]
    exact ⟨_, rfl⟩
  obtain ⟨output, hhide⟩ := hhide
  refine ⟨output, ?_⟩
  show @hideFirst longestName _ (if _ = _ then _ else _) = _
  rw [if_pos rfl]
  exact hhide

/-- The bytes of the declaration are blanks, but for the line feed. -/
theorem declaration_hidden_sample :
    ∃ output, @withoutDeclaration longestName sampleTokenizer
          "<!--é--><!DOCTYPE a [\n]><a/>".toList = .ok output
      ∧ (∃ before w after, w ∈ doctypedecl ∧ (Utf8.encode before).length = 9
        ∧ "<!--é--><!DOCTYPE a [\n]><a/>".toList = before ++ (w ++ after)
        ∧ output = before ++ (blanks w ++ after))
      ∧ lineFeeds output = lineFeeds "<!--é--><!DOCTYPE a [\n]><a/>".toList := by
  obtain ⟨output, hrun⟩ := withoutDeclaration_sample
  have h := @declaration_hidden longestName lawful_longestName sampleTokenizer
    lawful_sampleTokenizer "<!--é--><!DOCTYPE a [\n]><a/>".toList
  exact ⟨output, hrun, (h.2.1 9 output declares_sample).mp hrun, h.2.2.2 output hrun⟩

/-- A content model with a group that may be repeated, in a declaration and behind its first
parenthesis, and the document whose declaration is hidden. -/
theorem recogniser_accepts_grammar_sample :
    (∃ w ∈ doctypedecl,
        "<!DOCTYPE a [<!ELEMENT a ((b|c)+,d?)*>]><a/>".toList = w ++ "<a/>".toList)
      ∧ (∃ w, '(' :: w ∈ Xml.Doctype.children ∧ "(b|c)+,d?)*>".toList = w ++ ">".toList)
      ∧ ∃ output before w after, @withoutDeclaration longestName sampleTokenizer
          "<!--é--><!DOCTYPE a [\n]><a/>".toList = .ok output
        ∧ w ∈ doctypedecl ∧ output = before ++ (blanks w ++ after) := by
  have h := @recogniser_accepts_grammar longestName lawful_longestName sampleTokenizer
    lawful_sampleTokenizer
  obtain ⟨output, hrun⟩ := withoutDeclaration_sample
  obtain ⟨before, w, after, hw, -, -, houtput⟩ :=
    ((h.2.2 _).2.1 9 declares_sample output).mp hrun
  exact ⟨((h.1 _).2 _).mp rfl, ((h.2.1.2 _).2 _).1 rfl, output, before, w, after, hrun, hw, houtput⟩

end Dtd

end Szamlazz.Adatkapcsolat
