import Szamlazz.Lib.Scan
import Szamlazz.Lib.XmlReader

/-!
# The document type declaration of XML

The productions of XML 1.0 that a document type declaration with an internal subset is
made of, as languages, with the names that *Namespaces in XML* asks for: an element, an
attribute and the document type have a qualified name, everything else a name without a
colon. A parameter reference stands between declarations only, and a character reference
denotes a character of XML.

The content models are the one production that refers to itself. `Content` has the
particles and what stands between the parentheses of a group as one inductive predicate;
that the particles are a name or a choice or a sequence, with an occurrence indicator
behind it, is then an equation (`particle_eq`).
-/

open scoped Computability

namespace Xml.Doctype

open Scan (word letter letters)

/-- What may be missing. -/
def opt (L : Language Char) : Language Char := L + 1

/-! ## White space and names -/

/-- Production [3]. -/
def S : Language Char := letter isSpace * (letter isSpace)∗

/-- White space that may be missing. -/
def blank : Language Char := opt S

/-- A name without a colon. -/
def ncName : Language Char := {w | isName w = true ∧ ':' ∉ w}

/-- A name without a colon, or two of them with a colon between them. -/
def qName : Language Char := ncName + ncName * (word [':'] * ncName)

/-- Production [7]. -/
def nmtoken : Language Char := letter isNameChar * (letter isNameChar)∗

theorem opt_S : opt S = (letter isSpace)∗ := by
  rw [opt, S, add_comm, one_add_mul_kstar]

theorem blank_eq : blank = letters isSpace := opt_S.trans (Scan.kstar_letter isSpace)

theorem one_le_blank : 1 ≤ blank := le_sup_right

theorem S_le_blank : S ≤ blank := le_sup_left

theorem blank_mul_blank : blank * blank = blank := by
  rw [blank, opt_S, kstar_mul_kstar]

/-- White space that is there. -/
theorem mem_S {w : List Char} : w ∈ S ↔ w ≠ [] ∧ ∀ c ∈ w, isSpace c = true := by
  rw [S, Scan.kstar_letter, Language.mem_mul]
  constructor
  · rintro ⟨u, ⟨c, hc, rfl⟩, v, hv, rfl⟩
    exact ⟨List.cons_ne_nil c v, List.forall_mem_cons.mpr ⟨hc, hv⟩⟩
  · rintro ⟨hne, h⟩
    obtain ⟨c, cs, rfl⟩ := List.exists_cons_of_ne_nil hne
    obtain ⟨hc, hcs⟩ := List.forall_mem_cons.mp h
    exact ⟨[c], ⟨c, hc, rfl⟩, cs, hcs, rfl⟩

/-! ## Literals and references -/

/-- A text in quotes of one kind, of the words of a language that may depend on the quote. -/
def quoted (L : Char → Language Char) : Language Char :=
  word ['\''] * (L '\'' * word ['\'']) + word ['"'] * (L '"' * word ['"'])

/-- Production [11]. -/
def systemLiteral : Language Char := quoted (fun q => (letter (fun c => isChar c && c != q))∗)

/-- Production [13]. -/
def isPubidChar (c : Char) : Bool :=
  c == ' ' || c == '\r' || c == '\n' || c.isAlphanum || "-'()+,./:=?;!*#@$_%".toList.contains c

theorem isChar_of_isPubidChar {c : Char} (h : isPubidChar c = true) : isChar c = true := by
  have hrange : ∀ {d : Char}, 0x20 ≤ d.toNat → d.toNat ≤ 0x7E → isChar d = true := by
    intro d hlow hhigh
    simp only [isChar, within, List.any_cons, List.any_nil, Bool.or_eq_true, Bool.and_eq_true,
      decide_eq_true_eq, Bool.or_false]
    omega
  have hmarks : "-'()+,./:=?;!*#@$_%".toList.all isChar = true := by decide
  simp only [isPubidChar, Bool.or_eq_true, beq_iff_eq, List.contains_iff_mem] at h
  rcases h with (((rfl | rfl) | rfl) | halnum) | hmark
  · rfl
  · rfl
  · rfl
  · have hcases : (c.isUpper || c.isLower || c.isDigit) = true := halnum
    delta Char.isUpper Char.isLower Char.isDigit at hcases
    simp only [Bool.or_eq_true, Bool.and_eq_true, decide_eq_true_eq, ge_iff_le,
      UInt32.le_iff_toNat_le] at hcases
    rcases hcases with (⟨hl, hu⟩ | ⟨hl, hu⟩) | ⟨hl, hu⟩ <;>
      exact hrange (Nat.le_trans (by decide) hl) (Nat.le_trans hu (by decide))
  · exact List.all_eq_true.mp hmarks c hmark

/-- Production [12]. -/
def pubidLiteral : Language Char := quoted (fun q => (letter (fun c => isPubidChar c && c != q))∗)

/-- The number that digits of a radix denote. -/
def number (radix : ℕ) (digit : Char → ℕ) (digits : List Char) : ℕ :=
  digits.foldl (fun n c => n * radix + digit c) 0

def isHexDigit (c : Char) : Bool :=
  c.isDigit || ('a' ≤ c && c ≤ 'f') || ('A' ≤ c && c ≤ 'F')

def digitValue (c : Char) : ℕ :=
  if c.isDigit then c.toNat - '0'.toNat
  else if 'a' ≤ c then c.toNat - 'a'.toNat + 10
  else c.toNat - 'A'.toNat + 10

/-- Digits of a radix that denote a character of XML. -/
def digitsOf (isDigit : Char → Bool) (radix : ℕ) : Language Char :=
  {w | w ≠ [] ∧ (∀ c ∈ w, isDigit c = true)
    ∧ ∃ c : Char, c.toNat = number radix digitValue w ∧ isChar c = true}

/-- Production [66], with its well-formedness constraint. -/
def charRef : Language Char :=
  word "&#".toList * (digitsOf Char.isDigit 10 * word [';'])
    + word "&#x".toList * (digitsOf isHexDigit 16 * word [';'])

/-- Production [67]. -/
def reference : Language Char := word ['&'] * (ncName * word [';']) + charRef

theorem isNameChar_of_isHexDigit {c : Char} (h : isHexDigit c = true) : isNameChar c = true := by
  have hrange : ∀ {low high d : Char}, low ≤ d → d ≤ high →
      low.toNat ≤ d.toNat ∧ d.toNat ≤ high.toNat := fun hl hh => ⟨hl, hh⟩
  have hdigit : c.isDigit = true → '0' ≤ c ∧ c ≤ '9' := by
    delta Char.isDigit
    simp only [Bool.and_eq_true, decide_eq_true_eq]
    exact fun h => h
  have hcases : ('0' ≤ c ∧ c ≤ '9') ∨ ('a' ≤ c ∧ c ≤ 'f') ∨ ('A' ≤ c ∧ c ≤ 'F') := by
    simp only [isHexDigit, Bool.or_eq_true, Bool.and_eq_true, decide_eq_true_eq] at h
    rcases h with (h | h) | h
    · exact Or.inl (hdigit h)
    · exact Or.inr (Or.inl h)
    · exact Or.inr (Or.inr h)
  simp only [isNameChar, isNameStartChar, within, List.any_cons, List.any_nil, Bool.or_eq_true,
    Bool.and_eq_true, decide_eq_true_eq, Bool.or_false]
  rcases hcases with ⟨hl, hh⟩ | ⟨hl, hh⟩ | ⟨hl, hh⟩ <;>
    · obtain ⟨hl, hh⟩ := hrange hl hh
      simp only [Char.reduceToNat] at hl hh
      omega

theorem isHexDigit_of_isDigit {c : Char} (h : c.isDigit = true) : isHexDigit c = true := by
  rw [isHexDigit, h, Bool.true_or, Bool.true_or]

/-- A reference is made of characters of names and of the marks around them. -/
theorem mem_of_mem_reference {w : List Char} (h : w ∈ reference) :
    ∀ c ∈ w, isNameChar c = true ∨ c = '&' ∨ c = '#' ∨ c = ';' := by
  have hdigits : ∀ {isDigit : Char → Bool} {radix} {digits : List Char},
      (∀ c, isDigit c = true → isHexDigit c = true) → digits ∈ digitsOf isDigit radix →
      ∀ c ∈ digits, isNameChar c = true :=
    fun hhex hd c hc => isNameChar_of_isHexDigit (hhex c (hd.2.1 c hc))
  have hx : isNameChar 'x' = true := by decide
  have hdecimal : "&#".toList = ['&', '#'] := rfl
  have hhex : "&#x".toList = ['&', '#', 'x'] := rfl
  rcases h with h | h | h
  all_goals
    obtain ⟨_, rfl, t, ht, rfl⟩ := Language.mem_mul.mp h
    obtain ⟨n, hn, _, rfl, rfl⟩ := Language.mem_mul.mp ht
  · have hn := isNameChar_of_mem hn.1
    grind
  · have hn := hdigits (fun _ => isHexDigit_of_isDigit) hn
    grind
  · have hn := hdigits (fun _ h => h) hn
    grind

/-- A reference, by what stands between the ampersand and the semicolon. -/
theorem mem_reference {text : List Char} :
    '&' :: (text ++ [';']) ∈ reference ↔ text ∈ ncName
      ∨ (∃ digits ∈ digitsOf Char.isDigit 10, text = '#' :: digits)
      ∨ ∃ digits ∈ digitsOf isHexDigit 16, text = '#' :: 'x' :: digits := by
  have hdecimal : "&#".toList = ['&', '#'] := rfl
  have hhex : "&#x".toList = ['&', '#', 'x'] := rfl
  constructor
  · rintro (h | h | h)
    all_goals
      obtain ⟨_, rfl, t, ht, heq⟩ := Language.mem_mul.mp h
      obtain ⟨n, hn, _, rfl, rfl⟩ := Language.mem_mul.mp ht
    · rw [List.singleton_append, List.cons.injEq] at heq
      exact Or.inl (List.append_cancel_right heq.2 ▸ hn)
    · rw [hdecimal, List.cons_append, List.cons.injEq, ← List.append_assoc] at heq
      exact Or.inr (Or.inl ⟨n, hn, (List.append_cancel_right heq.2).symm⟩)
    · rw [hhex, List.cons_append, List.cons.injEq, ← List.append_assoc] at heq
      exact Or.inr (Or.inr ⟨n, hn, (List.append_cancel_right heq.2).symm⟩)
  · rintro (h | ⟨digits, h, rfl⟩ | ⟨digits, h, rfl⟩)
    · exact Or.inl (Language.append_mem_mul (a := ['&']) rfl (Language.append_mem_mul h rfl))
    · exact Or.inr (Or.inl (Language.append_mem_mul (a := ['&', '#']) rfl
        (Language.append_mem_mul h rfl)))
    · exact Or.inr (Or.inr (Language.append_mem_mul (a := ['&', '#', 'x']) rfl
        (Language.append_mem_mul h rfl)))

/-- The first semicolon ends a reference. -/
theorem exists_of_mem_reference {w : List Char} (h : w ∈ reference) :
    ∃ text, ';' ∉ text ∧ w = '&' :: (text ++ [';']) := by
  have hname : ∀ {c : Char}, isNameChar c = true → c ≠ ';' :=
    fun hc => ne_of_isNameChar hc (by decide)
  have hx : 'x' ≠ ';' := by decide
  have hsign : '#' ≠ ';' := by decide
  have hdecimal : "&#".toList = ['&', '#'] := rfl
  have hhex : "&#x".toList = ['&', '#', 'x'] := rfl
  rcases h with h | h | h
  all_goals
    obtain ⟨_, rfl, t, ht, rfl⟩ := Language.mem_mul.mp h
    obtain ⟨n, hn, _, rfl, rfl⟩ := Language.mem_mul.mp ht
  · exact ⟨n, fun hc => hname (isNameChar_of_mem hn.1 _ hc) rfl, rfl⟩
  · have hdigits : ';' ∉ n := fun hc =>
      hname (isNameChar_of_isHexDigit (isHexDigit_of_isDigit (hn.2.1 _ hc))) rfl
    exact ⟨'#' :: n, List.not_mem_cons_of_ne_of_not_mem hsign.symm hdigits, rfl⟩
  · have hdigits : ';' ∉ n := fun hc => hname (isNameChar_of_isHexDigit (hn.2.1 _ hc)) rfl
    exact ⟨'#' :: 'x' :: n, List.not_mem_cons_of_ne_of_not_mem hsign.symm
      (List.not_mem_cons_of_ne_of_not_mem hx.symm hdigits), rfl⟩

/-- A literal with references, and characters other than the quote, the ampersand and one
more that is forbidden. -/
def valueLiteral (forbidden : Char) : Language Char :=
  quoted (fun q =>
    (letter (fun c => isChar c && c != q && c != '&' && c != forbidden) + reference)∗)

/-- Production [9], without parameter references. -/
def entityValue : Language Char := valueLiteral '%'

/-- Production [10]. -/
def attValue : Language Char := valueLiteral '<'

/-! ## External identifiers and entities -/

/-- Production [83]. -/
def publicID : Language Char := word "PUBLIC".toList * (S * pubidLiteral)

/-- Production [75]. -/
def externalID : Language Char :=
  word "SYSTEM".toList * (S * systemLiteral) + publicID * (S * systemLiteral)

/-- Production [76]. -/
def nDataDecl : Language Char := S * (word "NDATA".toList * (S * ncName))

/-- Production [73]. -/
def entityDef : Language Char := entityValue + externalID * opt nDataDecl

/-- Production [74]. -/
def peDef : Language Char := entityValue + externalID

/-- Productions [70] to [72]. -/
def entityDecl : Language Char :=
  word "<!ENTITY".toList * (S * (ncName * (S * (entityDef * (blank * word ['>'])))))
    + word "<!ENTITY".toList
      * (S * (word ['%'] * (S * (ncName * (S * (peDef * (blank * word ['>'])))))))

/-- Production [82]. -/
def notationDecl : Language Char :=
  word "<!NOTATION".toList
    * (S * (ncName * (S * ((externalID + publicID) * (blank * word ['>'])))))

/-! ## Attribute lists -/

/-- One or more of a kind between parentheses, with bars between them. -/
def enumerated (L : Language Char) : Language Char :=
  word ['('] * (blank * (L * ((blank * (word ['|'] * (blank * L)))∗ * (blank * word [')']))))

/-- Production [58]. -/
def notationType : Language Char := word "NOTATION".toList * (S * enumerated ncName)

/-- Productions [54] to [59]. -/
def attType : Language Char :=
  word "CDATA".toList
    + (word "ID".toList + word "IDREF".toList + word "IDREFS".toList + word "ENTITY".toList
      + word "ENTITIES".toList + word "NMTOKEN".toList + word "NMTOKENS".toList)
    + (notationType + enumerated nmtoken)

/-- Production [60]. -/
def defaultDecl : Language Char :=
  word "#REQUIRED".toList + word "#IMPLIED".toList + opt (word "#FIXED".toList * S) * attValue

/-- Production [53]. -/
def attDef : Language Char := S * (qName * (S * (attType * (S * defaultDecl))))

/-- Production [52]. -/
def attlistDecl : Language Char :=
  word "<!ATTLIST".toList * (S * (qName * (attDef∗ * (blank * word ['>']))))

/-! ## Element types -/

def occurrence : Language Char := word ['?'] + word ['*'] + word ['+'] + 1

/-- The parts of a content model: a particle, and what stands between the parentheses of a
group with a separator. -/
inductive Part where
  | particle
  | group (separator : Char)

/-- The texts of the parts of a content model. -/
inductive Content : Part → List Char → Prop where
  | name {n o : List Char} (hn : n ∈ qName) (ho : o ∈ occurrence) : Content .particle (n ++ o)
  | group {separator : Char} {w o : List Char} (hs : separator = '|' ∨ separator = ',')
      (hw : Content (.group separator) w) (ho : o ∈ occurrence) :
      Content .particle ('(' :: w ++ ')' :: o)
  | last {separator : Char} {b p b' : List Char} (hb : b ∈ blank) (hp : Content .particle p)
      (hb' : b' ∈ blank) : Content (.group separator) (b ++ p ++ b')
  | next {separator : Char} {b p b' w : List Char} (hb : b ∈ blank) (hp : Content .particle p)
      (hb' : b' ∈ blank) (hw : Content (.group separator) w) :
      Content (.group separator) (b ++ p ++ b' ++ separator :: w)

/-- Production [48]. -/
def particle : Language Char := {w | Content .particle w}

/-- What stands between the parentheses of a group. -/
def between (separator : Char) : Language Char := {w | Content (.group separator) w}

/-- A separator, and the particle behind it. -/
def behind (separator : Char) : Language Char :=
  blank * (word [separator] * (blank * particle))

/-- Production [49]. -/
def choice : Language Char :=
  word ['('] * (blank * (particle * (behind '|' * (behind '|')∗ * (blank * word [')']))))

/-- Production [50]. -/
def seq : Language Char :=
  word ['('] * (blank * (particle * ((behind ',')∗ * (blank * word [')']))))

/-- Production [47]. -/
def children : Language Char := (choice + seq) * occurrence

/-- Production [51]. -/
def mixed : Language Char :=
  word ['('] * (blank * (word "#PCDATA".toList
      * ((blank * (word ['|'] * (blank * qName)))∗ * (blank * word ")*".toList))))
    + word ['('] * (blank * (word "#PCDATA".toList * (blank * word [')'])))

/-- Production [46]. -/
def contentspec : Language Char := word "EMPTY".toList + word "ANY".toList + mixed + children

/-- Production [45]. -/
def elementdecl : Language Char :=
  word "<!ELEMENT".toList * (S * (qName * (S * (contentspec * (blank * word ['>'])))))

/-- Between the parentheses there are particles, with the separator between them. -/
theorem between_eq (separator : Char) :
    between separator = blank * (particle * ((behind separator)∗ * blank)) := by
  refine le_antisymm ?_ ?_
  · intro w hw
    obtain ⟨part, hpart⟩ : ∃ part, part = Part.group separator := ⟨_, rfl⟩
    replace hw : Content part w := hpart ▸ hw
    induction hw with
    | name => cases hpart
    | group => cases hpart
    | @last _ b p b' hb hp hb' =>
      rw [List.append_assoc]
      refine Language.append_mem_mul hb (Language.append_mem_mul hp ?_)
      exact Language.append_mem_mul (Language.nil_mem_kstar _) hb'
    | @next separator' b p b' w hb hp hb' hw _ ih =>
      cases hpart
      obtain ⟨c, hc, v, hv, rfl⟩ := Language.mem_mul.mp (ih rfl)
      obtain ⟨q, hq, t, ht, rfl⟩ := Language.mem_mul.mp hv
      obtain ⟨u, hu, d, hd, rfl⟩ := Language.mem_mul.mp ht
      have hbehind : b' ++ ([separator] ++ (c ++ q)) ∈ behind separator :=
        Language.append_mem_mul hb' (Language.append_mem_mul rfl (Language.append_mem_mul hc hq))
      have hle : behind separator * (behind separator)∗ ≤ (behind separator)∗ := mul_kstar_le_kstar
      have hall : b ++ (p ++ ((b' ++ ([separator] ++ (c ++ q)) ++ u) ++ d))
          ∈ blank * (particle * ((behind separator)∗ * blank)) :=
        Language.append_mem_mul hb (Language.append_mem_mul hp
          (Language.append_mem_mul (hle (Language.append_mem_mul hbehind hu)) hd))
      simp only [List.append_assoc, List.cons_append, List.nil_append] at hall ⊢
      exact hall
  · intro w hw
    obtain ⟨b, hb, v, hv, rfl⟩ := Language.mem_mul.mp hw
    obtain ⟨p, hp, t, ht, rfl⟩ := Language.mem_mul.mp hv
    obtain ⟨u, hu, b', hb', rfl⟩ := Language.mem_mul.mp ht
    obtain ⟨words, rfl, hwords⟩ := Language.mem_kstar.mp hu
    clear hw hv ht hu
    induction words generalizing b p with
    | nil =>
      rw [← List.append_assoc]
      exact Content.last hb hp hb'
    | cons x xs ih =>
      obtain ⟨c, hc, y, hy, rfl⟩ := Language.mem_mul.mp (hwords x List.mem_cons_self)
      obtain ⟨_, rfl, z, hz, rfl⟩ := Language.mem_mul.mp hy
      obtain ⟨d, hd, q, hq, rfl⟩ := Language.mem_mul.mp hz
      have hrest := ih d hd q hq (fun y hy => hwords y (List.mem_cons_of_mem _ hy))
      have hall := Content.next hb hp hc hrest
      show Content _ _
      simpa only [List.flatten_cons, List.append_assoc, List.cons_append, List.nil_append]
        using hall

/-- A group, with either separator, is a choice or a sequence. -/
theorem group_eq :
    word ['('] * (between '|' * word [')']) + word ['('] * (between ',' * word [')'])
      = choice + seq := by
  have hbar : word ['('] * (between '|' * word [')'])
      = choice + word ['('] * (blank * (particle * (blank * word [')']))) := by
    rw [between_eq, ← one_add_mul_kstar, choice]
    simp only [mul_assoc, add_mul, mul_add, one_mul]
    exact add_comm _ _
  have hcomma : word ['('] * (between ',' * word [')']) = seq := by
    rw [between_eq, seq]
    simp only [mul_assoc]
  have hsingle : word ['('] * (blank * (particle * (blank * word [')']))) ≤ seq :=
    mul_le_mul_right (mul_le_mul_right (mul_le_mul_right
      (le_mul_of_one_le_left' one_le_kstar) _) _) _
  rw [hbar, hcomma, add_assoc, add_eq_right_iff_le.mpr hsingle]

/-- **A particle is a name, a choice or a sequence**, with an indicator behind it. -/
theorem particle_eq : particle = (qName + choice + seq) * occurrence := by
  rw [add_assoc, ← group_eq, add_mul, add_mul]
  refine le_antisymm ?_ ?_
  · rintro w (⟨hn, ho⟩ | @⟨separator, v, o, hs, hv, ho⟩)
    · exact Or.inl (Language.append_mem_mul hn ho)
    · have hw : ['('] ++ (v ++ [')']) ++ o
          ∈ word ['('] * (between separator * word [')']) * occurrence :=
        Language.append_mem_mul (Language.append_mem_mul rfl (Language.append_mem_mul hv rfl)) ho
      rw [List.append_assoc, List.append_assoc] at hw
      rcases hs with rfl | rfl
      · exact Or.inr (Or.inl hw)
      · exact Or.inr (Or.inr hw)
  · have hgroup : ∀ separator, separator = '|' ∨ separator = ',' →
        word ['('] * (between separator * word [')']) * occurrence ≤ particle := by
      intro separator hs w hw
      obtain ⟨g, hg, o, ho, rfl⟩ := Language.mem_mul.mp hw
      obtain ⟨_, rfl, t, ht, rfl⟩ := Language.mem_mul.mp hg
      obtain ⟨v, hv, _, rfl, rfl⟩ := Language.mem_mul.mp ht
      have hall := Content.group hs hv ho
      show Content _ _
      simpa only [List.append_assoc, List.cons_append, List.nil_append] using hall
    refine add_le ?_ (add_le (hgroup '|' (Or.inl rfl)) (hgroup ',' (Or.inr rfl)))
    intro w hw
    obtain ⟨n, hn, o, ho, rfl⟩ := Language.mem_mul.mp hw
    exact Content.name hn ho

/-! ## The internal subset -/

/-- Production [15]. -/
def comment : Language Char :=
  word "<!--".toList * ((letter (fun c => isChar c && c != '-')
    + word ['-'] * letter (fun c => isChar c && c != '-'))∗ * word "-->".toList)

/-- A name without a colon other than `xml` in any case. -/
def piTarget : Language Char :=
  {w | w ∈ ncName ∧ w.map Char.toLower ≠ "xml".toList}

/-- Characters without the end of an instruction among them. -/
def piText : Language Char := {w | w ∈ (letter isChar)∗ ∧ ¬ "?>".toList <:+: w}

/-- Production [16]. -/
def pi : Language Char :=
  word "<?".toList * (piTarget * (opt (S * piText) * word "?>".toList))

/-- Production [69]. -/
def peReference : Language Char := word ['%'] * (ncName * word [';'])

/-- Production [29]. -/
def markupdecl : Language Char :=
  elementdecl + attlistDecl + entityDecl + notationDecl + pi + comment

/-- Productions [28a] and [28b]. -/
def intSubset : Language Char := (markupdecl + (peReference + S))∗

/-- **The document type declaration**, production [28]. -/
def doctypedecl : Language Char :=
  word "<!DOCTYPE".toList * (S * (qName * (opt (S * externalID) * (blank
    * (opt (word ['['] * (intSubset * (word [']'] * blank))) * word ['>'])))))

end Xml.Doctype
