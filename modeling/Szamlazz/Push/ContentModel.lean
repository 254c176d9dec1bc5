import Szamlazz.Push.Doctype

/-!
# Content models

The recogniser of a content model keeps the groups that are open on a stack; the grammar
nests them. So every stack has the words that may still come for it, where a particle is
due (`dueOf`) and where one has been read (`afterOf`). A turn takes words that lead from
the language of the stack it begins with to that of the stack it ends with. The converse
is an induction on the content, with the stack and what follows free.
-/

open scoped Computability

namespace Szamlazz.Adatkapcsolat.Dtd

open Scan (Sound Complete Reads Before Stops NotNext Anything word letter letters onlyIf take need
  require refuse skip leads)
open Xml.Doctype

/-! ## Indicators and separators -/

/-- The indicators of an occurrence. -/
def isMark (c : Char) : Bool := c == '?' || c == '*' || c == '+'

/-- White space is no indicator. -/
theorem isMark_of_isSpace {c : Char} (h : Xml.isSpace c = true) : isMark c = false := by
  simp only [Xml.isSpace, Bool.or_eq_true, beq_iff_eq] at h
  rcases h with ((rfl | rfl) | rfl) | rfl <;> rfl

/-- An indicator is read, if there is one. -/
theorem reads_occurrence : Reads occurrence Xml.Doctype.occurrence (Stops isMark) := by
  have hplus : Reads (skip (take ['+']) : Scan ParseError Unit) (word ['+'] + 1) (Stops isMark) :=
    (Scan.reads_skip_take ['+']).mono rfl (fun _ hr => Scan.notNext_of_stops hr rfl)
  have hmark : ∀ c, isMark c = true → Before (NotNext [c]) (1 : Scan.Words) (Stops isMark) :=
    fun c hc => Scan.before_one (fun _ hr => Scan.notNext_of_stops hr hc)
  have hstar := (Scan.reads_pure (ε := ParseError)).ifTake (t := ['*']) hplus
    (Before.add (Scan.notNext_word (by decide) (by decide)) (hmark '*' rfl))
  refine ((Scan.reads_pure (ε := ParseError)).ifTake (t := ['?']) hstar
    (Before.add (Scan.notNext_word (by decide) (by decide)).mul_right
      (Before.add (Scan.notNext_word (by decide) (by decide)) (hmark '?' rfl)))).of_eq ?_
  simp only [Xml.Doctype.occurrence, mul_one, add_assoc]

/-- A separator that a group has not ruled out. -/
def Fits (x : Option Char) (separator : Char) : Prop :=
  (separator = '|' ∨ separator = ',') ∧ ∀ previous ∈ x, previous = separator

/-- A separator fits itself. -/
theorem fits_some {separator : Char} (h : separator = '|' ∨ separator = ',') :
    Fits (some separator) separator :=
  ⟨h, fun _ hprevious => (Option.mem_some_iff.mp hprevious).symm⟩

/-- What is taken is one of the two separators. -/
theorem sound_separatorChar : Sound afterParticle.separatorChar
    (fun c => {w | w = [c] ∧ (c = '|' ∨ c = ',')}) := by
  refine Sound.ifTake (Scan.sound_pure '|') ((reads_token "," (F := Anything)).sound.seq
    (Scan.sound_pure ',')) (fun c => Scan.mul_onlyIf_le ?_) (fun c => Scan.mul_onlyIf_le ?_)
  · rintro rfl w rfl
    exact ⟨rfl, Or.inl rfl⟩
  · rintro rfl w rfl
    exact ⟨rfl, Or.inr rfl⟩

/-- Either separator is taken. -/
theorem complete_separatorChar {c : Char} {F : List Char → Prop} (h : c = '|' ∨ c = ',') :
    Complete afterParticle.separatorChar c (word [c]) F := by
  rcases h with rfl | rfl
  · have h := Complete.taken (t := ['|']) (q := token "," >>= fun _ => pure ',')
      (Scan.complete_pure (ε := ParseError) '|' (F := F))
    rwa [mul_one] at h
  · have h := (reads_token "," (F := Anything)).complete.seq
      (Scan.complete_pure (ε := ParseError) ',' (F := F)) Scan.before_anything
    rw [mul_one] at h
    exact h.passed (Scan.notNext_word (by decide) (by decide))

/-! ## The words of a stack -/

/-- A separator and what stands behind it, up to the end of the group and on. -/
def nextOf (x : Option Char) (L : Scan.Words) : Scan.Words :=
  {w | ∃ separator, Fits x separator
    ∧ w ∈ blank * (word [separator] * (between separator * L))}

/-- From the parenthesis that closes a group inside the groups given. -/
def closeOf : Groups → Scan.Words
  | [] => word [')']
  | x :: g => word [')'] * (Xml.Doctype.occurrence * (blank * closeOf g + nextOf x (closeOf g)))

/-- Behind a particle of a group. -/
def restOf (x : Option Char) (g : Groups) : Scan.Words :=
  blank * closeOf g + nextOf x (closeOf g)

/-- Where a particle of a group is due. -/
def opensOf (x : Option Char) (g : Groups) : Scan.Words :=
  {w | ∃ separator, Fits x separator ∧ w ∈ between separator * closeOf g}

/-- Where the indicator of a particle may come. -/
def afterOf : Groups → Scan.Words
  | [] => 0
  | x :: g => Xml.Doctype.occurrence * restOf x g

/-- Where a particle is due, or nothing is. -/
def dueOf : Groups → Scan.Words
  | [] => 1
  | x :: g => opensOf x g

/-- The separators that groups have committed themselves to are separators. -/
def Settled (groups : Groups) : Prop := ∀ x ∈ groups, ∀ c ∈ x, c = '|' ∨ c = ','

/-- What is around settled groups is settled. -/
theorem Settled.tail {x : Option Char} {g : Groups} (h : Settled (x :: g)) : Settled g :=
  fun y hy => h y (List.mem_cons_of_mem x hy)

/-- A group that was just opened is settled. -/
theorem Settled.none {g : Groups} (h : Settled g) : Settled (none :: g) :=
  List.forall_mem_cons.mpr ⟨fun _ hc => (Option.not_mem_none _ hc).elim, h⟩

/-- So is one with a separator. -/
theorem Settled.some {g : Groups} {separator : Char} (h : Settled g)
    (hseparator : separator = '|' ∨ separator = ',') : Settled (some separator :: g) :=
  List.forall_mem_cons.mpr ⟨fun _ hc => (Option.mem_some_iff.mp hc) ▸ hseparator, h⟩

/-- **A particle** where one is due. -/
theorem particle_mem_opensOf {x : Option Char} {g : Groups} (h : Settled (x :: g))
    {b p t : List Char} (hb : b ∈ blank) (hp : p ∈ particle) (ht : t ∈ restOf x g) :
    b ++ (p ++ t) ∈ opensOf x g := by
  rcases ht with ht | ⟨separator, hfits, ht⟩
  · -- the last one: the group keeps its separator, and may have none
    obtain ⟨c, hc, u, hu, rfl⟩ := Language.mem_mul.mp ht
    have hfits : ∃ separator, Fits x separator := by
      cases x with
      | none => exact ⟨',', Or.inr rfl, fun _ hc => by cases hc⟩
      | some separator => exact ⟨separator, fits_some (h _ List.mem_cons_self _ rfl)⟩
    obtain ⟨separator, hfits⟩ := hfits
    have hall := Language.append_mem_mul (l := between separator) (Content.last hb hp hc) hu
    exact ⟨separator, hfits, by simpa only [List.append_assoc] using hall⟩
  · obtain ⟨c, hc, y, hy, rfl⟩ := Language.mem_mul.mp ht
    obtain ⟨_, rfl, z, hz, rfl⟩ := Language.mem_mul.mp hy
    obtain ⟨u, hu, v, hv, rfl⟩ := Language.mem_mul.mp hz
    have hall := Language.append_mem_mul (l := between separator) (Content.next hb hp hc hu) hv
    refine ⟨separator, hfits, ?_⟩
    simpa only [List.append_assoc, List.cons_append, List.nil_append] using hall

/-- **A group** where a particle is due. -/
theorem open_mem_opensOf {x : Option Char} {g : Groups} (h : Settled (x :: g))
    {b t : List Char} (hb : b ∈ blank) (ht : t ∈ opensOf none (x :: g)) :
    b ++ ('(' :: t) ∈ opensOf x g := by
  obtain ⟨separator, hfits, ht⟩ := ht
  obtain ⟨u, hu, v, hv, rfl⟩ := Language.mem_mul.mp ht
  obtain ⟨_, rfl, y, hy, rfl⟩ := Language.mem_mul.mp hv
  obtain ⟨o, ho, rest, hrest, rfl⟩ := Language.mem_mul.mp hy
  have hall := particle_mem_opensOf h hb (Content.group hfits.1 hu ho) hrest
  simpa only [List.append_assoc, List.cons_append, List.nil_append] using hall

/-! ## What is taken -/

/-- What a turn after a particle does, behind the indicator and white space. -/
def afterTurn (x : Option Char) (g : Groups) : Groups ⊕ Groups → Scan.Words
  | .inl g' => {w | w = [')'] ∧ g' = g ∧ g ≠ []}
  | .inr g' => {w | (w = [')'] ∧ g = [] ∧ g' = []) ∨ ∃ c, Fits x c ∧ w = [c] ∧ g' = some c :: g}

/-- What is taken behind a particle, in one turn. -/
theorem sound_afterParticle (x : Option Char) (g : Groups) : Sound (afterParticle (x :: g))
    (fun t => Xml.Doctype.occurrence * (blank * afterTurn x g t)) := by
  refine reads_occurrence.sound.seq (reads_skip_space.sound.seq ?_)
  refine Sound.ifTake (L := fun t => {w | w = [] ∧ (g = [] ∧ t = .inr [] ∨ g ≠ [] ∧ t = .inl g)})
    (M := fun t => {w | ∃ c, Fits x c ∧ w = [c] ∧ t = .inr (some c :: g)}) ?_ ?_ (fun t => ?_)
    (fun t => ?_)
  · cases g with
    | nil => exact (Scan.sound_pure _).mono (fun _ w hw => ⟨hw.1, Or.inl ⟨rfl, hw.2⟩⟩)
    | cons y g =>
      exact (Scan.sound_pure _).mono (fun _ w hw => ⟨hw.1, Or.inr ⟨List.cons_ne_nil y g, hw.2⟩⟩)
  · refine sound_separatorChar.bind (fun c => (Scan.sound_require _ _).bind
      (fun _ => Scan.sound_pure _) (fun _ _ => le_rfl)) (fun c t => ?_)
    rintro w hw
    obtain ⟨_, ⟨rfl, hc⟩, v, hv, rfl⟩ := Language.mem_mul.mp hw
    obtain ⟨_, ⟨rfl, hall⟩, _, ⟨rfl, rfl⟩, rfl⟩ := Language.mem_mul.mp hv
    refine ⟨c, ⟨hc, fun previous hprevious => ?_⟩, rfl, rfl⟩
    cases hprevious
    exact beq_iff_eq.mp hall
  · rintro w hw
    obtain ⟨_, rfl, _, ⟨rfl, ht⟩, rfl⟩ := Language.mem_mul.mp hw
    rcases ht with ⟨hg, rfl⟩ | ⟨hg, rfl⟩
    · exact Or.inl ⟨rfl, hg, rfl⟩
    · exact ⟨rfl, rfl, hg⟩
  · rintro w ⟨c, hc, rfl, rfl⟩
    exact Or.inr ⟨c, hc, rfl, rfl⟩

/-- A turn after a particle, for every stack. -/
def turnOf : Groups → Groups ⊕ Groups → Scan.Words
  | [], _ => 0
  | x :: g, t => Xml.Doctype.occurrence * (blank * afterTurn x g t)

/-- And in all of them. -/
theorem sound_afterParticles {groups : Groups} (hne : groups ≠ []) (h : Settled groups) :
    Sound (Scan.loop afterParticle groups)
      (fun g' => {w | Settled g' ∧ w ∈ leads (afterOf groups) (dueOf g')}) := by
  refine Sound.loop (K := turnOf)
    (N := fun g g' => {w | Settled g' ∧ w ∈ leads (afterOf g) (dueOf g')})
    (fun g => g ≠ [] ∧ Settled g) ?_ ?_ ?_ ?_ ⟨hne, h⟩
  · rintro (_ | ⟨x, g⟩) ⟨hne, -⟩
    · exact absurd rfl hne
    · exact sound_afterParticle x g
  · rintro (_ | ⟨x, g⟩) g' w ⟨hne, h⟩ hw
    · exact absurd rfl hne
    · obtain ⟨o, -, v, hv, rfl⟩ := Language.mem_mul.mp hw
      obtain ⟨b, -, _, ⟨rfl, rfl, hg⟩, rfl⟩ := Language.mem_mul.mp hv
      exact ⟨⟨hg, h.tail⟩, by simp⟩
  · rintro (_ | ⟨x, g⟩) g' g'' ⟨hne, h⟩ w hw
    · exact absurd rfl hne
    · obtain ⟨u, hu, t, ⟨hsettled, ht⟩, rfl⟩ := Language.mem_mul.mp hw
      obtain ⟨o, ho, v, hv, rfl⟩ := Language.mem_mul.mp hu
      obtain ⟨b, hb, _, ⟨rfl, rfl, hg⟩, rfl⟩ := Language.mem_mul.mp hv
      refine ⟨hsettled, fun r hr => ?_⟩
      obtain ⟨y, g, rfl⟩ := List.exists_cons_of_ne_nil hg
      -- the group that is closed is a particle of the one around it
      have hclose : [')'] ++ (t ++ r) ∈ closeOf (y :: g) := Language.append_mem_mul rfl (ht r hr)
      have hall : o ++ (b ++ ([')'] ++ (t ++ r))) ∈ afterOf (x :: y :: g) :=
        Language.append_mem_mul ho (Or.inl (Language.append_mem_mul hb hclose))
      simpa only [List.append_assoc] using hall
  · rintro (_ | ⟨x, g⟩) g' ⟨hne, h⟩ w hw
    · exact absurd rfl hne
    · obtain ⟨o, ho, v, hv, rfl⟩ := Language.mem_mul.mp hw
      obtain ⟨b, hb, t, ht, rfl⟩ := Language.mem_mul.mp hv
      rcases ht with ⟨rfl, rfl, rfl⟩ | ⟨c, hc, rfl, rfl⟩
      · refine ⟨fun _ hx => absurd hx List.not_mem_nil, ?_⟩
        rintro _ rfl
        have hall : o ++ (b ++ [')']) ∈ afterOf [x] :=
          Language.append_mem_mul ho (Or.inl (Language.append_mem_mul hb rfl))
        rwa [List.append_nil]
      · refine ⟨h.tail.some hc.1, ?_⟩
        rintro r ⟨separator, hseparator, hr⟩
        cases hseparator.2 c rfl
        have hall : o ++ (b ++ ([c] ++ r)) ∈ afterOf (x :: g) :=
          Language.append_mem_mul ho (Or.inr ⟨c, hc,
            Language.append_mem_mul hb (Language.append_mem_mul rfl hr)⟩)
        simpa only [List.append_assoc] using hall

section Names

variable [XmlStream] [LawfulXmlStream] {F : List Char → Prop}

/-- What is read behind the name of a particle, by the stack that is left. -/
def leftBy (groups : Groups) (t : Groups ⊕ Unit) : Scan.Words :=
  {w | ∃ g' : Groups, Settled g' ∧ w ∈ leads (afterOf groups) (dueOf g')
    ∧ t = if g'.isEmpty = true then .inr () else .inl g'}

/-- What a turn before a particle may take. -/
def beforeTurn (groups : Groups) : Groups ⊕ Unit → Scan.Words
  | .inl g' => {w | (g' ≠ [] ∧ Settled g' ∧ w ≠ []) ∧ w ∈ leads (dueOf groups) (dueOf g')}
  | .inr _ => dueOf groups

/-- What is taken in front of a particle, in one turn. -/
theorem sound_beforeParticle {groups : Groups} (hne : groups ≠ []) (h : Settled groups) :
    Sound (beforeParticle groups) (beforeTurn groups) := by
  obtain ⟨x, g, rfl⟩ := List.exists_cons_of_ne_nil hne
  have hparticle : Sound (skip qname >>= fun _ => Scan.loop afterParticle (x :: g) >>= fun g' =>
      if g'.isEmpty = true then pure (.inr () : Groups ⊕ Unit) else pure (.inl g'))
      (fun t => qName * leftBy (x :: g) t) := by
    refine reads_skip_qname.sound.seq ((sound_afterParticles hne h).bind
      (M := fun g' t => onlyIf (t = if g'.isEmpty = true then .inr () else .inl g'))
      (fun g' => ?_) (fun g' t => ?_))
    · split
      · exact Scan.sound_pure _
      · exact Scan.sound_pure _
    · exact Scan.mul_onlyIf_le (fun ht w hw => ⟨g', hw.1, hw.2, ht⟩)
  have hopen : Sound (pure (.inl (none :: x :: g)) : Scan ParseError (Groups ⊕ Unit))
      (fun t => onlyIf (t = .inl (none :: x :: g))) := Scan.sound_pure _
  refine reads_skip_space.sound.bind (fun _ => hopen.ifTake hparticle (N := fun t =>
    word ['('] * onlyIf (t = .inl (none :: x :: g)) + qName * leftBy (x :: g) t)
    (fun _ => le_sup_left) (fun _ => le_sup_right)) (fun _ t w hw => ?_)
  obtain ⟨b, hb, v, hv, rfl⟩ := Language.mem_mul.mp hw
  rcases hv with hv | hv
  · obtain ⟨_, rfl, _, ⟨rfl, rfl⟩, rfl⟩ := Language.mem_mul.mp hv
    refine ⟨⟨List.cons_ne_nil _ _, h.none, by simp⟩, fun r hr => ?_⟩
    rw [List.append_assoc]
    exact open_mem_opensOf h hb hr
  · obtain ⟨n, hn, t, ⟨g', hg', ht, rfl⟩, rfl⟩ := Language.mem_mul.mp hv
    have hall : ∀ r ∈ dueOf g', b ++ (n ++ t) ++ r ∈ opensOf x g := by
      intro r hr
      obtain ⟨o, ho, u, hu, heq⟩ := Language.mem_mul.mp (ht r hr)
      have hin := particle_mem_opensOf h hb (Content.name hn ho) hu
      rw [List.append_assoc, heq] at hin
      simpa only [List.append_assoc] using hin
    cases g' with
    | nil =>
      have hlast := hall [] rfl
      rw [List.append_nil] at hlast
      exact hlast
    | cons y g' =>
      refine ⟨⟨List.cons_ne_nil y g', hg', ?_⟩, hall⟩
      intro hnil
      have hname := isName_of_mem_qName hn
      simp only [List.append_eq_nil_iff] at hnil
      rw [hnil.2.1] at hname
      cases hname

/-- And in all of them, from one open group. -/
theorem sound_beforeParticles : Sound (Scan.loop beforeParticle [none])
    (fun _ => opensOf none []) := by
  refine Sound.loop (K := beforeTurn) (N := fun g _ => dueOf g) (fun g => g ≠ [] ∧ Settled g)
    (fun g hg => sound_beforeParticle hg.1 hg.2) (fun g g' w _ hw => ?_) (fun g g' _ _ w hw => ?_)
    (fun g _ _ => le_rfl) ⟨List.cons_ne_nil _ _, ?_⟩
  · exact ⟨⟨hw.1.1, hw.1.2.1⟩, hw.1.2.2⟩
  · obtain ⟨u, hu, v, hv, rfl⟩ := Language.mem_mul.mp hw
    exact hu.2 v hv
  · exact Settled.none (fun _ hx => absurd hx List.not_mem_nil)

/-! ## What is returned -/

omit [XmlStream] [LawfulXmlStream] in
/-- Where the indicator, white space and a mark behind it come, a turn reads them. -/
theorem complete_behindParticle {t : Groups ⊕ Groups} {c : Char}
    {q : Scan ParseError (Groups ⊕ Groups)} (hq : Complete q t (word [c]) F)
    (hc : Xml.isSpace c = false) (hmark : isMark c = false) :
    Complete (occurrence >>= fun _ => skip space >>= fun _ => q) t
      (Xml.Doctype.occurrence * (blank * word [c])) F := by
  have hblank : Before (Stops isMark) blank (Stops isMark) :=
    before_blank (fun _ _ h => Scan.stops_cons.mpr (isMark_of_isSpace h))
  exact reads_occurrence.complete.seq
    (reads_skip_space.complete.seq hq (Scan.stops_word hc)) (hblank.mul (Scan.stops_word hmark))

omit [XmlStream] [LawfulXmlStream] in
/-- A group is closed. -/
theorem afterParticle_close {x : Option Char} {g : Groups} {o b : List Char} (s : List Char)
    (ho : o ∈ Xml.Doctype.occurrence) (hb : b ∈ blank) :
    afterParticle (x :: g) (o ++ (b ++ (')' :: s)))
      = .ok (if g.isEmpty = true then .inr [] else .inl g, s) := by
  have hturn : Complete (afterParticle (x :: g)) (if g.isEmpty = true then .inr [] else .inl g)
      (Xml.Doctype.occurrence * (blank * word [')'])) Anything := by
    refine complete_behindParticle ?_ rfl rfl
    rintro _ rfl r -
    refine Scan.bind_eq_ok.mpr ⟨true, r, Scan.take_append [')'] r, ?_⟩
    cases g with
    | nil => rfl
    | cons y g => rfl
  have h := hturn _ (Language.append_mem_mul ho (Language.append_mem_mul hb rfl)) s trivial
  simpa only [List.append_assoc, List.cons_append, List.nil_append] using h

omit [XmlStream] [LawfulXmlStream] in
/-- A separator that fits goes on to the next particle. -/
theorem afterParticle_separator {x : Option Char} {g : Groups} {o b : List Char} {c : Char}
    (s : List Char) (ho : o ∈ Xml.Doctype.occurrence) (hb : b ∈ blank) (hfits : Fits x c) :
    afterParticle (x :: g) (o ++ (b ++ (c :: s))) = .ok (.inr (some c :: g), s) := by
  have hne : c ≠ ')' := by rcases hfits.1 with rfl | rfl <;> decide
  have hturn : Complete (afterParticle (x :: g)) (.inr (some c :: g))
      (Xml.Doctype.occurrence * (blank * word [c])) Anything := by
    refine complete_behindParticle ?_ (by rcases hfits.1 with rfl | rfl <;> rfl)
      (by rcases hfits.1 with rfl | rfl <;> rfl)
    refine Complete.passed ?_ (Scan.before_word (fun _ => notNext_cons hne))
    have hall : x.all (fun previous => previous == c) = true := by
      cases x with
      | none => rfl
      | some previous => exact beq_iff_eq.mpr (hfits.2 previous rfl)
    have h := (complete_separatorChar hfits.1 (F := Anything)).bind ((Scan.complete_require hall
      (invalid "mixed DTD content separators") (F := Anything)).seq
        (Scan.complete_pure (Sum.inr (some c :: g) : Groups ⊕ Groups) (F := Anything))
        Scan.before_anything) Scan.before_anything (f := fun separator =>
          require (x.all (fun previous => previous == separator))
            (invalid "mixed DTD content separators") >>= fun _ =>
              pure (Sum.inr (some separator :: g) : Groups ⊕ Groups))
    rwa [one_mul, mul_one] at h
  have h := hturn _ (Language.append_mem_mul ho (Language.append_mem_mul hb rfl)) s trivial
  simpa only [List.append_assoc, List.cons_append, List.nil_append] using h

/-- What is done when nothing more comes behind a particle: the next particle, or the end. -/
def resume (groups : Groups) : Scan ParseError Unit :=
  if groups.isEmpty = true then pure () else Scan.loop beforeParticle groups

/-- What is done behind the name of a particle. -/
def finish (groups : Groups) : Scan ParseError Unit := Scan.loop afterParticle groups >>= resume

variable {x : Option Char} {g : Groups} {b o s r : List Char}

omit [LawfulXmlStream] in
/-- The last group is closed. -/
theorem finish_last (ho : o ∈ Xml.Doctype.occurrence) (hb : b ∈ blank) :
    finish [x] (o ++ (b ++ (')' :: s))) = .ok ((), s) :=
  Scan.bind_eq_ok.mpr ⟨[], s, Scan.loop_done (afterParticle_close s ho hb), rfl⟩

omit [LawfulXmlStream] in
/-- A group inside another one is closed. -/
theorem finish_close {y : Option Char} (ho : o ∈ Xml.Doctype.occurrence) (hb : b ∈ blank)
    (h : finish (y :: g) s = .ok ((), r)) :
    finish (x :: y :: g) (o ++ (b ++ (')' :: s))) = .ok ((), r) := by
  obtain ⟨g', m, hloop, hresume⟩ := Scan.bind_eq_ok.mp h
  refine Scan.bind_eq_ok.mpr ⟨g', m, Scan.loop_next (afterParticle_close s ho hb) ?_ hloop, hresume⟩
  simp only [List.length_append, List.length_cons]
  omega

omit [LawfulXmlStream] in
/-- A separator comes. -/
theorem finish_separator {c : Char} (ho : o ∈ Xml.Doctype.occurrence) (hb : b ∈ blank)
    (hfits : Fits x c) (h : Scan.loop beforeParticle (some c :: g) s = .ok ((), r)) :
    finish (x :: g) (o ++ (b ++ (c :: s))) = .ok ((), r) :=
  Scan.bind_eq_ok.mpr ⟨some c :: g, s, Scan.loop_done (afterParticle_separator s ho hb hfits), h⟩

/-- A name, and what is behind it. -/
theorem loop_name {n : List Char} (hsettled : Settled (x :: g)) (hb : b ∈ blank) (hn : n ∈ qName)
    (hs : Stops Xml.isNameChar s) (h : finish (x :: g) s = .ok ((), r)) :
    Scan.loop beforeParticle (x :: g) (b ++ (n ++ s)) = .ok ((), r) := by
  obtain ⟨g', m, hloop, hresume⟩ := Scan.bind_eq_ok.mp h
  have hshort : m.length ≤ s.length := by
    obtain ⟨w, -, rfl⟩ := (sound_afterParticles (List.cons_ne_nil x g) hsettled).takes hloop
    simp only [List.length_append, Nat.le_add_left]
  have hspace := reads_skip_space.complete b hb (n ++ s) (stops_qName n hn s hs)
  have hopen : NotNext ['('] (n ++ s) :=
    before_qName (fun _ _ h => notNext_of_isNameStartChar h rfl) n hn s hs
  have hbody : beforeParticle (x :: g) (b ++ (n ++ s))
      = .ok (if g'.isEmpty = true then .inr () else .inl g', m) := by
    refine Scan.bind_eq_ok.mpr ⟨(), n ++ s, hspace, Scan.bind_eq_ok.mpr ⟨false, n ++ s,
      Scan.take_of_notNext hopen, Scan.bind_eq_ok.mpr ⟨(), s, reads_skip_qname.complete n hn s hs,
        Scan.bind_eq_ok.mpr ⟨g', m, hloop, ?_⟩⟩⟩⟩
    split <;> rfl
  cases g' with
  | nil =>
    cases hresume
    exact Scan.loop_done hbody
  | cons y g' =>
    refine Scan.loop_next hbody ?_ hresume
    have hname := isName_of_mem_qName hn
    cases n with
    | nil => cases hname
    | cons c cs =>
      simp only [List.length_append, List.length_cons]
      omega

omit [LawfulXmlStream] in
/-- A parenthesis that opens a group. -/
theorem loop_open (hb : b ∈ blank)
    (h : Scan.loop beforeParticle (none :: x :: g) s = .ok ((), r)) :
    Scan.loop beforeParticle (x :: g) (b ++ ('(' :: s)) = .ok ((), r) := by
  have hspace := reads_skip_space.complete b hb ('(' :: s) (Scan.stops_cons.mpr rfl)
  refine Scan.loop_next (Scan.bind_eq_ok.mpr ⟨(), '(' :: s, hspace, Scan.bind_eq_ok.mpr ⟨true, s,
    Scan.take_append ['('] s, rfl⟩⟩) ?_ h
  simp only [List.length_append, List.length_cons]
  omega

/-- What the recogniser does on a part of a content model, whatever the stack and whatever
follows: with what is behind a particle it does what it does behind the particle's name,
and with what closes a group, what it does behind a particle of the group. -/
def Returns : Part → List Char → Prop
  | .particle, w => ∀ x g b s r, Settled (x :: g) → b ∈ blank → Stops Xml.isNameChar s →
      (∀ o ∈ Xml.Doctype.occurrence, finish (x :: g) (o ++ s) = .ok ((), r)) →
      Scan.loop beforeParticle (x :: g) (b ++ (w ++ s)) = .ok ((), r)
  | .group separator, w => ∀ x g s r, Settled (x :: g) → Fits x separator →
      (∀ y, ∀ o ∈ Xml.Doctype.occurrence, ∀ b ∈ blank,
        finish (y :: g) (o ++ (b ++ (')' :: s))) = .ok ((), r)) →
      Scan.loop beforeParticle (x :: g) (w ++ (')' :: s)) = .ok ((), r)

omit [XmlStream] [LawfulXmlStream] in
/-- An indicator does not continue a name. -/
theorem stops_occurrence {o s : List Char} (ho : o ∈ Xml.Doctype.occurrence)
    (hs : Stops Xml.isNameChar s) : Stops Xml.isNameChar (o ++ s) := by
  rcases ho with ((rfl | rfl) | rfl) | rfl
  · exact Scan.stops_cons.mpr (by decide)
  · exact Scan.stops_cons.mpr (by decide)
  · exact Scan.stops_cons.mpr (by decide)
  · exact hs

/-- **What a grammar has**, the two loops return. -/
theorem returns_of_content {part : Part} {w : List Char} (h : Content part w) :
    Returns part w := by
  have hblank : ∀ {b : List Char} {c : Char} {s : List Char}, b ∈ blank → Xml.isNameChar c = false →
      Stops Xml.isNameChar (b ++ (c :: s)) := fun hb hc =>
    nameStops_blank _ hb _ (Scan.stops_cons.mpr hc)
  induction h with
  | name hn ho =>
    intro x g b s r hsettled hb hs hafter
    rw [List.append_assoc]
    exact loop_name hsettled hb hn (stops_occurrence ho hs) (hafter _ ho)
  | @group separator w o hseparator hw ho ih =>
    intro x g b s r hsettled hb hs hafter
    have hinner := ih none (x :: g) (o ++ s) r hsettled.none
      ⟨hseparator, fun _ hc => (Option.not_mem_none _ hc).elim⟩
      (fun y o' ho' b' hb' => finish_close ho' hb' (hafter o ho))
    have hall := loop_open hb hinner
    simpa only [List.append_assoc, List.cons_append, List.nil_append] using hall
  | @last separator b p b' hb hp hb' ih =>
    intro x g s r hsettled hfits hafter
    have hall := ih x g b (b' ++ (')' :: s)) r hsettled hb (hblank hb' (by decide))
      (fun o ho => hafter x o ho b' hb')
    simpa only [List.append_assoc] using hall
  | @next separator b p b' w hb hp hb' hw ihp ihw =>
    intro x g s r hsettled hfits hafter
    have hmark : Xml.isNameChar separator = false := by rcases hfits.1 with rfl | rfl <;> decide
    have hrest := ihw (some separator) g s r (hsettled.tail.some hfits.1) (fits_some hfits.1) hafter
    have hall := ihp x g b (b' ++ (separator :: (w ++ (')' :: s)))) r hsettled hb
      (hblank hb' hmark) (fun o ho => finish_separator ho hb' hfits hrest)
    simpa only [List.append_assoc, List.cons_append, List.nil_append] using hall

/-- **The groups of a content model**, behind the first parenthesis. -/
theorem reads_beforeParticles : Reads (Scan.loop beforeParticle [none])
    (between '|' * word [')'] + between ',' * word [')']) F := by
  have hnone : Settled [none] := Settled.none (fun _ hx => absurd hx List.not_mem_nil)
  have hcomplete : ∀ separator, separator = '|' ∨ separator = ',' →
      Complete (Scan.loop beforeParticle [none]) () (between separator * word [')']) F := by
    intro separator hseparator w hw r _
    obtain ⟨u, hu, _, rfl, rfl⟩ := Language.mem_mul.mp hw
    rw [List.append_assoc]
    exact returns_of_content hu none [] r r hnone
      ⟨hseparator, fun _ hc => (Option.not_mem_none _ hc).elim⟩
      (fun y o ho b hb => finish_last ho hb)
  refine ⟨sound_beforeParticles.mono ?_, (hcomplete '|' (Or.inl rfl)).add (hcomplete ',' (Or.inr rfl))⟩
  rintro _ w ⟨separator, ⟨rfl | rfl, -⟩, hw⟩
  · exact Or.inl hw
  · exact Or.inr hw

/-! ## Element types -/

omit [XmlStream] [LawfulXmlStream] in
/-- Space in front of a separator is part of what stands between particles. -/
theorem blank_mul_between (separator : Char) : blank * between separator = between separator := by
  rw [between_eq, ← mul_assoc, blank_mul_blank]

/-- What stands between the parentheses of a group, without the white space before it. -/
def core (separator : Char) : Scan.Words := particle * ((behind separator)∗ * blank)

omit [XmlStream] [LawfulXmlStream] in
/-- A particle starts with a parenthesis or with a name. -/
theorem before_particle {F G : List Char → Prop} (hopen : ∀ r, F ('(' :: r))
    (hname : ∀ c r, Xml.isNameStartChar c = true → F (c :: r)) : Before F particle G := by
  rintro w (⟨hn, ho⟩ | @⟨separator, v, o, hs, hv, ho⟩) r -
  · rw [List.append_assoc]
    exact before_qName (G := Anything) hname _ hn _ trivial
  · exact hopen _

/-- What comes behind the first parenthesis of a content model and white space. -/
def groups : Scan.Words :=
  (between '|' * word [')'] + between ',' * word [')']) * Xml.Doctype.occurrence

/-- Groups without space in front. -/
def coreGroups : Scan.Words :=
  (core '|' * word [')'] + core ',' * word [')']) * Xml.Doctype.occurrence

omit [XmlStream] [LawfulXmlStream] in
/-- A parenthesis and groups are the grammar's children. -/
theorem children_eq : word ['('] * groups = Xml.Doctype.children := by
  rw [groups, Xml.Doctype.children, ← group_eq]
  simp only [mul_add, add_mul, mul_assoc]

omit [XmlStream] [LawfulXmlStream] in
/-- Space in front of groups is part of them. -/
theorem blank_mul_groups : blank * groups = groups := by
  simp only [groups, mul_add, add_mul, ← mul_assoc, blank_mul_between]

omit [XmlStream] [LawfulXmlStream] in
/-- With it they are the groups. -/
theorem blank_mul_coreGroups : blank * coreGroups = groups := by
  simp only [groups, coreGroups, between_eq, core, mul_add, add_mul, mul_assoc]

/-- **A content model of elements** is read. -/
theorem reads_children : Reads children groups (Stops isMark) :=
  reads_beforeParticles.seq reads_occurrence Scan.before_anything

/-- A name of mixed content, with the bar before it. -/
def mixedItem : Scan.Words := word ['|'] * (blank * (qName * blank))

/-- What comes behind the keyword of mixed content and white space. -/
def mixedRest : Scan.Words := mixedItem∗ * (word [')'] * word ['*']) + word [')']

omit [XmlStream] [LawfulXmlStream] in
/-- The pieces of mixed content are the grammar's. -/
theorem mixed_eq :
    word ['('] * (blank * (word "#PCDATA".toList * (blank * mixedRest))) = Xml.Doctype.mixed := by
  have hcomm : blank * mixedItem∗ = (blank * (word ['|'] * (blank * qName)))∗ * blank := by
    have h := Scan.kstar_mul_comm blank (word ['|'] * (blank * qName))
    rw [h]
    simp only [mixedItem, mul_assoc]
  have hend : word [')'] * word ['*'] = word ")*".toList := by
    ext w
    simp only [Language.mem_mul, Scan.mem_word]
    exact ⟨by rintro ⟨_, rfl, _, rfl, rfl⟩; rfl, by rintro rfl; exact ⟨_, rfl, _, rfl, rfl⟩⟩
  rw [mixedRest, hend, Xml.Doctype.mixed, mul_add, ← mul_assoc blank (mixedItem∗), hcomm]
  simp only [mul_add, mul_assoc]

/-- What follows a name of mixed content and the white space behind it. -/
def AtMark (r : List Char) : Prop := Stops Xml.isSpace r ∧ Stops Xml.isNameChar r

/-- One more name is taken. -/
theorem complete_mixedTurn (names : Bool) :
    Complete (mixedTurn names) (.inl true) mixedItem AtMark := by
  have hblank : Before (Stops Xml.isNameChar) blank AtMark :=
    fun w hw r hr => nameStops_blank w hw r hr.2
  have h := (reads_skip_space.complete.seq (reads_skip_qname.complete.seq
    ((reads_skip_space.complete.mono le_rfl (fun _ hr => hr.1)).seq (Scan.complete_pure
      (Sum.inl true : Bool ⊕ Bool) (F := AtMark)) (Scan.before_one (fun _ hr => hr)))
    (by rwa [mul_one])) stops_qName.mul_right).taken (t := ['|']) (q := pure (.inr names))
  rwa [mul_one] at h

omit [LawfulXmlStream] in
/-- Without a bar there is no more name. -/
theorem complete_mixedTurn_stop (names : Bool) :
    Complete (mixedTurn names) (.inr names) 1 (fun r => AtMark r ∧ NotNext ['|'] r) :=
  (Scan.complete_pure (Sum.inr names : Bool ⊕ Bool)).passed (Scan.before_one (fun _ hr => hr.2))

/-- What is taken is names, if any are found. -/
theorem sound_mixedNames : Sound (Scan.loop mixedTurn false)
    (fun names => if names = true then mixedItem∗ else 1) := by
  refine (Sound.loop (I := fun _ => True) (g := false)
    (K := fun names => Sum.elim (fun names' => mixedItem * onlyIf (names' = true))
      (fun names' => onlyIf (names' = names)))
    (N := fun names names' => {w | w ∈ mixedItem∗ ∧ (names' = false → w = [] ∧ names = false)})
    (fun names _ => ?_) (fun names names' w _ hw => ⟨trivial, ?_⟩)
    (fun names names' names'' _ w hw => ?_) (fun names names' _ w hw => ?_) trivial).mono ?_
  · refine Sound.ifTake (reads_skip_space.sound.seq (reads_skip_qname.sound.seq
      (reads_skip_space.sound.seq (Scan.sound_pure _)))) (Scan.sound_pure _) ?_ ?_
    · rintro (names' | names')
      · simp only [mixedItem, Sum.elim_inl, mul_assoc, Sum.inl.injEq, le_refl]
      · simp only [reduceCtorEq]
        exact fun w hw => by
          obtain ⟨_, _, _, h, _⟩ := Language.mem_mul.mp hw
          obtain ⟨_, _, _, h, _⟩ := Language.mem_mul.mp h
          obtain ⟨_, _, _, h, _⟩ := Language.mem_mul.mp h
          obtain ⟨_, _, _, h, _⟩ := Language.mem_mul.mp h
          exact h.2.elim
    · rintro (names' | names')
      · exact Scan.onlyIf_le (fun h => by cases h)
      · exact Scan.onlyIf_le (fun h => by cases h; rintro w rfl; exact ⟨rfl, rfl⟩)
  · obtain ⟨u, hu, v, hv, rfl⟩ := Language.mem_mul.mp hw
    obtain ⟨_, rfl, _, _, rfl⟩ := Language.mem_mul.mp hu
    simp
  · obtain ⟨u, hu, v, ⟨hv, hnone⟩, rfl⟩ := Language.mem_mul.mp hw
    obtain ⟨i, hi, _, ⟨rfl, rfl⟩, rfl⟩ := Language.mem_mul.mp hu
    rw [List.append_nil]
    have hle : mixedItem * mixedItem∗ ≤ mixedItem∗ := mul_kstar_le_kstar
    exact ⟨hle (Language.append_mem_mul hi hv), fun h => absurd (hnone h).2 (by decide)⟩
  · obtain ⟨rfl, rfl⟩ := hw
    exact ⟨Language.nil_mem_kstar _, fun h => ⟨rfl, h⟩⟩
  · rintro (_ | _) w ⟨hw, hnone⟩
    · exact (hnone rfl).1
    · exact hw

omit [XmlStream] [LawfulXmlStream] in
/-- A name is not nothing. -/
theorem nil_notMem_mixedItem : [] ∉ mixedItem := by
  intro h
  obtain ⟨_, rfl, _, _, hnil⟩ := Language.mem_mul.mp h
  cases hnil

/-- All names are taken. -/
theorem complete_mixedNames : Complete (Scan.loop mixedTurn false) true (mixedItem * mixedItem∗)
    (fun r => AtMark r ∧ NotNext ['|'] r) := by
  have hbar : ∀ {G : List Char → Prop}, Before AtMark mixedItem G := fun {G} =>
    Before.mul_right (Scan.before_word (fun _ => ⟨Scan.stops_cons.mpr rfl,
      Scan.stops_cons.mpr (by decide)⟩))
  have hloop := (complete_mixedTurn true).loop nil_notMem_mixedItem (complete_mixedTurn_stop true)
    hbar (Scan.before_one (fun _ hr => hr.1))
  rw [mul_one] at hloop
  exact (complete_mixedTurn false).turn nil_notMem_mixedItem hloop (hbar.kstar (fun _ hr => hr.1))

omit [XmlStream] [LawfulXmlStream] in
/-- The end with a star, which is required behind names only. -/
theorem complete_mixedEnd (names : Bool) :
    Complete (token ")" >>= fun _ => if names = true then token "*" else skip (take ['*'])) ()
      (word [')'] * word ['*']) F := by
  refine (reads_token ")" (F := Anything)).complete.seq ?_ Scan.before_anything
  cases names with
  | true => exact (reads_token "*").complete
  | false => exact (Scan.complete_take ['*']).skip

/-- **Mixed content** is read. -/
theorem reads_mixed : Reads mixed (blank * mixedRest) (Stops isMark) := by
  have hend : ∀ {G : List Char → Prop} {w : List Char},
      Before (fun r => AtMark r ∧ NotNext ['|'] r) (word (')' :: w)) G := fun {G w} =>
    Scan.before_word (fun _ => ⟨⟨Scan.stops_cons.mpr rfl, Scan.stops_cons.mpr (by decide)⟩,
      notNext_cons (by decide)⟩)
  have hspace : Before (Stops Xml.isSpace) mixedRest (Stops isMark) := by
    refine Before.add ((Before.kstar (Scan.stops_word rfl).mul_right (fun _ hr => hr)).mul
      (Scan.stops_word (G := Anything) rfl |>.mul_right)) (Scan.stops_word rfl)
  refine ⟨reads_skip_space.sound.seq (sound_mixedNames.bind (M := fun names _ => word [')']
    * (if names = true then word ['*'] else word ['*'] + 1)) (fun names => ?_) (fun names _ => ?_)),
    reads_skip_space.complete.seq (Complete.add ?_ ?_) hspace⟩
  · refine (reads_token ")" (F := Anything)).sound.seq ?_
    cases names with
    | true => exact (reads_token "*" (F := Anything)).sound
    | false => exact (Scan.reads_skip_take ['*']).sound
  · cases names with
    | true => exact le_sup_left
    | false =>
      refine (one_mul _).le.trans ((mul_add _ _ _).le.trans (add_le_add ?_ (mul_one _).le))
      exact le_mul_of_one_le_left' one_le_kstar
  · rw [← one_add_mul_kstar, add_mul]
    exact Complete.add ((complete_mixedTurn_stop false).stop.bind (complete_mixedEnd false)
      hend.mul_right) (complete_mixedNames.bind (complete_mixedEnd true) hend.mul_right)
  · -- no name, and no mark behind the parenthesis
    have hnone := (Scan.reads_skip_take (ε := ParseError) ['*']).complete.mono
      (le_sup_right (a := word ['*'])) (fun r (hr : Stops isMark r) => Scan.notNext_of_stops hr rfl)
    have hlast := (reads_token ")" (F := Anything)).complete.seq hnone Scan.before_anything
    have h := (complete_mixedTurn_stop false).stop.bind (f := fun names => token ")" >>= fun _ =>
      if names = true then token "*" else skip (take ['*'])) hlast hend.mul_right
    rwa [one_mul, mul_one] at h

omit [XmlStream] [LawfulXmlStream] in
/-- Groups start with a parenthesis or with a name. -/
theorem before_coreGroups {F G : List Char → Prop} (hopen : ∀ r, F ('(' :: r))
    (hname : ∀ c r, Xml.isNameStartChar c = true → F (c :: r)) : Before F coreGroups G :=
  have hparticle : Before F particle Anything := before_particle hopen hname
  (Before.add (G := Anything) hparticle.mul_right.mul_right hparticle.mul_right.mul_right).mul_right

/-- **Any content** is read. -/
theorem reads_contentSpec : Reads contentSpec contentspec (Stops isMark) := by
  have hgroups : Reads (token "(" >>= fun _ => skip space >>= fun _ =>
      take "#PCDATA".toList >>= fun found => if found = true then mixed else children)
      (Xml.Doctype.mixed + Xml.Doctype.children) (Stops isMark) := by
    have hstart : Before (NotNext "#PCDATA".toList) coreGroups (Stops isMark) :=
      before_coreGroups (fun _ => notNext_cons (by decide))
        (fun _ _ h => notNext_of_isNameStartChar h (by decide))
    have hspace : Before (Stops Xml.isSpace) coreGroups (Stops isMark) :=
      before_coreGroups (fun _ => Scan.stops_cons.mpr rfl)
        (fun _ _ h => Scan.stops_cons.mpr (isSpace_of_isNameStartChar h))
    rw [← mixed_eq, ← children_eq]
    refine ⟨?_, Complete.add ?_ ?_⟩
    · refine ((reads_token "(" (F := Anything)).sound.seq (reads_skip_space.sound.seq
        (reads_mixed.sound.ifTake reads_children.sound (fun _ => le_sup_left)
          (fun _ => le_sup_right)))).mono (fun _ => le_of_eq ?_)
      show word ['('] * (blank * (word "#PCDATA".toList * (blank * mixedRest) + groups)) = _
      rw [mul_add blank, blank_mul_groups, mul_add]
    · exact (reads_token "(" (F := Anything)).complete.seq (reads_skip_space.complete.seq
        reads_mixed.complete.taken (Scan.stops_word rfl).mul_right) Scan.before_anything
    · rw [← blank_mul_coreGroups]
      refine (reads_token "(" (F := Anything)).complete.seq (reads_skip_space.complete.seq
        (Complete.passed (reads_children.complete.of_le ?_) hstart) hspace) Scan.before_anything
      rw [← blank_mul_coreGroups]
      exact le_mul_of_one_le_left' one_le_blank
  have hnot : ∀ {c : Char} {cs : List Char}, c ≠ '(' → Before (NotNext (c :: cs))
      (Xml.Doctype.mixed + Xml.Doctype.children) (Stops isMark) := by
    intro c cs hc
    rw [← mixed_eq, ← children_eq]
    exact Before.add (Scan.before_word (fun _ => notNext_cons hc.symm)).mul_right
      (Scan.before_word (fun _ => notNext_cons hc.symm)).mul_right
  have hany := (Scan.reads_pure (ε := ParseError)).ifTake (t := "ANY".toList) hgroups
    (hnot (by decide))
  refine ((Scan.reads_pure (ε := ParseError)).ifTake (t := "EMPTY".toList) hany
    (Before.add (Scan.notNext_word (by decide) (by decide)).mul_right (hnot (by decide)))).of_eq ?_
  simp only [contentspec, mul_one, add_assoc]

omit [XmlStream] [LawfulXmlStream] in
/-- What an element may contain does not start with space. -/
theorem stops_contentspec {G : List Char → Prop} : Before (Stops Xml.isSpace) contentspec G := by
  unfold contentspec
  rw [← mixed_eq, ← children_eq]
  exact Before.add (Before.add (Before.add (Scan.stops_word rfl) (Scan.stops_word rfl))
    (Scan.stops_word rfl).mul_right) (Scan.stops_word rfl).mul_right

/-- **The declaration of an element** is read. -/
theorem reads_element : Reads element (S * (qName * (S * (contentspec * closing)))) F := by
  have hmark : Before (Stops isMark) closing F :=
    (before_blank (fun _ _ h => Scan.stops_cons.mpr (isMark_of_isSpace h))).mul
      (Scan.stops_word rfl)
  exact reads_separator.seq (reads_skip_qname.seq (reads_separator.seq
    (reads_contentSpec.seq reads_declEnd hmark) stops_contentspec.mul_right)
    nameStops_S.mul_right) stops_qName.mul_right

end Names

end Szamlazz.Adatkapcsolat.Dtd
