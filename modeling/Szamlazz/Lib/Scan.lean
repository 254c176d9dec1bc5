import Mathlib.Computability.Language
import Mathlib.Data.List.TakeWhile
import Mathlib.Order.CompletePartialOrder
import Mathlib.Tactic.Common

/-!
# Recognisers and the languages they read

A recogniser reads a prefix of its input and leaves the rest. What it takes is a word of
a language (`Sound`). The converse needs a condition on what follows: a recogniser that
takes all the white space there is, or the whole of a name, takes a word of it only where
the word does not go on (`Complete`). So a recogniser is described by two things, the
words it takes and what may follow them, and the rules put the descriptions together the
way recognisers are put together: in a sequence the words of the second part are what
follows the first, a choice on a token is a sum in which the other summand does not begin
with the token, a loop is a star.

Soundness follows the recogniser as it is written; completeness follows one way through
it, so that a grammar with several ways is taken one way at a time (`Complete.add`).

A loop carries a bound on its turns because it has to end, and it may only come to the
bound by a turn that takes nothing. That this does not happen is part of soundness.
-/

open scoped Computability

/-- Why a recogniser stops: the input is refused, or something happened that the
recogniser does not provide for. -/
inductive Scan.Fault (ε : Type) where
  | refused (error : ε)
  | unreachable

/-- A recogniser: it reads a prefix and leaves the rest, or it stops. -/
abbrev Scan (ε α : Type) : Type := StateT (List Char) (Except (Scan.Fault ε)) α

namespace Scan

variable {ε α β σ : Type}

/-! ## Pieces -/

/-- Gives up with an error of the scanner. -/
def refuse (error : ε) : Scan ε α := throw (.refused error)

/-- Gives up where the caller promised that it cannot be. -/
def unreachable : Scan ε α := throw .unreachable

/-- A condition that has to hold. -/
def require (condition : Bool) (error : ε) : Scan ε Unit :=
  if condition = true then pure () else refuse error

/-- What is found out without looking at the input. -/
def lift (x : Except (Fault ε) α) : Scan ε α := fun s => x.map (fun a => (a, s))

/-- Whether the token comes next; it is read if it does. -/
def take (token : List Char) : Scan ε Bool := fun s =>
  if token <+: s then .ok (true, s.drop token.length) else .ok (false, s)

/-- A token that has to come. -/
def need (token : List Char) (missing : ε) : Scan ε Unit :=
  take token >>= fun found => require found missing

/-- A recogniser whose value is not used. -/
def skip (p : Scan ε α) : Scan ε Unit := p >>= fun _ => pure ()

/-- A look at what comes next. -/
def peek (p : List Char → Bool) : Scan ε Bool := fun s => .ok (p s, s)

/-- What is there up to the first character that is not of the class. -/
def takeWhile (p : Char → Bool) : Scan ε (List Char) := fun s =>
  .ok (s.takeWhile p, s.dropWhile p)

/-- What is there before the first occurrence of the mark, and what begins with it. -/
def cutAt (mark : List Char) : List Char → Option (List Char × List Char)
  | [] => if mark <+: [] then some ([], []) else none
  | c :: cs =>
    if mark <+: c :: cs then some ([], c :: cs)
    else (cutAt mark cs).map (fun cut => (c :: cut.1, cut.2))

/-- What is there before the first occurrence of the mark, which is left. -/
def upTo (mark : List Char) (missing : ε) : Scan ε (List Char) := fun s =>
  match cutAt mark s with
  | some cut => .ok cut
  | none => .error (.refused missing)

/-- What is there before the first occurrence of the mark, which is read too. -/
def past (mark : List Char) (missing : ε) : Scan ε (List Char) := fun s =>
  match cutAt mark s with
  | some cut => .ok (cut.1, cut.2.drop mark.length)
  | none => .error (.refused missing)

/-- A state is carried from turn to turn until the body returns a result. -/
def turns (body : σ → Scan ε (σ ⊕ β)) : ℕ → σ → Scan ε β
  | 0, _ => unreachable
  | n + 1, g => body g >>= Sum.elim (turns body n) pure

/-- As many turns as there are characters, and one. -/
def loop (body : σ → Scan ε (σ ⊕ β)) (g : σ) : Scan ε β := fun s =>
  turns body (s.length + 1) g s

/-! ## What is read -/

/-- What a recogniser may read. -/
abbrev Words : Type := Language Char

/-- **What a recogniser takes** is a word of the language of the value it returns, and
nothing happens that it does not provide for. -/
structure Sound (p : Scan ε α) (L : α → Language Char) : Prop where
  takes : ∀ {s a r}, p s = .ok (a, r) → ∃ w ∈ L a, s = w ++ r
  never : ∀ s, p s ≠ .error .unreachable

/-- **What a recogniser returns a value on**: the words of a language, before what may
follow them. -/
def Complete (p : Scan ε α) (a : α) (L : Language Char) (F : List Char → Prop) : Prop :=
  ∀ w ∈ L, ∀ r, F r → p (w ++ r) = .ok (a, r)

/-- Both, of a recogniser without a value. -/
structure Reads (p : Scan ε Unit) (L : Language Char) (F : List Char → Prop) : Prop where
  sound : Sound p (fun _ => L)
  complete : Complete p () L F

/-- What begins with a word of the language and goes on as `G` says is as `F` says. -/
def Before (F : List Char → Prop) (L : Language Char) (G : List Char → Prop) : Prop :=
  ∀ w ∈ L, ∀ r, G r → F (w ++ r)

/-- No condition on what follows. -/
def Anything (_ : List Char) : Prop := True

/-- The language of one word. -/
def word (w : List Char) : Language Char := {w}

/-- The empty word where a condition holds, and nothing where it does not. -/
def onlyIf (c : Prop) : Language Char := {w | w = [] ∧ c}

/-- The words that lead from the words of one language into another. -/
def leads (M L : Language Char) : Language Char := {w | ∀ v ∈ L, w ++ v ∈ M}

/-- A word alone is in its language. -/
@[simp] theorem mem_word {v w : List Char} : v ∈ word w ↔ v = w := Iff.rfl

/-- A condition behind a language may be dropped if the language is in the other one under
it. -/
theorem mul_onlyIf_le {c : Prop} {L N : Language Char} (h : c → L ≤ N) : L * onlyIf c ≤ N := by
  intro w hw
  obtain ⟨u, hu, v, ⟨rfl, hc⟩, rfl⟩ := Language.mem_mul.mp hw
  rw [List.append_nil]
  exact h hc hu

/-- The same for a condition in front. -/
theorem onlyIf_mul_le {c : Prop} {L N : Language Char} (h : c → L ≤ N) : onlyIf c * L ≤ N := by
  intro w hw
  obtain ⟨u, ⟨rfl, hc⟩, v, hv, rfl⟩ := Language.mem_mul.mp hw
  exact h hc hv

/-- A condition alone reads nothing. -/
theorem onlyIf_le {c : Prop} {N : Language Char} (h : c → 1 ≤ N) : onlyIf c ≤ N := by
  rintro w ⟨rfl, hc⟩
  exact h hc rfl

/-- A sequence is read when its first part is, and then its second from what is left. -/
theorem bind_eq_ok {p : Scan ε α} {f : α → Scan ε β} {s r : List Char} {b : β} :
    (p >>= f) s = .ok (b, r) ↔ ∃ a m, p s = .ok (a, m) ∧ f a m = .ok (b, r) := by
  show (p s >>= fun x => f x.1 x.2) = .ok (b, r) ↔ _
  cases h : p s with
  | error e => simp [bind, Except.bind]
  | ok x =>
    obtain ⟨a, m⟩ := x
    simp [bind, Except.bind]

/-- A sequence fails in its first part or in its second. -/
theorem bind_eq_error {p : Scan ε α} {f : α → Scan ε β} {s : List Char} {e : Fault ε} :
    (p >>= f) s = .error e ↔
      p s = .error e ∨ ∃ a m, p s = .ok (a, m) ∧ f a m = .error e := by
  show (p s >>= fun x => f x.1 x.2) = .error e ↔ _
  cases h : p s with
  | error e => simp [bind, Except.bind]
  | ok x =>
    obtain ⟨a, m⟩ := x
    simp [bind, Except.bind]

/-! ## What is taken -/

section Sound

variable {p q : Scan ε α} {f : α → Scan ε β} {L M N : α → Language Char}

/-- What is taken is in any larger language. -/
theorem Sound.mono (h : Sound p L) (hLM : ∀ a, L a ≤ M a) : Sound p M where
  takes hs := by
    obtain ⟨w, hw, hsw⟩ := h.takes hs
    exact ⟨w, hLM _ hw, hsw⟩
  never := h.never

/-- What a sequence takes is what its parts take, one after the other. -/
theorem Sound.bind {M : α → β → Language Char} {N : β → Language Char} (hp : Sound p L)
    (hf : ∀ a, Sound (f a) (M a)) (h : ∀ a b, L a * M a b ≤ N b) : Sound (p >>= f) N where
  takes {s b r} hs := by
    obtain ⟨a, m, hpm, hfr⟩ := bind_eq_ok.mp hs
    obtain ⟨w, hw, rfl⟩ := hp.takes hpm
    obtain ⟨v, hv, rfl⟩ := (hf a).takes hfr
    exact ⟨w ++ v, h a b (Language.append_mem_mul hw hv), (List.append_assoc w v r).symm⟩
  never s hs := by
    rcases bind_eq_error.mp hs with hs | ⟨a, m, -, hs⟩
    · exact hp.never s hs
    · exact (hf a).never m hs

/-- A sequence whose first part has no value. -/
theorem Sound.seq {p : Scan ε Unit} {q : Scan ε β} {L : Language Char} {M : β → Language Char}
    (hp : Sound p (fun _ => L)) (hq : Sound q M) :
    Sound (p >>= fun _ => q) (fun b => L * M b) :=
  hp.bind (fun _ => hq) (fun _ _ => le_rfl)

/-- Nothing is taken for a value that is there. -/
theorem sound_pure (a : α) : Sound (pure a : Scan ε α) (fun b => onlyIf (b = a)) where
  takes hs := by
    cases hs
    exact ⟨[], ⟨rfl, rfl⟩, rfl⟩
  never s hs := by cases hs

/-- A scanner that gives up takes nothing. -/
theorem sound_refuse (e : ε) : Sound (refuse e : Scan ε α) (fun _ => 0) where
  takes hs := by cases hs
  never s hs := by cases hs

/-- A branch takes what its own language has. -/
theorem Sound.ite {c : Prop} [Decidable c] (hp : c → Sound p L) (hq : ¬ c → Sound q L) :
    Sound (if c then p else q) L := by
  split
  · next hc => exact hp hc
  · next hc => exact hq hc

/-- A condition that is required holds behind it. -/
theorem sound_require (condition : Bool) (e : ε) :
    Sound (require condition e) (fun _ => onlyIf (condition = true)) where
  takes hs := by
    unfold require at hs
    split at hs
    · next hc =>
      cases hs
      exact ⟨[], ⟨rfl, hc⟩, rfl⟩
    · cases hs
  never s hs := by
    unfold require at hs
    split at hs <;> cases hs

/-- A result that was computed takes nothing. -/
theorem sound_lift {x : Except (Fault ε) α} (hx : x ≠ .error .unreachable) :
    Sound (lift x) (fun a => onlyIf (x = .ok a)) where
  takes {s a r} hs := by
    unfold lift at hs
    cases x with
    | error e => cases hs
    | ok b =>
      cases hs
      exact ⟨[], ⟨rfl, rfl⟩, rfl⟩
  never s hs := by
    unfold lift at hs
    cases x with
    | error e =>
      cases hs
      exact hx rfl
    | ok b => cases hs

/-- Looking ahead takes nothing. -/
theorem sound_peek (c : List Char → Bool) : Sound (peek c : Scan ε Bool) (fun _ => 1) where
  takes hs := by
    cases hs
    exact ⟨[], rfl, rfl⟩
  never s hs := by cases hs

/-- A value that is checked. -/
theorem Sound.checked {c : α → Bool} {e : ε} (hp : Sound p L)
    (h : ∀ a, c a = true → L a ≤ N a) :
    Sound (p >>= fun a => require (c a) e >>= fun _ => pure a) N := by
  refine hp.bind (M := fun a b => onlyIf (c a = true ∧ b = a)) (fun a => ?_) (fun a b => ?_)
  · refine (sound_require (c a) e).bind (fun _ => sound_pure a) (fun _ b => ?_)
    exact onlyIf_mul_le (fun hc => onlyIf_le (fun hb => fun w hw => ⟨hw, hc, hb⟩))
  · refine mul_onlyIf_le ?_
    rintro ⟨hc, rfl⟩
    exact h b hc

/-- Dropping the value changes nothing about what is taken. -/
theorem Sound.skip {L : Language Char} (hp : Sound p (fun _ => L)) :
    Sound (skip p) (fun _ => L) :=
  hp.bind (fun _ => sound_pure ()) (fun _ _ => mul_onlyIf_le (fun _ => le_rfl))

end Sound

/-! ## What is returned on the words of a language -/

section Complete

variable {p q : Scan ε α} {f : α → Scan ε β} {a : α} {b : β} {L M : Language Char}
  {F G : List Char → Prop}

/-- A scanner that reads a language reads a smaller one, before less. -/
theorem Complete.mono (h : Complete p a L F) (hML : M ≤ L) (hGF : ∀ r, G r → F r) :
    Complete p a M G :=
  fun w hw r hr => h w (hML hw) r (hGF r hr)

/-- The same before the same. -/
theorem Complete.of_le (h : Complete p a L F) (hML : M ≤ L) : Complete p a M F :=
  h.mono hML (fun _ hr => hr)

/-- The ways through a recogniser are taken one at a time. -/
theorem Complete.add (hL : Complete p a L F) (hM : Complete p a M F) :
    Complete p a (L + M) F := by
  rintro w (hw | hw)
  · exact hL w hw
  · exact hM w hw

/-- A language is read if each of its words is. -/
theorem Complete.of_words (h : ∀ w ∈ L, Complete p a (word w) F) : Complete p a L F :=
  fun w hw => h w hw w rfl

/-- **In a sequence** the second words are what follows the first. -/
theorem Complete.bind (hp : Complete p a L F) (hf : Complete (f a) b M G)
    (hfollow : Before F M G) : Complete (p >>= f) b (L * M) G := by
  intro w hw r hr
  obtain ⟨u, hu, v, hv, rfl⟩ := Language.mem_mul.mp hw
  rw [List.append_assoc]
  exact bind_eq_ok.mpr ⟨a, v ++ r, hp u hu (v ++ r) (hfollow v hv r hr), hf v hv r hr⟩

/-- A sequence whose first part has no value. -/
theorem Complete.seq {p : Scan ε Unit} {q : Scan ε β} (hp : Complete p () L F)
    (hq : Complete q b M G) (hfollow : Before F M G) :
    Complete (p >>= fun _ => q) b (L * M) G :=
  Complete.bind hp hq hfollow

/-- A value that is there is returned on the empty word. -/
theorem complete_pure (a : α) : Complete (pure a : Scan ε α) a 1 F := by
  intro w hw r _
  rw [(Language.mem_one w).mp hw]
  rfl

/-- There is nothing to show of an empty language. -/
theorem complete_zero : Complete p a 0 F := fun w hw => absurd hw (Language.notMem_zero w)

/-- The branch that is taken. -/
theorem Complete.ite_pos {c : Prop} [Decidable c] (hc : c) (h : Complete p a L F) :
    Complete (if c then p else q) a L F := by
  rwa [if_pos hc]

/-- The other branch. -/
theorem Complete.ite_neg {c : Prop} [Decidable c] (hc : ¬ c) (h : Complete q a L F) :
    Complete (if c then p else q) a L F := by
  rwa [if_neg hc]

/-- A condition that holds is passed. -/
theorem complete_require {condition : Bool} (h : condition = true) (e : ε) :
    Complete (require condition e) () 1 F :=
  Complete.ite_pos h (complete_pure ())

/-- A value that passes its check is returned. -/
theorem Complete.checked {c : α → Bool} {e : ε} (hp : Complete p a L F) (hc : c a = true) :
    Complete (p >>= fun a => require (c a) e >>= fun _ => pure a) a L F := by
  intro w hw r hr
  refine bind_eq_ok.mpr ⟨a, r, hp w hw r hr, bind_eq_ok.mpr ⟨(), r, ?_, rfl⟩⟩
  rw [hc]
  rfl

/-- A result that was computed is returned. -/
theorem complete_lift (x : Except (Fault ε) α) (h : x = .ok a) : Complete (lift x) a 1 F := by
  intro w hw r _
  rw [(Language.mem_one w).mp hw, h]
  rfl

/-- What is seen ahead depends on what follows alone. -/
theorem complete_peek (c : List Char → Bool) (seen : Bool) :
    Complete (peek c : Scan ε Bool) seen 1 (fun r => c r = seen) := by
  intro w hw r hr
  rw [(Language.mem_one w).mp hw]
  show Except.ok (c r, r) = _
  rw [hr]

/-- Dropping the value keeps what is read. -/
theorem Complete.skip (hp : Complete p a L F) : Complete (skip p) () L F := by
  have h := hp.bind (f := fun _ => pure ()) (complete_pure () (F := F)) ?_
  · rwa [mul_one] at h
  · intro w hw r hr
    rwa [(Language.mem_one w).mp hw]

end Complete

/-! ## What may follow -/

section Before

variable {F G H : List Char → Prop} {L M : Language Char}

/-- Fewer words, before less. -/
theorem Before.mono (h : Before F L G) {M : Language Char} (hM : M ≤ L) (hH : ∀ r, H r → G r) :
    Before F M H :=
  fun w hw r hr => h w (hM hw) r (hH r hr)

/-- A concatenation, before what may follow its second part. -/
theorem Before.mul (hL : Before F L H) (hM : Before H M G) : Before F (L * M) G := by
  intro w hw r hr
  obtain ⟨u, hu, v, hv, rfl⟩ := Language.mem_mul.mp hw
  rw [List.append_assoc]
  exact hL u hu (v ++ r) (hM v hv r hr)

/-- Anything may follow where anything may. -/
theorem before_anything : Before Anything L G := fun _ _ _ _ => trivial

/-- The first words decide. -/
theorem Before.mul_right (h : Before F L Anything) : Before F (L * M) G := h.mul before_anything

/-- A choice, before what may follow both. -/
theorem Before.add (hL : Before F L G) (hM : Before F M G) : Before F (L + M) G := by
  rintro w (hw | hw)
  · exact hL w hw
  · exact hM w hw

/-- An empty language stands before anything. -/
theorem before_zero : Before F 0 G := fun w hw => absurd hw (Language.notMem_zero w)

/-- The empty word leaves what follows. -/
theorem before_one (h : ∀ r, G r → F r) : Before F 1 G := by
  intro w hw r hr
  rw [(Language.mem_one w).mp hw]
  exact h r hr

/-- A repetition, before what may follow one turn. -/
theorem Before.kstar (h : Before F L Anything) (hG : ∀ r, G r → F r) : Before F L∗ G := by
  intro w hw r hr
  obtain ⟨words, rfl, hwords⟩ := Language.mem_kstar.mp hw
  cases words with
  | nil => exact hG r hr
  | cons u us =>
    rw [List.flatten_cons, List.append_assoc]
    exact h u (hwords u List.mem_cons_self) _ trivial

/-- A condition on the first character only. -/
theorem before_word {c : Char} {cs : List Char} (h : ∀ r, F (c :: r)) :
    Before F (word (c :: cs)) G := by
  rintro w rfl r -
  exact h (cs ++ r)

end Before

/-- What follows does not begin with the token. -/
def NotNext (token : List Char) (r : List Char) : Prop := ¬ token <+: r

/-- What follows does not begin with a character of the class. -/
def Stops (p : Char → Bool) (r : List Char) : Prop := ∀ c ∈ r.head?, p c = false

/-- A class stops at a character outside of it. -/
theorem stops_cons {p : Char → Bool} {c : Char} {r : List Char} :
    Stops p (c :: r) ↔ p c = false := by
  simp [Stops]

/-- A word that starts outside of a class stops it. -/
theorem stops_word {p : Char → Bool} {c : Char} {cs : List Char} {G : List Char → Prop}
    (h : p c = false) : Before (Stops p) (word (c :: cs)) G :=
  before_word (fun _ => stops_cons.mpr h)

/-- A token that is no prefix of another, nor the other of it, does not come with it. -/
theorem notNext_word {token w : List Char} {G : List Char → Prop} (h : ¬ token <+: w)
    (h' : ¬ w <+: token) : Before (NotNext token) (word w) G := by
  rintro v rfl r - hprefix
  rcases le_total token.length v.length with hle | hle
  · exact h (List.prefix_of_prefix_length_le hprefix (List.prefix_append v r) hle)
  · exact h' (List.prefix_of_prefix_length_le (List.prefix_append v r) hprefix hle)

/-- A token does not come where its first character does not. -/
theorem notNext_of_stops {p : Char → Bool} {c : Char} {cs r : List Char} (h : Stops p r)
    (hc : p c = true) : NotNext (c :: cs) r := by
  rintro ⟨rest, rfl⟩
  rw [List.cons_append, stops_cons, hc] at h
  cases h

/-! ## Tokens -/

section Tokens

variable {p q : Scan ε α} {L M N : α → Language Char} {a : α} {K K' : Language Char}
  {F G : List Char → Prop} {t : List Char}

/-- A token that is next is taken. -/
theorem take_append (token r : List Char) :
    (take token : Scan ε Bool) (token ++ r) = .ok (true, r) := by
  unfold take
  rw [if_pos (List.prefix_append token r), List.drop_left]

/-- A token that is not next is not. -/
theorem take_of_notNext {r : List Char} (h : NotNext t r) :
    (take t : Scan ε Bool) r = .ok (false, r) := by
  unfold take
  rw [if_neg h]

/-- What is taken is the token, if it was found. -/
theorem sound_take (token : List Char) :
    Sound (take token : Scan ε Bool) (fun found => if found = true then word token else 1) where
  takes {s a r} hs := by
    unfold take at hs
    split at hs
    · next hprefix =>
      obtain ⟨rest, rfl⟩ := hprefix
      rw [List.drop_left] at hs
      cases hs
      exact ⟨token, rfl, rfl⟩
    · cases hs
      exact ⟨[], rfl, rfl⟩
  never s hs := by
    unfold take at hs
    split at hs <;> cases hs

/-- The token is found. -/
theorem complete_take (token : List Char) :
    Complete (take token : Scan ε Bool) true (word token) F := by
  rintro w rfl r -
  exact take_append w r

/-- The token is not found where another text follows. -/
theorem complete_take_one (token : List Char) :
    Complete (take token : Scan ε Bool) false 1 (NotNext token) := by
  intro w hw r hr
  rw [(Language.mem_one w).mp hw]
  exact take_of_notNext hr

/-- **A choice on a token.** -/
theorem Sound.ifTake (hp : Sound p L) (hq : Sound q M) (hL : ∀ a, word t * L a ≤ N a)
    (hM : ∀ a, M a ≤ N a) :
    Sound (take t >>= fun found => if found = true then p else q) N := by
  refine (sound_take t).bind (M := fun found a => if found = true then L a else M a)
    (fun found => ?_) (fun found a => ?_)
  · cases found with
    | true => exact hp
    | false => exact hq
  · cases found with
    | true => exact hL a
    | false => exact (one_mul (M a)).le.trans (hM a)

/-- The branch behind a token. -/
theorem Complete.taken (hp : Complete p a K F) :
    Complete (take t >>= fun found => if found = true then p else q) a (word t * K) F :=
  (complete_take t (F := Anything)).bind (Complete.ite_pos rfl hp) before_anything

/-- The branch where the token is not next. -/
theorem Complete.passed (hq : Complete q a K F) (hnot : Before (NotNext t) K F) :
    Complete (take t >>= fun found => if found = true then p else q) a K F := by
  have h := (complete_take_one t).bind (Complete.ite_neg Bool.false_ne_true hq) hnot
    (f := fun found => if found = true then p else q)
  rwa [one_mul] at h

/-- What is taken is the token. -/
theorem sound_need (token : List Char) (e : ε) : Sound (need token e) (fun _ => word token) := by
  refine (sound_take token).bind (fun found => sound_require found e) (fun found _ => ?_)
  refine mul_onlyIf_le (fun hfound => ?_)
  rw [if_pos hfound]

/-- The token is taken. -/
theorem complete_need (token : List Char) (e : ε) : Complete (need token e) () (word token) F := by
  have h := (complete_take token (F := Anything)).bind (complete_require rfl e (F := F))
    before_anything (f := fun found => require found e)
  rwa [mul_one] at h

end Tokens

/-! ## Recognisers without a value -/

section Reads

variable {p q : Scan ε Unit} {L M : Language Char} {F G : List Char → Prop} {t : List Char}

/-- An equal language, before less. -/
theorem Reads.mono (h : Reads p L F) (hLM : L = M) (hGF : ∀ r, G r → F r) : Reads p M G where
  sound := hLM ▸ h.sound
  complete := h.complete.mono hLM.ge hGF

/-- An equal language. -/
theorem Reads.of_eq (h : Reads p L F) (hLM : L = M) : Reads p M F := h.mono hLM (fun _ hr => hr)

/-- **A sequence** reads the product; the second words are what follows the first. -/
theorem Reads.seq (hp : Reads p L F) (hq : Reads q M G) (hfollow : Before F M G) :
    Reads (p >>= fun _ => q) (L * M) G where
  sound := hp.sound.bind (fun _ => hq.sound) (fun _ _ => le_rfl)
  complete := hp.complete.bind hq.complete hfollow

/-- A recogniser that is done takes nothing. -/
theorem reads_pure : Reads (pure () : Scan ε Unit) 1 F where
  sound := (sound_pure ()).mono (fun _ => onlyIf_le (fun _ => le_rfl))
  complete := complete_pure ()

/-- A recogniser that gives up takes nothing at all. -/
theorem reads_refuse (e : ε) : Reads (refuse e) 0 F where
  sound := sound_refuse e
  complete := complete_zero

/-- A token is recognised. -/
theorem reads_need (token : List Char) (e : ε) : Reads (need token e) (word token) F where
  sound := sound_need token e
  complete := complete_need token e

/-- **A choice on a token** reads the sum. -/
theorem Reads.ifTake (hp : Reads p L F) (hq : Reads q M F) (hnot : Before (NotNext t) M F) :
    Reads (take t >>= fun found => if found = true then p else q) (word t * L + M) F where
  sound := hp.sound.ifTake hq.sound (fun _ => le_sup_left) (fun _ => le_sup_right)
  complete := hp.complete.taken.add (hq.complete.passed hnot)

/-- A token that may come. -/
theorem reads_skip_take (t : List Char) :
    Reads (skip (take t) : Scan ε Unit) (word t + 1) (NotNext t) where
  sound := by
    refine ((sound_take t).mono (fun found => ?_)).skip
    split
    · exact le_sup_left
    · exact le_sup_right
  complete := (complete_take t).skip.add (complete_take_one t).skip

end Reads

/-! ## Classes of characters -/

/-- The words of one character of a class. -/
def letter (p : Char → Bool) : Language Char := {w | ∃ c, p c = true ∧ w = [c]}

/-- The words over a class. -/
def letters (p : Char → Bool) : Language Char := {w | ∀ c ∈ w, p c = true}

/-- All characters of a word are of the class. -/
theorem mem_letters {p : Char → Bool} {w : List Char} :
    w ∈ letters p ↔ ∀ c ∈ w, p c = true := Iff.rfl

/-- Repeating a class gives the words over it. -/
theorem kstar_letter (p : Char → Bool) : (letter p)∗ = letters p := by
  ext w
  rw [Language.mem_kstar, mem_letters]
  refine ⟨?_, fun h => ⟨w.map (fun c => [c]), (List.flatMap_singleton' w).symm, ?_⟩⟩
  · rintro ⟨words, rfl, hwords⟩ c hc
    obtain ⟨v, hv, hcv⟩ := List.mem_flatten.mp hc
    obtain ⟨d, hd, rfl⟩ := hwords v hv
    rwa [List.mem_singleton.mp hcv]
  · intro v hv
    obtain ⟨c, hc, rfl⟩ := List.mem_map.mp hv
    exact ⟨c, h c hc, rfl⟩

section Classes

variable {p : Char → Bool} {F : List Char → Prop}

/-- The longest run of a class ends where the class stops. -/
theorem takeWhile_append_stops {w r : List Char} (hw : w ∈ letters p) (hr : Stops p r) :
    (w ++ r).takeWhile p = w ∧ (w ++ r).dropWhile p = r := by
  rw [List.takeWhile_append_of_pos hw, List.dropWhile_append_of_pos hw]
  cases r with
  | nil => exact ⟨List.append_nil w, rfl⟩
  | cons c cs =>
    have hc : ¬ p c = true := by simp [stops_cons.mp hr]
    rw [List.takeWhile_cons_of_neg hc, List.dropWhile_cons_of_neg hc, List.append_nil]
    exact ⟨rfl, rfl⟩

/-- What is taken is a word over the class, and the value. -/
theorem sound_takeWhile (p : Char → Bool) :
    Sound (takeWhile p : Scan ε (List Char)) (fun w => {v | v = w ∧ w ∈ letters p}) where
  takes hs := by
    cases hs
    exact ⟨_, ⟨rfl, fun c hc => List.mem_takeWhile_imp hc⟩, List.takeWhile_append_dropWhile.symm⟩
  never s hs := by cases hs

/-- **As much as there is of a class.** -/
theorem complete_takeWhile {w : List Char} (hw : w ∈ letters p) :
    Complete (takeWhile p : Scan ε (List Char)) w (word w) (Stops p) := by
  rintro v rfl r hr
  obtain ⟨htake, hdrop⟩ := takeWhile_append_stops hw hr
  show Except.ok ((v ++ r).takeWhile p, (v ++ r).dropWhile p) = _
  rw [htake, hdrop]

end Classes

/-! ## The first occurrence -/

/-- The mark begins nowhere in the word before it. -/
def Avoids (mark w : List Char) : Prop := ∀ u v, w = u ++ v → v ≠ [] → ¬ mark <+: v ++ mark

section Marks

variable {mark w : List Char} {F : List Char → Prop}

/-- A text that avoids a mark is cut at the first one behind it. -/
theorem cutAt_append (h : Avoids mark w) (hmark : mark ≠ []) (r : List Char) :
    cutAt mark (w ++ (mark ++ r)) = some (w, mark ++ r) := by
  induction w with
  | nil =>
    cases mark with
    | nil => exact absurd rfl hmark
    | cons c cs => rw [List.nil_append, List.cons_append, cutAt, if_pos ⟨r, rfl⟩]
  | cons c w ih =>
    have hrest : Avoids mark w := fun u v huv hv => h (c :: u) v (by rw [huv, List.cons_append]) hv
    have hhere : ¬ mark <+: c :: (w ++ (mark ++ r)) := by
      intro hprefix
      refine h [] (c :: w) rfl (List.cons_ne_nil c w) ?_
      -- the mark fits into what is before it and its own occurrence
      have hlength : mark.length ≤ (c :: w ++ mark).length := by
        rw [List.length_append]
        exact Nat.le_add_left _ _
      have hwhole : mark <+: (c :: w ++ mark) ++ r := by
        rwa [List.append_assoc, List.cons_append]
      exact List.prefix_of_prefix_length_le hwhole (List.prefix_append _ r) hlength
    rw [List.cons_append, cutAt, if_neg hhere, ih hrest]
    rfl

/-- What stands before the cut avoids the mark, and the mark follows. -/
theorem cutAt_eq_some {s r : List Char} (h : cutAt mark s = some (w, r)) :
    s = w ++ r ∧ mark <+: r ∧ Avoids mark w := by
  have hnil : ∀ u v : List Char, [] = u ++ v → v ≠ [] → ¬ mark <+: v ++ mark :=
    fun u v huv hv => absurd (List.append_eq_nil_iff.mp huv.symm).2 hv
  induction s generalizing w with
  | nil =>
    rw [cutAt] at h
    split at h
    · next hprefix =>
      cases h
      exact ⟨rfl, hprefix, hnil⟩
    · cases h
  | cons c cs ih =>
    rw [cutAt] at h
    split at h
    · next hprefix =>
      cases h
      exact ⟨rfl, hprefix, hnil⟩
    · next hnot =>
      obtain ⟨cut, hcut, heq⟩ := Option.map_eq_some_iff.mp h
      cases heq
      obtain ⟨rfl, hprefix, havoids⟩ := ih hcut
      refine ⟨rfl, hprefix, ?_⟩
      rintro u v huv hv hbegins
      cases u with
      | nil =>
        rw [List.nil_append] at huv
        subst huv
        refine hnot ?_
        obtain ⟨rest, hrest⟩ := hprefix
        rw [← hrest, ← List.cons_append, ← List.append_assoc]
        exact hbegins.trans (List.prefix_append _ _)
      | cons d u =>
        rw [List.cons_append, List.cons.injEq] at huv
        exact havoids u v huv.2 hv hbegins

/-- What is taken avoids the mark. -/
theorem sound_upTo (mark : List Char) (missing : ε) :
    Sound (upTo mark missing) (fun w => {v | v = w ∧ Avoids mark w}) where
  takes {s w r} hs := by
    unfold upTo at hs
    split at hs
    · next cut hcut =>
      cases hs
      obtain ⟨heq, -, havoids⟩ := cutAt_eq_some hcut
      exact ⟨w, ⟨rfl, havoids⟩, heq⟩
    · cases hs
  never s hs := by
    unfold upTo at hs
    split at hs <;> cases hs

/-- A text that avoids the mark is taken up to it. -/
theorem complete_upTo (hmark : mark ≠ []) (havoids : Avoids mark w) (missing : ε) :
    Complete (upTo mark missing) w (word w) (fun r => mark <+: r) := by
  rintro v rfl r ⟨rest, rfl⟩
  unfold upTo
  rw [cutAt_append havoids hmark]

/-- What is taken is such a text with the mark. -/
theorem sound_past (mark : List Char) (missing : ε) :
    Sound (past mark missing) (fun w => {v | v = w ++ mark ∧ Avoids mark w}) where
  takes {s w r} hs := by
    unfold past at hs
    split at hs
    · next cut hcut =>
      obtain ⟨v, m⟩ := cut
      obtain ⟨heq, ⟨rest, rfl⟩, havoids⟩ := cutAt_eq_some hcut
      rw [List.drop_left] at hs
      cases hs
      exact ⟨v ++ mark, ⟨rfl, havoids⟩, heq.trans (List.append_assoc v mark r).symm⟩
    · cases hs
  never s hs := by
    unfold past at hs
    split at hs <;> cases hs

/-- **What there is before the first occurrence of a mark.** -/
theorem complete_past (hmark : mark ≠ []) (havoids : Avoids mark w) (missing : ε) :
    Complete (past mark missing) w (word (w ++ mark)) F := by
  rintro v rfl r -
  unfold past
  rw [List.append_assoc, cutAt_append havoids hmark]
  show Except.ok (w, (mark ++ r).drop mark.length) = _
  rw [List.drop_left]

/-- A mark of one character is avoided by the words without it. -/
theorem avoids_singleton {c : Char} : Avoids [c] w ↔ c ∉ w := by
  refine ⟨fun h hc => ?_, fun h u v huv hv hprefix => ?_⟩
  · obtain ⟨u, v, rfl⟩ := List.append_of_mem hc
    exact h u (c :: v) rfl (List.cons_ne_nil c v) ⟨v ++ [c], rfl⟩
  · cases v with
    | nil => exact hv rfl
    | cons d v =>
      obtain ⟨rest, hrest⟩ := hprefix
      cases hrest
      exact h (huv ▸ List.mem_append_right u List.mem_cons_self)

end Marks

/-! ## Loops -/

section Loops

variable {body : σ → Scan ε (σ ⊕ β)} {K : σ → σ ⊕ β → Language Char}
  {N : σ → β → Language Char} {g g' : σ} {b : β} {L M : Language Char} {F G : List Char → Prop}

/-- More fuel gives the same result. -/
theorem turns_mono {m n : ℕ} (hmn : m ≤ n) {s r : List Char}
    (h : turns body m g s = .ok (b, r)) : turns body n g s = .ok (b, r) := by
  induction m generalizing n g s with
  | zero => cases h
  | succ m ih =>
    obtain ⟨n, rfl⟩ := Nat.exists_eq_add_of_le' hmn
    obtain ⟨turn, t, hturn, hrest⟩ := bind_eq_ok.mp h
    refine bind_eq_ok.mpr ⟨turn, t, hturn, ?_⟩
    cases turn with
    | inl g' => exact ih (Nat.le_add_left m n) hrest
    | inr b' => exact hrest

/-- **What a loop takes**, by an invariant: a language of every state, which a turn that
ends the loop is in and a turn that goes on keeps. `I` tells the states that are reached. -/
theorem Sound.loop (I : σ → Prop) (hbody : ∀ g, I g → Sound (body g) (K g))
    (hI : ∀ g g' w, I g → w ∈ K g (.inl g') → I g' ∧ w ≠ [])
    (hnext : ∀ g g' b, I g → K g (.inl g') * N g' b ≤ N g b)
    (hstop : ∀ g b, I g → K g (.inr b) ≤ N g b) (hg : I g) : Sound (loop body g) (N g) where
  takes {s b r} h := by
    have hturns : ∀ n g s, I g → turns body n g s = .ok (b, r) → ∃ w ∈ N g b, s = w ++ r := by
      intro n
      induction n with
      | zero => exact fun g s _ h => by cases h
      | succ n ih =>
        intro g s hg h
        obtain ⟨turn, m, hturn, hrest⟩ := bind_eq_ok.mp h
        obtain ⟨v, hv, rfl⟩ := (hbody g hg).takes hturn
        cases turn with
        | inl g' =>
          obtain ⟨w, hw, rfl⟩ := ih g' m (hI g g' v hg hv).1 hrest
          exact ⟨v ++ w, hnext g g' b hg (Language.append_mem_mul hv hw),
            (List.append_assoc v w r).symm⟩
        | inr b' =>
          cases hrest
          exact ⟨v, hstop g b hg hv, rfl⟩
    exact hturns _ g s hg h
  never s h := by
    have hturns : ∀ n g s, I g → s.length < n → turns body n g s ≠ .error .unreachable := by
      intro n
      induction n with
      | zero => exact fun g s _ hs => absurd hs (Nat.not_lt_zero _)
      | succ n ih =>
        intro g s hg hs h
        rcases bind_eq_error.mp h with h | ⟨turn, m, hturn, hrest⟩
        · exact (hbody g hg).never s h
        · obtain ⟨v, hv, rfl⟩ := (hbody g hg).takes hturn
          cases turn with
          | inl g' =>
            obtain ⟨hg', hne⟩ := hI g g' v hg hv
            have hpos : 0 < v.length := List.length_pos_iff.mpr hne
            rw [List.length_append] at hs
            exact ih g' m hg' (by omega) hrest
          | inr b' => cases hrest
    exact hturns _ g s hg (Nat.lt_succ_self _) h

/-- A loop ends with its body. -/
theorem loop_done {s r : List Char} (h : body g s = .ok (.inr b, r)) :
    loop body g s = .ok (b, r) :=
  bind_eq_ok.mpr ⟨.inr b, r, h, rfl⟩

/-- A turn that takes something, and then the rest of the loop. -/
theorem loop_next {s m r : List Char} (h : body g s = .ok (.inl g', m))
    (hlt : m.length < s.length) (hrest : loop body g' m = .ok (b, r)) :
    loop body g s = .ok (b, r) :=
  bind_eq_ok.mpr ⟨.inl g', m, h, turns_mono hlt hrest⟩

/-- A loop ends with a turn that ends it. -/
theorem loop_last {s r : List Char} (h : loop body g s = .ok (b, r)) :
    ∃ g' m, body g' m = .ok (.inr b, r) := by
  have hturns : ∀ n g s, turns body n g s = .ok (b, r) → ∃ g' m, body g' m = .ok (.inr b, r) := by
    intro n
    induction n with
    | zero => exact fun g s h => by cases h
    | succ n ih =>
      intro g s h
      obtain ⟨turn, m, hturn, hrest⟩ := bind_eq_ok.mp h
      cases turn with
      | inl g' => exact ih g' m hrest
      | inr b' =>
        cases hrest
        exact ⟨g, s, hturn⟩
  exact hturns _ g s h

/-- A loop whose body ends it. -/
theorem Complete.stop (h : Complete (body g) (.inr b) L F) : Complete (loop body g) b L F :=
  fun w hw r hr => loop_done (h w hw r hr)

/-- A loop whose body takes a turn, which takes at least one character. -/
theorem Complete.turn (hturn : Complete (body g) (.inl g') L F) (hne : [] ∉ L)
    (hrest : Complete (loop body g') b M G) (hfollow : Before F M G) :
    Complete (loop body g) b (L * M) G := by
  intro w hw r hr
  obtain ⟨u, hu, v, hv, rfl⟩ := Language.mem_mul.mp hw
  have hpos : 0 < u.length := List.length_pos_iff.mpr (fun hnil => hne (hnil ▸ hu))
  rw [List.append_assoc]
  refine loop_next (hturn u hu (v ++ r) (hfollow v hv r hr)) ?_ (hrest v hv r hr)
  rw [@List.length_append _ u]
  omega

/-- **A loop reads the star of what a turn reads.** -/
theorem Complete.loop (hturn : Complete (body g) (.inl g) L F) (hne : [] ∉ L)
    (hstop : Complete (body g) (.inr b) M G) (hagain : Before F L Anything)
    (hfollow : Before F M G) : Complete (Scan.loop body g) b (L∗ * M) G := by
  intro w hw r hr
  obtain ⟨u, hu, v, hv, rfl⟩ := Language.mem_mul.mp hw
  obtain ⟨words, rfl, hwords⟩ := Language.mem_kstar.mp hu
  clear hw hu
  induction words with
  | nil => exact (Complete.stop hstop) v hv r hr
  | cons x xs ih =>
    have hx : x ∈ L := hwords x List.mem_cons_self
    have hxs : ∀ y ∈ xs, y ∈ L := fun y hy => hwords y (List.mem_cons_of_mem x hy)
    have hrest : Complete (Scan.loop body g) b (word (xs.flatten ++ v)) (fun r' => r' = r) := by
      rintro y rfl r' rfl
      exact ih hxs
    have hnext : Before F (word (xs.flatten ++ v)) (fun r' => r' = r) := by
      rintro y rfl r' rfl
      cases xs with
      | nil => exact hfollow v hv r' hr
      | cons z zs =>
        rw [List.flatten_cons, List.append_assoc, List.append_assoc]
        exact hagain z (hxs z List.mem_cons_self) _ trivial
    have h := Complete.turn hturn hne hrest hnext _ (Language.append_mem_mul hx rfl) r rfl
    simpa only [List.flatten_cons, List.append_assoc] using h

end Loops

/-- **A loop without a state** recognises turns and an end. -/
theorem Reads.loop {body : Unit → Scan ε (Unit ⊕ Unit)} {K : Unit ⊕ Unit → Language Char}
    {F G : List Char → Prop} (hbody : Sound (body ()) K)
    (hturn : Complete (body ()) (.inl ()) (K (.inl ())) F) (hne : [] ∉ K (.inl ()))
    (hstop : Complete (body ()) (.inr ()) (K (.inr ())) G)
    (hagain : Before F (K (.inl ())) Anything) (hfollow : Before F (K (.inr ())) G) :
    Reads (loop body ()) ((K (.inl ()))∗ * K (.inr ())) G where
  sound := by
    refine Sound.loop (K := fun _ => K) (N := fun _ _ => (K (.inl ()))∗ * K (.inr ()))
      (fun _ => True) (fun _ _ => hbody) (fun _ _ w _ hw => ⟨trivial, fun hnil => hne (hnil ▸ hw)⟩)
      (fun _ _ _ _ => ?_) (fun _ _ _ => ?_) trivial
    · rw [← mul_assoc]
      exact mul_le_mul_left mul_kstar_le_kstar _
    · calc K (.inr ()) = 1 * K (.inr ()) := (one_mul _).symm
        _ ≤ (K (.inl ()))∗ * K (.inr ()) := mul_le_mul_left one_le_kstar _
  complete := Complete.loop hturn hne hstop hagain hfollow

/-! ## Stars -/

section Stars

variable {K : Type} [KleeneAlgebra K]

/-- A separated list, with the separators behind and in front. -/
theorem kstar_mul_comm (a b : K) : (a * b)∗ * a = a * (b * a)∗ := by
  refine le_antisymm (kstar_mul_le ?_ ?_) (mul_kstar_le ?_ ?_)
  · exact le_mul_of_one_le_right' one_le_kstar
  · calc a * b * (a * (b * a)∗) = a * (b * a * (b * a)∗) := by simp only [mul_assoc]
      _ ≤ a * (b * a)∗ := mul_le_mul_right mul_kstar_le_kstar a
  · exact le_mul_of_one_le_left' one_le_kstar
  · calc (a * b)∗ * a * (b * a) = (a * b)∗ * (a * b) * a := by simp only [mul_assoc]
      _ ≤ (a * b)∗ * a := mul_le_mul_left kstar_mul_le_kstar a

/-- Words of two kinds, those of the first in runs. -/
theorem kstar_mul_kstar_eq (a b : K) : (a∗ * b)∗ * a∗ = (a + b)∗ := by
  have ha : a∗ ≤ (a + b)∗ := kstar_mono (add_eq_sup a b ▸ le_sup_left)
  have hb : b ≤ (a + b)∗ := (add_eq_sup a b ▸ le_sup_right).trans le_kstar
  refine le_antisymm (kstar_mul_le ha ?_) (kstar_le_of_mul_le_left ?_ ?_)
  · calc a∗ * b * (a + b)∗ ≤ (a + b)∗ * (a + b)∗ * (a + b)∗ := by gcongr
      _ = (a + b)∗ := by rw [kstar_mul_kstar, kstar_mul_kstar]
  · exact one_le_mul one_le_kstar one_le_kstar
  · rw [mul_add]
    refine add_le ?_ ?_
    · rw [mul_assoc]
      exact mul_le_mul_right kstar_mul_le_kstar _
    · calc (a∗ * b)∗ * a∗ * b = (a∗ * b)∗ * (a∗ * b) := mul_assoc _ _ _
        _ ≤ (a∗ * b)∗ := kstar_mul_le_kstar
        _ ≤ (a∗ * b)∗ * a∗ := le_mul_of_one_le_right' one_le_kstar

end Stars

end Scan
