import Mathlib.Data.List.Infix
import Mathlib.Data.List.Flatten
import Mathlib.Tactic.Common

/-!
# Multipart bodies

A body of several parts, as a receiver takes it apart: it is cut at every delimiter
line, and the header of each piece ends at its first empty line. `Part.Fits` is what
a part must keep for the cut to be where the sender made it, and `read_write` says
that parts which keep it are received as they were sent.
-/

namespace Multipart

/-! ## The first occurrence of a delimiter -/

section Cut

variable {α : Type} [DecidableEq α]

/-- What stands before the first occurrence of a delimiter, and what stands after. -/
def cutAt (d : List α) : List α → Option (List α × List α)
  | [] => if d <+: [] then some ([], []) else none
  | a :: rest =>
    if d <+: a :: rest then some ([], (a :: rest).drop d.length)
    else (cutAt d rest).map (fun cut => (a :: cut.1, cut.2))

variable {c : α} {d x y : List α}

omit [DecidableEq α] in
/-- **A delimiter that holds its first letter only once** does not begin inside what
stands before it, unless it stands there whole. -/
theorem prefix_of_prefix_append (hc : c ∉ d) (hx : x ≠ [])
    (h : c :: d <+: x ++ c :: (d ++ y)) : c :: d <+: x := by
  rcases List.prefix_or_prefix_of_prefix h (List.prefix_append x _) with hle | ⟨t, ht⟩
  · exact hle
  · cases t with
    | nil => rw [List.append_nil] at ht; rw [ht]
    | cons b t =>
      rw [← ht, List.prefix_append_right_inj] at h
      obtain ⟨rfl, -⟩ := List.cons_prefix_cons.mp h
      -- The rest of the delimiter would begin with its first letter.
      cases x with
      | nil => exact absurd rfl hx
      | cons a x =>
        obtain ⟨-, hd⟩ := List.cons.inj ht
        exact absurd (hd ▸ List.mem_append_right x List.mem_cons_self) hc

theorem cutAt_append (hc : c ∉ d) (hx : ¬ c :: d <:+: x) (y : List α) :
    cutAt (c :: d) (x ++ c :: (d ++ y)) = some (x, y) := by
  induction x with
  | nil =>
    have hbegins : c :: d <+: c :: (d ++ y) := List.prefix_append (c :: d) y
    rw [List.nil_append, cutAt, if_pos hbegins, List.length_cons, List.drop_succ_cons,
      List.drop_left]
  | cons a x ih =>
    have hbegins : ¬ c :: d <+: a :: (x ++ c :: (d ++ y)) := fun h =>
      hx (prefix_of_prefix_append hc (List.cons_ne_nil a x) h).isInfix
    rw [List.cons_append, cutAt, if_neg hbegins, ih (fun h => hx (List.infix_cons h))]
    rfl

theorem cutAt_eq_none (hx : ¬ d <:+: x) : cutAt d x = none := by
  induction x with
  | nil =>
    rw [cutAt, if_neg (fun h : d <+: [] => hx h.isInfix)]
  | cons a x ih =>
    rw [cutAt, if_neg (fun h => hx (List.IsPrefix.isInfix h)), ih (fun h => hx (List.infix_cons h))]
    rfl

/-- What stands between the occurrences of a delimiter. -/
def pieces (d : List α) (bs : List α) : List (List α) :=
  match cutAt d bs with
  | none => [bs]
  | some (x, y) => x :: if y.length < bs.length then pieces d y else []
termination_by bs.length

theorem pieces_eq_self (hx : ¬ d <:+: x) : pieces d x = [x] := by
  rw [pieces, cutAt_eq_none hx]

theorem pieces_append (hc : c ∉ d) (hx : ¬ c :: d <:+: x) (y : List α) :
    pieces (c :: d) (x ++ c :: (d ++ y)) = x :: pieces (c :: d) y := by
  have hlt : y.length < (x ++ c :: (d ++ y)).length := by
    simp only [List.length_append, List.length_cons]
    omega
  rw [pieces, cutAt_append hc hx y]
  dsimp only
  rw [if_pos hlt]

omit [DecidableEq α] in
/-- A delimiter begins behind what does not hold its first letter. -/
theorem infix_append_of_notMem (hx : c ∉ x) : c :: d <:+: x ++ y ↔ c :: d <:+: y := by
  induction x with
  | nil => rfl
  | cons a x ih =>
    rw [List.cons_append, List.infix_cons_iff, ih (fun h => hx (List.mem_cons_of_mem a h))]
    refine or_iff_right (fun h => hx ?_)
    rw [(List.cons_prefix_cons.mp h).1]
    exact List.mem_cons_self

end Cut

/-! ## Parts -/

/-- The carriage return. -/
abbrev cr : UInt8 := 0x0D

/-- The line feed. -/
abbrev lf : UInt8 := 0x0A

abbrev dash : UInt8 := 0x2D

/-- A part, its header line by line. -/
structure Part where
  headers : List (List UInt8)
  content : List UInt8
deriving DecidableEq

/-- Begins each part but the first, and the end. -/
def delimiter (boundary : List UInt8) : List UInt8 := cr :: lf :: dash :: dash :: boundary

/-- A part behind its delimiter line. -/
def Part.text (p : Part) : List UInt8 :=
  p.headers.flatMap (fun line => line ++ [cr, lf]) ++ cr :: lf :: p.content

/-- The lines up to the first empty one, and what stands behind it. -/
def readHeaders (line : List UInt8) : List UInt8 → Option (List (List UInt8) × List UInt8)
  | [] => none
  | [_] => none
  | b :: c :: rest =>
    if b = cr ∧ c = lf then
      if line = [] then some ([], rest)
      else (readHeaders [] rest).map (fun read => (line :: read.1, read.2))
    else readHeaders (line ++ [b]) (c :: rest)

/-- The part of a piece, behind the line break that ends its delimiter line. -/
def readPart : List UInt8 → Option Part
  | b :: c :: rest =>
    if b = cr ∧ c = lf then (readHeaders [] rest).map (fun read => ⟨read.1, read.2⟩) else none
  | _ => none

/-- The parts up to the end of the body. -/
def readParts : List (List UInt8) → Option (List Part)
  | [] => none
  | piece :: rest =>
    if [dash, dash] <+: piece then some []
    else
      match readPart piece, readParts rest with
      | some part, some parts => some (part :: parts)
      | _, _ => none

/-- **Takes a body apart.** What stands before the first delimiter is no part. -/
def read (boundary body : List UInt8) : Option (List Part) :=
  readParts (pieces (delimiter boundary) (cr :: lf :: body)).tail

/-- **The body of parts.** -/
def write (boundary : List UInt8) (parts : List Part) : List UInt8 :=
  (parts.flatMap (fun part => delimiter boundary ++ cr :: lf :: part.text)
    ++ (delimiter boundary ++ [dash, dash, cr, lf])).drop 2

/-- **What a part keeps**: its header lines are lines, none of them begins as a
delimiter does, and the boundary is nowhere in its content. -/
structure Part.Fits (boundary : List UInt8) (p : Part) : Prop where
  line : ∀ line ∈ p.headers, cr ∉ line
  head : ∀ line ∈ p.headers, ∃ b rest, line = b :: rest ∧ b ≠ dash
  content : ¬ boundary <:+: p.content

/-! ## Header lines -/

abbrev colon : UInt8 := 0x3A
abbrev quote : UInt8 := 0x22
abbrev backslash : UInt8 := 0x5C

/-- A letter of ASCII in lower case. -/
def lower (b : UInt8) : UInt8 := if 0x41 ≤ b ∧ b ≤ 0x5A then b + 0x20 else b

/-- Whether a header line is of that name, which is in lower case. -/
def named (name line : List UInt8) : Bool :=
  ((cutAt [colon] line).map (fun cut => cut.1.map lower)) = some name

/-- A quoted string behind its first quote, and what stands behind its last. -/
def readQuoted : List UInt8 → Option (List UInt8 × List UInt8)
  | [] => none
  | [b] => if b = quote then some ([], []) else none
  | b :: c :: rest =>
    if b = quote then some ([], c :: rest)
    else if b = backslash then (readQuoted rest).map (fun read => (c :: read.1, read.2))
    else (readQuoted (c :: rest)).map (fun read => (b :: read.1, read.2))

/-- The parameters behind the value of a header line, each `; key="value"`. -/
def readParameters : List UInt8 → Option (List (List UInt8 × List UInt8))
  | [] => some []
  | semicolon :: space :: rest =>
    if semicolon = 0x3B ∧ space = 0x20 then
      match cutAt [0x3D, quote] rest with
      | none => none
      | some (key, behind) =>
        match readQuoted behind with
        | none => none
        | some (value, after) =>
          if after.length < rest.length then
            (readParameters after).map (fun read => (key, value) :: read)
          else none
    else none
  | _ => none
termination_by bs => bs.length

/-- A parameter as it is written. -/
def parameter (key value : List UInt8) : List UInt8 :=
  0x3B :: 0x20 :: (key ++ 0x3D :: quote :: (value ++ [quote]))

section Header

variable {value : List UInt8}

theorem readQuoted_append (hquote : quote ∉ value) (hbackslash : backslash ∉ value)
    (rest : List UInt8) : readQuoted (value ++ quote :: rest) = some (value, rest) := by
  induction value with
  | nil => cases rest <;> rfl
  | cons b value ih =>
    have hb : b ≠ quote := fun h => hquote (h ▸ List.mem_cons_self)
    have hb' : b ≠ backslash := fun h => hbackslash (h ▸ List.mem_cons_self)
    obtain ⟨c, after, hafter⟩ : ∃ c after, value ++ quote :: rest = c :: after := by
      cases value with
      | nil => exact ⟨quote, _, rfl⟩
      | cons c value => exact ⟨c, _, rfl⟩
    rw [List.cons_append, hafter, readQuoted, if_neg hb, if_neg hb', ← hafter,
      ih (fun h => hquote (List.mem_cons_of_mem b h))
        (fun h => hbackslash (List.mem_cons_of_mem b h))]
    rfl

/-- **A value without a quote and without a backslash is read as it is.** -/
theorem readParameters_parameter {key : List UInt8} (hkey : (0x3D : UInt8) ∉ key)
    (hquote : quote ∉ value) (hbackslash : backslash ∉ value) (rest : List UInt8) :
    readParameters (parameter key value ++ rest)
      = (readParameters rest).map (fun read => (key, value) :: read) := by
  have hcut : cutAt [0x3D, quote] (key ++ 0x3D :: quote :: (value ++ quote :: rest))
      = some (key, value ++ quote :: rest) := by
    refine cutAt_append (d := [quote]) (by decide) (fun h => hkey ?_) _
    exact h.subset List.mem_cons_self
  have htext : parameter key value ++ rest
      = 0x3B :: 0x20 :: (key ++ 0x3D :: quote :: (value ++ quote :: rest)) := by
    simp [parameter]
  have hlt : rest.length
      < (key ++ 0x3D :: quote :: (value ++ quote :: rest)).length := by
    simp only [List.length_cons, List.length_append]
    omega
  rw [htext, readParameters, if_pos ⟨rfl, rfl⟩, hcut]
  dsimp only
  rw [readQuoted_append hquote hbackslash]
  dsimp only
  rw [if_pos hlt]

end Header

/-! ## What is read of what is written -/

section Read

variable {boundary : List UInt8} {p : Part}

theorem readHeaders_line {line : List UInt8} (hline : cr ∉ line) {before : List UInt8}
    (hne : before ++ line ≠ []) (rest : List UInt8) :
    readHeaders before (line ++ cr :: lf :: rest)
      = (readHeaders [] rest).map (fun read => ((before ++ line) :: read.1, read.2)) := by
  induction line generalizing before with
  | nil =>
    rw [List.append_nil] at hne
    rw [List.nil_append, readHeaders, if_pos ⟨rfl, rfl⟩, if_neg hne, List.append_nil]
  | cons b line ih =>
    have hb : b ≠ cr := fun h => hline (h ▸ List.mem_cons_self)
    obtain ⟨c, after, hafter⟩ : ∃ c after, line ++ cr :: lf :: rest = c :: after := by
      cases line with
      | nil => exact ⟨cr, _, rfl⟩
      | cons c line => exact ⟨c, _, rfl⟩
    rw [List.cons_append, hafter, readHeaders, if_neg (fun h => hb h.1), ← hafter,
      ih (fun h => hline (List.mem_cons_of_mem b h)) (by simp), List.append_assoc]
    rfl

/-- The header of a part ends where it was ended. -/
theorem readPart_text (hp : p.Fits boundary) : readPart (cr :: lf :: p.text) = some p := by
  obtain ⟨headers, content⟩ := p
  have hheaders : readHeaders [] (Part.text ⟨headers, content⟩) = some (headers, content) := by
    obtain ⟨hline, hhead, -⟩ := hp
    induction headers with
    | nil => rw [Part.text, List.flatMap_nil, List.nil_append, readHeaders]; rfl
    | cons line headers ih =>
      obtain ⟨b, rest, hcons, -⟩ := hhead line List.mem_cons_self
      have hne : [] ++ line ≠ [] := by rw [hcons]; exact List.cons_ne_nil b rest
      have htext : Part.text ⟨line :: headers, content⟩
          = line ++ cr :: lf :: Part.text ⟨headers, content⟩ := by
        simp [Part.text]
      rw [htext, readHeaders_line (hline line List.mem_cons_self) hne,
        ih (fun l hl => hline l (List.mem_cons_of_mem line hl))
          (fun l hl => hhead l (List.mem_cons_of_mem line hl))]
      rfl
  rw [readPart, if_pos ⟨rfl, rfl⟩, hheaders]
  rfl

/-- A delimiter line begins at no line break of a part, nor inside its content. -/
theorem Part.Fits.not_within (hp : p.Fits boundary) :
    ¬ delimiter boundary <:+: cr :: lf :: p.text := by
  obtain ⟨headers, content⟩ := p
  obtain ⟨hline, hhead, hcontent⟩ := hp
  -- A line break is the beginning of a delimiter only if dashes come behind it.
  have hbreak : ∀ after, (¬ dash :: dash :: boundary <+: after) → ¬ delimiter boundary <:+: after →
      ¬ delimiter boundary <:+: cr :: lf :: after := by
    intro after hdash hafter h
    rcases List.infix_cons_iff.mp h with h | h
    · exact hdash (List.cons_prefix_cons.mp (List.cons_prefix_cons.mp h).2).2
    · exact hafter ((infix_append_of_notMem (x := [lf]) (by decide)).mp h)
  have hsuffix : boundary <:+ dash :: dash :: boundary := ⟨[dash, dash], rfl⟩
  have hend : ¬ dash :: dash :: boundary <+: content := fun h =>
    hcontent (hsuffix.isInfix.trans h.isInfix)
  have hinside : ¬ delimiter boundary <:+: content := fun h =>
    hcontent (List.IsInfix.trans (List.IsSuffix.isInfix ⟨[cr, lf, dash, dash], rfl⟩) h)
  induction headers with
  | nil =>
    refine hbreak _ (fun h => ?_) (hbreak _ hend hinside)
    exact absurd (List.cons_prefix_cons.mp h).1 (by decide)
  | cons line headers ih =>
    have htext : Part.text ⟨line :: headers, content⟩
        = line ++ cr :: lf :: Part.text ⟨headers, content⟩ := by
      simp [Part.text]
    obtain ⟨b, rest, rfl, hb⟩ := hhead line List.mem_cons_self
    rw [htext]
    refine hbreak _ (fun h => ?_) (fun h => ?_)
    · exact hb (List.cons_prefix_cons.mp h).1.symm
    · exact ih (fun l hl => hline l (List.mem_cons_of_mem _ hl))
        (fun l hl => hhead l (List.mem_cons_of_mem _ hl)) hcontent
        ((infix_append_of_notMem (hline _ List.mem_cons_self)).mp h)

theorem crlf_write (boundary : List UInt8) (parts : List Part) : cr :: lf :: write boundary parts
    = parts.flatMap (fun part => delimiter boundary ++ cr :: lf :: part.text)
      ++ (delimiter boundary ++ [dash, dash, cr, lf]) := by
  cases parts with
  | nil => rfl
  | cons part parts => rfl

/-- **A body is cut where its parts were joined.** -/
theorem pieces_flatMap (hboundary : cr ∉ boundary) (hne : boundary ≠ []) {parts : List Part}
    (hparts : ∀ p ∈ parts, p.Fits boundary) {x : List UInt8} (hx : ¬ delimiter boundary <:+: x) :
    pieces (delimiter boundary)
        (x ++ (parts.flatMap (fun part => delimiter boundary ++ cr :: lf :: part.text)
          ++ (delimiter boundary ++ [dash, dash, cr, lf])))
      = x :: (parts.map (fun part => cr :: lf :: part.text) ++ [[dash, dash, cr, lf]]) := by
  have hhead : cr ∉ lf :: dash :: dash :: boundary := by
    simp only [List.mem_cons, not_or]
    exact ⟨by decide, by decide, by decide, hboundary⟩
  induction parts generalizing x with
  | nil =>
    have hend : ¬ delimiter boundary <:+: [dash, dash, cr, lf] := by
      intro h
      have hlength := h.length_le
      have hpos : 0 < boundary.length := List.length_pos_of_ne_nil hne
      simp only [delimiter, List.length_cons, List.length_nil] at hlength
      omega
    rw [List.flatMap_nil, List.nil_append, delimiter, List.cons_append, pieces_append hhead hx]
    exact congrArg _ (pieces_eq_self hend)
  | cons part parts ih =>
    have hpart := (hparts part List.mem_cons_self).not_within
    rw [List.flatMap_cons, List.append_assoc, List.append_assoc, delimiter, List.cons_append,
      pieces_append hhead hx]
    exact congrArg _ (ih (fun p hp => hparts p (List.mem_cons_of_mem part hp)) hpart)

/-- **Parts that fit a boundary are received as they were sent.** -/
theorem read_write (hboundary : cr ∉ boundary) (hne : boundary ≠ []) {parts : List Part}
    (hparts : ∀ p ∈ parts, p.Fits boundary) : read boundary (write boundary parts) = some parts := by
  have hnil : ¬ delimiter boundary <:+: [] := by
    intro h
    exact absurd (List.infix_nil.mp h) (List.cons_ne_nil _ _)
  have hpieces := pieces_flatMap hboundary hne hparts hnil
  rw [read, crlf_write, ← List.nil_append (List.flatMap _ _ ++ _), hpieces, List.tail_cons]
  clear hpieces
  induction parts with
  | nil => rfl
  | cons part parts ih =>
    have hpart := readPart_text (hparts part List.mem_cons_self)
    have hdash : ¬ [dash, dash] <+: cr :: lf :: part.text := fun h =>
      absurd (List.cons_prefix_cons.mp h).1 (by decide)
    rw [List.map_cons, List.cons_append, readParts, if_neg hdash, hpart,
      ih (fun p hp => hparts p (List.mem_cons_of_mem part hp))]

end Read

end Multipart
