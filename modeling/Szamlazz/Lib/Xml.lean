import Mathlib.Data.List.Nodup
import Mathlib.Data.List.Forall2
import Mathlib.Data.List.Flatten
import Mathlib.Tactic.Common

/-!
# Element trees and their content models

A document of elements and text as a tree, the text a writer renders it to, and
the part of XML Schema such trees are checked against: simple types given by
their lexical space, sequences and `all` groups with occurrence bounds.

A writer emits the children of an element block by block, each block holding
the occurrences of one element name. `content_flatten` and `conforms_all` turn
blocks that fit their particles one by one into a conforming element, and
`named_flatten` reads a block back by its name: between them, element order,
occurrence bounds and the position of every text are settled block by block.
-/

namespace Xml

/-- An element with text, or one with child elements. -/
inductive Node where
  | leaf (name text : String)
  | node (name : String) (children : List Node)

namespace Node

def name : Node → String
  | leaf name _ => name
  | node name _ => name

def children : Node → List Node
  | leaf _ _ => []
  | node _ children => children

/-- The text of an element without child elements. -/
def text? : Node → Option String
  | leaf _ text => some text
  | node _ _ => none

@[simp] theorem name_leaf (n t : String) : (leaf n t).name = n := rfl
@[simp] theorem name_node (n : String) (cs : List Node) : (node n cs).name = n := rfl
@[simp] theorem children_node (n : String) (cs : List Node) : (node n cs).children = cs := rfl
@[simp] theorem text?_leaf (n t : String) : (leaf n t).text? = some t := rfl

end Node

/-! ## Rendering -/

/-- The characters markup gives a meaning to, as references. A carriage return is written
as one too: as it stands, a reader would take it for the end of a line. -/
def escapeChar : Char → List Char
  | '<' => "&lt;".toList
  | '>' => "&gt;".toList
  | '&' => "&amp;".toList
  | '\'' => "&apos;".toList
  | '"' => "&quot;".toList
  | '\r' => "&#13;".toList
  | c => [c]

def escape (text : String) : List Char := text.toList.flatMap escapeChar

def startTag (name : String) : List Char := '<' :: (name.toList ++ ['>'])

def endTag (name : String) : List Char := '<' :: '/' :: (name.toList ++ ['>'])

mutual

/-- The characters an element is written as. -/
def render : Node → List Char
  | .leaf name text => startTag name ++ escape text ++ endTag name
  | .node name children => startTag name ++ renderAll children ++ endTag name

def renderAll : List Node → List Char
  | [] => []
  | n :: ns => render n ++ renderAll ns

end

/-- A character markup gives no meaning to is written as itself. -/
theorem mem_escape {c : Char} {text : String} (hc : c ∈ text.toList)
    (hplain : escapeChar c = [c]) : c ∈ escape text :=
  List.mem_flatMap.mpr ⟨c, hc, by simp [hplain]⟩

theorem mem_render_leaf {c : Char} {name text : String} (hc : c ∈ escape text) :
    c ∈ render (.leaf name text) := by
  rw [render, List.mem_append, List.mem_append]
  exact Or.inl (Or.inr hc)

theorem mem_render_node {c : Char} {name : String} {children : List Node}
    (hc : c ∈ renderAll children) : c ∈ render (.node name children) := by
  rw [render, List.mem_append, List.mem_append]
  exact Or.inl (Or.inr hc)

/-- What a child is written as, its parent is written with. -/
theorem mem_renderAll {c : Char} {n : Node} {ns : List Node} (hn : n ∈ ns) (hc : c ∈ render n) :
    c ∈ renderAll ns := by
  induction ns with
  | nil => cases hn
  | cons m ns ih =>
    rw [renderAll, List.mem_append]
    rcases List.mem_cons.mp hn with rfl | hn
    · exact Or.inl hc
    · exact Or.inr (ih hn)

/-! ## Positions -/

/-- The children of one name, in document order. -/
def named (name : String) (ns : List Node) : List Node := ns.filter (fun n => n.name = name)

/-- One step down a document: a child name, and which of them if it repeats. -/
structure Step where
  name : String
  index : Option Nat := none

/-- The elements a step selects. -/
def Step.select (s : Step) (ns : List Node) : List Node :=
  match s.index with
  | none => named s.name ns
  | some i => ((named s.name ns)[i]?).toList

/-- The elements at the end of a path. -/
def nodesAt : List Step → List Node → List Node
  | [], ns => ns
  | [s], ns => s.select ns
  | s :: t :: path, ns => nodesAt (t :: path) ((s.select ns).flatMap Node.children)

/-- The texts of the elements at the end of a path, in document order. -/
def textsAt (path : List Step) (ns : List Node) : List String :=
  (nodesAt path ns).filterMap Node.text?

@[simp] theorem named_nil (name : String) : named name [] = [] := rfl

theorem named_append (name : String) (ns ms : List Node) :
    named name (ns ++ ms) = named name ns ++ named name ms :=
  List.filter_append ..

/-! ## Content models -/

/-- An element declaration inside a content model. -/
structure Particle (T : Type) where
  name : String
  minOccurs : Nat
  maxOccurs : Option Nat
  ty : T

/-- Whether so many occurrences are within the bounds. -/
def Particle.Admits {T : Type} (p : Particle T) (count : Nat) : Prop :=
  p.minOccurs ≤ count ∧ ∀ m ∈ p.maxOccurs, count ≤ m

/-- A type: a lexical space, a sequence, or an `all` group. -/
inductive Ty where
  | simple (lexical : String → Bool)
  | sequence (particles : List (Particle Ty))
  | all (particles : List (Particle Ty))

/-- The element names a content model declares. -/
def Ty.names : Ty → List String
  | simple _ => []
  | sequence particles | all particles => particles.map Particle.name

mutual

/-- **An element conforms to a type.** -/
inductive Conforms : Ty → Node → Prop where
  | simple {lexical : String → Bool} {name text : String} (h : lexical text = true) :
      Conforms (.simple lexical) (.leaf name text)
  | sequence {ps : List (Particle Ty)} {name : String} {cs : List Node} (h : Content ps cs) :
      Conforms (.sequence ps) (.node name cs)
  | all {ps : List (Particle Ty)} {name : String} {cs : List Node}
      (declared : ∀ x ∈ cs, x.name ∈ ps.map Particle.name)
      (conforms : ∀ x ∈ cs, ∀ p ∈ ps, x.name = p.name → Conforms p.ty x)
      (count : ∀ p ∈ ps, p.Admits (named p.name cs).length) :
      Conforms (.all ps) (.node name cs)

/-- The children of a sequence: as many occurrences of each particle as its
bounds admit, in the order of the particles. -/
inductive Content : List (Particle Ty) → List Node → Prop where
  | nil : Content [] []
  | cons {p : Particle Ty} {ps : List (Particle Ty)} {block cs : List Node}
      (count : p.Admits block.length) (name : ∀ x ∈ block, x.name = p.name)
      (conforms : ∀ x ∈ block, Conforms p.ty x) (rest : Content ps cs) :
      Content (p :: ps) (block ++ cs)

end

/-- **A block fits a particle**: its bounds, its name and its type. -/
structure Fits (p : Particle Ty) (block : List Node) : Prop where
  count : p.Admits block.length
  name : ∀ x ∈ block, x.name = p.name
  conforms : ∀ x ∈ block, Conforms p.ty x

/-- Blocks that fit their particles one by one are the content of a sequence. -/
theorem content_flatten {ps : List (Particle Ty)} {blocks : List (List Node)}
    (h : List.Forall₂ Fits ps blocks) : Content ps blocks.flatten := by
  induction h with
  | nil => exact Content.nil
  | cons hfit _ ih => exact Content.cons hfit.count hfit.name hfit.conforms ih

theorem conforms_sequence {ps : List (Particle Ty)} {name : String} {cs : List Node}
    {blocks : List (List Node)} (hcs : cs = blocks.flatten) (h : List.Forall₂ Fits ps blocks) :
    Conforms (.sequence ps) (.node name cs) :=
  Conforms.sequence (hcs ▸ content_flatten h)

/-- The blocks, one for each of the names. -/
def Labelled (names : List String) (blocks : List (List Node)) : Prop :=
  List.Forall₂ (fun name block => ∀ x ∈ block, x.name = name) names blocks

theorem labelled_of_fits {ps : List (Particle Ty)} {blocks : List (List Node)}
    (h : List.Forall₂ Fits ps blocks) : Labelled (ps.map Particle.name) blocks := by
  induction h with
  | nil => exact .nil
  | cons hfit _ ih => exact .cons hfit.name ih

theorem named_eq_nil {name : String} {names : List String} {blocks : List (List Node)}
    (h : Labelled names blocks) (hname : name ∉ names) : named name blocks.flatten = [] := by
  induction h with
  | nil => rfl
  | cons hblock _ ih =>
    rw [List.mem_cons, not_or] at hname
    rw [List.flatten_cons, named_append, ih hname.2, List.append_nil]
    refine List.filter_eq_nil_iff.mpr (fun x hx => ?_)
    simpa [hblock x hx] using Ne.symm hname.1

/-- **A block is read back by its name**, as long as no other block has it. -/
theorem named_flatten {names : List String} {blocks : List (List Node)}
    (h : Labelled names blocks) (hnodup : names.Nodup) {name : String} {block : List Node}
    (hmem : (name, block) ∈ names.zip blocks) : named name blocks.flatten = block := by
  induction h with
  | nil => cases hmem
  | @cons head headBlock names blocks hblock hrest ih =>
    rw [List.nodup_cons] at hnodup
    rw [List.flatten_cons, named_append]
    rw [List.zip_cons_cons] at hmem
    rcases List.mem_cons.mp hmem with heq | htail
    · cases heq
      rw [named_eq_nil hrest hnodup.1, List.append_nil]
      exact List.filter_eq_self.mpr (fun x hx => by simpa using hblock x hx)
    · have hne : name ≠ head := by
        rintro rfl
        exact hnodup.1 (List.of_mem_zip htail).1
      have hnil : named name headBlock = [] := by
        refine List.filter_eq_nil_iff.mpr (fun x hx => ?_)
        simpa [hblock x hx] using Ne.symm hne
      rw [hnil, List.nil_append]
      exact ih hnodup.2 htail

/-- **Blocks that fit the particles of an `all` group, in any order.** -/
theorem conforms_all {ps qs : List (Particle Ty)} {name : String} {cs : List Node}
    {blocks : List (List Node)} (hcs : cs = blocks.flatten) (hperm : qs.Perm ps)
    (hnodup : (ps.map Particle.name).Nodup) (h : List.Forall₂ Fits qs blocks) :
    Conforms (.all ps) (.node name cs) := by
  subst hcs
  have hlabel := labelled_of_fits h
  have hnodup' : (qs.map Particle.name).Nodup := (hperm.map _).nodup_iff.mpr hnodup
  have hfits : ∀ p ∈ qs, ∃ block, (p.name, block) ∈ (qs.map Particle.name).zip blocks
      ∧ Fits p block := by
    clear hperm hlabel hnodup'
    induction h with
    | nil => intro p hp; cases hp
    | @cons q block qs blocks hfit _ ih =>
      intro p hp
      rcases List.mem_cons.mp hp with rfl | hp
      · exact ⟨block, List.mem_cons_self, hfit⟩
      · obtain ⟨block', hmem, hfit'⟩ := ih p hp
        exact ⟨block', List.mem_cons_of_mem _ hmem, hfit'⟩
  have hex : ∀ x ∈ blocks.flatten, ∃ q ∈ qs, x.name = q.name ∧ Conforms q.ty x := by
    clear hperm hlabel hnodup' hfits
    induction h with
    | nil => intro x hx; cases hx
    | cons hfit _ ih =>
      intro x hx
      rcases List.mem_append.mp hx with hx | hx
      · exact ⟨_, List.mem_cons_self, hfit.name x hx, hfit.conforms x hx⟩
      · obtain ⟨q, hq, hxq⟩ := ih x hx
        exact ⟨q, List.mem_cons_of_mem _ hq, hxq⟩
  refine Conforms.all (fun x hx => ?_) (fun x hx p hp hname => ?_) (fun p hp => ?_)
  · obtain ⟨q, hq, hname, -⟩ := hex x hx
    exact List.mem_map.mpr ⟨q, hperm.mem_iff.mp hq, hname.symm⟩
  · obtain ⟨q, hq, hname', hconf⟩ := hex x hx
    -- the names are distinct, so the declaration is the one the block fits
    have hpq : p = q := List.inj_on_of_nodup_map hnodup hp (hperm.mem_iff.mp hq)
      (hname.symm.trans hname')
    exact hpq ▸ hconf
  · obtain ⟨block, hmem, hfit⟩ := hfits p (hperm.mem_iff.mpr hp)
    rw [named_flatten hlabel hnodup' hmem]
    exact hfit.count

end Xml
