import Szamlazz.Lib.Markup
import Mathlib.Data.List.Flatten

/-!
# Paths in content

An element of content stands at a path: the names of the elements that enclose it, from
the outside, and then its own. `Content.walk` lists the elements with their paths in the
order of their start tags, which is the order in which a reader of the stream meets
them; `Content.elementsAt` follows one path down the tree.

Among the elements met, those at a path and below it are the elements at that path, each
with what is met inside of it (`filter_prefix_walk`). So what a fold over the whole walk
does to a part of its state can be said of a path alone, as soon as nothing met elsewhere
touches that part (`foldl_walk_below`, `foldl_walk_at`).
-/

namespace Markup.Content

variable {T L K : Type}

/-- The elements directly in content, each with what it encloses. -/
def elements : Content T L → List (T × Content T L)
  | nil => []
  | leaf _ rest => rest.elements
  | empty tag rest => (tag, nil) :: rest.elements
  | element tag children rest => (tag, children) :: rest.elements

variable (key : T → K)

/-- The elements inside of content, at any depth. -/
def inner : Content T L → List (List K × Content T L)
  | nil => []
  | leaf _ rest => rest.inner
  | empty tag rest => ([key tag], nil) :: rest.inner
  | element tag children rest =>
    ([key tag], children) :: (children.inner.map (fun p => (key tag :: p.1, p.2)) ++ rest.inner)

/-- **What a reader meets**, the content itself first. -/
def walk (c : Content T L) : List (List K × Content T L) := ([], c) :: c.inner key

/-- **The elements at a path**, in the order of the document. -/
def elementsAt [DecidableEq K] : List K → Content T L → List (Content T L)
  | [], c => [c]
  | k :: path, c => (c.elements.filter (fun e => key e.1 = k)).flatMap (fun e => e.2.elementsAt path)

/-! ## The walk by its elements -/

variable {key}

theorem inner_eq (c : Content T L) :
    c.inner key = c.elements.flatMap (fun e => (e.2.walk key).map (fun p => (key e.1 :: p.1, p.2))) := by
  induction c with
  | nil => rfl
  | leaf _ rest ih => exact ih
  | empty tag rest ih =>
    rw [inner, elements, List.flatMap_cons, ih]
    rfl
  | element tag children rest _ ih =>
    rw [inner, elements, List.flatMap_cons, ih]
    rfl

theorem inner_of_elements_nil {c : Content T L} (h : c.elements = []) : c.inner key = [] := by
  rw [inner_eq, h]
  rfl

theorem ne_nil_of_mem_inner {c d : Content T L} {path : List K} (h : (path, d) ∈ c.inner key) :
    path ≠ [] := by
  rw [inner_eq] at h
  obtain ⟨e, -, h⟩ := List.mem_flatMap.mp h
  obtain ⟨p, -, hp⟩ := List.mem_map.mp h
  obtain ⟨rfl, -⟩ := Prod.mk.inj hp
  exact List.cons_ne_nil _ _

section

variable [DecidableEq K]

theorem elementsAt_append (path path' : List K) (c : Content T L) :
    c.elementsAt key (path ++ path') = (c.elementsAt key path).flatMap (elementsAt key path') := by
  induction path generalizing c with
  | nil => exact (List.append_nil _).symm
  | cons k path ih =>
    rw [List.cons_append, elementsAt, elementsAt, List.flatMap_assoc]
    refine congrArg (fun f => List.flatMap f _) (funext fun e => ?_)
    exact ih e.2

theorem elementsAt_name (k : K) (c : Content T L) :
    c.elementsAt key [k] = (c.elements.filter (fun e => key e.1 = k)).map Prod.snd := by
  rw [elementsAt, List.map_eq_flatMap]
  rfl

/-- What is met in an element, as far as it is at a path or below it. -/
theorem filter_prefix_element (k k' : K) (path : List K) (l : List (List K × Content T L)) :
    (l.map (fun p => (k' :: p.1, p.2))).filter (fun p => k :: path <+: p.1)
      = if k' = k then (l.filter (fun p => path <+: p.1)).map (fun p => (k :: p.1, p.2)) else [] := by
  rw [List.filter_map]
  split_ifs with hk
  · subst hk
    refine congrArg _ (List.filter_congr fun p _ => ?_)
    simp [List.cons_prefix_cons]
  · rw [List.filter_eq_nil_iff.mpr, List.map_nil]
    intro p _
    simp [List.cons_prefix_cons, Ne.symm hk]

/-- **What is met at a path and below it** are the elements at that path, each with what
is met inside of it. -/
theorem filter_prefix_walk (path : List K) (c : Content T L) :
    (c.walk key).filter (fun p => path <+: p.1)
      = (c.elementsAt key path).flatMap (fun d => (d.walk key).map (fun p => (path ++ p.1, p.2))) := by
  induction path generalizing c with
  | nil => simp [elementsAt]
  | cons k path ih =>
    have hstep : ∀ l : List (T × Content T L),
        (l.flatMap (fun e => (e.2.walk key).map (fun p => (key e.1 :: p.1, p.2)))).filter
            (fun p => k :: path <+: p.1)
          = ((l.filter (fun e => key e.1 = k)).flatMap (fun e => e.2.elementsAt key path)).flatMap
            (fun d => (d.walk key).map (fun p => (k :: path ++ p.1, p.2))) := by
      intro l
      induction l with
      | nil => rfl
      | cons e l ihl =>
        rw [List.flatMap_cons, List.filter_append, ihl, filter_prefix_element]
        by_cases hk : key e.1 = k
        · rw [if_pos hk, List.filter_cons_of_pos (by simpa using hk), List.flatMap_cons,
            List.flatMap_append, ih, List.map_flatMap]
          refine congrArg (· ++ _) (congrArg (fun f => List.flatMap f _) (funext fun d => ?_))
          rw [List.map_map]
          rfl
        · rw [if_neg hk, List.filter_cons_of_neg (by simpa using hk), List.nil_append]
    rw [walk, List.filter_cons_of_neg (by simp), inner_eq, hstep]
    rfl

/-- **What is met at a path** are the elements at that path. -/
theorem filter_walk (path : List K) (c : Content T L) :
    (c.walk key).filter (fun p => p.1 = path) = (c.elementsAt key path).map (fun d => (path, d)) := by
  have hbelow : (c.walk key).filter (fun p => p.1 = path)
      = ((c.walk key).filter (fun p => path <+: p.1)).filter (fun p => p.1 = path) := by
    rw [List.filter_filter]
    refine List.filter_congr fun p _ => ?_
    by_cases hp : p.1 = path <;> simp [hp]
  rw [hbelow, filter_prefix_walk]
  induction c.elementsAt key path with
  | nil => rfl
  | cons d l ih =>
    rw [List.flatMap_cons, List.filter_append, ih, List.map_cons, walk, List.map_cons,
      List.filter_cons_of_pos (by simp), List.append_nil, List.filter_eq_nil_iff.mpr]
    · rfl
    · intro p hp
      obtain ⟨q, hq, rfl⟩ := List.mem_map.mp hp
      simpa using ne_nil_of_mem_inner hq

theorem mem_walk {path : List K} {c d : Content T L} :
    (path, d) ∈ c.walk key ↔ d ∈ c.elementsAt key path := by
  have hfilter : (path, d) ∈ (c.walk key).filter (fun p => p.1 = path) ↔ (path, d) ∈ c.walk key := by
    simp
  rw [← hfilter, filter_walk]
  simp

/-! ## Folds over the walk -/

variable {S B : Type} {step : S → List K × Content T L → S}

/-- A part of the state that only what is met at a path or below it touches. -/
theorem foldl_walk_below (part : S → B) (inside : B → List K × Content T L → B) (path : List K)
    (h : ∀ s q d, part (step s (q, d))
      = if path <+: q then inside (part s) (q, d) else part s) (c : Content T L) (s : S) :
    part ((c.walk key).foldl step s)
      = (c.elementsAt key path).foldl (fun b d => ((d.walk key).map
          (fun p => (path ++ p.1, p.2))).foldl inside b) (part s) := by
  have hpart : (c.walk key).foldl (fun b p => if path <+: p.1 then inside b p else b) (part s)
      = part ((c.walk key).foldl step s) :=
    List.foldl_hom part (fun s p => (h s p.1 p.2).symm)
  rw [← hpart, ← List.foldl_flatMap, ← filter_prefix_walk, List.foldl_filter]
  simp

/-- The element of a list, if it is the only one. -/
def theOnly {A : Type} : List A → Option A
  | [a] => some a
  | _ => none

theorem getLast?_eq_theOnly {A : Type} {l : List A} (h : l.length ≤ 1) : l.getLast? = theOnly l := by
  match l, h with
  | [], _ => rfl
  | [_], _ => rfl
  | _ :: _ :: _, h => exact absurd h (by simp)

theorem theOnly_map {A B : Type} (f : A → B) (l : List A) : theOnly (l.map f) = (theOnly l).map f := by
  match l with
  | [] => rfl
  | [_] => rfl
  | _ :: _ :: _ => rfl

theorem mem_of_theOnly {A : Type} {l : List A} {a : A} (h : theOnly l = some a) : a ∈ l := by
  match l, h with
  | [b], h => exact List.mem_singleton.mpr (Option.some.inj h).symm

/-- **A field that only the elements at a path set**, and of which there is at most one. -/
theorem foldl_walk_at {V : Type} (field : S → Option V) (value : Content T L → Option V)
    (path : List K)
    (h : ∀ s q d, field (step s (q, d)) = if q = path then (value d).or (field s) else field s)
    {c : Content T L} (honly : (c.elementsAt key path).length ≤ 1) {s : S} (hs : field s = none) :
    field ((c.walk key).foldl step s) = (theOnly (c.elementsAt key path)).bind value := by
  have hfield : (c.walk key).foldl (fun b p => if p.1 = path then (value p.2).or b else b) (field s)
      = field ((c.walk key).foldl step s) :=
    List.foldl_hom field (fun s p => (h s p.1 p.2).symm)
  have hfilter : (c.walk key).foldl (fun b p => if p.1 = path then (value p.2).or b else b) (field s)
      = ((c.elementsAt key path).map (fun d => (path, d))).foldl
        (fun b p => (value p.2).or b) (field s) := by
    rw [← filter_walk, List.foldl_filter]
    simp
  rw [← hfield, hfilter, hs]
  match helements : c.elementsAt key path, honly with
  | [], _ => rfl
  | [d], _ => exact Option.or_none
  | _ :: _ :: _, honly => exact absurd honly (by simp)

end

end Markup.Content
