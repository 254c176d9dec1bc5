import Szamlazz.Agent.TaxpayerRecord

/-!
# What the pass over a taxpayer reply gathers

Every element of the tree takes one step on the leaves that are gathered. A leaf of the
reply is touched at its own path alone (`leaf_step`). The header, the software, the
notifications and the addresses have records of their own: an element at the path of such a
kind starts one, what is in that element goes to the record that was started last, and
nothing elsewhere touches it, so that the records of a kind are those of its elements, in
the order of the document (`entries_foldl`).
-/

namespace Szamlazz

open Markup

/-! ## Gathering over a tree -/

/-- What of a text is stored, if anything. -/
def Place.stored (place : Place) (text : String) : Option String :=
  if place.scalar = true
      ∧ (place.name = "taxpayerValidity" ∨ ¬ (place.value text).toList.all isXmlSpace) then
    some (place.value text)
  else none

/-- Where the elements with a record of their own are. -/
def Layout.entryPath (layout : Layout) (entry : String) : List Expanded :=
  if entry = "header" then layout.headerPath
  else if entry = "software" then layout.softwarePath
  else if entry = "notification" then layout.notificationPath
  else layout.itemPath

namespace Gathered

section Step

variable (layout : Layout) (lib : TextLibrary)

/-- What one element brings. -/
def step (g : Gathered) (p : List Expanded × Tree) : Gathered :=
  let here := layout.place p.1
  match here.stored (Tree.text lib p.2) with
  | some value => (g.opened here.name).set here.name value here.address
  | none => g.opened here.name

variable {layout lib}

/-- A text is stored in what was gathered as in the record. -/
theorem store_response (g : Gathered) {place : Place} {text : String} (h : place.Storable text) :
    g.response.store place text
      = (match place.stored text with
        | some value => g.set place.name value place.address
        | none => g).response := by
  unfold TaxpayerResponse.store TaxpayerResponse.finish Place.stored
  by_cases hscalar : place.scalar = true
  · rw [if_pos hscalar]
    dsimp only
    split_ifs with hvalue hstored hstored
    · rw [set_response g fun haddress hname => h hscalar haddress hname]
    · exact absurd ⟨hscalar, hvalue⟩ hstored
    · exact absurd hstored.2 hvalue
    · rfl
  · rw [if_neg hscalar, if_neg fun h => hscalar h.1]

/-- An element does to the record what it does to what was gathered. -/
theorem response_step (g : Gathered) {p : List Expanded × Tree}
    (h : (layout.place p.1).Storable (Tree.text lib p.2)) :
    (g.step layout lib p).response = layout.step lib rootPlace g.response p := by
  unfold step Layout.step
  dsimp only
  rw [← response_opened, store_response _ h]

/-- **What is gathered makes the record.** -/
theorem response_foldl {l : List (List Expanded × Tree)} (g : Gathered)
    (h : ∀ p ∈ l, (layout.place p.1).Storable (Tree.text lib p.2)) :
    (l.foldl (step layout lib) g).response
      = l.foldl (layout.step lib rootPlace) g.response := by
  induction l generalizing g with
  | nil => rfl
  | cons p l ih =>
    obtain ⟨hp, hl⟩ := List.forall_mem_cons.mp h
    rw [List.foldl_cons, List.foldl_cons, ih _ hl, response_step g hp]

/-- The start of an element touches no leaf of the reply. -/
theorem opened_leaf (g : Gathered) (name : String) : (g.opened name).leaf = g.leaf := by
  unfold opened
  split_ifs <;> rfl

/-- **A leaf of the record** is touched at its path alone. -/
theorem leaf_step {x : List Expanded × Place} (hx : x ∈ layout.recognised)
    (hname : x.2.name ≠ "") (howner : owner x.2.name x.2.address = none) (g : Gathered)
    (path : List Expanded) (tree : Tree) :
    (g.step layout lib (path, tree)).leaf x.2.name
      = if path = x.1 then (x.2.stored (Tree.text lib tree)).or (g.leaf x.2.name)
        else g.leaf x.2.name := by
  unfold step
  dsimp only
  split_ifs with hpath
  · rw [hpath, Layout.place_recognised hx]
    cases x.2.stored (Tree.text lib tree) with
    | none => rw [opened_leaf, Option.none_or]
    | some value => simp [set, howner, Leaves.assign_self]
  · have hother : x.2.name ≠ (layout.place path).name :=
      fun h => hpath ((Layout.path_of_name hx hname).mp h.symm)
    cases (layout.place path).stored (Tree.text lib tree) with
    | none => rw [opened_leaf]
    | some value =>
      unfold set
      cases owner (layout.place path).name (layout.place path).address with
      | none => simp [opened_leaf, Leaves.assign_of_ne _ _ _ hother]
      | some entry => exact congrFun (opened_leaf _ _) _

/-! ### The records in it -/

/-- What an element brings into the records of a kind. -/
def entryStep (entry : String) (place : Place) (text : String) (l : List Leaves) : List Leaves :=
  let l := if place.name = entry then l ++ [(fun _ => none : Leaves)] else l
  match place.stored text with
  | some value =>
    if owner place.name place.address = some entry then
      changeLast entry (·.assign place.name value) l
    else l
  | none => l

/-- What an element brings into one record. -/
def leafStep (entry : String) (place : Place) (text : String) (leaf : Leaves) : Leaves :=
  match place.stored text with
  | some value =>
    if owner place.name place.address = some entry then
      leaf.assign place.name value
    else leaf
  | none => leaf

/-- The start of an element touches the records of its kind alone. -/
theorem opened_entries (g : Gathered) {entry : String} (hentry : entry ∈ entryNames)
    (name : String) : (g.opened name).entries entry
      = if name = entry then g.entries entry ++ [fun _ => none] else g.entries entry := by
  unfold opened
  split_ifs with hname heq heq
  · rw [heq]
    simp
  · simp [Function.update_of_ne (Ne.symm heq)]
  · exact absurd (heq ▸ hentry) hname
  · rfl

/-- An element touches the records of a kind by its place and its text. -/
theorem entries_step (g : Gathered) {entry : String} (hentry : entry ∈ entryNames)
    (p : List Expanded × Tree) : (g.step layout lib p).entries entry
      = entryStep entry (layout.place p.1) (Tree.text lib p.2) (g.entries entry) := by
  unfold step entryStep
  dsimp only
  rw [← opened_entries g hentry]
  cases (layout.place p.1).stored (Tree.text lib p.2) with
  | none => rfl
  | some value =>
    unfold set
    dsimp only
    cases howner : owner (layout.place p.1).name (layout.place p.1).address with
    | none => rw [if_neg (by simp)]
    | some entry' =>
      dsimp only
      split_ifs with heq
      · obtain rfl := Option.some.inj heq
        exact Function.update_self ..
      · exact Function.update_of_ne (fun h => heq (congrArg some h.symm)) _ _

variable (layout) in
/-- The records of a kind are where their elements are. -/
theorem entryPath_recognised {entry : String} (hentry : entry ∈ entryNames) :
    ∃ address, (layout.entryPath entry, ⟨entry, false, address⟩) ∈ layout.recognised := by
  have hcontainer : ∃ c ∈ layout.containers, c.path = layout.entryPath entry ∧ c.name = entry := by
    simp only [entryNames, List.mem_cons, List.not_mem_nil, or_false] at hentry
    rcases hentry with rfl | rfl | rfl | rfl <;> simp [Layout.containers, Layout.entryPath]
  obtain ⟨c, hc, hpath, rfl⟩ := hcontainer
  exact ⟨c.address, Layout.mem_recognised.mpr ⟨c, hc, Or.inl (by rw [← hpath]; rfl)⟩⟩

/-- A leaf that is stored in a record is below its element. -/
theorem entryPath_above {c : Layout.Container} (hc : c ∈ layout.containers) :
    ∀ name ∈ c.leaves, ∀ entry ∈ owner name c.address,
      layout.entryPath entry <+: c.path ++ [(some c.uri, name)] := by
  simp only [Layout.containers, List.mem_cons, List.not_mem_nil, or_false] at hc
  rcases hc with rfl | rfl | rfl | rfl | rfl | rfl | rfl | rfl | rfl | rfl | rfl <;>
    simp [owner, Layout.entryPath, Layout.addressPath]

/-- An element elsewhere does not touch the records of a kind. -/
theorem entryStep_elsewhere {entry : String} (hentry : entry ∈ entryNames) {path : List Expanded}
    (h : ¬ layout.entryPath entry <+: path) (text : String) (l : List Leaves) :
    entryStep entry (layout.place path) text l = l := by
  obtain ⟨address, hpath⟩ := entryPath_recognised layout hentry
  have hname : (layout.place path).name ≠ entry := by
    intro hname
    have hempty : entry ≠ "" := by
      rintro rfl
      simp [entryNames] at hentry
    rw [(Layout.path_of_name hpath hempty).mp hname] at h
    exact h (List.prefix_refl _)
  unfold entryStep
  dsimp only
  rw [if_neg hname]
  cases hstored : (layout.place path).stored text with
  | none => rfl
  | some value =>
    refine if_neg fun howner => h ?_
    have hscalar : (layout.place path).scalar = true := by
      unfold Place.stored at hstored
      split_ifs at hstored with hscalar
      exact hscalar.1
    obtain ⟨c, hc, hcontainer | ⟨name, hleaf, hplace⟩⟩ :=
      Layout.mem_recognised.mp (Layout.recognised_place path (Or.inr hscalar))
    · rw [(Prod.mk.inj hcontainer).2] at hscalar
      cases hscalar
    · obtain ⟨rfl, hplace⟩ := Prod.mk.inj hplace
      rw [← hplace] at howner
      exact entryPath_above hc name hleaf entry howner

/-- Inside of its element a record is the last. -/
theorem foldl_entryStep {entry : String} {l : List (List Expanded × Tree)}
    (h : ∀ p ∈ l, (layout.place p.1).name ≠ entry) (before : List Leaves) (leaf : Leaves) :
    l.foldl (fun l p => entryStep entry (layout.place p.1) (Tree.text lib p.2) l) (before ++ [leaf])
      = before ++ [l.foldl (fun leaf p => leafStep entry (layout.place p.1) (Tree.text lib p.2) leaf)
        leaf] := by
  induction l generalizing leaf with
  | nil => rfl
  | cons p l ih =>
    obtain ⟨hp, hl⟩ := List.forall_mem_cons.mp h
    have hstep : entryStep entry (layout.place p.1) (Tree.text lib p.2) (before ++ [leaf])
        = before ++ [leafStep entry (layout.place p.1) (Tree.text lib p.2) leaf] := by
      unfold entryStep leafStep
      dsimp only
      rw [if_neg hp]
      cases (layout.place p.1).stored (Tree.text lib p.2) with
      | none => rfl
      | some value =>
        dsimp only
        split_ifs
        · simp [changeLast]
        · rfl
    rw [List.foldl_cons, List.foldl_cons, hstep, ih hl]

variable (layout lib) in
/-- The leaves of the record of an element. -/
def leavesIn (entry : String) (element : Tree) : Leaves :=
  (element.walk expandedElement).foldl (fun leaf p =>
    leafStep entry (layout.place (layout.entryPath entry ++ p.1)) (Tree.text lib p.2) leaf)
    fun _ => none

/-- **The records of a kind** are those of the elements at its path, in their order. -/
theorem entries_foldl {entry : String} (hentry : entry ∈ entryNames) (root : Tree) :
    ((root.walk expandedElement).foldl (step layout lib) ⟨fun _ => none, fun _ => []⟩).entries entry
      = (root.elementsAt expandedElement (layout.entryPath entry)).map
        (leavesIn layout lib entry) := by
  obtain ⟨address, hpath⟩ := entryPath_recognised layout hentry
  have hempty : entry ≠ "" := by
    rintro rfl
    simp [entryNames] at hentry
  have hstep : ∀ (g : Gathered) path tree, (step layout lib g (path, tree)).entries entry
      = if layout.entryPath entry <+: path then
          entryStep entry (layout.place path) (Tree.text lib tree) (g.entries entry)
        else g.entries entry := by
    intro g path tree
    split_ifs with hbelow
    · exact entries_step g hentry (path, tree)
    · exact (entries_step g hentry (path, tree)).trans (entryStep_elsewhere hentry hbelow _ _)
  refine (Content.foldl_walk_below (fun g : Gathered => g.entries entry)
    (fun l p => entryStep entry (layout.place p.1) (Tree.text lib p.2) l)
    (layout.entryPath entry) hstep root ⟨fun _ => none, fun _ => []⟩).trans ?_
  -- every element at the path starts a record, and what is in the element goes to it
  have helement : ∀ (before : List Leaves) (d : Tree),
      ((d.walk expandedElement).map fun p => (layout.entryPath entry ++ p.1, p.2)).foldl
          (fun l p => entryStep entry (layout.place p.1) (Tree.text lib p.2) l) before
        = before ++ [leavesIn layout lib entry d] := by
    intro before d
    have hplace : layout.place (layout.entryPath entry) = ⟨entry, false, address⟩ :=
      Layout.place_recognised hpath
    have hinner : ∀ p ∈ (d.inner expandedElement).map
        fun p => (layout.entryPath entry ++ p.1, p.2), (layout.place p.1).name ≠ entry := by
      intro p hp hname
      obtain ⟨q, hq, rfl⟩ := List.mem_map.mp hp
      have hself := (Layout.path_of_name hpath hempty).mp hname
      exact Content.ne_nil_of_mem_inner hq (List.append_right_eq_self.mp hself)
    have hfirst : entryStep entry (layout.place (layout.entryPath entry)) (Tree.text lib d) before
        = before ++ [fun _ => none] := by
      rw [hplace]
      simp [entryStep, Place.stored]
    have hnothing : leafStep entry (layout.place (layout.entryPath entry)) (Tree.text lib d)
        (fun _ => none) = fun _ => none := by
      rw [hplace]
      simp [leafStep, Place.stored]
    rw [leavesIn, Content.walk, List.map_cons, List.foldl_cons, List.foldl_cons, List.append_nil,
      hfirst, hnothing, foldl_entryStep hinner, List.foldl_map]
  have hall : ∀ (l : List Tree) (before : List Leaves),
      l.foldl (fun before d => ((d.walk expandedElement).map
          fun p => (layout.entryPath entry ++ p.1, p.2)).foldl
            (fun l p => entryStep entry (layout.place p.1) (Tree.text lib p.2) l) before) before
        = before ++ l.map (leavesIn layout lib entry) := by
    intro l
    induction l with
    | nil => exact fun before => (List.append_nil before).symm
    | cons d l ih =>
      intro before
      rw [List.foldl_cons, helement, ih, List.append_assoc, List.map_cons, List.singleton_append]
  exact hall _ []

end Step

end Gathered

end Szamlazz
