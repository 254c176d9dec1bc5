import Szamlazz.Agent.TaxpayerExtract

/-!
# What a taxpayer reply may be extended by

An element that its parent does not know may hold anything, familiar names among it: the
pass counts it as a child and reads nothing of what is in it. `pruned` takes out the
content of all such elements, and neither what is accepted (`accepts_pruned`) nor what is
read (`extract_pruned`) changes by it.
-/

namespace Szamlazz

open Markup

namespace Layout

variable {layout : Layout} {lib : TextLibrary} {root : Tree}

/-- A tree without the content of the elements that are not known. -/
def pruned (layout : Layout) (place : Place) : Tree → Tree
  | .nil => .nil
  | .leaf l rest => .leaf l (layout.pruned place rest)
  | .empty p rest => .empty p (layout.pruned place rest)
  | .element p children rest =>
    .element p (if (layout.placeOf place p).name = "" then .nil
      else layout.pruned (layout.placeOf place p) children) (layout.pruned place rest)

/-- The text directly in an element stays. -/
theorem text_pruned (place : Place) (tree : Tree) :
    Tree.text lib (layout.pruned place tree) = Tree.text lib tree := by
  induction tree generalizing place with
  | nil => rfl
  | leaf l rest ih => exact congrArg (l.decoded lib ++ ·) (ih place)
  | empty p rest ih => exact ih place
  | element p children rest _ ih => exact ih place

/-- Every child stays, with what is left of its content. -/
theorem elements_pruned (place : Place) (tree : Tree) :
    (layout.pruned place tree).elements = tree.elements.map fun e =>
      (e.1, if (layout.placeOf place e.1).name = "" then .nil
        else layout.pruned (layout.placeOf place e.1) e.2) := by
  induction tree generalizing place with
  | nil => rfl
  | leaf l rest ih => exact ih place
  | empty p rest ih =>
    rw [pruned, Content.elements, Content.elements, List.map_cons, ih place]
    split_ifs <;> rfl
  | element p children rest _ ih =>
    rw [pruned, Content.elements, Content.elements, List.map_cons, ih place]

/-- Below what is not known nothing is. -/
theorem placeFrom_unknown {place : Place} (h : place.name = "") (path : List Expanded) :
    (layout.placeFrom place path).name = "" := by
  induction path generalizing place with
  | nil => exact h
  | cons name path ih =>
    have hchild : (layout.childPlace place name.1 name.2).name = "" := by
      rw [childPlace, child, h]
      rfl
    exact ih hchild

/-- A path is followed in two parts. -/
theorem placeFrom_append (place : Place) (path path' : List Expanded) :
    layout.placeFrom place (path ++ path')
      = layout.placeFrom (layout.placeFrom place path) path' :=
  List.foldl_append

/-- **The elements at a path that is known** lose nothing but what is not known. -/
theorem elementsAt_pruned {place : Place} {path : List Expanded}
    (h : (layout.placeFrom place path).name ≠ "") (tree : Tree) :
    (layout.pruned place tree).elementsAt expandedElement path
      = (tree.elementsAt expandedElement path).map (layout.pruned (layout.placeFrom place path)) := by
  induction path generalizing place tree with
  | nil => rfl
  | cons name path ih =>
    have hchild : (layout.placeFrom place [name]).name ≠ "" :=
      fun hunknown => h (placeFrom_unknown hunknown path)
    rw [Content.elementsAt, Content.elementsAt, elements_pruned, List.filter_map, List.flatMap_map,
      List.map_flatMap]
    refine List.flatMap_congr fun e he => ?_
    have hname : expandedElement e.1 = name := by
      simpa using (List.mem_filter.mp he).2
    have hplace : layout.placeOf place e.1 = layout.placeFrom place [name] := by
      rw [placeOf, hname]
    dsimp only
    rw [hplace, if_neg hchild]
    exact ih h e.2

/-- The text at a path that is known stays. -/
theorem textAt_pruned {place : Place} {path : List Expanded}
    (h : (layout.placeFrom place path).name ≠ "") (tree : Tree) :
    Tree.textAt lib (layout.pruned place tree) path = Tree.textAt lib tree path := by
  rw [Tree.textAt, elementsAt_pruned h, Content.theOnly_map, Option.map_map, Tree.textAt]
  exact congrArg (fun f => Option.map f _) (funext (text_pruned _))

/-- The text of a leaf, in its container or in an element around it. -/
theorem leaf_pruned {c : Container} (hc : c ∈ layout.containers) {name : String}
    (hname : name ∈ c.leaves) (path : List Expanded) {rel : List Expanded}
    (hpath : path ++ rel = c.path ++ [(some c.uri, name)]) (tree : Tree) :
    Tree.textAt lib (layout.pruned (layout.place path) tree) rel = Tree.textAt lib tree rel := by
  refine textAt_pruned ?_ tree
  have hplace : layout.place (c.path ++ [(some c.uri, name)]) = ⟨name, true, c.address⟩ :=
    place_recognised (leaf_recognised hc hname)
  rw [← placeFrom_append, hpath]
  intro hunknown
  have hempty : name = "" := (congrArg Place.name hplace).symm.trans hunknown
  exact ne_empty_of_singleton (leaf_singleton hc name hname) hempty

/-- A path that is known has a name. -/
theorem recognised_name {x : List Expanded × Place} (hx : x ∈ layout.recognised) :
    (layout.place x.1).name ≠ "" := by
  rw [place_recognised hx]
  obtain ⟨c, hc, rfl | ⟨name, hname, rfl⟩⟩ := mem_recognised.mp hx
  · simp only [containers, List.mem_cons, List.not_mem_nil, or_false] at hc
    rcases hc with rfl | rfl | rfl | rfl | rfl | rfl | rfl | rfl | rfl | rfl | rfl <;>
      simp [Container.place]
  · exact ne_empty_of_singleton (leaf_singleton hc name hname)

/-- So does the value of a leaf. -/
theorem scalarAt_pruned {c : Container} (hc : c ∈ layout.containers) {name : String}
    (hname : name ∈ c.leaves) {path rel : List Expanded}
    (hpath : path ++ rel = c.path ++ [(some c.uri, name)]) (tree : Tree) :
    Tree.scalarAt lib (layout.pruned (layout.place path) tree) rel
      = Tree.scalarAt lib tree rel := by
  rw [Tree.scalarAt, leaf_pruned hc hname path hpath, Tree.scalarAt]

/-- **What is accepted** does not depend on what is not known. -/
theorem accepts_pruned :
    layout.Accepts lib (layout.pruned rootPlace root) ↔ layout.Accepts lib root := by
  -- Each check looks at a known place, and there the pruned tree has the same elements, as many
  -- of them and the same text.
  have helements : ∀ place tree, (layout.pruned place tree).elements = [] ↔ tree.elements = [] := by
    intro place tree
    rw [elements_pruned, List.map_eq_nil_iff]
  have hmem : ∀ path, (layout.place path).name ≠ "" → ∀ P : Tree → Prop,
      (∀ d ∈ (layout.pruned rootPlace root).elementsAt expandedElement path, P d)
        ↔ ∀ d ∈ root.elementsAt expandedElement path, P (layout.pruned (layout.place path) d) := by
    intro path hpath P
    rw [elementsAt_pruned hpath, List.forall_mem_map]
  have hlength : ∀ parent name, (layout.place (parent ++ [name])).name ≠ "" → ∀ d : Tree,
      ((layout.pruned (layout.place parent) d).elementsAt expandedElement [name]).length
        = (d.elementsAt expandedElement [name]).length := by
    intro parent name hname d
    rw [elementsAt_pruned (placeFrom_append rootPlace parent [name] ▸ hname), List.length_map]
  have hparent : ∀ parent name, (layout.place (parent ++ [name])).name ≠ "" →
      (layout.place parent).name ≠ "" := by
    intro parent name hname hunknown
    have happend : layout.place (parent ++ [name]) = layout.placeFrom (layout.place parent) [name] :=
      placeFrom_append ..
    rw [happend] at hname
    exact hname (placeFrom_unknown hunknown [name])
  have hvalidity : (layout.place [(some layout.api, "taxpayerValidity")]).name ≠ "" :=
    recognised_name validity_recognised
  constructor
  · intro h
    refine ⟨fun x hx hscalar => ?_, fun x hx hsingle parent name hpath => ?_, ?_⟩
    · intro d hd
      exact (helements _ d).mp ((hmem _ (recognised_name hx) _).mp (h.scalars x hx hscalar) d hd)
    · have hname := recognised_name hx
      rw [hpath] at hname
      intro d hd
      rw [← hlength parent name hname]
      exact (hmem _ (hparent parent name hname) _).mp (h.once x hx hsingle parent name hpath) d hd
    · intro d hd
      have hboolean := (hmem _ hvalidity _).mp h.validity d hd
      rwa [text_pruned] at hboolean
  · intro h
    refine ⟨fun x hx hscalar => ?_, fun x hx hsingle parent name hpath => ?_, ?_⟩
    · exact (hmem _ (recognised_name hx) _).mpr fun d hd =>
        (helements _ d).mpr (h.scalars x hx hscalar d hd)
    · have hname := recognised_name hx
      rw [hpath] at hname
      refine (hmem _ (hparent parent name hname) _).mpr fun d hd => ?_
      rw [hlength parent name hname]
      exact h.once x hx hsingle parent name hpath d hd
    · refine (hmem _ hvalidity _).mpr fun d hd => ?_
      rw [text_pruned]
      exact h.validity d hd

/-- The only element at a path, by what is in it. -/
theorem theOnly_pruned {A : Type} {c : Container} (hc : c ∈ layout.containers) {f : Tree → A}
    (h : ∀ d, f (layout.pruned (layout.place c.path) d) = f d) :
    (Content.theOnly ((layout.pruned rootPlace root).elementsAt expandedElement c.path)).map f
      = (Content.theOnly (root.elementsAt expandedElement c.path)).map f := by
  rw [elementsAt_pruned (recognised_name (container_recognised hc)), Content.theOnly_map,
    Option.map_map]
  exact congrArg (fun f => Option.map f _) (funext h)

/-- The entries at a path, each by what is in it. -/
theorem entries_pruned {A : Type} {c : Container} (hc : c ∈ layout.containers) {f : Tree → A}
    (h : ∀ d, f (layout.pruned (layout.place c.path) d) = f d) :
    ((layout.pruned rootPlace root).elementsAt expandedElement c.path).map f
      = (root.elementsAt expandedElement c.path).map f := by
  rw [elementsAt_pruned (recognised_name (container_recognised hc)), List.map_map]
  exact List.map_congr_left fun d _ => h d

/-- **What is read** does not depend on what is not known. -/
theorem extract_pruned :
    layout.extract lib (layout.pruned rootPlace root) = layout.extract lib root := by
  have htext : ∀ c ∈ layout.containers, ∀ name ∈ c.leaves,
      Tree.textAt lib (layout.pruned rootPlace root) (c.path ++ [(some c.uri, name)])
        = Tree.textAt lib root (c.path ++ [(some c.uri, name)]) :=
    fun c hc name hname => leaf_pruned hc hname [] rfl root
  have hscalar : ∀ c ∈ layout.containers, ∀ name ∈ c.leaves,
      Tree.scalarAt lib (layout.pruned rootPlace root) (c.path ++ [(some c.uri, name)])
        = Tree.scalarAt lib root (c.path ++ [(some c.uri, name)]) :=
    fun c hc name hname => congrArg (Option.bind · nonblank) (htext c hc name hname)
  have hdata : ∀ name ∈ layout.dataContainer.leaves,
      Tree.scalarAt lib (layout.pruned rootPlace root) (layout.dataPath ++ [(some layout.api, name)])
        = Tree.scalarAt lib root (layout.dataPath ++ [(some layout.api, name)]) :=
    hscalar _ data_mem
  have hdetail : ∀ name ∈ layout.detailContainer.leaves, Tree.scalarAt lib
      (layout.pruned rootPlace root) (layout.detailPath ++ [(some layout.component, name)])
        = Tree.scalarAt lib root (layout.detailPath ++ [(some layout.component, name)]) :=
    hscalar _ detail_mem
  have haddress : layout.addressContainer ∈ layout.containers := address_mem
  simp only [extract, TaxpayerResponse.mk.injEq, TaxpayerDiagnostics.mk.injEq]
  refine ⟨?header, ?software, ⟨?funcCode, ?errorCode, ?message, ?notifications⟩, ?validity,
    hdata _ (by simp), hdata _ (by simp), hdetail _ (by simp), hdata _ (by simp),
    congrArg (Option.map _) (hdata _ (by simp)), ?infoDate, hdetail _ (by simp),
    hdetail _ (by simp), ?addresses⟩
  case header =>
    exact theOnly_pruned header_mem fun d => TaxpayerHeader.ofLeaves_congr fun name hname =>
      scalarAt_pruned header_mem hname rfl d
  case software =>
    exact theOnly_pruned software_mem fun d => TaxpayerSoftware.ofLeaves_congr fun name hname =>
      scalarAt_pruned software_mem hname rfl d
  case funcCode => exact congrArg (Option.bind · _) (htext _ result_mem "funcCode" (by simp))
  case errorCode => exact congrArg (Option.bind · _) (htext _ result_mem "errorCode" (by simp))
  case message => exact hscalar _ result_mem "message" (by simp)
  case notifications =>
    exact entries_pruned notification_mem fun d => TaxpayerNotification.ofLeaves_congr
      fun name hname => scalarAt_pruned notification_mem hname rfl d
  case validity => exact congrArg (Option.bind · _) (htext _ root_mem "taxpayerValidity" (by simp))
  case infoDate => exact hscalar _ root_mem "infoDate" (by simp)
  case addresses =>
    refine entries_pruned item_mem fun d => TaxpayerAddress.ofLeaves_congr ?_ fun name hname => ?_
    · exact scalarAt_pruned item_mem List.mem_cons_self rfl d
    · have hkind : name ≠ "taxpayerAddressType" := by
        rintro rfl
        simp at hname
      have hpath : layout.itemPath
            ++ [(some layout.api, "taxpayerAddress"), (some layout.component, name)]
          = layout.addressPath ++ [(some layout.component, name)] := by
        rw [addressPath, List.append_assoc]
        rfl
      rw [if_neg hkind]
      exact scalarAt_pruned haddress hname hpath d

end Layout

end Szamlazz
