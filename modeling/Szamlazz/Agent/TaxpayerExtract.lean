import Szamlazz.Agent.TaxpayerGathered

/-!
# What a taxpayer reply says

What a reply says is stated here of its tree, without a pass: `Layout.extract` looks up the
fields at their paths, and `Layout.Accepts` says which trees have an answer. The elements
that the pass reads to their end are those of an accepted tree (`sound_iff_accepts`), and
what it gathers there is what the paths lead to (`response_over`).
-/

namespace Szamlazz

open Markup

/-! ## What a tree says -/

/-- A text, unless it is blank. -/
def nonblank (text : String) : Option String :=
  if text.toList.all isXmlSpace then none else some text

/-- The text of the only element at a path. -/
def Tree.textAt (lib : TextLibrary) (tree : Tree) (path : List Expanded) : Option String :=
  (Content.theOnly (tree.elementsAt expandedElement path)).map (Tree.text lib)

/-- The text of a scalar at a path. -/
def Tree.scalarAt (lib : TextLibrary) (tree : Tree) (path : List Expanded) : Option String :=
  (Tree.textAt lib tree path).bind nonblank

namespace Layout

/-- **What the paths of a layout lead to.** -/
def extract (layout : Layout) (lib : TextLibrary) (root : Tree) : TaxpayerResponse where
  header := (Content.theOnly (root.elementsAt expandedElement layout.headerPath)).map
    fun header => .ofLeaves fun name => Tree.scalarAt lib header [(some layout.result, name)]
  software := (Content.theOnly (root.elementsAt expandedElement layout.softwarePath)).map
    fun software => .ofLeaves fun name => Tree.scalarAt lib software [(some layout.api, name)]
  diagnostics :=
    { funcCode := (Tree.textAt lib root (layout.resultPath ++ [(some layout.result, "funcCode")])).bind
        fun text => nonblank (Text.trim text)
      errorCode := (Tree.textAt lib root
        (layout.resultPath ++ [(some layout.result, "errorCode")])).bind
          fun text => nonblank (Text.trim text)
      message := Tree.scalarAt lib root (layout.resultPath ++ [(some layout.result, "message")])
      notifications := (root.elementsAt expandedElement layout.notificationPath).map
        fun notification => .ofLeaves fun name =>
          Tree.scalarAt lib notification [(some layout.result, name)] }
  validity := (Tree.textAt lib root [(some layout.api, "taxpayerValidity")]).bind
    fun text => xmlBoolean (trimXmlSpace text)
  name := Tree.scalarAt lib root (layout.dataPath ++ [(some layout.api, "taxpayerName")])
  shortName := Tree.scalarAt lib root (layout.dataPath ++ [(some layout.api, "taxpayerShortName")])
  countyCode := Tree.scalarAt lib root (layout.detailPath ++ [(some layout.component, "countyCode")])
  vatGroupMembership :=
    Tree.scalarAt lib root (layout.dataPath ++ [(some layout.api, "vatGroupMembership")])
  incorporation :=
    (Tree.scalarAt lib root (layout.dataPath ++ [(some layout.api, "incorporation")])).map .ofToken
  infoDate := Tree.scalarAt lib root [(some layout.api, "infoDate")]
  taxpayerId := Tree.scalarAt lib root (layout.detailPath ++ [(some layout.component, "taxpayerId")])
  vatCode := Tree.scalarAt lib root (layout.detailPath ++ [(some layout.component, "vatCode")])
  addresses := (root.elementsAt expandedElement layout.itemPath).map
    fun item => .ofLeaves fun name => Tree.scalarAt lib item
      (if name = "taxpayerAddressType" then [(some layout.api, name)]
      else [(some layout.api, "taxpayerAddress"), (some layout.component, name)])

/-- **What is accepted**: a tree that the paths lead through without a doubt. -/
structure Accepts (layout : Layout) (lib : TextLibrary) (root : Tree) : Prop where
  /-- There is no element in a scalar. -/
  scalars : ∀ x ∈ layout.recognised, x.2.scalar = true →
    ∀ d ∈ root.elementsAt expandedElement x.1, d.elements = []
  /-- Nothing but the entries of a list occurs twice in its parent. -/
  once : ∀ x ∈ layout.recognised, isSingleton x.2.name = true → ∀ parent name,
    x.1 = parent ++ [name] → ∀ d ∈ root.elementsAt expandedElement parent,
      (d.elementsAt expandedElement [name]).length ≤ 1
  /-- The validity is a boolean. -/
  validity : ∀ d ∈ root.elementsAt expandedElement [(some layout.api, "taxpayerValidity")],
    xmlBoolean (trimXmlSpace (Tree.text lib d)) ≠ none

/-! ## What the pass accepts -/

variable {layout : Layout} {lib : TextLibrary} {root : Tree}

/-- The place of a child, by its path. -/
theorem placeOf_place (path : List Expanded) (p : ResolveResult × Tag) :
    layout.placeOf (layout.place path) p = layout.place (path ++ [expandedElement p]) :=
  (List.foldl_append ..).symm

/-- What may occur only once has a name. -/
theorem ne_empty_of_singleton {name : String} (h : isSingleton name = true) : name ≠ "" := by
  rintro rfl
  cases h

/-- A child with its own name is told by its path. -/
theorem count_singletons {x : List Expanded × Place} (hx : x ∈ layout.recognised)
    (hsingle : isSingleton x.2.name = true) {parent : List Expanded} {name : Expanded}
    (hpath : x.1 = parent ++ [name]) (d : Tree) :
    (layout.singletons (layout.place parent) d).count x.2.name
      = (d.elementsAt expandedElement [name]).length := by
  have hsame : ∀ p, (layout.placeOf (layout.place parent) p).name = x.2.name
      ↔ expandedElement p = name := by
    intro p
    rw [placeOf_place, path_of_name hx (ne_empty_of_singleton hsingle), hpath]
    simp
  rw [singletons, List.count_filter hsingle, List.count_eq_countP, List.countP_map,
    List.countP_eq_length_filter, Content.elementsAt_name, List.length_map]
  refine congrArg List.length (List.filter_congr fun e _ => ?_)
  simp only [Function.comp_apply, beq_eq_decide, hsame]

/-- The place of the validity. -/
theorem validity_recognised : ([(some layout.api, "taxpayerValidity")],
    (⟨"taxpayerValidity", true, false⟩ : Place)) ∈ layout.recognised :=
  mem_recognised.mpr ⟨_, List.mem_cons_self, Or.inr ⟨"taxpayerValidity", List.mem_cons_self, rfl⟩⟩

/-- **What the pass reads to its end** is what is accepted. -/
theorem sound_iff_accepts :
    (∀ q ∈ root.walk expandedElement, layout.Sound lib (layout.place q.1) q.2)
      ↔ layout.Accepts lib root := by
  constructor
  · intro h
    have hsound : ∀ path, ∀ d ∈ root.elementsAt expandedElement path,
        layout.Sound lib (layout.place path) d := fun path d hd => h (path, d) (Content.mem_walk.mpr hd)
    refine ⟨fun x hx hscalar d hd => ?_, fun x hx hsingle parent name hpath d hd => ?_,
      fun d hd => ?_⟩
    · have hplace := hsound x.1 d hd
      rw [place_recognised hx] at hplace
      exact hplace.1.1 hscalar
    · rw [← count_singletons hx hsingle hpath]
      exact List.nodup_iff_count_le_one.mp (hsound parent d hd).1.2.1 _
    · have hplace := (hsound _ d hd).2
      rw [place_recognised validity_recognised] at hplace
      exact hplace rfl rfl rfl
  · rintro h ⟨path, d⟩ hd
    have hd := Content.mem_walk.mp hd
    refine ⟨⟨fun hscalar => ?_, List.nodup_iff_count_le_one.mpr fun a => ?_, fun _ _ => List.not_mem_nil⟩,
      fun hscalar _ hname => ?_⟩
    · exact h.scalars _ (recognised_place path (Or.inr hscalar)) hscalar d hd
    · -- A name with no singleton here is counted zero times.
      by_cases ha : a ∈ layout.singletons (layout.place path) d
      · obtain ⟨ha, hsingle⟩ := List.mem_filter.mp ha
        obtain ⟨e, -, rfl⟩ := List.mem_map.mp ha
        rw [placeOf_place] at hsingle ⊢
        have hx := recognised_place (path ++ [expandedElement e.1])
          (Or.inl (ne_empty_of_singleton hsingle))
        rw [count_singletons hx hsingle rfl]
        exact h.once _ hx hsingle path _ rfl d hd
      · rw [List.count_eq_zero_of_not_mem ha]
        exact Nat.zero_le 1
    · have hpath : path = [(some layout.api, "taxpayerValidity")] :=
        (path_of_name validity_recognised (by simp)).mp hname
      subst hpath
      rw [place_recognised validity_recognised]
      exact h.validity d hd

/-- What may occur only once in its parent occurs once where its parent does. -/
theorem Accepts.at_most_one (h : layout.Accepts lib root) {base rel : List Expanded}
    {name : Expanded} {d : Tree} (hd : d ∈ root.elementsAt expandedElement base)
    (hrel : (d.elementsAt expandedElement rel).length ≤ 1) {place : Place}
    (hx : (base ++ rel ++ [name], place) ∈ layout.recognised)
    (hsingle : isSingleton place.name = true) :
    (d.elementsAt expandedElement (rel ++ [name])).length ≤ 1 := by
  rw [Content.elementsAt_append]
  match helements : d.elementsAt expandedElement rel, hrel with
  | [], _ => exact Nat.zero_le 1
  | [e], _ =>
    rw [List.flatMap_singleton]
    refine h.once _ hx hsingle _ _ rfl e ?_
    rw [Content.elementsAt_append]
    exact List.mem_flatMap.mpr ⟨d, hd, by simp [helements]⟩
  | _ :: _ :: _, hrel => exact absurd hrel (by simp)

/-- The same from the root. -/
theorem Accepts.at_most_one_root (h : layout.Accepts lib root) {rel : List Expanded}
    {name : Expanded} (hrel : (root.elementsAt expandedElement rel).length ≤ 1) {place : Place}
    (hx : (rel ++ [name], place) ∈ layout.recognised) (hsingle : isSingleton place.name = true) :
    (root.elementsAt expandedElement (rel ++ [name])).length ≤ 1 := by
  have hself : root ∈ root.elementsAt expandedElement [] := List.mem_singleton_self root
  exact h.at_most_one hself hrel hx hsingle

/-- A child of the root that may occur only once. -/
theorem Accepts.child_once (h : layout.Accepts lib root) {name : Expanded} {place : Place}
    (hx : ([name], place) ∈ layout.recognised) (hsingle : isSingleton place.name = true) :
    (root.elementsAt expandedElement [name]).length ≤ 1 :=
  h.once _ hx hsingle [] name rfl root (List.mem_singleton_self root)

end Layout

/-! ## What the pass gathers -/

/-- A leaf is known in its container. -/
theorem Layout.leaf_recognised {layout : Layout} {c : Container} (hc : c ∈ layout.containers)
    {name : String} (hname : name ∈ c.leaves) : c.leaf name ∈ layout.recognised :=
  mem_recognised.mpr ⟨c, hc, Or.inr ⟨name, hname, rfl⟩⟩

/-- A container is known at its path. -/
theorem Layout.container_recognised {layout : Layout} {c : Container}
    (hc : c ∈ layout.containers) : (c.path, c.place) ∈ layout.recognised :=
  mem_recognised.mpr ⟨c, hc, Or.inl rfl⟩

/-- A leaf may occur only once. -/
theorem Layout.leaf_singleton {layout : Layout} {c : Container} (hc : c ∈ layout.containers) :
    ∀ name ∈ c.leaves, isSingleton name = true := by
  simp only [containers, List.mem_cons, List.not_mem_nil, or_false] at hc
  rcases hc with rfl | rfl | rfl | rfl | rfl | rfl | rfl | rfl | rfl | rfl | rfl <;>
    simp [isSingleton]

/-- The validity is stored whatever it is, without space around it. -/
theorem Place.stored_validity (text : String) :
    (⟨"taxpayerValidity", true, false⟩ : Place).stored text = some (trimXmlSpace text) := by
  simp [Place.stored, Place.value]

/-- A code is stored without white space around it. -/
theorem Place.stored_trimmed {name : String} (h : name = "funcCode" ∨ name = "errorCode")
    (address : Bool) (text : String) :
    (⟨name, true, address⟩ : Place).stored text = nonblank (Text.trim text) := by
  have hvalue : (⟨name, true, address⟩ : Place).value text = Text.trim text := by
    rcases h with rfl | rfl <;> simp [Place.value]
  have hname : name ≠ "taxpayerValidity" := by rcases h with rfl | rfl <;> simp
  unfold Place.stored nonblank
  rw [hvalue]
  simp only [hname, false_or, true_and, ite_not]

/-- The names of the scalars that are not kept as they are. -/
def trimmedNames : List String := ["taxpayerValidity", "funcCode", "errorCode"]

/-- Any other scalar is stored as it is. -/
theorem Place.stored_plain {name : String} (h : name ∉ trimmedNames) (address : Bool)
    (text : String) : (⟨name, true, address⟩ : Place).stored text = nonblank text := by
  simp only [trimmedNames, List.mem_cons, List.not_mem_nil, or_false, not_or] at h
  have hvalue : (⟨name, true, address⟩ : Place).value text = text := by simp [Place.value, h]
  unfold Place.stored nonblank
  rw [hvalue]
  simp only [h, false_or, true_and, ite_not]

namespace Gathered

variable {layout : Layout} {lib : TextLibrary} {root : Tree}

/-- What is gathered over a tree. -/
def ofTree (layout : Layout) (lib : TextLibrary) (root : Tree) : Gathered :=
  (root.walk expandedElement).foldl (step layout lib) ⟨fun _ => none, fun _ => []⟩

/-- **A leaf of the reply** is the text at its path. -/
theorem leaf_over {c : Layout.Container} (hc : c ∈ layout.containers) {name : String}
    (hname : name ∈ c.leaves) (howner : owner name c.address = none)
    (honly : (root.elementsAt expandedElement (c.path ++ [(some c.uri, name)])).length ≤ 1) :
    (ofTree layout lib root).leaf name
      = (Tree.textAt lib root (c.path ++ [(some c.uri, name)])).bind
        (Place.stored ⟨name, true, c.address⟩) := by
  have hstep : ∀ (g : Gathered) path tree, (step layout lib g (path, tree)).leaf name
      = if path = c.path ++ [(some c.uri, name)] then
          (Place.stored ⟨name, true, c.address⟩ (Tree.text lib tree)).or (g.leaf name)
        else g.leaf name :=
    leaf_step (Layout.leaf_recognised hc hname)
      (Layout.ne_empty_of_singleton (Layout.leaf_singleton hc name hname)) howner
  rw [Tree.textAt, Option.bind_map]
  exact Content.foldl_walk_at (fun g : Gathered => g.leaf name) _ _ hstep honly rfl

/-- No leaf of a record is trimmed. -/
theorem leaf_plain {c : Layout.Container} (hc : c ∈ layout.containers) :
    ∀ name ∈ c.leaves, ∀ entry ∈ owner name c.address, name ∉ trimmedNames := by
  simp only [Layout.containers, List.mem_cons, List.not_mem_nil, or_false] at hc
  rcases hc with rfl | rfl | rfl | rfl | rfl | rfl | rfl | rfl | rfl | rfl | rfl <;>
    simp [owner, trimmedNames]

/-- **A leaf of a record** is the text at its path in the element. -/
theorem leavesIn_eq {c : Layout.Container} (hc : c ∈ layout.containers) {name : String}
    (hname : name ∈ c.leaves) {entry : String} (howner : owner name c.address = some entry)
    {rel : List Expanded} (hrel : layout.entryPath entry ++ rel = c.path ++ [(some c.uri, name)])
    {d : Tree} (honly : (d.elementsAt expandedElement rel).length ≤ 1) :
    leavesIn layout lib entry d name = Tree.scalarAt lib d rel := by
  have hleaf := Layout.leaf_recognised hc hname
  have hstep : ∀ (leaf : Leaves) path tree,
      leafStep entry (layout.place (layout.entryPath entry ++ path)) (Tree.text lib tree) leaf name
        = if path = rel then
            (Place.stored ⟨name, true, c.address⟩ (Tree.text lib tree)).or (leaf name)
          else leaf name := by
    intro leaf path tree
    unfold leafStep
    by_cases hpath : path = rel
    · rw [if_pos hpath]
      have hplace : layout.place (c.path ++ [(some c.uri, name)]) = ⟨name, true, c.address⟩ :=
        Layout.place_recognised hleaf
      rw [hpath, hrel, hplace]
      cases Place.stored ⟨name, true, c.address⟩ (Tree.text lib tree) with
      | none => rfl
      | some value => simp [howner, Leaves.assign_self]
    · rw [if_neg hpath]
      have hother : name ≠ (layout.place (layout.entryPath entry ++ path)).name := by
        intro h
        have hsame := (Layout.path_of_name hleaf (Layout.ne_empty_of_singleton
          (Layout.leaf_singleton hc name hname))).mp h.symm
        exact hpath (List.append_cancel_left (hsame.trans hrel.symm))
      cases (layout.place (layout.entryPath entry ++ path)).stored (Tree.text lib tree) with
      | none => rfl
      | some value =>
        dsimp only
        split_ifs
        · exact Leaves.assign_of_ne _ _ _ hother
        · rfl
  rw [Tree.scalarAt, Tree.textAt, Option.bind_map,
    ← funext (Place.stored_plain (leaf_plain hc name hname entry howner) c.address)]
  exact Content.foldl_walk_at (fun leaf : Leaves => leaf name) _ _ hstep honly rfl

/-- A leaf directly in an element with a record of its own. -/
theorem leavesIn_child (h : layout.Accepts lib root) {c : Layout.Container}
    (hc : c ∈ layout.containers) {name : String} (hname : name ∈ c.leaves) {entry : String}
    (howner : owner name c.address = some entry) (hentry : layout.entryPath entry = c.path)
    {d : Tree} (hd : d ∈ root.elementsAt expandedElement c.path) :
    leavesIn layout lib entry d name = Tree.scalarAt lib d [(some c.uri, name)] := by
  have honly := h.once _ (Layout.leaf_recognised hc hname) (Layout.leaf_singleton hc name hname)
    c.path _ rfl d hd
  exact leavesIn_eq hc hname howner (by rw [hentry]) honly

/-- A leaf of the reply itself. -/
theorem leaf_root (h : layout.Accepts lib root) {c : Layout.Container}
    (hc : c ∈ layout.containers) {name : String} (hname : name ∈ c.leaves)
    (howner : owner name c.address = none) {value : String → Option String}
    (hvalue : ∀ text, Place.stored ⟨name, true, c.address⟩ text = value text)
    (honly : (root.elementsAt expandedElement c.path).length ≤ 1) :
    (ofTree layout lib root).leaf name
      = (Tree.textAt lib root (c.path ++ [(some c.uri, name)])).bind value := by
  rw [← funext hvalue]
  exact leaf_over hc hname howner (h.at_most_one_root honly (Layout.leaf_recognised hc hname)
    (Layout.leaf_singleton hc name hname))

/-! ### The records -/

/-- The records of a kind, by the elements at its path. -/
theorem entries_over {entry : String} (hentry : entry ∈ entryNames) :
    (ofTree layout lib root).entries entry
      = (root.elementsAt expandedElement (layout.entryPath entry)).map (leavesIn layout lib entry) :=
  entries_foldl hentry root

/-- The header is that of the only element at its path. -/
theorem header_over (h : layout.Accepts lib root) :
    ((ofTree layout lib root).entries "header").getLast?.map TaxpayerHeader.ofLeaves
      = (layout.extract lib root).header := by
  have honly : (root.elementsAt expandedElement layout.headerPath).length ≤ 1 :=
    h.child_once (Layout.container_recognised Layout.header_mem) rfl
  rw [entries_over (by simp [entryNames]), List.getLast?_map, Option.map_map]
  refine (congrArg _ (Content.getLast?_eq_theOnly honly)).trans (Option.map_congr fun d hd => ?_)
  exact TaxpayerHeader.ofLeaves_congr fun name hname =>
    leavesIn_child h Layout.header_mem hname (by simp_all [owner]) rfl (Content.mem_of_theOnly hd)

/-- The software is that of the only element at its path. -/
theorem software_over (h : layout.Accepts lib root) :
    ((ofTree layout lib root).entries "software").getLast?.map TaxpayerSoftware.ofLeaves
      = (layout.extract lib root).software := by
  have honly : (root.elementsAt expandedElement layout.softwarePath).length ≤ 1 :=
    h.child_once (Layout.container_recognised Layout.software_mem) rfl
  rw [entries_over (by simp [entryNames]), List.getLast?_map, Option.map_map]
  refine (congrArg _ (Content.getLast?_eq_theOnly honly)).trans (Option.map_congr fun d hd => ?_)
  refine TaxpayerSoftware.ofLeaves_congr fun name hname =>
    leavesIn_child h Layout.software_mem hname ?_ rfl (Content.mem_of_theOnly hd)
  simp only [List.mem_cons, List.not_mem_nil, or_false] at hname
  rcases hname with rfl | rfl | rfl | rfl | rfl | rfl | rfl | rfl <;> rfl

/-- The notifications are those of the elements at their path. -/
theorem notifications_over (h : layout.Accepts lib root) :
    ((ofTree layout lib root).entries "notification").map TaxpayerNotification.ofLeaves
      = (layout.extract lib root).diagnostics.notifications := by
  rw [entries_over (by simp [entryNames]), List.map_map]
  refine List.map_congr_left fun d hd => ?_
  refine TaxpayerNotification.ofLeaves_congr fun name hname =>
    leavesIn_child h Layout.notification_mem hname ?_ rfl hd
  simp only [List.mem_cons, List.not_mem_nil, or_false] at hname
  rcases hname with rfl | rfl <;> rfl

/-- The leaves of an address are in an element of their own. -/
theorem addresses_over (h : layout.Accepts lib root) :
    ((ofTree layout lib root).entries "taxpayerAddressItem").map TaxpayerAddress.ofLeaves
      = (layout.extract lib root).addresses := by
  have haddress : layout.addressContainer ∈ layout.containers := Layout.address_mem
  rw [entries_over (by simp [entryNames]), List.map_map]
  refine List.map_congr_left fun d hd => ?_
  refine TaxpayerAddress.ofLeaves_congr ?_ fun name hname => ?_
  · exact leavesIn_child h Layout.item_mem List.mem_cons_self rfl rfl hd
  · have hkind : name ≠ "taxpayerAddressType" := by
      rintro rfl
      simp at hname
    have honly : (d.elementsAt expandedElement [(some layout.api, "taxpayerAddress")]).length ≤ 1 :=
      h.once _ (Layout.container_recognised haddress) rfl layout.itemPath _ rfl d hd
    have hpath : layout.entryPath "taxpayerAddressItem"
          ++ [(some layout.api, "taxpayerAddress"), (some layout.component, name)]
        = layout.addressPath ++ [(some layout.component, name)] := by
      rw [Layout.addressPath, List.append_assoc]
      rfl
    have honly' : (d.elementsAt expandedElement
        [(some layout.api, "taxpayerAddress"), (some layout.component, name)]).length ≤ 1 :=
      h.at_most_one hd honly (Layout.leaf_recognised haddress hname)
        (Layout.leaf_singleton haddress name hname)
    rw [leavesIn_eq haddress hname rfl hpath honly', if_neg hkind]

/-- **What is gathered is what the paths lead to.** -/
theorem response_over (h : layout.Accepts lib root) :
    (ofTree layout lib root).response = layout.extract lib root := by
  have hrootOnce : (root.elementsAt expandedElement []).length ≤ 1 := Nat.le_refl 1
  have hresultOnce : (root.elementsAt expandedElement layout.resultPath).length ≤ 1 :=
    h.child_once (Layout.container_recognised Layout.result_mem) rfl
  have hdataOnce : (root.elementsAt expandedElement layout.dataPath).length ≤ 1 :=
    h.child_once (Layout.container_recognised Layout.data_mem) rfl
  have hdetailOnce : (root.elementsAt expandedElement layout.detailPath).length ≤ 1 :=
    h.at_most_one_root hdataOnce (Layout.container_recognised Layout.detail_mem) rfl
  have hscalars : ∀ name ∈ layout.dataContainer.leaves, (ofTree layout lib root).leaf name
      = Tree.scalarAt lib root (layout.dataPath ++ [(some layout.api, name)]) := by
    have hplain : ∀ name ∈ layout.dataContainer.leaves,
        owner name false = none ∧ name ∉ trimmedNames := by
      simp [owner, trimmedNames]
    exact fun name hname => leaf_root h Layout.data_mem hname (hplain name hname).1
      (Place.stored_plain (hplain name hname).2 false) hdataOnce
  have hdetails : ∀ name ∈ layout.detailContainer.leaves, (ofTree layout lib root).leaf name
      = Tree.scalarAt lib root (layout.detailPath ++ [(some layout.component, name)]) := by
    have hplain : ∀ name ∈ layout.detailContainer.leaves,
        owner name false = none ∧ name ∉ trimmedNames := by
      simp [owner, trimmedNames]
    exact fun name hname => leaf_root h Layout.detail_mem hname (hplain name hname).1
      (Place.stored_plain (hplain name hname).2 false) hdetailOnce
  have hfuncCode : (ofTree layout lib root).leaf "funcCode"
      = (layout.extract lib root).diagnostics.funcCode :=
    leaf_root h Layout.result_mem (by simp) rfl (Place.stored_trimmed (by simp) false) hresultOnce
  have herrorCode : (ofTree layout lib root).leaf "errorCode"
      = (layout.extract lib root).diagnostics.errorCode :=
    leaf_root h Layout.result_mem (by simp) rfl (Place.stored_trimmed (by simp) false) hresultOnce
  have hmessage : (ofTree layout lib root).leaf "message"
      = (layout.extract lib root).diagnostics.message :=
    leaf_root h Layout.result_mem (by simp) rfl (Place.stored_plain (by decide) false) hresultOnce
  have hinfoDate : (ofTree layout lib root).leaf "infoDate" = (layout.extract lib root).infoDate :=
    leaf_root h Layout.root_mem (by simp) rfl (Place.stored_plain (by decide) false) hrootOnce
  have hvalidity : ((ofTree layout lib root).leaf "taxpayerValidity").bind xmlBoolean
      = (layout.extract lib root).validity := by
    rw [leaf_root h Layout.root_mem (by simp) rfl Place.stored_validity hrootOnce,
      Option.bind_assoc]
    rfl
  simp only [Layout.dataContainer, Layout.detailContainer, List.forall_mem_cons] at hscalars hdetails
  unfold response
  rw [header_over h, software_over h, notifications_over h, addresses_over h, hvalidity, hfuncCode,
    herrorCode, hmessage, hinfoDate, hscalars.1, hscalars.2.1, hscalars.2.2.1, hscalars.2.2.2.1,
    hdetails.1, hdetails.2.1, hdetails.2.2.1]
  rfl

end Gathered

end Szamlazz
