import Szamlazz.Agent.TaxpayerTree
import Mathlib.Data.List.Nodup

/-!
# The paths of a taxpayer reply

The pass tells what it knows of a child from the name of its parent, one level at a time.
Seen from the root this is a list of paths (`Layout.recognised`): those of the eleven
containers and of the leaves in them. A place has a name exactly at one of these paths
(`recognised_place`, `place_recognised`), and since no two of them end in one name, a name
leads to one path (`path_of_name`). This is why the pass can store a text under the local
name alone.
-/

namespace Szamlazz

open Markup

/-! ## The paths of a layout -/

namespace Layout

variable (layout : Layout)

/-- Where the header is. -/
def headerPath : List Expanded := [(some layout.result, "header")]

/-- Where the software is. -/
def softwarePath : List Expanded := [(some layout.api, "software")]

/-- Where the result is. -/
def resultPath : List Expanded := [(some layout.result, "result")]

/-- Where the notifications are, one element each. -/
def notificationPath : List Expanded :=
  layout.resultPath ++ [(some layout.result, "notifications"), (some layout.result, "notification")]

/-- Where the data of the taxpayer are. -/
def dataPath : List Expanded := [(some layout.api, "taxpayerData")]

/-- Where the parts of the tax number are. -/
def detailPath : List Expanded := layout.dataPath ++ [(some layout.api, "taxNumberDetail")]

/-- Where the addresses are, one element each. -/
def itemPath : List Expanded :=
  layout.dataPath ++ [(some layout.api, "taxpayerAddressList"),
    (some layout.api, "taxpayerAddressItem")]

/-- Where the leaves of an address are, in its element. -/
def addressPath : List Expanded := layout.itemPath ++ [(some layout.api, "taxpayerAddress")]

/-- A container: its path and place, and the leaves in it with their namespace. -/
structure Container where
  path : List Expanded
  name : String
  address : Bool
  uri : String
  leaves : List String

/-- The root, of which two leaves are known. -/
@[simp] def rootContainer : Container where
  path := []
  name := "QueryTaxpayerResponse"
  address := false
  uri := layout.api
  leaves := ["taxpayerValidity", "infoDate"]

/-- The header. -/
@[simp] def headerContainer : Container where
  path := layout.headerPath
  name := "header"
  address := false
  uri := layout.result
  leaves := ["requestId", "timestamp", "requestVersion", "headerVersion"]

/-- The software that answered. -/
@[simp] def softwareContainer : Container where
  path := layout.softwarePath
  name := "software"
  address := false
  uri := layout.api
  leaves := ["softwareId", "softwareName", "softwareOperation", "softwareMainVersion",
    "softwareDevName", "softwareDevContact", "softwareDevCountryCode",
    "softwareDevTaxNumber"]

/-- The result. -/
@[simp] def resultContainer : Container where
  path := layout.resultPath
  name := "result"
  address := false
  uri := layout.result
  leaves := ["funcCode", "errorCode", "message"]

/-- The list of notifications, which has no leaves. -/
@[simp] def notificationsContainer : Container where
  path := layout.resultPath ++ [(some layout.result, "notifications")]
  name := "notifications"
  address := false
  uri := layout.result
  leaves := []

/-- A notification. -/
@[simp] def notificationContainer : Container where
  path := layout.notificationPath
  name := "notification"
  address := false
  uri := layout.result
  leaves := ["notificationCode", "notificationText"]

/-- The data of the taxpayer. -/
@[simp] def dataContainer : Container where
  path := layout.dataPath
  name := "taxpayerData"
  address := false
  uri := layout.api
  leaves := ["taxpayerName", "taxpayerShortName", "vatGroupMembership", "incorporation"]

/-- The parts of the tax number. -/
@[simp] def detailContainer : Container where
  path := layout.detailPath
  name := "taxNumberDetail"
  address := false
  uri := layout.component
  leaves := ["taxpayerId", "vatCode", "countyCode"]

/-- The list of addresses, which has no leaves. -/
@[simp] def listContainer : Container where
  path := layout.dataPath ++ [(some layout.api, "taxpayerAddressList")]
  name := "taxpayerAddressList"
  address := false
  uri := layout.api
  leaves := []

/-- An entry of that list, with the kind of the address. -/
@[simp] def itemContainer : Container where
  path := layout.itemPath
  name := "taxpayerAddressItem"
  address := true
  uri := layout.api
  leaves := ["taxpayerAddressType"]

/-- The address in it. -/
@[simp] def addressContainer : Container where
  path := layout.addressPath
  name := "taxpayerAddress"
  address := true
  uri := layout.component
  leaves := ["countryCode", "region", "postalCode", "city", "streetName", "publicPlaceCategory",
    "number", "building", "staircase", "floor", "door", "lotNumber",
    "additionalAddressDetail"]

/-- The containers. -/
def containers : List Container :=
  [layout.rootContainer, layout.headerContainer, layout.softwareContainer, layout.resultContainer,
    layout.notificationsContainer, layout.notificationContainer, layout.dataContainer,
    layout.detailContainer, layout.listContainer, layout.itemContainer, layout.addressContainer]

/-- The place of a container. -/
def Container.place (c : Container) : Place := ⟨c.name, false, c.address⟩

/-- A leaf with its path. -/
def Container.leaf (c : Container) (name : String) : List Expanded × Place :=
  (c.path ++ [(some c.uri, name)], ⟨name, true, c.address⟩)

/-- **The paths that are known**, with their places. -/
def recognised : List (List Expanded × Place) :=
  layout.containers.flatMap fun c => (c.path, c.place) :: c.leaves.map c.leaf

variable {layout}

/-- A path that is known is that of a container or of a leaf in one. -/
theorem mem_recognised {x : List Expanded × Place} : x ∈ layout.recognised
    ↔ ∃ c ∈ layout.containers, x = (c.path, c.place) ∨ ∃ name ∈ c.leaves, c.leaf name = x := by
  simp only [recognised, List.mem_flatMap, List.mem_cons, List.mem_map]

theorem root_mem : layout.rootContainer ∈ layout.containers := by simp [containers]

theorem header_mem : layout.headerContainer ∈ layout.containers := by simp [containers]

theorem software_mem : layout.softwareContainer ∈ layout.containers := by simp [containers]

theorem result_mem : layout.resultContainer ∈ layout.containers := by simp [containers]

theorem notification_mem : layout.notificationContainer ∈ layout.containers := by simp [containers]

theorem data_mem : layout.dataContainer ∈ layout.containers := by simp [containers]

theorem detail_mem : layout.detailContainer ∈ layout.containers := by simp [containers]

theorem item_mem : layout.itemContainer ∈ layout.containers := by simp [containers]

theorem address_mem : layout.addressContainer ∈ layout.containers := by simp [containers]

/-- The place of a child. -/
theorem place_snoc (path : List Expanded) (name : Expanded) :
    layout.place (path ++ [name]) = layout.childPlace (layout.place path) name.1 name.2 := by
  unfold place placeFrom
  rw [List.foldl_append]
  rfl

/-- **The place of a container**, followed from the root. -/
theorem place_container {c : Container} (hc : c ∈ layout.containers) :
    layout.place c.path = c.place := by
  simp only [containers, List.mem_cons, List.not_mem_nil, or_false] at hc
  rcases hc with rfl | rfl | rfl | rfl | rfl | rfl | rfl | rfl | rfl | rfl | rfl <;>
    simp [placeFrom, Container.place, rootPlace, childPlace, child, children, headerPath,
      softwarePath, resultPath, notificationPath, dataPath, detailPath, itemPath, addressPath]

/-- A leaf is known in its container. -/
theorem child_leaf {c : Container} (hc : c ∈ layout.containers) :
    ∀ name ∈ c.leaves, layout.child c.name (some c.uri) name = (name, true) := by
  simp only [containers, List.mem_cons, List.not_mem_nil, or_false] at hc
  rcases hc with rfl | rfl | rfl | rfl | rfl | rfl | rfl | rfl | rfl | rfl | rfl <;>
    simp [child, children]

/-- Nothing is known in a leaf. -/
theorem children_leaf {c : Container} (hc : c ∈ layout.containers) (child : String) :
    ∀ name ∈ c.leaves, layout.children name child = none := by
  simp only [containers, List.mem_cons, List.not_mem_nil, or_false] at hc
  rcases hc with rfl | rfl | rfl | rfl | rfl | rfl | rfl | rfl | rfl | rfl | rfl <;>
    simp [children]

/-- A leaf does not start an address. -/
theorem leaf_ne_item {c : Container} (hc : c ∈ layout.containers) :
    ∀ name ∈ c.leaves, name ≠ "taxpayerAddressItem" := by
  simp only [containers, List.mem_cons, List.not_mem_nil, or_false] at hc
  rcases hc with rfl | rfl | rfl | rfl | rfl | rfl | rfl | rfl | rfl | rfl | rfl <;> simp

/-- **What is known in a container** are containers and its leaves. -/
theorem children_container {c : Container} (hc : c ∈ layout.containers) {name ns : String}
    {inner leaves : List String} (h : layout.children c.name name = some (ns, inner, leaves)) :
    (∀ n ∈ inner, ∃ c' ∈ layout.containers, c'.path = c.path ++ [(some ns, n)] ∧ c'.name = n
        ∧ c'.address = (c.address || n == "taxpayerAddressItem"))
      ∧ ∀ n ∈ leaves, ns = c.uri ∧ n ∈ c.leaves := by
  simp only [containers, List.mem_cons, List.not_mem_nil, or_false] at hc
  rcases hc with rfl | rfl | rfl | rfl | rfl | rfl | rfl | rfl | rfl | rfl | rfl
  case inl =>
    simp only [children] at h
    split_ifs at h
    all_goals
      cases h
      simp [containers, headerPath, softwarePath, resultPath, notificationPath, dataPath,
        detailPath, itemPath, addressPath]
  all_goals
    cases h
    simp [containers, headerPath, softwarePath, resultPath, notificationPath, dataPath, detailPath,
      itemPath, addressPath]

/-- **A place with a name is known**, and so is that of a scalar. -/
theorem recognised_place (path : List Expanded)
    (h : (layout.place path).name ≠ "" ∨ (layout.place path).scalar = true) :
    (path, layout.place path) ∈ layout.recognised := by
  induction path using List.reverseRecOn with
  | nil => exact mem_recognised.mpr ⟨_, List.mem_cons_self, Or.inl rfl⟩
  | append_singleton path name ih =>
    obtain ⟨uri, name⟩ := name
    rw [place_snoc] at h ⊢
    unfold childPlace child at h ⊢
    dsimp only at h ⊢
    cases hchildren : layout.children (layout.place path).name name with
    | none =>
      rw [hchildren] at h
      simp at h
    | some known =>
      obtain ⟨ns, inner, leaves⟩ := known
      rw [hchildren] at h
      have hparent : (layout.place path).name ≠ "" := by
        intro hempty
        rw [hempty] at hchildren
        cases hchildren
      obtain ⟨c, hc, hpath | ⟨leaf, hleaf, hpath⟩⟩ := mem_recognised.mp (ih (Or.inl hparent))
      · obtain ⟨rfl, hplace⟩ := Prod.mk.inj hpath
        rw [hplace] at hchildren ⊢
        obtain ⟨hinner, hleaves⟩ := children_container hc hchildren
        dsimp only at h ⊢
        split_ifs at h ⊢ with huri hmem hmem
        · simp at h
        · obtain ⟨c', hc', hpath', hname, haddress⟩ := hinner name hmem
          refine mem_recognised.mpr ⟨c', hc', Or.inl ?_⟩
          have hplace' : c'.place = ⟨name, false, c.address || name == "taxpayerAddressItem"⟩ := by
            rw [Container.place, hname, haddress]
          rw [hpath', hplace', not_not.mp huri]
          rfl
        · obtain ⟨rfl, hmem⟩ := hleaves name hmem
          refine mem_recognised.mpr ⟨c, hc, Or.inr ⟨name, hmem, ?_⟩⟩
          have haddress : (c.address || name == "taxpayerAddressItem") = c.address := by
            simp [leaf_ne_item hc name hmem]
          rw [Container.leaf, not_not.mp huri, Container.place, haddress]
        · simp at h
      · obtain ⟨-, hplace⟩ := Prod.mk.inj hpath
        rw [← hplace, children_leaf hc name leaf hleaf] at hchildren
        cases hchildren

/-- **The place of a path that is known.** -/
theorem place_recognised {x : List Expanded × Place} (hx : x ∈ layout.recognised) :
    layout.place x.1 = x.2 := by
  obtain ⟨c, hc, rfl | ⟨name, hname, rfl⟩⟩ := mem_recognised.mp hx
  · exact place_container hc
  · have haddress : (c.address || name == "taxpayerAddressItem") = c.address := by
      simp [leaf_ne_item hc name hname]
    rw [Container.leaf, place_snoc, place_container hc, childPlace, Container.place]
    dsimp only
    rw [child_leaf hc name hname, haddress]

/-- No two paths end in one name. -/
theorem nodup_recognised : (layout.recognised.map fun x => x.2.name).Nodup := by
  have hnames : (layout.recognised.map fun x => x.2.name)
      = ((⟨"", "", ""⟩ : Layout).recognised.map fun x => x.2.name) := rfl
  rw [hnames]
  decide +kernel

/-- A name is that of one path. -/
theorem path_eq_of_name {x y : List Expanded × Place} (hx : x ∈ layout.recognised)
    (hy : y ∈ layout.recognised) (h : x.2.name = y.2.name) : x = y :=
  List.inj_on_of_nodup_map nodup_recognised hx hy h

/-- **A name leads to one path.** -/
theorem path_of_name {x : List Expanded × Place} (hx : x ∈ layout.recognised)
    {path : List Expanded} (hempty : x.2.name ≠ "") :
    (layout.place path).name = x.2.name ↔ path = x.1 := by
  constructor
  · intro h
    have hpath := recognised_place path (Or.inl (by rwa [h]))
    exact congrArg Prod.fst (path_eq_of_name hpath hx h)
  · rintro rfl
    rw [place_recognised hx]

end Layout

end Szamlazz
