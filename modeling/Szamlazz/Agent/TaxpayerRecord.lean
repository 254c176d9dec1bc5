import Szamlazz.Agent.TaxpayerPaths
import Mathlib.Logic.Function.Basic

/-!
# The record of a taxpayer reply, by its leaves

The record is filled in by setters that match on a local name. It is easier to say what
they do of the leaves alone, as functions of the local name: `Gathered` holds the leaves of
the reply and of every record in it, and `Gathered.response` makes the record of them. An
element that is started (`response_opened`) and a scalar that is stored (`set_response`) do
to the record what they do to the leaves.
-/

namespace Szamlazz

open Markup

/-! ## Records by their leaves -/

/-- The leaves of a record by their local names. -/
abbrev Leaves : Type := String → Option String

/-- A leaf with its value. -/
def Leaves.assign (leaf : Leaves) (element value : String) : Leaves :=
  Function.update leaf element (some value)

theorem Leaves.assign_apply (leaf : Leaves) (element value name : String) :
    leaf.assign element value name = if name = element then some value else leaf name :=
  Function.update_apply ..

theorem Leaves.assign_self (leaf : Leaves) (element value : String) :
    leaf.assign element value element = some value :=
  Function.update_self ..

theorem Leaves.assign_of_ne (leaf : Leaves) (element value : String) {name : String}
    (h : name ≠ element) : leaf.assign element value name = leaf name :=
  Function.update_of_ne h ..

/-- The header of these leaves. -/
def TaxpayerHeader.ofLeaves (leaf : Leaves) : TaxpayerHeader where
  requestId := leaf "requestId"
  timestamp := leaf "timestamp"
  requestVersion := leaf "requestVersion"
  headerVersion := leaf "headerVersion"

/-- The software of these leaves. -/
def TaxpayerSoftware.ofLeaves (leaf : Leaves) : TaxpayerSoftware where
  id := leaf "softwareId"
  name := leaf "softwareName"
  operation := leaf "softwareOperation"
  mainVersion := leaf "softwareMainVersion"
  developerName := leaf "softwareDevName"
  developerContact := leaf "softwareDevContact"
  developerCountryCode := leaf "softwareDevCountryCode"
  developerTaxNumber := leaf "softwareDevTaxNumber"

/-- The notification of these leaves. -/
def TaxpayerNotification.ofLeaves (leaf : Leaves) : TaxpayerNotification where
  code := leaf "notificationCode"
  text := leaf "notificationText"

/-- The address of these leaves. -/
def TaxpayerAddress.ofLeaves (leaf : Leaves) : TaxpayerAddress where
  kind := leaf "taxpayerAddressType"
  countryCode := leaf "countryCode"
  region := leaf "region"
  postalCode := leaf "postalCode"
  city := leaf "city"
  streetName := leaf "streetName"
  publicPlaceCategory := leaf "publicPlaceCategory"
  number := leaf "number"
  building := leaf "building"
  staircase := leaf "staircase"
  floor := leaf "floor"
  door := leaf "door"
  lotNumber := leaf "lotNumber"
  additionalAddressDetail := leaf "additionalAddressDetail"

/-- The header depends on its own leaves. -/
theorem TaxpayerHeader.ofLeaves_congr {leaf leaf' : Leaves}
    (h : ∀ name ∈ ["requestId", "timestamp", "requestVersion", "headerVersion"],
      leaf name = leaf' name) : ofLeaves leaf = ofLeaves leaf' := by
  simp only [List.forall_mem_cons] at h
  simp [ofLeaves, h]

/-- The software depends on its own leaves. -/
theorem TaxpayerSoftware.ofLeaves_congr {leaf leaf' : Leaves}
    (h : ∀ name ∈ ["softwareId", "softwareName", "softwareOperation", "softwareMainVersion",
      "softwareDevName", "softwareDevContact", "softwareDevCountryCode", "softwareDevTaxNumber"],
      leaf name = leaf' name) : ofLeaves leaf = ofLeaves leaf' := by
  simp only [List.forall_mem_cons] at h
  simp [ofLeaves, h]

/-- A notification depends on its own leaves. -/
theorem TaxpayerNotification.ofLeaves_congr {leaf leaf' : Leaves}
    (h : ∀ name ∈ ["notificationCode", "notificationText"], leaf name = leaf' name) :
    ofLeaves leaf = ofLeaves leaf' := by
  simp only [List.forall_mem_cons] at h
  simp [ofLeaves, h]

/-- An address depends on its own leaves. -/
theorem TaxpayerAddress.ofLeaves_congr {leaf leaf' : Leaves}
    (hkind : leaf "taxpayerAddressType" = leaf' "taxpayerAddressType")
    (h : ∀ name ∈ ["countryCode", "region", "postalCode", "city", "streetName",
      "publicPlaceCategory", "number", "building", "staircase", "floor", "door", "lotNumber",
      "additionalAddressDetail"], leaf name = leaf' name) :
    ofLeaves leaf = ofLeaves leaf' := by
  simp only [List.forall_mem_cons] at h
  simp [ofLeaves, hkind, h]

/-- A member of the header is set as its leaf is. -/
theorem TaxpayerHeader.assign_ofLeaves (leaf : Leaves) (name value : String) :
    (ofLeaves leaf).assign name value = ofLeaves (leaf.assign name value) := by
  unfold assign ofLeaves
  split <;> simp_all [Leaves.assign_apply, eq_comm]

/-- A member of the software is set as its leaf is. -/
theorem TaxpayerSoftware.assign_ofLeaves (leaf : Leaves) (name value : String) :
    (ofLeaves leaf).assign name value = ofLeaves (leaf.assign name value) := by
  unfold assign ofLeaves
  split <;> simp_all [Leaves.assign_apply, eq_comm]

/-- A member of a notification is set as its leaf is. -/
theorem TaxpayerNotification.assign_ofLeaves (leaf : Leaves) (name value : String) :
    (ofLeaves leaf).assign name value = ofLeaves (leaf.assign name value) := by
  unfold assign ofLeaves
  split <;> simp_all [Leaves.assign_apply, eq_comm]

/-- A member of an address is set as its leaf is. -/
theorem TaxpayerAddress.assign_ofLeaves (leaf : Leaves) (name value : String) :
    (ofLeaves leaf).assign name value = ofLeaves (leaf.assign name value) := by
  unfold assign ofLeaves
  split <;> simp_all [Leaves.assign_apply, eq_comm]

/-! ## What the pass has gathered -/

/-- What a record is made of: its leaves, and those of the records it contains, by the
element they stand in. -/
structure Gathered where
  leaf : Leaves
  entries : String → List Leaves

namespace Gathered

/-- The record. -/
def response (g : Gathered) : TaxpayerResponse where
  header := (g.entries "header").getLast?.map .ofLeaves
  software := (g.entries "software").getLast?.map .ofLeaves
  diagnostics :=
    { funcCode := g.leaf "funcCode"
      errorCode := g.leaf "errorCode"
      message := g.leaf "message"
      notifications := (g.entries "notification").map .ofLeaves }
  validity := (g.leaf "taxpayerValidity").bind xmlBoolean
  name := g.leaf "taxpayerName"
  shortName := g.leaf "taxpayerShortName"
  countyCode := g.leaf "countyCode"
  vatGroupMembership := g.leaf "vatGroupMembership"
  incorporation := (g.leaf "incorporation").map .ofToken
  infoDate := g.leaf "infoDate"
  taxpayerId := g.leaf "taxpayerId"
  vatCode := g.leaf "vatCode"
  addresses := (g.entries "taxpayerAddressItem").map .ofLeaves

/-- The elements that have a record of their own. -/
def entryNames : List String := ["header", "software", "notification", "taxpayerAddressItem"]

/-- The start of an element. -/
def opened (g : Gathered) (name : String) : Gathered :=
  if name ∈ entryNames then
    { g with entries := Function.update g.entries name (g.entries name ++ [fun _ => none]) }
  else g

/-- The element a leaf is stored in the record of, told by its local name alone. -/
def owner (element : String) (inAddress : Bool) : Option String :=
  if inAddress then some "taxpayerAddressItem"
  else if element ∈ ["requestId", "timestamp", "requestVersion", "headerVersion"] then
    some "header"
  else if element ∈ ["softwareId", "softwareName", "softwareOperation", "softwareMainVersion",
      "softwareDevName", "softwareDevContact", "softwareDevCountryCode",
      "softwareDevTaxNumber"] then some "software"
  else if element ∈ ["notificationCode", "notificationText"] then some "notification"
  else none

/-- Changes the last record; the header and the software are inserted if they are not there. -/
def changeLast (entry : String) (f : Leaves → Leaves) (l : List Leaves) : List Leaves :=
  match l.getLast? with
  | some leaf => l.dropLast ++ [f leaf]
  | none => if entry = "header" ∨ entry = "software" then [f fun _ => none] else []

/-- A scalar that is stored. -/
def set (g : Gathered) (element value : String) (inAddress : Bool) : Gathered :=
  match owner element inAddress with
  | none => { g with leaf := g.leaf.assign element value }
  | some entry =>
    let changed := changeLast entry (·.assign element value) (g.entries entry)
    { g with entries := Function.update g.entries entry changed }

/-- **An element is started** in what was gathered as in the record. -/
theorem response_opened (g : Gathered) (name : String) :
    (g.opened name).response = g.response.opened name := by
  unfold TaxpayerResponse.opened
  split
  case h_5 hheader hsoftware hnotification hitem =>
    unfold opened
    have hother : name ∉ entryNames := by
      rw [entryNames]
      grind
    rw [if_neg hother]
  all_goals
    simp [opened, entryNames, response]
    rfl

/-- The last entry is changed as its leaves are. -/
theorem modifyLast_map {A : Type} {entry : String} {f : A → A} {assign : Leaves → Leaves}
    {ofLeaves : Leaves → A} (h : ∀ leaf, f (ofLeaves leaf) = ofLeaves (assign leaf))
    (hentry : ¬ (entry = "header" ∨ entry = "software")) (l : List Leaves) :
    modifyLast f (l.map ofLeaves) = (changeLast entry assign l).map ofLeaves := by
  induction l using List.reverseRecOn with
  | nil => simp [modifyLast, changeLast, hentry]
  | append_singleton l leaf _ => simp [modifyLast, changeLast, h]

/-- What may be there once is changed, or inserted, as its leaves are. -/
theorem getLast?_changeLast {A : Type} {entry : String} {f : A → A} {assign : Leaves → Leaves}
    {ofLeaves : Leaves → A} (h : ∀ leaf, f (ofLeaves leaf) = ofLeaves (assign leaf))
    (hentry : entry = "header" ∨ entry = "software") (l : List Leaves) :
    some (f ((l.getLast?.map ofLeaves).getD (ofLeaves fun _ => none)))
      = (changeLast entry assign l).getLast?.map ofLeaves := by
  induction l using List.reverseRecOn with
  | nil => simp [changeLast, hentry, h]
  | append_singleton l leaf _ => simp [changeLast, h]

/-- **A scalar is stored** in what was gathered as in the record. -/
theorem set_response (g : Gathered) {element value : String} {inAddress : Bool}
    (h : inAddress = false → element = "taxpayerValidity" → xmlBoolean value ≠ none) :
    g.response.set element value inAddress = .ok (g.set element value inAddress).response := by
  have hheader : g.response.setHeader element value
      = { g.response with header := (changeLast "header" (·.assign element value)
          (g.entries "header")).getLast?.map .ofLeaves } := by
    rw [← getLast?_changeLast (f := (·.assign element value)) (fun leaf => TaxpayerHeader.assign_ofLeaves leaf element value)
      (Or.inl rfl)]
    rfl
  have hsoftware : g.response.setSoftware element value
      = { g.response with software := (changeLast "software" (·.assign element value)
          (g.entries "software")).getLast?.map .ofLeaves } := by
    rw [← getLast?_changeLast (f := (·.assign element value)) (fun leaf => TaxpayerSoftware.assign_ofLeaves leaf element value)
      (Or.inr rfl)]
    rfl
  have hnotification : g.response.setNotification element value
      = { g.response with diagnostics := { g.response.diagnostics with
          notifications := (changeLast "notification" (·.assign element value)
            (g.entries "notification")).map .ofLeaves } } := by
    rw [← modifyLast_map (f := (·.assign element value)) (fun leaf => TaxpayerNotification.assign_ofLeaves leaf element value)
      (by simp)]
    rfl
  have haddress : modifyLast (·.assign element value) g.response.addresses
      = (changeLast "taxpayerAddressItem" (·.assign element value)
          (g.entries "taxpayerAddressItem")).map .ofLeaves :=
    modifyLast_map (fun leaf => TaxpayerAddress.assign_ofLeaves leaf element value) (by simp) _
  unfold TaxpayerResponse.set
  cases inAddress with
  | true =>
    rw [if_pos rfl, haddress]
    simp [set, owner, response]
  | false =>
    rw [if_neg (by simp)]
    split
    case h_4 | h_5 | h_6 | h_7 =>
      rw [hheader]
      simp [set, owner, response]
    case h_8 | h_9 | h_10 | h_11 | h_12 | h_13 | h_14 | h_15 =>
      rw [hsoftware]
      simp [set, owner, response]
    case h_16 | h_17 =>
      rw [hnotification]
      simp [set, owner, response]
    case h_18 =>
      have hvalid := h rfl rfl
      cases hboolean : xmlBoolean value with
      | none => exact absurd hboolean hvalid
      | some valid => simp [set, owner, response, Leaves.assign_apply, hboolean]
    case h_27 => simp_all [set, owner, response, Leaves.assign_apply, @eq_comm _ _ element]
    all_goals simp [set, owner, response, Leaves.assign_apply]

end Gathered

end Szamlazz
