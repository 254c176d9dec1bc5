import Szamlazz.Agent.ResponseRoot

/-!
# The taxpayer reply

The reply to a taxpayer query is a document of the tax authority, in one of two layouts
of namespaces that the root selects. It is read in one pass over its events, with a frame
for every open element. A frame is named when the element is one the layout knows in its
parent, and then the texts directly in it are kept, if it is a scalar, or its children
are known in turn. What is in an element that is not known has no name either.

When a scalar is closed its text is stored under its local name alone; in an address it
goes to the address that was pushed last, and likewise for notifications.
-/

namespace Szamlazz

open Markup

/-! ## The record -/

/-- How a taxpayer is incorporated; a token that is not known is kept. -/
inductive Incorporation where
  | organization
  | selfEmployed
  | taxablePerson
  | other (token : String)
deriving DecidableEq

/-- `Incorporation::from`. -/
def Incorporation.ofToken (token : String) : Incorporation :=
  if token = "ORGANIZATION" then organization
  else if token = "SELF_EMPLOYED" then selfEmployed
  else if token = "TAXABLE_PERSON" then taxablePerson
  else other token

/-- The header of the reply. -/
structure TaxpayerHeader where
  requestId : Option String := none
  timestamp : Option String := none
  requestVersion : Option String := none
  headerVersion : Option String := none
deriving DecidableEq

/-- The software that answered. -/
structure TaxpayerSoftware where
  id : Option String := none
  name : Option String := none
  operation : Option String := none
  mainVersion : Option String := none
  developerName : Option String := none
  developerContact : Option String := none
  developerCountryCode : Option String := none
  developerTaxNumber : Option String := none
deriving DecidableEq

/-- A notification. -/
structure TaxpayerNotification where
  code : Option String := none
  text : Option String := none
deriving DecidableEq

/-- What the result says. -/
structure TaxpayerDiagnostics where
  funcCode : Option String := none
  errorCode : Option String := none
  message : Option String := none
  notifications : List TaxpayerNotification := []
deriving DecidableEq

/-- An address of the taxpayer. -/
structure TaxpayerAddress where
  kind : Option String := none
  countryCode : Option String := none
  region : Option String := none
  postalCode : Option String := none
  city : Option String := none
  streetName : Option String := none
  publicPlaceCategory : Option String := none
  number : Option String := none
  building : Option String := none
  staircase : Option String := none
  floor : Option String := none
  door : Option String := none
  lotNumber : Option String := none
  additionalAddressDetail : Option String := none
deriving DecidableEq

/-- What of the reply is kept. -/
structure TaxpayerResponse where
  header : Option TaxpayerHeader := none
  software : Option TaxpayerSoftware := none
  diagnostics : TaxpayerDiagnostics := {}
  validity : Option Bool := none
  name : Option String := none
  shortName : Option String := none
  countyCode : Option String := none
  vatGroupMembership : Option String := none
  incorporation : Option Incorporation := none
  infoDate : Option String := none
  taxpayerId : Option String := none
  vatCode : Option String := none
  addresses : List TaxpayerAddress := []
deriving DecidableEq

/-! ## The layouts -/

/-- The namespaces of a layout. -/
structure Layout where
  api : String
  result : String
  component : String

/-- The layout of a root, by its index among the two roots. -/
def Layout.forRootIndex (rootIndex : Nat) : Layout :=
  if rootIndex = 0 then
    { api := "http://schemas.nav.gov.hu/OSA/2.0/api"
      result := "http://schemas.nav.gov.hu/OSA/2.0/api"
      component := "http://schemas.nav.gov.hu/OSA/2.0/data" }
  else
    { api := "http://schemas.nav.gov.hu/OSA/3.0/api"
      result := "http://schemas.nav.gov.hu/NTCA/1.0/common"
      component := "http://schemas.nav.gov.hu/OSA/3.0/base" }

/-- What may be in a parent: the namespace, the containers and the leaves. -/
def Layout.children (layout : Layout) (parent name : String) :
    Option (String × List String × List String) :=
  match parent with
  | "QueryTaxpayerResponse" =>
    if name = "header" ∨ name = "result" then some (layout.result, ["header", "result"], [])
    else some (layout.api, ["taxpayerData", "software"], ["taxpayerValidity", "infoDate"])
  | "header" =>
    some (layout.result, [], ["requestId", "timestamp", "requestVersion", "headerVersion"])
  | "software" =>
    some (layout.api, [], ["softwareId", "softwareName", "softwareOperation",
      "softwareMainVersion", "softwareDevName", "softwareDevContact", "softwareDevCountryCode",
      "softwareDevTaxNumber"])
  | "result" => some (layout.result, ["notifications"], ["funcCode", "errorCode", "message"])
  | "notifications" => some (layout.result, ["notification"], [])
  | "notification" => some (layout.result, [], ["notificationCode", "notificationText"])
  | "taxpayerData" =>
    some (layout.api, ["taxNumberDetail", "taxpayerAddressList"],
      ["taxpayerName", "taxpayerShortName", "vatGroupMembership", "incorporation"])
  | "taxNumberDetail" => some (layout.component, [], ["taxpayerId", "vatCode", "countyCode"])
  | "taxpayerAddressList" => some (layout.api, ["taxpayerAddressItem"], [])
  | "taxpayerAddressItem" => some (layout.api, ["taxpayerAddress"], ["taxpayerAddressType"])
  | "taxpayerAddress" =>
    some (layout.component, [], ["countryCode", "region", "postalCode", "city", "streetName",
      "publicPlaceCategory", "number", "building", "staircase", "floor", "door", "lotNumber",
      "additionalAddressDetail"])
  | _ => none

/-- The name of a child in its parent, empty for a child that is not known, and whether
it is a scalar. -/
def Layout.child (layout : Layout) (parent : String) (uri : Option String) (name : String) :
    String × Bool :=
  match layout.children parent name with
  | none => ("", false)
  | some (ns, containers, leaves) =>
    if uri ≠ some ns then ("", false)
    else if name ∈ containers then (name, false)
    else if name ∈ leaves then (name, true)
    else ("", false)

/-! ## Storing a scalar -/

/-- A leaf of an address, by its local name. -/
def TaxpayerAddress.assign (address : TaxpayerAddress) (element value : String) : TaxpayerAddress :=
  match element with
  | "taxpayerAddressType" => { address with kind := some value }
  | "countryCode" => { address with countryCode := some value }
  | "region" => { address with region := some value }
  | "postalCode" => { address with postalCode := some value }
  | "city" => { address with city := some value }
  | "streetName" => { address with streetName := some value }
  | "publicPlaceCategory" => { address with publicPlaceCategory := some value }
  | "number" => { address with number := some value }
  | "building" => { address with building := some value }
  | "staircase" => { address with staircase := some value }
  | "floor" => { address with floor := some value }
  | "door" => { address with door := some value }
  | "lotNumber" => { address with lotNumber := some value }
  | "additionalAddressDetail" => { address with additionalAddressDetail := some value }
  | _ => address

/-- A leaf of the header, by its local name. -/
def TaxpayerHeader.assign (header : TaxpayerHeader) (element value : String) : TaxpayerHeader :=
  match element with
  | "requestId" => { header with requestId := some value }
  | "timestamp" => { header with timestamp := some value }
  | "requestVersion" => { header with requestVersion := some value }
  | "headerVersion" => { header with headerVersion := some value }
  | _ => header

/-- A leaf of the software, by its local name. -/
def TaxpayerSoftware.assign (software : TaxpayerSoftware) (element value : String) :
    TaxpayerSoftware :=
  match element with
  | "softwareId" => { software with id := some value }
  | "softwareName" => { software with name := some value }
  | "softwareOperation" => { software with operation := some value }
  | "softwareMainVersion" => { software with mainVersion := some value }
  | "softwareDevName" => { software with developerName := some value }
  | "softwareDevContact" => { software with developerContact := some value }
  | "softwareDevCountryCode" => { software with developerCountryCode := some value }
  | "softwareDevTaxNumber" => { software with developerTaxNumber := some value }
  | _ => software

/-- A leaf of a notification, by its local name. -/
def TaxpayerNotification.assign (notification : TaxpayerNotification) (element value : String) :
    TaxpayerNotification :=
  match element with
  | "notificationCode" => { notification with code := some value }
  | "notificationText" => { notification with text := some value }
  | _ => notification

/-- Changes the last entry of a list, if there is one. -/
def modifyLast {A : Type} (f : A → A) (l : List A) : List A :=
  match l.getLast? with
  | some a => l.dropLast ++ [f a]
  | none => l

/-- An XML boolean. -/
def xmlBoolean (value : String) : Option Bool :=
  if value = "true" ∨ value = "1" then some true
  else if value = "false" ∨ value = "0" then some false
  else none

namespace TaxpayerResponse

/-- A header member; the header is inserted if it is not there. -/
def setHeader (response : TaxpayerResponse) (element value : String) : TaxpayerResponse :=
  { response with header := some ((response.header.getD {}).assign element value) }

/-- A software member; the software is inserted if it is not there. -/
def setSoftware (response : TaxpayerResponse) (element value : String) : TaxpayerResponse :=
  { response with software := some ((response.software.getD {}).assign element value) }

/-- A member of the last notification. -/
def setNotification (response : TaxpayerResponse) (element value : String) : TaxpayerResponse :=
  { response with diagnostics := { response.diagnostics with
      notifications := modifyLast (·.assign element value) response.diagnostics.notifications } }

/-- Stores the text of a scalar under its local name. -/
def set (response : TaxpayerResponse) (element value : String) (inAddress : Bool) :
    Except ParseError TaxpayerResponse :=
  if inAddress then
    .ok { response with addresses := modifyLast (·.assign element value) response.addresses }
  else
    match element with
    | "funcCode" =>
      .ok { response with diagnostics := { response.diagnostics with funcCode := some value } }
    | "errorCode" =>
      .ok { response with diagnostics := { response.diagnostics with errorCode := some value } }
    | "message" =>
      .ok { response with diagnostics := { response.diagnostics with message := some value } }
    | "requestId" | "timestamp" | "requestVersion" | "headerVersion" =>
      .ok (response.setHeader element value)
    | "softwareId" | "softwareName" | "softwareOperation" | "softwareMainVersion"
    | "softwareDevName" | "softwareDevContact" | "softwareDevCountryCode"
    | "softwareDevTaxNumber" => .ok (response.setSoftware element value)
    | "notificationCode" | "notificationText" => .ok (response.setNotification element value)
    | "taxpayerValidity" =>
      match xmlBoolean value with
      | some valid => .ok { response with validity := some valid }
      | none => .error (.invalid "taxpayerValidity" ("invalid XML boolean " ++ value))
    | "taxpayerName" => .ok { response with name := some value }
    | "taxpayerShortName" => .ok { response with shortName := some value }
    | "countyCode" => .ok { response with countyCode := some value }
    | "vatGroupMembership" => .ok { response with vatGroupMembership := some value }
    | "incorporation" => .ok { response with incorporation := some (.ofToken value) }
    | "infoDate" => .ok { response with infoDate := some value }
    | "taxpayerId" => .ok { response with taxpayerId := some value }
    | "vatCode" => .ok { response with vatCode := some value }
    | _ => .ok response

/-- What the start of an element brings into the record. -/
def opened (response : TaxpayerResponse) (name : String) : TaxpayerResponse :=
  match name with
  | "header" => { response with header := some {} }
  | "software" => { response with software := some {} }
  | "notification" =>
    { response with diagnostics := { response.diagnostics with
        notifications := response.diagnostics.notifications ++ [{}] } }
  | "taxpayerAddressItem" => { response with addresses := response.addresses ++ [{}] }
  | _ => response

end TaxpayerResponse

/-! ## The frames -/

/-- What is known of an open element by its place alone. -/
structure Place where
  name : String
  scalar : Bool
  address : Bool
deriving DecidableEq

/-- An open element. -/
structure Frame extends Place where
  seen : List String := []
  text : String := ""

/-- The value of a scalar. -/
def Place.value (place : Place) (text : String) : String :=
  if place.name = "taxpayerValidity" then trimXmlSpace text
  else if place.name = "funcCode" ∨ place.name = "errorCode" then Text.trim text
  else text

/-- What the end of an element brings into the record. -/
def TaxpayerResponse.finish (response : TaxpayerResponse) (place : Place) (text : String) :
    Except ParseError TaxpayerResponse :=
  if place.scalar then
    let value := place.value text
    if place.name = "taxpayerValidity" ∨ ¬ value.toList.all isXmlSpace then
      response.set place.name value place.address
    else .ok response
  else .ok response

/-- The root is known by its place alone: the envelope was checked before. -/
def rootPlace : Place := ⟨"QueryTaxpayerResponse", false, false⟩

/-- The place of a child. -/
def Layout.childPlace (layout : Layout) (parent : Place) (uri : Option String) (name : String) :
    Place :=
  let child := layout.child parent.name uri name
  ⟨child.1, child.2, parent.address || child.1 == "taxpayerAddressItem"⟩

/-- Whether an element may occur only once in its parent. -/
def isSingleton (name : String) : Bool :=
  !name.isEmpty && name != "taxpayerAddressItem" && name != "notification"

/-- The frame of a child, and its parent's with the child seen. -/
def Layout.enter (layout : Layout) (parent : Frame) (uri : Option String) (name : String) :
    Except ParseError (Frame × Frame) :=
  if parent.scalar then .error (.invalid parent.name "child element in scalar")
  else
    let child : Frame := { toPlace := layout.childPlace parent.toPlace uri name }
    if isSingleton child.name then
      if child.name ∈ parent.seen then .error (.invalid child.name "duplicate singleton")
      else .ok ({ parent with seen := child.name :: parent.seen }, child)
    else .ok (parent, child)

/-! ## The pass -/

/-- The characters of a leaf; the only entities are those of XML itself. -/
def leafText (lib : TextLibrary) : Leaf → Except ParseError String
  | .text content => .ok (lib.xml10Content content)
  | .cdata content => .ok (lib.xml10Content content)
  | .generalRef name => do
    match ← (lib.resolveCharRef name).mapError ParseError.xml with
    | some ch => return String.singleton ch
    | none =>
      match name with
      | "amp" => return "&"
      | "lt" => return "<"
      | "gt" => return ">"
      | "apos" => return "'"
      | "quot" => return "\""
      | _ => throw (.invalid "taxpayer response" ("undefined entity: " ++ name))
  | _ => .ok ""

/-- Keeps the text of a leaf if it is directly in a scalar. -/
def Frame.append (frame : Frame) (text : String) : Frame :=
  if frame.scalar then { frame with text := frame.text ++ text } else frame

/-- The start of an element: the frames around it, its own, and the record. -/
def Layout.start (layout : Layout) (stack : List Frame) (response : TaxpayerResponse)
    (resolved : ResolveResult) (start : Tag) :
    Except ParseError (List Frame × Frame × TaxpayerResponse) := do
  let uri ← namespaceUri resolved
  match stack with
  | [] => return ([], { toPlace := rootPlace }, response.opened rootPlace.name)
  | parent :: stack => do
    let (parent, child) ← layout.enter parent uri start.name.localName
    return (parent :: stack, child, response.opened child.name)

/-- One event. -/
def bodyEvent (lib : TextLibrary) (layout : Layout) (state : List Frame × TaxpayerResponse) :
    Event (ResolveResult × Tag) (ResolveResult × QName) Leaf →
      Except ParseError (List Frame × TaxpayerResponse)
  | .start (resolved, start) => do
    let (stack, frame, response) ← layout.start state.1 state.2 resolved start
    return (frame :: stack, response)
  | .empty (resolved, start) => do
    let (stack, frame, response) ← layout.start state.1 state.2 resolved start
    return (stack, ← response.finish frame.toPlace frame.text)
  | .close (resolved, _) => do
    let _ ← namespaceUri resolved
    match state.1 with
    | [] => return ([], state.2)
    | frame :: stack => return (stack, ← state.2.finish frame.toPlace frame.text)
  | .leaf l => do
    let text ← leafText lib l
    match state.1 with
    | [] => return ([], state.2)
    | frame :: stack => return (frame.append text :: stack, state.2)

/-- The roots of the two layouts. -/
def taxpayerRoots : List (String × String) :=
  [("QueryTaxpayerResponse", "http://schemas.nav.gov.hu/OSA/2.0/api"),
    ("QueryTaxpayerResponse", "http://schemas.nav.gov.hu/OSA/3.0/api")]

/-- Reads the layout the root selects. -/
def TaxpayerResponse.fromBody (N : NamespaceResolver) (lib : TextLibrary) (body : ResponseBody) :
    Except ParseError TaxpayerResponse := do
  let rootIndex ← responseRoot N lib body taxpayerRoots
  let (_, parsed) ← NamespaceReader.foldEvents N lib.normalizedValue
    (bodyEvent lib (Layout.forRootIndex rootIndex)) (.new N) ([], {}) body.events
  return parsed

end Szamlazz
