import Szamlazz.Account
import Szamlazz.Contract.Recovery
import Szamlazz.Lib.Json

/-!
# The stored marker and its decoder

A marker is stored as JSON and read back by a worker that trusts none of it:
`decodeMarker` refuses unknown and repeated members, another schema version, an
execution contract of another operation, numbers outside their alphabets, an
external id that is not the one the operation composes, and a marker of another
order or scope. `decodeMarker_toJson` says which markers survive that.
-/

namespace Szamlazz

/-! ## Timestamps, caller dates and provider numbers -/

/-- The timestamps of the clock's library, which print and parse back. -/
class Clock where
  Timestamp : Type
  display : Timestamp → String
  parse : String → Option Timestamp
  parse_display : ∀ t, parse (display t) = some t

theorem Date.year_bounds {year : ℕ} (h : 1 ≤ year ∧ year ≤ 9999) :
    (-9999 : ℤ) ≤ year ∧ (year : ℤ) ≤ 9999 := by
  omega

/-- A caller's civil date: `YYYY-MM-DD` of a year from 1 on, and no other spelling. -/
def Date.parse (text : String) : Option Date :=
  match text.toList with
  | [y₁, y₂, y₃, y₄, s, m₁, m₂, t, d₁, d₂] =>
    let year : Nat := 1000 * Lexical.digitValue y₁ + 100 * Lexical.digitValue y₂
      + 10 * Lexical.digitValue y₃ + Lexical.digitValue y₄
    let month := 10 * Lexical.digitValue m₁ + Lexical.digitValue m₂
    let day := 10 * Lexical.digitValue d₁ + Lexical.digitValue d₂
    if [y₁, y₂, y₃, y₄, m₁, m₂, d₁, d₂].all Char.isDigit && s == '-' && t == '-' then
      if h : (1 ≤ year ∧ year ≤ 9999) ∧ (1 ≤ month ∧ month ≤ 12)
          ∧ 1 ≤ day ∧ day ≤ Lexical.daysInMonth year month then
        some ⟨year, month, day, (year_bounds h.1).1, (year_bounds h.1).2, h.2.1, h.2.2⟩
      else none
    else none
  | _ => none

/-- **A date of a positive year is read back from its display.** -/
theorem Date.parse_display {d : Date} (h : 0 < d.year) : Date.parse d.display = some d := by
  obtain ⟨year, month, day, hge, hle, hmonth, hday⟩ := d
  obtain ⟨n, rfl⟩ : ∃ n : Nat, year = n := ⟨year.natAbs, by simp only [] at h; omega⟩
  have hpos : 0 < n := by simpa using h
  have hday' : day ≤ 31 := hday.2.trans (Lexical.daysInMonth_le _ _)
  have hy : 1000 * (n / 1000 % 10) + 100 * (n / 100 % 10) + 10 * (n / 10 % 10) + n % 10 = n := by
    omega
  have hm : 10 * (month / 10 % 10) + month % 10 = month := by omega
  have hd : 10 * (day / 10 % 10) + day % 10 = day := by omega
  unfold Date.parse Date.display
  rw [if_neg (by simp), String.toList_ofList]
  simp only [Lexical.pad4, Lexical.pad2, Int.natAbs_natCast, List.cons_append, List.nil_append,
    Lexical.digitValue_digit, hy, hm, hd, List.all_cons, List.all_nil, Lexical.isDigit_digit,
    Bool.and_true, BEq.rfl]
  rw [if_pos trivial, dif_pos ⟨⟨hpos, by exact_mod_cast hle⟩, hmonth, hday⟩]

/-- A year before the first is displayed as no caller's date. -/
theorem Date.parse_display_of_year_le {d : Date} (h : d.year ≤ 0) :
    Date.parse d.display = none := by
  obtain ⟨year, month, day, hge, hle, hmonth, hday⟩ := d
  rcases Int.le_iff_lt_or_eq.mp h with hneg | rfl
  · unfold Date.parse Date.display
    rw [if_pos hneg, String.toList_ofList]
    rfl
  · unfold Date.parse Date.display
    rw [if_neg (by simp), String.toList_ofList]
    simp [Lexical.pad4, Lexical.pad2, Lexical.digitValue_digit]

/-- A number szamlazz.hu reports: XML 1.0 text that is not blank. -/
structure ProviderDocumentNumber where
  text : String
  nonblank : Text.isBlank text = false
  valid : validateXmlText text = .ok ()

instance : DecidableEq ProviderDocumentNumber := fun a b =>
  decidable_of_iff (a.text = b.text) ⟨fun h => by cases a; cases b; cases h; rfl, congrArg _⟩

/-- Validates a provider's number; nothing is trimmed. -/
def ProviderDocumentNumber.parse (value : String) : Option ProviderDocumentNumber :=
  if h : Text.isBlank value = false ∧ validateXmlText value = .ok () then some ⟨value, h.1, h.2⟩
  else none

theorem ProviderDocumentNumber.isSome_parse {value : String} :
    (ProviderDocumentNumber.parse value).isSome = true
      ↔ Text.isBlank value = false ∧ validateXmlText value = .ok () := by
  unfold ProviderDocumentNumber.parse
  split_ifs with h <;> simp [h]

@[simp] theorem ProviderDocumentNumber.parse_text (number : ProviderDocumentNumber) :
    ProviderDocumentNumber.parse number.text = some number :=
  dif_pos ⟨number.nonblank, number.valid⟩

/-! ## The JSON of a marker -/

namespace DeleteMode

def asStr : DeleteMode → String
  | namespaceOwned => "namespace_owned"
  | namedTarget => "named_target"

def ofStr (token : String) : Option DeleteMode :=
  if token = "namespace_owned" then some namespaceOwned
  else if token = "named_target" then some namedTarget
  else none

@[simp] theorem ofStr_asStr (mode : DeleteMode) : ofStr mode.asStr = some mode := by
  cases mode <;> rfl

end DeleteMode

/-- The kind of a token. -/
def IssuedKind.ofStr (token : String) : Option IssuedKind :=
  if token = "proforma" then some .proforma
  else if token = "invoice" then some .invoice
  else if token = "prepayment" then some .prepayment
  else if token = "final" then some .final
  else if token = "corrective" then some .corrective
  else none

@[simp] theorem IssuedKind.ofStr_asStr (kind : IssuedKind) : ofStr kind.asStr = some kind := by
  cases kind <;> rfl

namespace WriteOperation

/-- An optional string; absence is written out. -/
def optStr (value : Option String) : Json := (value.map Json.str).getD .null

def toJson : WriteOperation → Json
  | create kind expectedNumber correctedNumber =>
    .obj [("type", .str "create"), ("kind", .str kind.asStr),
      ("expected_number", optStr expectedNumber), ("corrected_number", optStr correctedNumber)]
  | storno number => .obj [("type", .str "storno"), ("number", .str number)]
  | delete number => .obj [("type", .str "delete"), ("number", .str number)]

/-- The tag decides which members there may be. -/
def fromJson (json : Json) : Option WriteOperation := do
  let .obj members := json | none
  let tag ← Json.required members "type" (Json.asStr some)
  if tag = "create" then
    let members ← Json.record ["type", "kind", "expected_number", "corrected_number"] json
    let kind ← Json.required members "kind" (Json.asStr IssuedKind.ofStr)
    let expectedNumber ← Json.optional members "expected_number" (Json.asStr some)
    let correctedNumber ← Json.optional members "corrected_number" (Json.asStr some)
    return create kind expectedNumber correctedNumber
  else if tag = "storno" then
    let members ← Json.record ["type", "number"] json
    let number ← Json.required members "number" (Json.asStr some)
    return storno number
  else if tag = "delete" then
    let members ← Json.record ["type", "number"] json
    let number ← Json.required members "number" (Json.asStr some)
    return delete number
  else none

theorem fromJson_toJson (operation : WriteOperation) :
    fromJson operation.toJson = some operation := by
  have hnumber : ∀ kind number, Json.record ["type", "number"]
      (.obj [("type", .str kind), ("number", .str number)]) = some _ :=
    fun _ _ => Json.record_obj (List.Sublist.refl _) (by decide)
  cases operation with
  | create kind expectedNumber correctedNumber =>
    have hread : ∀ (value : Option String) (name : String) (members : List (String × Json)),
        Json.member name members = some (optStr value) →
          Json.optional members name (Json.asStr some) = some value := by
      intro value name members h
      rw [Json.optional, h]
      cases value <;> rfl
    have htag : ∀ members, Json.required (("type", .str "create") :: members) "type" (Json.asStr some)
        = some "create" := fun _ => rfl
    rw [toJson, fromJson, htag, Option.bind_eq_bind, Option.bind_some, if_pos rfl]
    refine Option.bind_eq_some_iff.mpr ⟨_, Json.record_obj (List.Sublist.refl _) (by decide), ?_⟩
    refine Option.bind_eq_some_iff.mpr ⟨kind, IssuedKind.ofStr_asStr kind, ?_⟩
    refine Option.bind_eq_some_iff.mpr ⟨expectedNumber, hread _ _ _ rfl, ?_⟩
    exact Option.bind_eq_some_iff.mpr ⟨correctedNumber, hread _ _ _ rfl, rfl⟩
  | storno number =>
    have htag : ∀ members, Json.required (("type", .str "storno") :: members) "type" (Json.asStr some)
        = some "storno" := fun _ => rfl
    rw [toJson, fromJson, htag, Option.bind_eq_bind, Option.bind_some, if_neg (by decide), if_pos rfl,
      hnumber]
    rfl
  | delete number =>
    have htag : ∀ members, Json.required (("type", .str "delete") :: members) "type" (Json.asStr some)
        = some "delete" := fun _ => rfl
    rw [toJson, fromJson, htag, Option.bind_eq_bind, Option.bind_some, if_neg (by decide),
      if_neg (by decide), if_pos rfl, hnumber]
    rfl

end WriteOperation

namespace ReplayExecutionContract

def toJson : ReplayExecutionContract → Json
  | requestResponseOrdinaryV1 => .str "request_response_ordinary_v1"
  | requestResponseProformaV1 => .str "request_response_proforma_v1"
  | requestResponsePrepaymentV1 => .str "request_response_prepayment_v1"
  | requestResponseFinalV1 => .str "request_response_final_v1"
  | requestResponseDeleteV1 mode force documentId =>
    .obj [("request_response_delete_v1",
      .obj [("mode", .str mode.asStr), ("force", .bool force),
        ("document_id", .int documentId.toInt)])]
  | requestResponseStornoV1 documentId fulfillmentDate eInvoice appearance =>
    .obj [("request_response_storno_v1",
      .obj [("document_id", .int documentId.toInt), ("fulfillment_date", .str fulfillmentDate.display),
        ("e_invoice", .bool eInvoice), ("appearance", .int appearance.toInt)])]

/-- The contract of a token. -/
def ofStr (token : String) : Option ReplayExecutionContract :=
  if token = "request_response_ordinary_v1" then some requestResponseOrdinaryV1
  else if token = "request_response_proforma_v1" then some requestResponseProformaV1
  else if token = "request_response_prepayment_v1" then some requestResponsePrepaymentV1
  else if token = "request_response_final_v1" then some requestResponseFinalV1
  else none

def deleteExecution (payload : Json) : Option ReplayExecutionContract := do
  let members ← Json.record ["mode", "force", "document_id"] payload
  let mode ← Json.required members "mode" (Json.asStr DeleteMode.ofStr)
  let force ← Json.required members "force" Json.asBool
  let documentId ← Json.required members "document_id" Json.asInt64
  return requestResponseDeleteV1 mode force documentId

def stornoExecution (payload : Json) : Option ReplayExecutionContract := do
  let members ← Json.record ["document_id", "fulfillment_date", "e_invoice", "appearance"] payload
  let documentId ← Json.required members "document_id" Json.asInt64
  let fulfillmentDate ← Json.required members "fulfillment_date" (Json.asStr Date.parse)
  let eInvoice ← Json.required members "e_invoice" Json.asBool
  let appearance ← Json.required members "appearance" Json.asInt64
  return requestResponseStornoV1 documentId fulfillmentDate eInvoice appearance

/-- A token, or an object of one member. -/
def fromJson : Json → Option ReplayExecutionContract
  | .str token => ofStr token
  | .obj [(name, payload)] =>
    if name = "request_response_delete_v1" then deleteExecution payload
    else if name = "request_response_storno_v1" then stornoExecution payload
    else none
  | _ => none

/-- The dates the contract can be read back with. -/
def HasSendableDate : ReplayExecutionContract → Prop
  | requestResponseStornoV1 _ fulfillmentDate _ _ => 0 < fulfillmentDate.year
  | _ => True

theorem fromJson_toJson {contract : ReplayExecutionContract} (h : contract.HasSendableDate) :
    fromJson contract.toJson = some contract := by
  cases contract with
  | requestResponseDeleteV1 mode force documentId =>
    simp [toJson, fromJson, deleteExecution, Json.required, Json.record, Json.asStr, Json.asBool]
  | requestResponseStornoV1 documentId fulfillmentDate eInvoice appearance =>
    simp [toJson, fromJson, stornoExecution, Json.required, Json.record, Json.asStr, Json.asBool,
      Date.parse_display h]
  | _ => rfl

theorem fromJson_toJson_of_not {contract : ReplayExecutionContract}
    (h : ¬ contract.HasSendableDate) : fromJson contract.toJson = none := by
  cases contract with
  | requestResponseStornoV1 documentId fulfillmentDate eInvoice appearance =>
    have hyear : fulfillmentDate.year ≤ 0 := by simpa [HasSendableDate] using h
    simp [toJson, fromJson, stornoExecution, Json.required, Json.record, Json.asStr,
      Date.parse_display_of_year_le hyear]
  | _ => exact absurd trivial h

/-- No contract is written as nothing. -/
theorem toJson_ne_null (contract : ReplayExecutionContract) : contract.toJson ≠ .null := by
  cases contract <;> simp [toJson]

end ReplayExecutionContract

section Json

variable [Unicode]

/-- A marker's order key, which must arrive trimmed. -/
def exactOrderKey (value : String) : Option OrderKey :=
  if Text.trim value ≠ value then none else (OrderKey.parse value).toOption

theorem exactOrderKey_text (order : OrderKey) : exactOrderKey order.text = some order := by
  unfold exactOrderKey
  rw [if_neg (by simp [order.trim_text]), order.parse_text]
  rfl

namespace UnresolvedWrite

/-- The members of a marker, in the order they are written. -/
def members : List String :=
  ["execution_contract", "proforma_number", "prepayment_number", "version", "token",
    "owner_invocation", "created_at", "scope", "order", "namespace", "external_id", "account_id",
    "endpoint", "credential_ref", "operation"]

/-- What is written: an absent contract or number is left out, an absent scope is not. -/
def fields (marker : UnresolvedWrite) : List (String × Json) :=
  Json.present "execution_contract" (marker.executionContract.map (·.toJson))
    ++ Json.present "proforma_number" (marker.proformaNumber.map .str)
    ++ Json.present "prepayment_number" (marker.prepaymentNumber.map .str)
    ++ [("version", .int 1), ("token", .str marker.token),
      ("owner_invocation", .str marker.ownerInvocation), ("created_at", .str marker.createdAt),
      ("scope", WriteOperation.optStr marker.scope), ("order", .str marker.order.text),
      ("namespace", .str marker.namespace.text), ("external_id", .str marker.externalId),
      ("account_id", .str marker.accountId), ("endpoint", .str marker.endpoint),
      ("credential_ref", .str marker.credentialRef), ("operation", marker.operation.toJson)]

def toJson (marker : UnresolvedWrite) : Json := .obj marker.fields

theorem record_toJson (marker : UnresolvedWrite) :
    Json.record members marker.toJson = some marker.fields := by
  refine Json.record_obj ?_ (by decide)
  simp only [fields, List.map_append]
  exact ((Json.present_sublist _).append ((Json.present_sublist _))).append
    (Json.present_sublist _) |>.append (List.Sublist.refl _)

/-- The one schema version there is. -/
def version : Json → Option Unit
  | .int 1 => some ()
  | _ => none

def fromJson (json : Json) : Option UnresolvedWrite := do
  let ms ← Json.record members json
  let executionContract ← Json.optional ms "execution_contract" ReplayExecutionContract.fromJson
  let proformaNumber ← Json.optional ms "proforma_number" (Json.asStr some)
  let prepaymentNumber ← Json.optional ms "prepayment_number" (Json.asStr some)
  Json.required ms "version" version
  let token ← Json.required ms "token" (Json.asStr some)
  let ownerInvocation ← Json.required ms "owner_invocation" (Json.asStr some)
  let createdAt ← Json.required ms "created_at" (Json.asStr some)
  let scope ← Json.optional ms "scope" (Json.asStr some)
  let order ← Json.required ms "order" (Json.asStr exactOrderKey)
  let ns ← Json.required ms "namespace" (Json.asStr (fun s => (Namespace.parse s).toOption))
  let externalId ← Json.required ms "external_id" (Json.asStr some)
  let accountId ← Json.required ms "account_id" (Json.asStr some)
  let endpoint ← Json.required ms "endpoint" (Json.asStr some)
  let credentialRef ← Json.required ms "credential_ref" (Json.asStr some)
  let operation ← Json.required ms "operation" WriteOperation.fromJson
  return { executionContract := executionContract, proformaNumber := proformaNumber
           prepaymentNumber := prepaymentNumber, token := token, ownerInvocation := ownerInvocation
           createdAt := createdAt, scope := scope, order := order, «namespace» := ns
           externalId := externalId, accountId := accountId, endpoint := endpoint
           credentialRef := credentialRef, operation := operation }

/-- **A marker is read back from its JSON.** -/
theorem fromJson_toJson {marker : UnresolvedWrite}
    (h : ∀ contract ∈ marker.executionContract, contract.HasSendableDate) :
    fromJson marker.toJson = some marker := by
  have hrecord := marker.record_toJson
  obtain ⟨contract, proforma, prepayment, token, owner, createdAt, scope, order, ns, externalId,
    accountId, endpoint, credentialRef, operation⟩ := marker
  have hcontract : (contract.map ReplayExecutionContract.toJson).map
      ReplayExecutionContract.fromJson = contract.map some := by
    cases contract with
    | none => rfl
    | some c => simp [ReplayExecutionContract.fromJson_toJson (h c rfl)]
  have hnull : ∀ j ∈ contract.map ReplayExecutionContract.toJson, j ≠ .null := by
    intro j hj
    obtain ⟨c, -, rfl⟩ := Option.map_eq_some_iff.mp hj
    exact c.toJson_ne_null
  have hstr : ∀ v : Option String, (v.map Json.str).map (Json.asStr some) = v.map some := by
    intro v
    cases v <;> rfl
  have hstrNull : ∀ v : Option String, ∀ j ∈ v.map Json.str, j ≠ .null := by
    intro v j hj
    obtain ⟨s, -, rfl⟩ := Option.map_eq_some_iff.mp hj
    simp
  unfold fromJson
  rw [hrecord, fields, Option.bind_eq_bind, Option.bind_some,
    Json.optional_present (by simp) hnull hcontract, Option.bind_eq_bind, Option.bind_some,
    Json.optional_present (by simp) (hstrNull proforma) (hstr proforma), Option.bind_eq_bind,
    Option.bind_some, Json.optional_present (by simp) (hstrNull prepayment) (hstr prepayment)]
  cases scope <;> simp [Json.required, Json.optional, Json.asStr, version, WriteOperation.optStr,
    WriteOperation.fromJson_toJson, exactOrderKey_text, ns.parse_text, Except.toOption]

/-- **Nothing else is read back**: a contract whose date cannot be read refuses
the marker. -/
theorem eq_of_fromJson_toJson {marker marker' : UnresolvedWrite}
    (h : fromJson marker.toJson = some marker') : marker' = marker := by
  by_cases hdate : ∀ contract ∈ marker.executionContract, contract.HasSendableDate
  · rw [fromJson_toJson hdate] at h
    exact (Option.some.inj h).symm
  · obtain ⟨contract, hcontract, hbad⟩ : ∃ contract ∈ marker.executionContract,
        ¬ contract.HasSendableDate := by simpa using hdate
    have hnone : Json.optional marker.fields "execution_contract"
        ReplayExecutionContract.fromJson = none := by
      simp [Json.optional, fields, Option.mem_def.mp hcontract, contract.toJson_ne_null,
        ReplayExecutionContract.fromJson_toJson_of_not hbad]
    unfold fromJson at h
    rw [marker.record_toJson, Option.bind_eq_bind, Option.bind_some, hnone] at h
    cases h

end UnresolvedWrite

/-! ## What a worker accepts -/

namespace UnresolvedWrite

/-- Whether the contract and the numbers beside it are those of the operation. -/
def validExecutionContract (marker : UnresolvedWrite) : Bool :=
  if marker.prepaymentNumber.isSome
      ∧ marker.executionContract ≠ some .requestResponseFinalV1 then false
  else match marker.executionContract, marker.operation with
    | some .requestResponseOrdinaryV1, .create .invoice _ none
    | some .requestResponsePrepaymentV1, .create .prepayment _ none => true
    | some .requestResponseFinalV1, .create .final _ none =>
      marker.proformaNumber.isNone
        && marker.prepaymentNumber.any (fun n => (ProviderDocumentNumber.parse n).isSome)
    | some .requestResponseProformaV1, .create .proforma _ none
    | none, _
    | some (.requestResponseDeleteV1 ..), .delete _ => marker.proformaNumber.isNone
    | some (.requestResponseStornoV1 _ fulfillmentDate _ _), .storno _ =>
      marker.proformaNumber.isNone
        && (1 ≤ fulfillmentDate.year && fulfillmentDate.year ≤ 9999)
    | _, _ => false

theorem hasSendableDate_of_validExecutionContract {marker : UnresolvedWrite}
    (h : marker.validExecutionContract = true) :
    ∀ contract ∈ marker.executionContract, contract.HasSendableDate := by
  intro contract hcontract
  cases contract with
  | requestResponseStornoV1 documentId fulfillmentDate eInvoice appearance =>
    unfold validExecutionContract at h
    rw [Option.mem_def.mp hcontract] at h
    cases hop : marker.operation <;> simp [hop] at h
    exact Int.lt_of_lt_of_le (by decide) h.2.2.1
  | _ => trivial

/-- The external id the operation composes, if its numbers are invoice numbers. -/
def expectedExternalId (marker : UnresolvedWrite) : Option ExternalId :=
  match marker.operation with
  | .create kind expectedNumber correctedNumber =>
    if expectedNumber.any (fun n => (InvoiceNumber.parse n).toOption.isNone) then none
    else if kind = .corrective then do
      let base ← correctedNumber
      let _ ← (InvoiceNumber.parse base).toOption
      if expectedNumber.isSome then none
      else
        let suffix ← Text.stripPrefix
          (marker.namespace.text ++ ":" ++ marker.order.text ++ ":corrective:") marker.externalId
        let correction ← (CorrectionId.parse suffix).toOption
        return .forCorrective marker.namespace marker.order correction
    else if correctedNumber.isSome then none
    else kind.documentKind.map (.forKind marker.namespace marker.order)
  | .storno number => do
    let number ← (InvoiceNumber.parse number).toOption
    return .forStorno marker.namespace marker.order number
  | .delete number => do
    let _ ← (InvoiceNumber.parse number).toOption
    return .forKind marker.namespace marker.order .proforma

end UnresolvedWrite

section Decode

variable [Transport] [Clock]

/-- Reads a stored marker of this scope and key. -/
def decodeMarker (raw : Json) (scope : Option String) (key : String) :
    Option UnresolvedWrite := do
  let marker ← UnresolvedWrite.fromJson raw
  if !marker.validExecutionContract then none
  else if marker.executionContract.isSome
      && marker.proformaNumber.any (fun n => (ProviderDocumentNumber.parse n).isNone) then none
  else if marker.executionContract.isNone && marker.proformaNumber.isSome then none
  else if marker.scope ≠ scope ∨ marker.order.text ≠ key ∨ marker.token = ""
      ∨ marker.token ≠ marker.ownerInvocation ∨ (Endpoint.parse marker.endpoint).isNone then none
  else if (Clock.parse marker.createdAt).isNone then none
  else
    let expected ← marker.expectedExternalId
    if marker.externalId ≠ expected.text then none else return marker

namespace UnresolvedWrite

/-- The marker a worker of this scope and key reads back. -/
structure Readable (marker : UnresolvedWrite) (scope : Option String) (key : String) :
    Prop where
  contract : marker.validExecutionContract = true
  proforma : ∀ n ∈ marker.proformaNumber,
    marker.executionContract.isSome ∧ (ProviderDocumentNumber.parse n).isSome
  scope : marker.scope = scope
  order : marker.order.text = key
  token : marker.token ≠ ""
  owner : marker.token = marker.ownerInvocation
  endpoint : (Endpoint.parse marker.endpoint).isSome
  createdAt : (Clock.parse marker.createdAt).isSome
  externalId : marker.expectedExternalId = some ⟨marker.externalId⟩

end UnresolvedWrite

theorem decodeMarker_eq_some {raw : Json} {marker : UnresolvedWrite} {scope : Option String}
    {key : String} : decodeMarker raw scope key = some marker
      ↔ UnresolvedWrite.fromJson raw = some marker ∧ marker.Readable scope key := by
  unfold decodeMarker
  cases hread : UnresolvedWrite.fromJson raw with
  | none => simp
  | some read =>
    simp only [Option.bind_eq_bind, Option.bind_some]
    constructor
    · intro h
      split at h; · cases h
      split at h; · cases h
      split at h; · cases h
      split at h; · cases h
      split at h; · cases h
      cases hid : read.expectedExternalId with
      | none => simp [hid] at h
      | some expected =>
        simp only [hid, Option.bind_some] at h
        split at h; · cases h
        rename_i hcontract _ _ hself hcreated hexternal
        obtain rfl : read = marker := by simpa using h
        simp only [ne_eq, not_or, not_not] at hself
        obtain ⟨hscope, horder, htoken, howner, hendpoint⟩ := hself
        have hproforma : ∀ n ∈ read.proformaNumber, read.executionContract.isSome
            ∧ (ProviderDocumentNumber.parse n).isSome := by
          intro n hn
          rw [Option.mem_def] at hn
          cases hcase : read.executionContract <;> simp_all [Option.isSome_iff_ne_none]
        refine ⟨rfl, by simpa using hcontract, hproforma, hscope, horder, htoken, howner,
          by simpa [Option.isSome_iff_ne_none] using hendpoint,
          by simpa [Option.isSome_iff_ne_none] using hcreated, ?_⟩
        rw [hid, not_not.mp hexternal]
    · rintro ⟨heq, h⟩
      obtain rfl : read = marker := by simpa using heq
      obtain ⟨hcontract, hproforma, hscope, horder, htoken, howner, hendpoint, hcreated, hid⟩ := h
      cases hnumber : read.proformaNumber <;>
        simp_all [Option.isSome_iff_ne_none]

/-- **A marker is read back exactly if it is readable.** -/
theorem decodeMarker_toJson {marker : UnresolvedWrite} {scope : Option String} {key : String} :
    decodeMarker marker.toJson scope key = some marker ↔ marker.Readable scope key := by
  rw [decodeMarker_eq_some]
  refine ⟨And.right, fun h => ⟨UnresolvedWrite.fromJson_toJson ?_, h⟩⟩
  exact UnresolvedWrite.hasSendableDate_of_validExecutionContract h.contract

/-- A worker reads back no other marker than the one that was stored. -/
theorem eq_of_decodeMarker_toJson {marker marker' : UnresolvedWrite} {scope : Option String}
    {key : String} (h : decodeMarker marker.toJson scope key = some marker') :
    marker' = marker :=
  UnresolvedWrite.eq_of_fromJson_toJson (decodeMarker_eq_some.mp h).1

end Decode

end Json

end Szamlazz
