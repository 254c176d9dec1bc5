import Szamlazz.Contract.Order
import Szamlazz.Lib.JsonValue

/-!
# The observation of an unresolved write and the recovery of it

What travels between a worker and the operator of an order. `UnresolvedObservation`
is what the worker reports of the stored state, written as a tagged object; its
reader re-derives the variant from the fields (`ofJson`), since a newer worker may
report more than this one knows. `RecoveryRequest.fromJson` reads the request the
operator answers with.

The decoder of a marker is `Json.Stable`: of the texts of one JSON value it reads
those that repeat no name, all alike, and none of the others. What is decoded from
the text of a marker is therefore decoded from its value too, and the two readings
can only differ where a text repeats a name.
-/

namespace Szamlazz

/-! ## The decoders are stable -/

section Stable

theorem ReplayExecutionContract.stable_deleteExecution :
    Json.Stable ReplayExecutionContract.deleteExecution := by
  refine Json.Stable.ofRecord (fun ms hnodup hvalues => ?_) (fun ms a h => ?_)
  · simp only [(Json.stable_asStr _).required_canonicalMembers hnodup hvalues,
      Json.stable_asBool.required_canonicalMembers hnodup hvalues,
      Json.stable_asInt64.required_canonicalMembers hnodup hvalues]
  · simp only [Option.bind_eq_bind, Option.bind_eq_some_iff] at h
    obtain ⟨mode, hmode, force, hforce, documentId, hdocument, -⟩ := h
    simp only [List.forall_mem_cons]
    exact ⟨(Json.stable_asStr _).distinct_of_required hmode,
      Json.stable_asBool.distinct_of_required hforce,
      Json.stable_asInt64.distinct_of_required hdocument, by simp⟩

theorem ReplayExecutionContract.stable_stornoExecution :
    Json.Stable ReplayExecutionContract.stornoExecution := by
  refine Json.Stable.ofRecord (fun ms hnodup hvalues => ?_) (fun ms a h => ?_)
  · simp only [(Json.stable_asStr _).required_canonicalMembers hnodup hvalues,
      Json.stable_asBool.required_canonicalMembers hnodup hvalues,
      Json.stable_asInt64.required_canonicalMembers hnodup hvalues]
  · simp only [Option.bind_eq_bind, Option.bind_eq_some_iff] at h
    obtain ⟨documentId, hdocument, date, hdate, eInvoice, heInvoice, appearance, happearance, -⟩ := h
    simp only [List.forall_mem_cons]
    exact ⟨Json.stable_asInt64.distinct_of_required hdocument,
      (Json.stable_asStr _).distinct_of_required hdate,
      Json.stable_asBool.distinct_of_required heInvoice,
      Json.stable_asInt64.distinct_of_required happearance, by simp⟩

/-- An object of one member has one member as a value, and no other has. -/
theorem ReplayExecutionContract.stable_fromJson :
    Json.Stable ReplayExecutionContract.fromJson where
  canonical json h := by
    cases json with
    | obj members =>
      rw [Json.Distinct] at h
      have hlength := (Json.perm_canonicalMembers h.1).length_eq
      rw [List.length_map] at hlength
      cases members with
      | nil => rfl
      | cons m₁ members =>
        cases members with
        | nil =>
          obtain ⟨name, payload⟩ := m₁
          have hpayload : payload.Distinct := by
            have := h.2
            rw [Json.DistinctMembers] at this
            exact this.1
          simp only [Json.canonical, Json.canonicalMembers, Json.insertMember, fromJson,
            stable_deleteExecution.canonical payload hpayload,
            stable_stornoExecution.canonical payload hpayload]
        | cons m₂ members =>
          rw [Json.canonical]
          cases hcanonical : Json.canonicalMembers (m₁ :: m₂ :: members) with
          | nil => rfl
          | cons m ms =>
            cases ms with
            | nil => rw [hcanonical] at hlength; simp at hlength
            | cons _ _ => rfl
    | arr items => rw [Json.canonical]; rfl
    | _ => simp [Json.canonical]
  distinct json contract h := by
    unfold fromJson at h
    split at h
    · simp [Json.Distinct]
    · rename_i name payload
      simp only [Json.Distinct, Json.DistinctMembers, List.map_cons, List.map_nil,
        List.nodup_singleton, true_and, and_true]
      split_ifs at h with hdelete hstorno
      · exact stable_deleteExecution.distinct payload contract h
      · exact stable_stornoExecution.distinct payload contract h
    · cases h

theorem WriteOperation.stable_fromJson : Json.Stable WriteOperation.fromJson where
  canonical json h := by
    cases json with
    | obj members =>
      have hjson := h
      rw [Json.Distinct] at h
      have htag := (Json.stable_asStr some).required_canonicalMembers h.1 h.2 "type"
      unfold fromJson
      simp only [Json.canonical, htag]
      rw [← Json.canonical]
      refine congrArg _ (funext fun tag => ?_)
      split_ifs
      · refine Json.record_bind_canonical (fun ms hnodup hvalues => ?_) hjson
        simp only [(Json.stable_asStr _).required_canonicalMembers hnodup hvalues,
          (Json.stable_asStr _).optional_canonicalMembers hnodup hvalues]
      · refine Json.record_bind_canonical (fun ms hnodup hvalues => ?_) hjson
        rw [(Json.stable_asStr _).required_canonicalMembers hnodup hvalues]
      · refine Json.record_bind_canonical (fun ms hnodup hvalues => ?_) hjson
        rw [(Json.stable_asStr _).required_canonicalMembers hnodup hvalues]
      · rfl
    | arr items => rw [Json.canonical]; rfl
    | _ => simp [Json.canonical]
  distinct json operation h := by
    cases json with
    | obj members =>
      simp only [fromJson, Option.bind_eq_bind, Option.bind_eq_some_iff] at h
      obtain ⟨tag, htag, h⟩ := h
      have htype := (Json.stable_asStr some).distinct_of_required htag
      split_ifs at h
      · simp only [Option.bind_eq_some_iff] at h
        obtain ⟨ms, hrecord, kind, hkind, expected, hexpected, corrected, hcorrected, -⟩ := h
        obtain rfl := Json.obj.inj (Json.record_eq_some.mp hrecord).1
        refine Json.distinct_of_record hrecord ?_
        simp only [List.forall_mem_cons]
        exact ⟨htype, (Json.stable_asStr _).distinct_of_required hkind,
          (Json.stable_asStr _).distinct_of_optional hexpected,
          (Json.stable_asStr _).distinct_of_optional hcorrected, by simp⟩
      all_goals
        simp only [Option.bind_eq_some_iff] at h
        obtain ⟨ms, hrecord, number, hnumber, -⟩ := h
        obtain rfl := Json.obj.inj (Json.record_eq_some.mp hrecord).1
        refine Json.distinct_of_record hrecord ?_
        simp only [List.forall_mem_cons]
        exact ⟨htype, (Json.stable_asStr _).distinct_of_required hnumber, by simp⟩
    | _ => cases h

theorem UnresolvedWrite.stable_version : Json.Stable UnresolvedWrite.version where
  canonical json _ := by
    cases json with
    | arr items => rw [Json.canonical]; rfl
    | obj members => rw [Json.canonical]; rfl
    | _ => simp [Json.canonical]
  distinct json _ h := by
    cases json with
    | int n => simp [Json.Distinct]
    | _ => cases h

variable [Unicode]

/-- **The decoder of a marker is stable.** -/
theorem UnresolvedWrite.stable_fromJson : Json.Stable UnresolvedWrite.fromJson := by
  have hstr : ∀ {α : Type} (parse : String → Option α), Json.Stable (Json.asStr parse) :=
    Json.stable_asStr
  refine Json.Stable.ofRecord (fun ms hnodup hvalues => ?_) (fun ms a h => ?_)
  · simp only [(hstr _).required_canonicalMembers hnodup hvalues,
      (hstr _).optional_canonicalMembers hnodup hvalues,
      stable_version.required_canonicalMembers hnodup hvalues,
      ReplayExecutionContract.stable_fromJson.optional_canonicalMembers hnodup hvalues,
      WriteOperation.stable_fromJson.required_canonicalMembers hnodup hvalues]
  · obtain ⟨_, hcontract, h⟩ := Option.bind_eq_some_iff.mp h
    obtain ⟨_, hproforma, h⟩ := Option.bind_eq_some_iff.mp h
    obtain ⟨_, hprepayment, h⟩ := Option.bind_eq_some_iff.mp h
    obtain ⟨_, hversion, h⟩ := Option.bind_eq_some_iff.mp h
    obtain ⟨_, htoken, h⟩ := Option.bind_eq_some_iff.mp h
    obtain ⟨_, howner, h⟩ := Option.bind_eq_some_iff.mp h
    obtain ⟨_, hcreated, h⟩ := Option.bind_eq_some_iff.mp h
    obtain ⟨_, hscope, h⟩ := Option.bind_eq_some_iff.mp h
    obtain ⟨_, horder, h⟩ := Option.bind_eq_some_iff.mp h
    obtain ⟨_, hns, h⟩ := Option.bind_eq_some_iff.mp h
    obtain ⟨_, hexternal, h⟩ := Option.bind_eq_some_iff.mp h
    obtain ⟨_, haccount, h⟩ := Option.bind_eq_some_iff.mp h
    obtain ⟨_, hendpoint, h⟩ := Option.bind_eq_some_iff.mp h
    obtain ⟨_, hcredential, h⟩ := Option.bind_eq_some_iff.mp h
    obtain ⟨_, hoperation, h⟩ := Option.bind_eq_some_iff.mp h
    simp only [members, List.forall_mem_cons]
    exact ⟨ReplayExecutionContract.stable_fromJson.distinct_of_optional hcontract,
      (hstr _).distinct_of_optional hproforma, (hstr _).distinct_of_optional hprepayment,
      stable_version.distinct_of_required hversion, (hstr _).distinct_of_required htoken,
      (hstr _).distinct_of_required howner, (hstr _).distinct_of_required hcreated,
      (hstr _).distinct_of_optional hscope, (hstr _).distinct_of_required horder,
      (hstr _).distinct_of_required hns, (hstr _).distinct_of_required hexternal,
      (hstr _).distinct_of_required haccount, (hstr _).distinct_of_required hendpoint,
      (hstr _).distinct_of_required hcredential,
      WriteOperation.stable_fromJson.distinct_of_required hoperation, by simp⟩

/-- The value of a marker's JSON is read as the marker. -/
theorem UnresolvedWrite.fromJson_canonical_toJson {marker : UnresolvedWrite}
    (h : ∀ contract ∈ marker.executionContract, contract.HasSendableDate) :
    fromJson marker.toJson.canonical = some marker := by
  have hread := fromJson_toJson h
  rw [stable_fromJson.canonical _ (stable_fromJson.distinct _ _ hread), hread]

end Stable

/-! ## The observation -/

/-- Why an answer of a worker is no observation. -/
inductive ObservationError where
  /-- It is no object. -/
  | invalidType
  | custom (message : String)
deriving DecidableEq

section Observation

variable [Unicode]

/-- What is reported of the stored state. -/
inductive UnresolvedObservation where
  /-- There is no marker. -/
  | absent
  /-- A known marker awaiting recovery. -/
  | unresolved (marker : UnresolvedWrite)
  /-- There is state this worker cannot decode. -/
  | unreadable
  /-- An observation or a marker of a newer worker, preserved without authorizing
  recovery. -/
  | other (state : String) (fields : Json.Map)
deriving DecidableEq

namespace UnresolvedObservation

/-- Tagged by the state; the fields of `other` stand beside the tag. -/
def toJson : UnresolvedObservation → Json
  | absent => .obj [("state", .str "absent")]
  | unresolved marker => .obj [("state", .str "unresolved"), ("marker", marker.toJson)]
  | unreadable => .obj [("state", .str "unreadable")]
  | other state fields => .obj (("state", .str state) :: fields.members)

/-- Reads an observation: which variant it is is decided by the shape of its fields. -/
def ofJson : Json → Except ObservationError UnresolvedObservation
  | .obj members =>
    let fields := Json.Map.ofMembers members
    match (fields.get "state").bind (Json.asStr some) with
    | none => .error (.custom "observation requires a string state")
    | some state =>
      let fields := fields.remove "state"
      if state = "absent" then .ok absent
      else if state = "unreadable" then .ok unreadable
      else if state = "unresolved" then
        match fields.get "marker" with
        | none => .error (.custom "unresolved observation requires marker")
        | some marker =>
          match UnresolvedWrite.fromJson marker with
          | some decoded =>
            if Json.sameValue decoded.toJson marker then .ok (unresolved decoded)
            else .ok (other state fields)
          | none => .ok (other state fields)
      else .ok (other state fields)
  | _ => .error .invalidType

/-- The marker value an observation carries on the wire. -/
def reported (observation : UnresolvedObservation) : Option Json :=
  match observation.toJson with
  | .obj members => Json.member "marker" members
  | _ => none

/-! ### Reading back what was written -/

omit [Unicode] in
theorem get_ofMembers_state (marker : Json) :
    (Json.Map.ofMembers [("state", .str "unresolved"), ("marker", marker)]).get "state"
      = some (.str "unresolved") := by
  show Json.member "state" (Json.canonicalMembers _) = _
  rw [Json.member_canonicalMembers (by simp)]
  simp [Json.canonical]

omit [Unicode] in
theorem remove_ofMembers_state (marker : Json) :
    (Json.Map.ofMembers [("state", .str "unresolved"), ("marker", marker)]).remove "state"
      = .single "marker" marker := by
  have hlt : ¬ "state" < "marker" := by decide
  simp [Json.Map.ofMembers, Json.Map.remove, Json.Map.single, Json.canonicalMembers,
    Json.insertMember, hlt]

/-- What a reported marker is read as. -/
def ofMarker (marker : Json) : UnresolvedObservation :=
  match UnresolvedWrite.fromJson marker.canonical with
  | some decoded =>
    if Json.sameValue decoded.toJson marker then unresolved decoded
    else other "unresolved" (.single "marker" marker)
  | none => other "unresolved" (.single "marker" marker)

theorem ofJson_marker (marker : Json) :
    ofJson (.obj [("state", .str "unresolved"), ("marker", marker)]) = .ok (ofMarker marker) := by
  unfold ofJson ofMarker
  simp only [get_ofMembers_state, remove_ofMembers_state, Json.Map.get_single, Json.asStr,
    if_true, Option.bind_some, Json.sameValue_canonical_right]
  rw [if_neg (by decide), if_neg (by decide)]
  cases UnresolvedWrite.fromJson marker.canonical with
  | none => rfl
  | some decoded => exact (apply_ite Except.ok _ _ _).symm

/-- A marker reported as other travels like a known one. -/
theorem toJson_other_marker (marker : Json) :
    (other "unresolved" (.single "marker" marker)).toJson
      = .obj [("state", .str "unresolved"), ("marker", marker.canonical)] := rfl

theorem ofMarker_canonical (marker : Json) : ofMarker marker.canonical = ofMarker marker := by
  have hsingle : Json.Map.single "marker" marker.canonical = .single "marker" marker := by
    simp [Json.Map.single]
  unfold ofMarker
  rw [Json.canonical_canonical, hsingle]
  simp only [Json.sameValue_canonical_right]

/-- **A known marker is read back as the known marker.** -/
theorem ofJson_toJson_unresolved {marker : UnresolvedWrite}
    (h : ∀ contract ∈ marker.executionContract, contract.HasSendableDate) :
    ofJson (unresolved marker).toJson = .ok (unresolved marker) := by
  have hself : Json.sameValue marker.toJson marker.toJson = true :=
    Json.sameValue_iff.mpr rfl
  show ofJson (.obj [("state", .str "unresolved"), ("marker", marker.toJson)]) = _
  rw [ofJson_marker, ofMarker, UnresolvedWrite.fromJson_canonical_toJson h]
  simp only [hself, if_true]

/-- **Any other is read back as such unless its value is that of a marker.** -/
theorem ofJson_toJson_other_iff (marker : Json) :
    ofJson (other "unresolved" (.single "marker" marker)).toJson
        = .ok (other "unresolved" (.single "marker" marker))
      ↔ ∀ decoded, UnresolvedWrite.fromJson marker.canonical = some decoded →
        Json.sameValue decoded.toJson marker = false := by
  rw [toJson_other_marker, ofJson_marker, ofMarker_canonical, Except.ok.injEq]
  unfold ofMarker
  cases hread : UnresolvedWrite.fromJson marker.canonical with
  | none => simp
  | some decoded =>
    simp only [Option.some.injEq]
    constructor
    · rintro h decoded' rfl
      by_contra hsame
      rw [Bool.not_eq_false] at hsame
      rw [if_pos hsame] at h
      cases h
    · intro h
      rw [if_neg (by simp [h decoded rfl])]

theorem reported_unresolved (marker : UnresolvedWrite) :
    (unresolved marker).reported = some marker.toJson := rfl

theorem reported_other_marker (marker : Json) :
    (other "unresolved" (.single "marker" marker)).reported = some marker.canonical := by
  simp [reported, toJson_other_marker]

end UnresolvedObservation

end Observation

/-! ## The request of a recovery -/

namespace AttestedCompletion

/-- The tag decides which numbers there may be. -/
def fromJson (json : Json) : Option AttestedCompletion := do
  let members ← Json.record ["type", "number"] json
  let tag ← Json.required members "type" (Json.asStr some)
  if tag = "issued" then
    return issued (← Json.required members "number" (Json.asStr ProviderDocumentNumber.parse))
  else if tag = "reversed" then
    return reversed (← Json.required members "number" (Json.asStr ProviderDocumentNumber.parse))
  else if tag = "deleted" then
    return deleted (← Json.required members "number"
      (Json.asStr (fun s => (InvoiceNumber.parse s).toOption)))
  else none

theorem fromJson_toJson (completion : AttestedCompletion) :
    fromJson completion.toJson = some completion := by
  cases completion with
  | issued number => simp [toJson, fromJson, Json.record, Json.required, Json.asStr]
  | reversed number => simp [toJson, fromJson, Json.record, Json.required, Json.asStr]
  | deleted number =>
    simp [toJson, fromJson, Json.record, Json.required, Json.asStr, number.parse_text,
      Except.toOption]

end AttestedCompletion

namespace RecoveryEvidence

/-- What must be affirmed. -/
def attestation : Json → Option Unit
  | .bool true => some ()
  | _ => none

/-- The tag decides which members there may be. -/
def fromJson (json : Json) : Option RecoveryEvidence := do
  let .obj members := json | none
  let tag ← Json.required members "type" (Json.asStr some)
  if tag = "document" then
    let members ← Json.record ["type", "number"] json
    let number ← Json.required members "number" (Json.asStr ProviderDocumentNumber.parse)
    return document number
  else if tag = "not_executed" then
    let members ← Json.record
      ["type", "audit_reference", "did_not_execute_and_cannot_execute_later"] json
    let auditReference ← Json.required members "audit_reference" (Json.asStr some)
    Json.required members "did_not_execute_and_cannot_execute_later" attestation
    return notExecuted auditReference
  else if tag = "completed" then
    let members ← Json.record
      ["type", "audit_reference", "completion", "completed_and_cannot_execute_later"] json
    let auditReference ← Json.required members "audit_reference" (Json.asStr some)
    let completion ← Json.required members "completion" AttestedCompletion.fromJson
    Json.required members "completed_and_cannot_execute_later" attestation
    return completed auditReference completion
  else none

theorem fromJson_toJson (evidence : RecoveryEvidence) :
    fromJson evidence.toJson = some evidence := by
  cases evidence with
  | document number => simp [toJson, fromJson, Json.record, Json.required, Json.asStr]
  | notExecuted auditReference =>
    have hrecord : Json.record ["type", "audit_reference",
        "did_not_execute_and_cannot_execute_later"] (notExecuted auditReference).toJson
        = some _ := Json.record_obj (List.Sublist.refl _) (by decide)
    unfold fromJson
    rw [hrecord]
    simp only [toJson, Json.required, Json.asStr, Option.bind_eq_bind, Option.bind_some,
      Json.member_cons_self, Json.member_cons_of_ne (show "type" ≠ "audit_reference" by decide),
      Json.member_cons_of_ne
        (show "type" ≠ "did_not_execute_and_cannot_execute_later" by decide),
      Json.member_cons_of_ne
        (show "audit_reference" ≠ "did_not_execute_and_cannot_execute_later" by decide)]
    rfl
  | completed auditReference completion =>
    have hrecord : Json.record ["type", "audit_reference", "completion",
        "completed_and_cannot_execute_later"] (completed auditReference completion).toJson
        = some _ := Json.record_obj (List.Sublist.refl _) (by decide)
    unfold fromJson
    rw [hrecord]
    simp only [toJson, Json.required, Json.asStr, Option.bind_eq_bind, Option.bind_some,
      Json.member_cons_self, Json.member_cons_of_ne (show "type" ≠ "audit_reference" by decide),
      Json.member_cons_of_ne (show "type" ≠ "completion" by decide),
      Json.member_cons_of_ne (show "audit_reference" ≠ "completion" by decide),
      Json.member_cons_of_ne (show "type" ≠ "completed_and_cannot_execute_later" by decide),
      Json.member_cons_of_ne
        (show "audit_reference" ≠ "completed_and_cannot_execute_later" by decide),
      Json.member_cons_of_ne
        (show "completion" ≠ "completed_and_cannot_execute_later" by decide),
      completion.fromJson_toJson]
    rfl

end RecoveryEvidence

section Request

variable [Unicode]

namespace RecoveryRequest

def members : List String := ["operator", "marker", "evidence"]

def fromJson (json : Json) : Option RecoveryRequest := do
  let ms ← Json.record members json
  let operator ← Json.required ms "operator" (Json.asStr some)
  let marker ← Json.required ms "marker" UnresolvedWrite.fromJson
  let evidence ← Json.required ms "evidence" RecoveryEvidence.fromJson
  if h : Text.isBlank operator = false then some ⟨operator, h, marker, evidence⟩ else none

/-- The JSON of a request that carries a marker's JSON. -/
def written (operator : String) (marker : Json) (evidence : RecoveryEvidence) : Json :=
  .obj [("operator", .str operator), ("marker", marker), ("evidence", evidence.toJson)]

omit [Unicode] in
theorem record_written (operator : String) (marker : Json) (evidence : RecoveryEvidence) :
    Json.record members (written operator marker evidence)
      = some [("operator", .str operator), ("marker", marker), ("evidence", evidence.toJson)] :=
  Json.record_obj (List.Sublist.refl _) (by decide)

theorem fromJson_written {operator : String} (h : Text.isBlank operator = false) {marker : Json}
    {write : UnresolvedWrite} (hread : UnresolvedWrite.fromJson marker = some write)
    (evidence : RecoveryEvidence) :
    fromJson (written operator marker evidence) = some ⟨operator, h, write, evidence⟩ := by
  unfold fromJson
  rw [record_written]
  simp [Json.required, Json.asStr, hread, evidence.fromJson_toJson, h]

end RecoveryRequest

/-- A recovery's request with the JSON it was read from. -/
structure RecoveryBody where
  json : Json
  request : RecoveryRequest
  decoded : RecoveryRequest.fromJson json = some request

/-- The marker as it was written, with the members its writer left in or out. -/
def RecoveryBody.exactMarker (body : RecoveryBody) : Json :=
  match body.json.canonical with
  | .obj members => (Json.member "marker" members).getD .null
  | _ => .null

/-- **A request that carries a marker's JSON**: all else it needs is there. -/
structure RecoveryRequest.Carries (json marker : Json) : Prop where
  members : ∃ ms, Json.record RecoveryRequest.members json = some ms
    ∧ Json.member "marker" ms = some marker
    ∧ (∃ operator, Json.required ms "operator" (Json.asStr some) = some operator
      ∧ Text.isBlank operator = false)
    ∧ (Json.required ms "evidence" RecoveryEvidence.fromJson).isSome

omit [Unicode] in
theorem RecoveryRequest.carries_written {operator : String} (h : Text.isBlank operator = false)
    (marker : Json) (evidence : RecoveryEvidence) :
    Carries (written operator marker evidence) marker where
  members := by
    refine ⟨_, record_written operator marker evidence, ?_, ⟨operator, ?_, h⟩, ?_⟩
    · simp
    · simp [Json.required, Json.asStr]
    · simp [Json.required, evidence.fromJson_toJson]

/-- Of such a request only the marker can fail to be read. -/
theorem RecoveryRequest.Carries.fromJson_eq_some_iff {json marker : Json}
    (h : Carries json marker) {write : UnresolvedWrite} :
    (∃ request, fromJson json = some request ∧ request.marker = write)
      ↔ UnresolvedWrite.fromJson marker = some write := by
  obtain ⟨ms, hrecord, hmarker, ⟨operator, hoperator, hblank⟩, hevidence⟩ := h
  obtain ⟨evidence, hevidence⟩ := Option.isSome_iff_exists.mp hevidence
  have hrequired : Json.required ms "marker" UnresolvedWrite.fromJson
      = UnresolvedWrite.fromJson marker := by
    rw [Json.required, hmarker, Option.bind_some]
  unfold fromJson
  simp only [hrecord, hoperator, hrequired, hevidence, Option.bind_eq_bind, Option.bind_some,
    dif_pos hblank, Option.bind_eq_some_iff]
  constructor
  · rintro ⟨request, ⟨write', hread, heq⟩, rfl⟩
    rw [hread, ← Option.some.inj heq]
  · intro hread
    exact ⟨_, ⟨write, hread, rfl⟩, rfl⟩

/-- The exact marker of a body is the value of the JSON it carries. -/
theorem RecoveryRequest.Carries.exactMarker_eq {body : RecoveryBody} {marker : Json}
    (h : Carries body.json marker) : body.exactMarker = marker.canonical := by
  obtain ⟨ms, hrecord, hmarker, -, -⟩ := h
  obtain ⟨hjson, -, hnodup⟩ := Json.record_eq_some.mp hrecord
  unfold RecoveryBody.exactMarker
  rw [hjson, Json.canonical]
  simp only [Json.member_canonicalMembers hnodup, hmarker, Option.map_some, Option.getD_some]

end Request

end Szamlazz
