import Szamlazz.Contract.Observation
import Szamlazz.Service.Recovery

/-!
# Observing and recovering stored bytes

The state of an order is bytes, and neither the observation nor the recovery
trusts them. Both read them twice: as a marker (`decodeStored`) and as a JSON
value, which is what an operator is shown and must hand back.

`recover_exactly_observed` says that the two agree: whatever the spelling of the
stored marker, the one JSON value a recovery accepts is the one the observation
reported, and bytes that are no marker are never cleared. The wire format of the
observation keeps less: `observation_survives_iff` names the bytes whose report is
read back as another one.
-/

namespace Szamlazz

section Observe

variable [Unicode] [Transport] [Clock] {Bytes : Type} (parse : Bytes → Option Json)

/-- The marker in stored bytes, for this scope and key. -/
def decodeStored (bytes : Bytes) (scope : Option String) (key : String) :
    Option UnresolvedWrite :=
  (parse bytes).bind fun raw => decodeMarker raw scope key

/-- **The shared observation**, given what reading the state came to. -/
def observeMarker (execution : OrderExecution) (scope : Option String) (key : String) :
    Except TerminalError (Option Bytes) → Except Fault UnresolvedObservation
  | .error error => .error (readFault error)
  | .ok none => .ok .absent
  | .ok (some bytes) =>
    match decodeStored parse bytes scope key with
    | some marker =>
      match parse bytes with
      | none => .error (.unavailable "could not read marker JSON")
      | some value =>
        if Json.sameValue marker.toJson value = false then
          .ok (.other "unresolved" (.single "marker" value))
        else .ok (.unresolved marker)
    | none =>
      if execution.permitsReplay then
        match parse bytes with
        | some value => .ok (.other "unresolved" (.single "marker" value))
        | none => .ok .unreadable
      else .ok .unreadable

/-- The stored marker, if it is the one the request carries, in type and in value. -/
def exactStored (scope : Option String) (key : String) (request : RecoveryRequest)
    (exactMarker : Json) : Option Bytes → Except Fault UnresolvedWrite
  | none => .error (.invalidInput "no unresolved marker matches this recovery")
  | some bytes =>
    match decodeStored parse bytes scope key with
    | none =>
      .error (.outcomeUnknown "unreadable unresolved marker; use a compatible deployment")
    | some marker =>
      match parse bytes with
      | none => .error (.outcomeUnknown "unreadable marker JSON")
      | some stored =>
        if marker ≠ request.marker ∨ Json.sameValue stored exactMarker = false then
          .error (.invalidInput "recovery does not match the exact unresolved marker")
        else .ok marker

end Observe

section Recover

variable [Unicode] [Transport] [Clock] [FaultText] {Bytes : Type} (parse : Bytes → Option Json)

/-- The settlement of a marker that is the exact one. -/
def settleExact (request : RecoveryRequest) (marker : UnresolvedWrite) :
    Handler RecoveryResponse := do
  let _ ← Handler.lift (pinnedAccount marker)
  Handler.lift (checkEvidence marker.operation request.evidence)
  verifyEvidence marker request.evidence
  let receipt ← Handler.run (T := RecoveryResponse) "record-recovery"
    (fun error => .fault (readFault error))
    (pure (.done { token := marker.token, operator := request.operator
                   evidence := request.evidence.toJson }))
  Handler.clear
  return receipt

/-- **The recovery**, given its body and the state it read. -/
def recoverStored (ctx : Context) (body : Body RecoveryBody) (stored : Option Bytes) :
    Handler RecoveryResponse :=
  match body with
  | .error error => Handler.raise (.invalidInput ("malformed request body: " ++ error))
  | .ok body => do
    let marker ← Handler.lift
      (exactStored parse ctx.scope ctx.key body.request body.exactMarker stored)
    settleExact body.request marker

omit [FaultText] in
/-- A stored marker is stored as the bytes of its JSON. -/
theorem exactStored_toJson (ctx : Context) (request : RecoveryRequest) (exact : Json)
    (stored : Option UnresolvedWrite) :
    exactStored (fun marker : UnresolvedWrite => some marker.toJson) ctx.scope ctx.key request
      exact stored = exactMarker ctx request exact stored := by
  cases stored with
  | none => rfl
  | some marker =>
    show (match decodeMarker marker.toJson ctx.scope ctx.key with | none => _ | some m => _)
      = (match decodeMarker marker.toJson ctx.scope ctx.key with | none => _ | some m => _)
    cases decodeMarker marker.toJson ctx.scope ctx.key <;> rfl

/-- **The handler over typed markers is the recovery of their bytes.** -/
theorem recoverMarker_eq (ctx : Context) (body : RecoveryBody) :
    recoverMarker ctx body.request body.exactMarker = (do
      let stored ← Handler.stored
      recoverStored (fun marker : UnresolvedWrite => some marker.toJson) ctx (.ok body)
        stored) := by
  refine congrArg _ (funext fun stored => ?_)
  show _ = Handler.lift (exactStored _ ctx.scope ctx.key body.request body.exactMarker stored) >>= _
  rw [exactStored_toJson]
  rfl

end Recover

/-! ## What an observation reports and a recovery accepts -/

section Exact

variable [Unicode] [Transport] [Clock] {Bytes : Type} {parse : Bytes → Option Json}
  {scope : Option String} {key : String} {bytes : Bytes} {marker : UnresolvedWrite} {raw : Json}

theorem decodeStored_eq_some : decodeStored parse bytes scope key = some marker
    ↔ ∃ raw, parse bytes = some raw ∧ decodeMarker raw scope key = some marker :=
  Option.bind_eq_some_iff

/-- The JSON of a decoded marker repeats no name. -/
theorem distinct_of_decodeMarker (h : decodeMarker raw scope key = some marker) : raw.Distinct :=
  UnresolvedWrite.stable_fromJson.distinct raw marker (decodeMarker_eq_some.mp h).1

/-- A decoded marker is reported, as known if it is written the way this worker writes it. -/
theorem observeMarker_of_decoded (execution : OrderExecution) (hraw : parse bytes = some raw)
    (h : decodeMarker raw scope key = some marker) :
    observeMarker parse execution scope key (.ok (some bytes))
      = .ok (if Json.sameValue marker.toJson raw then .unresolved marker
          else .other "unresolved" (.single "marker" raw)) := by
  have hdecoded : decodeStored parse bytes scope key = some marker :=
    decodeStored_eq_some.mpr ⟨raw, hraw, h⟩
  unfold observeMarker
  simp only [hdecoded, hraw]
  cases Json.sameValue marker.toJson raw <;> rfl

theorem exactStored_eq_ok_iff (hraw : parse bytes = some raw)
    (h : decodeMarker raw scope key = some marker) (request : RecoveryRequest) (exact : Json) :
    (∃ m, exactStored parse scope key request exact (some bytes) = .ok m)
      ↔ request.marker = marker ∧ Json.sameValue raw exact = true := by
  have hdecoded : decodeStored parse bytes scope key = some marker :=
    decodeStored_eq_some.mpr ⟨raw, hraw, h⟩
  unfold exactStored
  simp only [hdecoded, hraw]
  by_cases hmatch : marker ≠ request.marker ∨ Json.sameValue raw exact = false
  · rw [if_pos hmatch]
    constructor
    · rintro ⟨m, hm⟩
      cases hm
    · rintro ⟨rfl, hsame⟩
      rcases hmatch with hne | hdiff
      · exact absurd rfl hne
      · rw [hsame] at hdiff
        cases hdiff
  · rw [if_neg hmatch]
    rw [not_or, not_not, Bool.not_eq_false] at hmatch
    exact ⟨fun _ => ⟨hmatch.1.symm, hmatch.2⟩, fun _ => ⟨marker, rfl⟩⟩

/-- Whether a request of this JSON passes the match of a recovery. -/
def Accepted (parse : Bytes → Option Json) (scope : Option String) (key : String) (bytes : Bytes)
    (json : Json) : Prop :=
  ∃ body : RecoveryBody, body.json = json
    ∧ ∃ m, exactStored parse scope key body.request body.exactMarker (some bytes) = .ok m

/-- **A request is accepted for the value of the stored JSON**, whatever its text,
provided the text repeats no name. -/
theorem accepted_iff (hraw : parse bytes = some raw)
    (h : decodeMarker raw scope key = some marker) {json w : Json}
    (hcarries : RecoveryRequest.Carries json w) :
    Accepted parse scope key bytes json ↔ w.Distinct ∧ Json.sameValue w raw = true := by
  have hread : UnresolvedWrite.fromJson raw = some marker := (decodeMarker_eq_some.mp h).1
  constructor
  · rintro ⟨body, rfl, hm⟩
    obtain ⟨hmarker, hsame⟩ := (exactStored_eq_ok_iff hraw h _ _).mp hm
    have hw := hcarries.fromJson_eq_some_iff.mp ⟨body.request, body.decoded, hmarker⟩
    rw [hcarries.exactMarker_eq, Json.sameValue_canonical_right] at hsame
    exact ⟨UnresolvedWrite.stable_fromJson.distinct w marker hw, Json.sameValue_comm w raw ▸ hsame⟩
  · rintro ⟨hdistinct, hsame⟩
    -- the decoder cannot tell the request's text from the stored one
    have hw : UnresolvedWrite.fromJson w = some marker := by
      rw [UnresolvedWrite.stable_fromJson.eq_of_sameValue hdistinct (distinct_of_decodeMarker h)
        hsame, hread]
    obtain ⟨request, hrequest, hmarker⟩ := hcarries.fromJson_eq_some_iff.mpr hw
    refine ⟨⟨json, request, hrequest⟩, rfl, (exactStored_eq_ok_iff hraw h _ _).mpr ⟨hmarker, ?_⟩⟩
    have hexact : (RecoveryBody.mk json request hrequest).exactMarker = w.canonical :=
      RecoveryRequest.Carries.exactMarker_eq hcarries
    rw [hexact, Json.sameValue_canonical_right, Json.sameValue_comm]
    exact hsame

end Exact

section Claims

variable [Unicode] [Transport] [Clock] [FaultText] {Bytes : Type} {parse : Bytes → Option Json}
  {bytes : Bytes}

/-- Bytes that are no marker end every recovery with a fault, before it does anything. -/
theorem recoverStored_of_undecoded {ctx : Context}
    (h : decodeStored parse bytes ctx.scope ctx.key = none) (body : Body RecoveryBody) :
    recoverStored parse ctx body (some bytes) = Handler.raise (match body with
      | .error error => .invalidInput ("malformed request body: " ++ error)
      | .ok _ => .outcomeUnknown
        "unreadable unresolved marker; use a compatible deployment") := by
  cases body with
  | error error => rfl
  | ok body =>
    unfold recoverStored exactStored
    simp only [h]
    rfl

/-- A marker can always be cleared: by whom hands back its JSON and attests. -/
theorem clears_of_decoded {ctx : Context} {marker : UnresolvedWrite} {raw : Json}
    (hraw : parse bytes = some raw) (h : decodeMarker raw ctx.scope ctx.key = some marker) :
    ∃ body, Durable.Flow.Clears (ExceptT.run (recoverStored parse ctx (.ok body) (some bytes))) := by
  obtain ⟨hread, hreadable⟩ := decodeMarker_eq_some.mp h
  have hblank : Text.isBlank "operator" = false := by decide
  have hdecoded := RecoveryRequest.fromJson_written hblank hread (.notExecuted "operator")
  have hcarries := RecoveryRequest.carries_written hblank raw (.notExecuted "operator")
  let body : RecoveryBody := ⟨_, _, hdecoded⟩
  have hexact : exactStored parse ctx.scope ctx.key body.request body.exactMarker (some bytes)
      = .ok marker := by
    have hbody : body.exactMarker = raw.canonical := hcarries.exactMarker_eq
    unfold exactStored
    simp only [decodeStored_eq_some.mpr ⟨raw, hraw, h⟩, hraw, hbody]
    rw [if_neg (by simp [body, Json.sameValue_iff])]
  obtain ⟨endpoint, hendpoint⟩ := Option.isSome_iff_exists.mp hreadable.endpoint
  have haccount : ∃ account, pinnedAccount marker = .ok account := by
    unfold pinnedAccount
    rw [hendpoint]
    exact ⟨_, rfl⟩
  obtain ⟨account, haccount⟩ := haccount
  have hevidence : checkEvidence marker.operation (.notExecuted "operator") = .ok () := by
    simp only [checkEvidence, hblank]
    rfl
  refine ⟨body, ?_⟩
  show Durable.Flow.Clears (ExceptT.run (Handler.lift (exactStored parse ctx.scope ctx.key
    body.request body.exactMarker (some bytes)) >>= settleExact body.request))
  rw [hexact]
  show Durable.Flow.Clears (ExceptT.run (Handler.lift (pinnedAccount marker) >>= fun _ =>
    Handler.lift (checkEvidence marker.operation (.notExecuted "operator")) >>= fun _ => _))
  rw [haccount, hevidence]
  -- the record of the settlement is written, and read back as it is
  exact ⟨.ok (Journaled.encode (RecoveryResponse.mk marker.token "operator"
    (RecoveryEvidence.notExecuted "operator").toJson)), trivial⟩

/-- **Recovery accepts exactly the observed marker.** Of stored bytes that are a
marker the observation reports one JSON value, and a request passes the match
exactly if the marker it carries is that value; of any others it clears nothing. -/
theorem recover_exactly_observed (parse : Bytes → Option Json) (bytes : Bytes) (ctx : Context) :
    (∀ marker, decodeStored parse bytes ctx.scope ctx.key = some marker → ∀ execution,
      ∃ observation value,
        observeMarker parse execution ctx.scope ctx.key (.ok (some bytes)) = .ok observation
          ∧ (observation = .unresolved marker ∨ ∃ fields, observation = .other "unresolved" fields)
          ∧ observation.reported = some value
          ∧ ∀ json w, RecoveryRequest.Carries json w →
            (Accepted parse ctx.scope ctx.key bytes json
              ↔ w.Distinct ∧ Json.sameValue w value = true))
    ∧ (decodeStored parse bytes ctx.scope ctx.key = none → ∀ body,
        ¬ Durable.Flow.Clears (ExceptT.run (recoverStored parse ctx body (some bytes)))) := by
  refine ⟨fun marker hdecoded execution => ?_, fun h body => ?_⟩
  · obtain ⟨raw, hraw, h⟩ := decodeStored_eq_some.mp hdecoded
    rw [observeMarker_of_decoded execution hraw h]
    by_cases hself : Json.sameValue marker.toJson raw = true
    · -- the marker is written as this worker writes it, and its own JSON is reported
      rw [if_pos hself]
      refine ⟨_, marker.toJson, rfl, Or.inl rfl, UnresolvedObservation.reported_unresolved marker,
        fun json w hcarries => ?_⟩
      rw [accepted_iff hraw h hcarries, Json.sameValue_iff, Json.sameValue_iff,
        Json.sameValue_iff.mp hself]
    · rw [if_neg hself]
      refine ⟨_, raw.canonical, rfl, Or.inr ⟨_, rfl⟩,
        UnresolvedObservation.reported_other_marker raw, fun json w hcarries => ?_⟩
      rw [accepted_iff hraw h hcarries, Json.sameValue_canonical_right]
  · rw [recoverStored_of_undecoded h body]
    exact id

/-- Whether a client reads back the observation it was sent. -/
def Survives (parse : Bytes → Option Json) (execution : OrderExecution) (scope : Option String)
    (key : String) (stored : Option Bytes) : Prop :=
  ∃ observation, observeMarker parse execution scope key (.ok stored) = .ok observation
    ∧ UnresolvedObservation.ofJson observation.toJson = .ok observation

/-- State that this worker refuses as a marker, observed where the JSON of what is
refused is reported, whose value is the JSON of a marker all the same. -/
def PassesForKnown (parse : Bytes → Option Json) (execution : OrderExecution)
    (scope : Option String) (key : String) (stored : Option Bytes) : Prop :=
  execution.permitsReplay = true ∧ ∃ raw, stored.bind parse = some raw
    ∧ decodeMarker raw scope key = none
    ∧ ∃ marker, UnresolvedWrite.fromJson raw.canonical = some marker
      ∧ Json.sameValue marker.toJson raw = true

omit [FaultText] in
theorem survives_iff {execution : OrderExecution} {scope : Option String} {key : String}
    {stored : Option Bytes} {observation : UnresolvedObservation}
    (h : observeMarker parse execution scope key (.ok stored) = .ok observation) :
    Survives parse execution scope key stored
      ↔ UnresolvedObservation.ofJson observation.toJson = .ok observation := by
  unfold Survives
  rw [h]
  constructor
  · rintro ⟨read, hread, hsurvives⟩
    obtain rfl := Except.ok.inj hread
    exact hsurvives
  · exact fun hsurvives => ⟨observation, rfl, hsurvives⟩

omit [FaultText] in
/-- The JSON of what is refused is reported where replay is permitted. -/
theorem observeMarker_of_refused (execution : OrderExecution) {scope : Option String}
    {key : String} (h : decodeStored parse bytes scope key = none) :
    observeMarker parse execution scope key (.ok (some bytes))
      = .ok (match execution, parse bytes with
        | .replayEnabled, some raw => .other "unresolved" (.single "marker" raw)
        | _, _ => .unreadable) := by
  unfold observeMarker
  simp only [h]
  cases execution with
  | «protected» => rfl
  | replayEnabled => cases parse bytes <;> rfl

omit [FaultText] in
/-- **The wire format keeps an observation unless the worker refuses what looks like
a marker**: the shape is all its reader sees. -/
theorem observation_survives_iff (parse : Bytes → Option Json) (execution : OrderExecution)
    (scope : Option String) (key : String) (stored : Option Bytes) :
    Survives parse execution scope key stored
      ↔ ¬ PassesForKnown parse execution scope key stored := by
  unfold PassesForKnown
  cases stored with
  | none =>
    rw [survives_iff rfl]
    exact iff_of_true rfl (by simp)
  | some bytes =>
    rw [Option.bind_some]
    cases hdecoded : decodeStored parse bytes scope key with
    | some marker =>
      obtain ⟨raw, hraw, h⟩ := decodeStored_eq_some.mp hdecoded
      obtain ⟨hread, hreadable⟩ := decodeMarker_eq_some.mp h
      rw [survives_iff (observeMarker_of_decoded execution hraw h)]
      refine iff_of_true ?_ (by simp [hraw, h])
      by_cases hself : Json.sameValue marker.toJson raw = true
      · rw [if_pos hself]
        exact UnresolvedObservation.ofJson_toJson_unresolved
          (UnresolvedWrite.hasSendableDate_of_validExecutionContract hreadable.contract)
      · -- the value is read as the marker, whose own JSON is another
        rw [if_neg hself, UnresolvedObservation.ofJson_toJson_other_iff]
        intro decoded hvalue
        rw [UnresolvedWrite.stable_fromJson.canonical raw (distinct_of_decodeMarker h),
          hread] at hvalue
        rw [← Option.some.inj hvalue]
        exact Bool.not_eq_true _ ▸ hself
    | none =>
      rw [survives_iff (observeMarker_of_refused execution hdecoded)]
      cases execution with
      | «protected» => exact iff_of_true rfl (fun h => by cases h.1)
      | replayEnabled =>
        cases hraw : parse bytes with
        | none => exact iff_of_true rfl (by simp)
        | some raw =>
          have hrefused : decodeMarker raw scope key = none := by
            unfold decodeStored at hdecoded
            rwa [hraw, Option.bind_some] at hdecoded
          rw [UnresolvedObservation.ofJson_toJson_other_iff]
          simp [OrderExecution.permitsReplay, hrefused]

end Claims

/-! ## A stored storno -/

section Sample

local instance observedUnicode : Unicode := sampleUnicode

local instance observedTransport : Transport := sampleTransport

local instance observedClock : Clock where
  Timestamp := String
  display t := t
  parse t := some t
  parse_display _ := rfl

local instance observedFaultText : FaultText where
  text _ := ""
  parse _ := none

theorem sampleInvocation_nonempty : "inv_2" ≠ "" := by decide

/-- The invocation that observes the order of the marker. -/
def sampleContext : Context where
  scope := none
  key := "A-1"
  invocationId := ⟨"inv_2", sampleInvocation_nonempty⟩

theorem sampleMarker_readable : sampleMarker.Readable none "A-1" where
  contract := by decide
  proforma := by simp [sampleMarker]
  scope := rfl
  order := rfl
  token := by decide
  owner := rfl
  endpoint := by decide
  createdAt := rfl
  externalId := by decide

/-- The state as it is stored. -/
def storedStorno : String :=
  "\x7b\"execution_contract\":\x7b\"request_response_storno_v1\":\x7b\"document_id\":7,"
    ++ "\"fulfillment_date\":\"2026-09-11\",\"e_invoice\":false,\"appearance\":1\x7d\x7d,"
    ++ "\"version\":1,\"token\":\"inv_1\",\"owner_invocation\":\"inv_1\","
    ++ "\"created_at\":\"2026-09-11T08:00:00Z\",\"scope\":null,\"order\":\"A-1\","
    ++ "\"namespace\":\"shop\",\"external_id\":\"shop:A-1:storno:INV-1\","
    ++ "\"account_id\":\"main\",\"endpoint\":\"https://www.szamlazz.hu/szamla/\","
    ++ "\"credential_ref\":\"main\",\"operation\":\x7b\"type\":\"storno\","
    ++ "\"number\":\"INV-1\"\x7d\x7d"

/-- The parser of JSON, on that text. -/
def parseStorno (text : String) : Option Json :=
  if text = storedStorno then some sampleMarker.toJson else none

theorem recover_exactly_observed_storno :
    ∃ observation value,
      observeMarker parseStorno .protected none "A-1" (.ok (some storedStorno)) = .ok observation
        ∧ (observation = .unresolved sampleMarker
          ∨ ∃ fields, observation = .other "unresolved" fields)
        ∧ observation.reported = some value
        ∧ ∀ json w, RecoveryRequest.Carries json w →
          (Accepted parseStorno none "A-1" storedStorno json
            ↔ w.Distinct ∧ Json.sameValue w value = true) :=
  (recover_exactly_observed parseStorno storedStorno sampleContext).1 sampleMarker
    (decodeStored_eq_some.mpr
      ⟨sampleMarker.toJson, if_pos rfl, decodeMarker_toJson.mpr sampleMarker_readable⟩) .protected

/-- A marker of a worker that pins a proforma with a storno too, which this one does
not accept. -/
def newerMarker : UnresolvedWrite := { sampleMarker with proformaNumber := some "D-1" }

/-- The state that worker stored. -/
def storedNewer : String :=
  "\x7b\"execution_contract\":\x7b\"request_response_storno_v1\":\x7b\"document_id\":7,"
    ++ "\"fulfillment_date\":\"2026-09-11\",\"e_invoice\":false,\"appearance\":1\x7d\x7d,"
    ++ "\"proforma_number\":\"D-1\","
    ++ "\"version\":1,\"token\":\"inv_1\",\"owner_invocation\":\"inv_1\","
    ++ "\"created_at\":\"2026-09-11T08:00:00Z\",\"scope\":null,\"order\":\"A-1\","
    ++ "\"namespace\":\"shop\",\"external_id\":\"shop:A-1:storno:INV-1\","
    ++ "\"account_id\":\"main\",\"endpoint\":\"https://www.szamlazz.hu/szamla/\","
    ++ "\"credential_ref\":\"main\",\"operation\":\x7b\"type\":\"storno\","
    ++ "\"number\":\"INV-1\"\x7d\x7d"

/-- The parser of JSON, on that text. -/
def parseNewer (text : String) : Option Json :=
  if text = storedNewer then some newerMarker.toJson else none

/-- **What was preserved without authorizing recovery is read as a known marker.** -/
theorem observation_read_as_known :
    observeMarker parseNewer .replayEnabled none "A-1" (.ok (some storedNewer))
        = .ok (.other "unresolved" (.single "marker" newerMarker.toJson))
      ∧ UnresolvedObservation.ofJson
          (UnresolvedObservation.other "unresolved" (.single "marker" newerMarker.toJson)).toJson
        = .ok (.unresolved newerMarker)
      ∧ ¬ Survives parseNewer .replayEnabled none "A-1" (some storedNewer) := by
  have hparse : parseNewer storedNewer = some newerMarker.toJson := if_pos rfl
  have hrefused : decodeStored parseNewer storedNewer none "A-1" = none := by
    unfold decodeStored
    rw [hparse, Option.bind_some]
    by_contra h
    obtain ⟨marker, hmarker⟩ := Option.ne_none_iff_exists'.mp h
    obtain rfl := eq_of_decodeMarker_toJson hmarker
    have hcontract : newerMarker.validExecutionContract = true :=
      (decodeMarker_eq_some.mp hmarker).2.contract
    exact absurd hcontract (by decide)
  have hdate : ∀ contract ∈ newerMarker.executionContract, contract.HasSendableDate := by
    intro contract hcontract
    obtain rfl := Option.some.inj hcontract
    show (0 : Int) < 2026
    decide
  have hobserved := observeMarker_of_refused .replayEnabled hrefused
  rw [hparse] at hobserved
  have hread : UnresolvedObservation.ofJson
      (UnresolvedObservation.other "unresolved" (.single "marker" newerMarker.toJson)).toJson
      = .ok (.unresolved newerMarker) := by
    rw [UnresolvedObservation.toJson_other_marker, UnresolvedObservation.ofJson_marker,
      UnresolvedObservation.ofMarker_canonical]
    exact (UnresolvedObservation.ofJson_marker _).symm.trans
      (UnresolvedObservation.ofJson_toJson_unresolved hdate)
  refine ⟨hobserved, hread, ?_⟩
  rw [survives_iff hobserved, hread]
  simp

end Sample

end Szamlazz
