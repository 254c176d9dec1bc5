import Szamlazz.Service.OneSend

/-!
# The law of an order is kept

Every exclusive handler keeps `OrderLaw`, in either execution mode and in any world:
whatever is lost, replayed, cancelled or repeated, a change is asked for only behind the
invocation's own stored marker. The work is in the calls that send, each of which sends
one request and at most once (`OneSend`); the protocols around them are those of
`WriteRules`.
-/

namespace Szamlazz

open Durable

/-! ## What an invocation rests on -/

section Law

variable [Unicode] [Transport] [Clock] [FaultText] [RustDecimal] {W : Type} {key : String}
  {outside : Outside W} {id : InvocationId} {input : OrderInput}

/-- The invariant: the history so far is lawful. -/
def Lawfully (key : String) (h : List (OrderEvent OrderInput)) (_ : W) : Prop :=
  Lawful (OrderLaw key) h

/-- The permission of an invocation was armed. -/
def armRecord (id : InvocationId) : OrderEvent OrderInput :=
  .recorded id "arm-write" (.ok .unit)

/-- The barrier behind the marker of a replay-enabled write. -/
def barrierRecord (id : InvocationId) (operation : ReplayWrite) : OrderEvent OrderInput :=
  .recorded id (operation.step ++ "-marker-committed") (.ok .unit)

/-- The invocation has started, and sent nothing. -/
def Started (id : InvocationId) (input : OrderInput) : OrderCondition OrderInput W :=
  fun h _ => Event.invoked id input ∈ h ∧ NoSend id h

/-- The invocation has recorded what permits its send, and has sent nothing else. -/
def Begun (id : InvocationId) (input : OrderInput) (record : OrderEvent OrderInput)
    (send : AgentRequest) : OrderCondition OrderInput W :=
  fun h _ => Event.invoked id input ∈ h ∧ record ∈ h ∧ OnlySends id send h

/-- A call of an invocation that may send as long as `F` holds, and has exchanged `t`. -/
def Sending (id : InvocationId) (input : OrderInput) (record : OrderEvent OrderInput)
    (send : AgentRequest) (F : List (OrderEvent OrderInput) → Prop)
    (t : List (Exchange AgentRequest.Answer)) : OrderCondition OrderInput W :=
  fun h w => Begun id input record send h w ∧ (ReadOnly t → F h)

/-- The invocation has recorded a result that settles its write. -/
def Settled (id : InvocationId) (input : OrderInput) (operation : WriteOperation)
    (result : WriteResult) : OrderCondition OrderInput W :=
  fun h _ => Event.invoked id input ∈ h ∧ result.isUnresolved = false
    ∧ (input.config.orderExecution = .replayEnabled → result.Shows operation)
    ∧ ∃ name, Event.recorded id name (.ok (.write result)) ∈ h

/-- Nothing is learned from a read. -/
def NoFact (_ : Exchange ServiceRequest.Answer) : OrderCondition OrderInput W := fun _ _ => True

theorem lawfully_kept : Kept (orderHost key outside) (Lawfully key) where
  initial _ := lawful_nil
  drift h _ := h
  neutral e he h := by
    refine lawful_snoc.mpr ⟨h, ?_⟩
    cases e with
    | asked | stored | cleared => cases he
    | _ => trivial

omit [FaultText] [RustDecimal] in
theorem lawfully_read {h : List (OrderEvent OrderInput)} {w w' : W} {request : ServiceRequest}
    {x : request.Answer} (hread : request.Reads) (hJ : Lawfully key h w) :
    Lawfully key (h ++ [.asked id request x]) w' := by
  refine lawful_snoc.mpr ⟨hJ, ?_⟩
  cases request with
  | agent request => exact fun hmutation => absurd (hread.symm.trans hmutation) (by decide)
  | gateway | now | resolve => trivial

/-- **Reading under a condition of the history** that only the invocation's own sends
can break. -/
theorem reading_of_history {F : List (OrderEvent OrderInput) → Prop}
    (hF : ∀ h e, isSend id e = false → F h → F (h ++ [e])) :
    ReadingAt (orderHost key outside) (Lawfully key) id ServiceRequest.Reads (fun h _ => F h)
      NoFact where
  lasting :=
    { drift := fun h _ => h
      quiet := fun e he h => hF _ e (isSend_of_isQuiet he) h
      lost := fun h => h }
  facts _ := ⟨⟨fun _ _ => trivial, fun _ _ _ => trivial⟩, fun _ => trivial⟩
  keeps hr h hJ _ := ⟨lawfully_read hr hJ, hF _ _ (isSend_of_reads hr) h⟩
  keepsFact _ _ _ _ _ := trivial
  establishes _ _ _ _ := trivial

theorem reading_started : ReadingAt (orderHost key outside) (Lawfully key) id ServiceRequest.Reads
    (Started id input) NoFact :=
  reading_of_history (F := fun h => Event.invoked id input ∈ h ∧ NoSend id h)
    (fun _ _ he hs => ⟨List.mem_append_left _ hs.1, hs.2.snoc he⟩)

omit [FaultText] [RustDecimal] in
theorem Begun.snoc {record e : OrderEvent OrderInput} {send : AgentRequest}
    {h : List (OrderEvent OrderInput)} {w w' : W} (hbegun : Begun id input record send h w)
    (he : isSend id e = false) : Begun id input record send (h ++ [e]) w' :=
  ⟨List.mem_append_left _ hbegun.1, List.mem_append_left _ hbegun.2.1, hbegun.2.2.snoc he⟩

theorem reading_begun {record : OrderEvent OrderInput} {send : AgentRequest} :
    ReadingAt (orderHost key outside) (Lawfully key) id ServiceRequest.Reads
      (Begun id input record send) NoFact :=
  reading_of_history (F := fun h => Event.invoked id input ∈ h ∧ record ∈ h ∧ OnlySends id send h)
    (fun _ _ he hs =>
      ⟨List.mem_append_left _ hs.1, List.mem_append_left _ hs.2.1, hs.2.2.snoc he⟩)

/-- **A call that sends what its marker retains, once**, is lawful. -/
theorem writes_of_oneSend {record : OrderEvent OrderInput} {F : List (OrderEvent OrderInput) → Prop}
    {marker : UnresolvedWrite} {send : AgentRequest} {call : Call WriteResult}
    (hF : ∀ h e, isSend id e = false → F h → F (h ++ [e]))
    (hpermits : ∀ h, Event.invoked id input ∈ h → record ∈ h → F h →
      Quiescent id h ∧ Permitted id input h)
    (hown : OwnMarker key id input marker) (hcovers : marker.Covers send)
    {operation : WriteOperation} (hop : marker.operation = operation)
    (hone : Prog.Ensures call fun tr _ => OneSend send tr)
    (hshows : input.config.orderExecution = .replayEnabled → Prog.Ensures call fun _ result =>
      result.isUnresolved = false → result.Shows operation) :
    Writes (orderHost key outside) (Lawfully key) id (Begun id input record send) NoFact
      (Sending id input record send F) (Settled id input operation) marker call where
  reading := reading_begun
  sending t :=
    { drift := fun h _ => h
      quiet := fun e he h => ⟨h.1.snoc (isSend_of_isQuiet he), fun hro => hF _ e (isSend_of_isQuiet he) (h.2 hro)⟩ }
  settling result :=
    { drift := fun h _ => h
      quiet := fun e _ h => by
        obtain ⟨hinvoked, hresolved, hshown, name, hmem⟩ := h
        exact ⟨List.mem_append_left _ hinvoked, hresolved, hshown, name, List.mem_append_left _ hmem⟩ }
  during_of_sent _ _ _ h := h.1
  opens := by
    intro h w w' x hsent hJ hanswer
    have hread : ServiceRequest.Reads .gateway := rfl
    obtain ⟨hJ', hbegun⟩ := reading_begun.keeps (b := false) hread hsent.1 hJ hanswer
    exact ⟨hJ', hbegun, fun hro => hF _ _ (isSend_of_reads hread) (hsent.2 hro)⟩
  asks := by
    rintro t r k hs x h w w' ⟨hbegun, hfresh⟩ hJ hstored hanswer
    have hcut : OneSend send (t ++ [⟨r, x⟩]) :=
      hone.steps (fun t t' h => h.of_append) (hs.snoc x)
    cases hmutation : r.isMutation with
    | false =>
      have hread : ServiceRequest.Reads (.agent r) := hmutation
      refine ⟨lawfully_read hread hJ, hbegun.snoc (isSend_of_reads hread), fun hro => ?_⟩
      exact hF _ _ (isSend_of_reads hread) (hfresh (readOnly_append.mp hro).1)
    -- the mutation is the one send, and only reads came before it
    | true =>
      obtain ⟨rfl, hro⟩ := hcut.last hmutation
      obtain ⟨hinvoked, hrecord, hsame⟩ := hbegun
      obtain ⟨hattempt, hpermitted⟩ := hpermits h hinvoked hrecord (hfresh hro)
      refine ⟨lawful_snoc.mpr ⟨hJ, fun _ => ⟨input, marker, hinvoked, hstored, hown, hcovers, hsame,
        hattempt, hpermitted⟩⟩, ⟨List.mem_append_left _ hinvoked, List.mem_append_left _ hrecord,
        hsame.again x⟩, fun hro' => ?_⟩
      have := (readOnly_append.mp hro').2 _ List.mem_cons_self
      simp [hmutation] at this
  settles t result hr hresolved name h w hsent hJ :=
    ⟨List.mem_append_left _ hsent.1.1, hresolved, fun hreplay => hshows hreplay t result hr hresolved,
      name, by simp⟩
  reconciles diagnostic t result hr hresolved name h w hread hJ := by
    refine ⟨List.mem_append_left _ hread.1.1, hresolved, fun _ => ?_, name, by simp⟩
    rw [← hop]
    exact ((reconcileWriteDiagnostic_spec marker diagnostic t result hr).2 hresolved).shows
  clears result h w hsettled hJ hstored := by
    obtain ⟨hinvoked, hresolved, hshown, hrecorded⟩ := hsettled
    -- only the owner's own result clears the marker
    have hsettles : OwnerSettles key h id input marker result :=
      ⟨hown, hrecorded, hresolved, fun hreplay => (hshown hreplay).1⟩
    exact lawful_snoc.mpr ⟨hJ, input, marker, hinvoked, hstored,
      Or.inl ⟨result, hsettles, hop ▸ hshown⟩⟩

/-! ## The writes of an order -/

section Writes

omit [FaultText] [RustDecimal]

variable {ns : Namespace} {order : OrderKey} {seen : Readings} {exec : Execution}
  {marker : UnresolvedWrite}

/-- The one request a write sends. -/
def OrderWrite.send (exec : Execution) : OrderWrite → AgentRequest
  | create request => .create request.create
  | storno request _ => .storno (exec.account.buildStorno request)
  | delete _ found _ => .deleteProforma found.number

/-- **A write sends what its marker retains.** -/
theorem Justified.covers {write : OrderWrite} (h : Justified ns order seen write)
    (hop : marker.operation = write.operation) (hid : marker.externalId = write.externalId.text)
    (horder : marker.order = order) : marker.Covers (write.send exec) := by
  cases write with
  | create request =>
    obtain ⟨hexternal, hnumber, houtbound⟩ := request.agreement
    refine ⟨by rw [hid]; exact hexternal, by rw [horder, ← h.1]; exact hnumber, request.kind,
      request.reversed, request.correctedNumber, houtbound, hop⟩
  | storno request original => exact ⟨by rw [hid]; rfl, hop⟩
  | delete externalId found request => exact hop

/-- **The external id of a write is the one its marker composes**, from numbers that are
read back. -/
theorem Justified.expectedExternalId {write : OrderWrite}
    (h : Justified marker.namespace marker.order seen write)
    (hop : marker.operation = write.operation) (hid : marker.externalId = write.externalId.text) :
    marker.expectedExternalId = some ⟨marker.externalId⟩ := by
  have hparse : ∀ number : InvoiceNumber, (InvoiceNumber.parse number.text).toOption = some number :=
    fun number => by rw [number.parse_text]; rfl
  unfold UnresolvedWrite.expectedExternalId
  rw [hop]
  cases write with
  | create request =>
    obtain ⟨-, hslot, hlegible⟩ := h
    have hreversed : request.reversed.any
        (fun n => (InvoiceNumber.parse n).toOption.isNone) = false := by
      cases hcase : request.reversed with
      | none => rfl
      | some n =>
        obtain ⟨number, rfl⟩ := hlegible.reversed n hcase
        simp [hparse]
    show (if request.reversed.any (fun n => (InvoiceNumber.parse n).toOption.isNone) then none
      else _) = _
    rw [hreversed, if_neg Bool.false_ne_true]
    rcases hslot with ⟨kind, hkind, hslot, -, -⟩ | ⟨hkind, correction, hslot⟩
    · have hother : request.kind ≠ .corrective := by
        rw [hkind]
        cases kind <;> exact IssuedKind.noConfusion
      rw [if_neg hother, CreateStepRequest.correctedNumber_eq_none hother, hkind, hid]
      simp [OrderWrite.externalId, hslot]
    · obtain ⟨hnone, number, hbase⟩ := hlegible.base hkind
      have htext : marker.externalId
          = (ExternalId.forCorrective marker.namespace marker.order correction).text :=
        hid.trans (congrArg ExternalId.text hslot)
      have hsuffix := ExternalId.stripPrefix_forCorrective marker.namespace marker.order correction
      rw [if_pos hkind, hbase, hnone, htext]
      simp only [Option.bind_eq_bind, Option.bind_some, hparse, Option.isSome_none, hsuffix,
        correction.parse_text, Bool.false_eq_true, if_false]
      rfl
  | storno request original =>
    obtain ⟨number, hnumber, hslot⟩ := h
    rw [hid]
    simp [OrderWrite.operation, OrderWrite.externalId, hnumber, hparse, hslot]
  | delete externalId found request =>
    obtain ⟨hslot, number, hnumber⟩ := h
    rw [hid]
    simp [OrderWrite.operation, OrderWrite.externalId, hnumber, hparse, hslot]

/-- A marker prepared for a protected write. -/
theorem ownMarker_protected {externalId : ExternalId} {operation : WriteOperation}
    (hkey : order.text = key) (hconfig : exec.config = input.config)
    (hmode : input.config.orderExecution = .protected)
    (hmarker : ∃ time, marker = { exec.writeMarker ⟨input.scope, key, id⟩ order externalId operation
      with createdAt := Clock.display time }) : OwnMarker key id input marker := by
  obtain ⟨time, rfl⟩ := hmarker
  refine ⟨rfl, rfl, rfl, hkey, congrArg WorkerConfig.namespace hconfig, ?_, ?_⟩
  · rw [hmode]
    rfl
  · cases operation <;> rfl

/-- What is prepared for a replay-enabled write. -/
def PreparedFor (exec : Execution) (ctx : Context) (order : OrderKey) (externalId : ExternalId)
    (operation : WriteOperation) (prepared : UnresolvedWrite) : Prop :=
  ∃ contract proforma prepayment, prepared = { exec.writeMarker ctx order externalId operation with
    executionContract := contract, proformaNumber := proforma, prepaymentNumber := prepayment }

/-- A marker prepared under a contract. -/
theorem ownMarker_replay {externalId : ExternalId} {operation : WriteOperation}
    {prepared : UnresolvedWrite} (hkey : order.text = key) (hconfig : exec.config = input.config)
    (hmode : input.config.orderExecution = .replayEnabled)
    (hprepared : PreparedFor exec ⟨input.scope, key, id⟩ order externalId operation prepared)
    (hmarker : ReplayMarker prepared marker) : OwnMarker key id input marker := by
  have hcontract := hmarker.contract
  have hvalid := hmarker.valid
  obtain ⟨contract, proforma, prepayment, rfl⟩ := hprepared
  obtain ⟨time, rfl⟩ := hmarker.prepared
  exact ⟨rfl, rfl, rfl, hkey, congrArg WorkerConfig.namespace hconfig, by rw [hcontract, hmode]; rfl,
    hvalid⟩

/-- **An invocation's own marker is read back**, if its numbers are and its external id is
the one it composes. -/
theorem OwnMarker.decode (hown : OwnMarker key id input marker)
    (hendpoint : ∃ endpoint : Endpoint, marker.endpoint = endpoint.text)
    (hcreated : ∃ time, marker.createdAt = Clock.display time)
    (hproforma : ∀ n ∈ marker.proformaNumber, marker.executionContract.isSome = true
      ∧ (ProviderDocumentNumber.parse n).isSome = true)
    (hid : marker.expectedExternalId = some ⟨marker.externalId⟩) :
    decodeMarker marker.toJson input.scope key = some marker := by
  obtain ⟨endpoint, hendpoint⟩ := hendpoint
  obtain ⟨time, hcreated⟩ := hcreated
  exact decodeMarker_toJson.mpr
    { contract := hown.valid
      proforma := hproforma
      scope := hown.scope
      order := hown.order
      token := by
        rw [hown.token]
        exact id.nonempty
      owner := by rw [hown.token, hown.owner]
      endpoint := by rw [hendpoint, Endpoint.parse_text]; rfl
      createdAt := by rw [hcreated, Clock.parse_display]; rfl
      externalId := hid }

theorem lawfully_stored {h : List (OrderEvent OrderInput)} {w : W} (hstarted : Started id input h w)
    (hJ : Lawfully key h w) (hstored : storedAt h = none) (hown : OwnMarker key id input marker)
    (hread : decodeMarker marker.toJson input.scope key = some marker) :
    Lawfully key (h ++ [.stored id marker]) w :=
  lawful_snoc.mpr ⟨hJ, hstored, hstarted.2, input, hstarted.1, hown, hread⟩

/-- The call of a protected write sends once. -/
theorem OrderWrite.call_oneSend (write : OrderWrite) (hop : marker.operation = write.operation) :
    Prog.Ensures (write.call exec order marker) fun tr _ => OneSend (write.send exec) tr := by
  cases write with
  | create request => exact protectedCreate_oneSend request
  | storno request original => exact protectedStorno_oneSend hop
  | delete externalId found request => exact protectedDelete_oneSend found order request.force

end Writes

section Obeys

variable {ns : Namespace} {order : OrderKey} {seen : Readings} {exec : Execution}

/-- **The protected write of an order is lawful**: what permits it was recorded, and it
sends once. -/
theorem obeys_protected (write : OrderWrite) (hkey : order.text = key)
    (hconfig : exec.config = input.config) (hmode : input.config.orderExecution = .protected)
    (hjustified : Justified exec.config.namespace order seen write) :
    (exec.protectedWrite ⟨input.scope, key, id⟩ order write.externalId write.operation write.name
      (write.call exec order)).Obeys (orderHost key outside) (Lawfully key) id (fun m => m = none)
      false (Holds (Known (Started id input) NoFact seen)) := by
  have harmed : Enduring (orderHost key outside)
      (fun h w => Begun id input (armRecord id) (write.send exec) h w ∧ NoSend id h) :=
    { drift := fun hs _ => hs
      quiet := fun e he hs => ⟨hs.1.snoc (isSend_of_isQuiet he), hs.2.snoc (isSend_of_isQuiet he)⟩ }
  have hwrites : ∀ marker : UnresolvedWrite, (∃ time, marker = { exec.writeMarker
      ⟨input.scope, key, id⟩ order write.externalId write.operation with
        createdAt := Clock.display time }) →
      Writes (orderHost key outside) (Lawfully key) id (Begun id input (armRecord id) (write.send exec))
        NoFact (Sending id input (armRecord id) (write.send exec) (NoSend id))
        (Settled id input write.operation) marker (write.call exec order marker) := by
    intro marker hmarker
    have hown := ownMarker_protected hkey hconfig hmode hmarker
    have hop : marker.operation = write.operation := by
      obtain ⟨time, rfl⟩ := hmarker
      rfl
    have hcovers : marker.Covers (write.send exec) := by
      obtain ⟨time, rfl⟩ := hmarker
      exact hjustified.covers rfl rfl rfl
    refine writes_of_oneSend (fun h e he hs => hs.snoc he) ?_ hown hcovers hop (write.call_oneSend hop)
      (fun hreplay => by simp [hmode] at hreplay)
    intro h hinvoked hrecord hnone
    refine ⟨hnone.quiescent, ?_⟩
    rw [Permitted, hmode]
    exact ⟨hnone, hrecord⟩
  refine obeys_protectedWrite reading_started harmed ?_ ?_ (fun h w ha => ⟨ha.1, fun _ => ha.2⟩)
    hwrites
  · intro marker h w hmarker hs hJ hstored
    have hown := ownMarker_protected hkey hconfig hmode hmarker
    obtain ⟨time, rfl⟩ := hmarker
    refine lawfully_stored hs.1 hJ hstored hown
      (hown.decode ⟨_, rfl⟩ ⟨time, rfl⟩ (fun _ hn => ?_) (hjustified.expectedExternalId rfl rfl))
    cases hn
  · intro h w hs
    have hnone : NoSend id (h ++ [armRecord id]) := hs.1.2.snoc rfl
    exact ⟨⟨List.mem_append_left _ hs.1.1, by simp [armRecord], hnone.onlySends _⟩, hnone⟩

/-- **A replay-enabled write of an order is lawful**: its barrier was recorded, and every
execution of it sends once. -/
theorem obeys_replayed {externalId : ExternalId} {operation : WriteOperation}
    {prepared : UnresolvedWrite} {replay : ReplayWrite} {send : AgentRequest}
    {call : UnresolvedWrite → Call WriteResult} (hkey : order.text = key)
    (hconfig : exec.config = input.config) (hmode : input.config.orderExecution = .replayEnabled)
    (hprepared : PreparedFor exec ⟨input.scope, key, id⟩ order externalId operation prepared)
    (hproforma : ∀ n ∈ prepared.proformaNumber, (ProviderDocumentNumber.parse n).isSome = true)
    (hexpected : ∀ marker : UnresolvedWrite, marker.namespace = exec.config.namespace →
      marker.order = order → marker.operation = operation → marker.externalId = externalId.text →
        marker.expectedExternalId = some ⟨marker.externalId⟩)
    (hcovers : ∀ marker : UnresolvedWrite, marker.operation = operation →
      marker.externalId = externalId.text → marker.order = order → marker.Covers send)
    (hone : ∀ marker, Prog.Ensures (call marker) fun tr _ => OneSend send tr)
    (hshows : ∀ marker : UnresolvedWrite, marker.operation = operation →
      Prog.Ensures (call marker) fun _ result =>
        result.isUnresolved = false → result.Shows operation) :
    (replayEnabledWrite order externalId prepared replay call).Obeys (orderHost key outside)
      (Lawfully key) id (fun m => m = none) false (Holds (Known (Started id input) NoFact seen)) := by
  have hwrites : ∀ marker, ReplayMarker prepared marker →
      Writes (orderHost key outside) (Lawfully key) id (Begun id input (barrierRecord id replay) send)
        NoFact (Sending id input (barrierRecord id replay) send (Quiescent id))
        (Settled id input operation) marker (call marker) := by
    intro marker hmarker
    have hown := ownMarker_replay hkey hconfig hmode hprepared hmarker
    obtain ⟨hsends, hop⟩ : marker.Covers send ∧ marker.operation = operation := by
      obtain ⟨contract, proforma, prepayment, rfl⟩ := hprepared
      obtain ⟨time, rfl⟩ := hmarker.prepared
      exact ⟨hcovers _ rfl rfl rfl, rfl⟩
    -- Every execution of the write starts from the barrier, and sends only from there.
    refine writes_of_oneSend (fun h e he hs => hs.snoc he) ?_ hown hsends hop (hone marker)
      (fun _ => hshows marker hop)
    intro h hinvoked hrecord hquiescent
    refine ⟨hquiescent, ?_⟩
    rw [Permitted, hmode]
    exact ⟨replay, hrecord⟩
  refine obeys_replayEnabledWrite reading_started ?_ ?_ ?_ hwrites
  · intro marker h w hmarker hs hJ hstored
    have hown := ownMarker_replay hkey hconfig hmode hprepared hmarker
    obtain ⟨hendpoint, hcreated, hsame, hid⟩ : (∃ endpoint : Endpoint, marker.endpoint = endpoint.text)
        ∧ (∃ time, marker.createdAt = Clock.display time)
        ∧ marker.proformaNumber = prepared.proformaNumber
        ∧ marker.expectedExternalId = some ⟨marker.externalId⟩ := by
      obtain ⟨contract, proforma, prepayment, rfl⟩ := hprepared
      obtain ⟨time, rfl⟩ := hmarker.prepared
      exact ⟨⟨_, rfl⟩, ⟨time, rfl⟩, rfl, hexpected _ rfl rfl rfl rfl⟩
    refine lawfully_stored hs.1 hJ hstored hown (hown.decode hendpoint hcreated (fun n hn => ?_) hid)
    rw [hsame] at hn
    exact ⟨hmarker.contract, hproforma n hn⟩
  · intro h w hs
    have hnone : NoSend id (h ++ [barrierRecord id replay]) := hs.1.2.snoc rfl
    exact ⟨List.mem_append_left _ hs.1.1, by simp [barrierRecord], hnone.onlySends send⟩
  · exact fun name h w hbegun => ⟨hbegun.snoc rfl, fun _ => quiescent_began h name⟩

omit [Transport] [Clock] [FaultText] [RustDecimal] in
/-- The create behind its own marker: another marker's intent sends nothing. -/
theorem createReplayEnabled_guarded (request : CreateStepRequest) {c : Prop} [Decidable c]
    {P : List (Exchange AgentRequest.Answer) → WriteResult → Prop}
    (hnothing : ∀ reason, P [] (.because reason)) (h : Prog.Ensures (createReplayEnabled request) P)
    (reason : String) :
    Prog.Ensures (if c then pure (.because reason) else createReplayEnabled request) P := by
  split_ifs
  · exact Prog.ensures_ret.mpr (hnothing reason)
  · exact h

/-- **Every write of an order is lawful**, in either execution mode. -/
theorem obeys_write (write : OrderWrite) (hkey : order.text = key)
    (hconfig : exec.config = input.config)
    (hjustified : Justified exec.config.namespace order seen write) :
    (write.handler exec ⟨input.scope, key, id⟩ order).Obeys (orderHost key outside) (Lawfully key) id
      (fun m => m = none) false (Holds (Known (Started id input) NoFact seen)) := by
  unfold OrderWrite.handler
  split_ifs with hreplay
  · have hmode : input.config.orderExecution = .replayEnabled := by
      rw [← hconfig]
      cases hexecution : exec.config.orderExecution with
      | «protected» => simp [hexecution, OrderExecution.permitsReplay] at hreplay
      | replayEnabled => rfl
    have hcovers : ∀ marker : UnresolvedWrite, marker.operation = write.operation →
        marker.externalId = write.externalId.text → marker.order = order →
          marker.Covers (write.send exec) := fun marker hop hid ho => hjustified.covers hop hid ho
    have hexpected : ∀ marker : UnresolvedWrite, marker.namespace = exec.config.namespace →
        marker.order = order → marker.operation = write.operation →
          marker.externalId = write.externalId.text →
            marker.expectedExternalId = some ⟨marker.externalId⟩ := by
      intro marker hns ho hop hid
      rw [← hns, ← ho] at hjustified
      exact hjustified.expectedExternalId hop hid
    -- The three writes differ in what they send and in the numbers their marker holds.
    cases write with
    | create request =>
      obtain rfl : request.order = order := hjustified.1
      dsimp only
      unfold Execution.createReplayEnabled
      split
      · exact Handler.obeys_raise _
      · refine obeys_replayed hkey hconfig hmode ⟨_, _, _, rfl⟩ hjustified.2.2.proforma hexpected
          hcovers (fun marker => ?_) (fun marker _ => ?_)
        · exact createReplayEnabled_guarded request (fun _ => oneSend_of_readOnly readOnly_nil)
            (createReplayEnabled_oneSend request) _
        · exact createReplayEnabled_guarded request (fun _ h => by cases h)
            (createReplayEnabled_shows request) _
    | storno request original =>
      dsimp only
      unfold Execution.stornoReplayEnabled
      exact obeys_replayed hkey hconfig hmode ⟨_, _, _, rfl⟩ (fun _ hn => by cases hn) hexpected hcovers
        (fun marker => stornoReplayEnabled_oneSend exec.account request marker original)
        (fun marker hop => hop ▸ stornoReplayEnabled_shows exec.account request hop original)
    | delete externalId found request =>
      dsimp only
      unfold Execution.deleteReplayEnabled
      have hspec := fun marker => deleteReplayEnabled_spec externalId marker found request
      exact obeys_replayed hkey hconfig hmode ⟨_, _, _, rfl⟩ (fun _ hn => by cases hn) hexpected hcovers
        (fun marker => (hspec marker).mono (fun _ _ h => h.1))
        (fun marker _ => (hspec marker).mono (fun _ _ h => h.2))
  · refine obeys_protected write hkey hconfig ?_ hjustified
    rw [← hconfig]
    cases hexecution : exec.config.orderExecution with
    | «protected» => rfl
    | replayEnabled => simp [hexecution, OrderExecution.permitsReplay] at hreplay

end Obeys

/-! ## The recovery -/

omit [FaultText] [RustDecimal] in
theorem Evidenced.snoc {h : List (OrderEvent OrderInput)} {request : RecoveryRequest}
    (hevidence : Evidenced h id request) (e : OrderEvent OrderInput) :
    Evidenced (h ++ [e]) id request :=
  hevidence.imp (fun ⟨number, name, result, hnumber, hmem, hok⟩ =>
    ⟨number, name, result, hnumber, List.mem_append_left _ hmem, hok⟩)
    (fun hattested => hattested)

/-- **A recovery settles nothing but the marker it carries**, on its recorded evidence. -/
theorem recovers_of_body {body : RecoveryBody} (hrequest : input.request = .recover (.ok body))
    (hexact : Json.sameValue body.request.marker.toJson body.exactMarker = true) :
    Recovers (orderHost key outside) (Lawfully key) id (Started id input) NoFact
      (fun h _ => Event.invoked id input ∈ h ∧ Evidenced h id body.request)
      (fun h _ => Event.invoked id input ∈ h ∧ Evidenced h id body.request
        ∧ Event.recorded id "record-recovery" (.ok (.recovery body.request.receipt)) ∈ h)
      body.request where
  reading := reading_started
  verifying :=
    { drift := fun hs _ => hs
      quiet := fun e _ hs => ⟨List.mem_append_left _ hs.1, hs.2.snoc e⟩ }
  recovering :=
    { drift := fun hs _ => hs
      quiet := fun e _ hs => ⟨List.mem_append_left _ hs.1, hs.2.1.snoc e,
        List.mem_append_left _ hs.2.2⟩ }
  documents number t result hnumber _ hok name h w hread _ :=
    ⟨List.mem_append_left _ hread.1.1, Or.inl ⟨number, name, result, hnumber, by simp, hok⟩⟩
  attestations hother hcheck h w hs := ⟨hs.1, Or.inr ⟨hother, hcheck⟩⟩
  records h w hs := ⟨List.mem_append_left _ hs.1, hs.2.snoc _, by simp [RecoveryRequest.receipt]⟩
  clears h w hs hJ hstored := lawful_snoc.mpr ⟨hJ, input, body.request.marker, hs.1, hstored,
    Or.inr ⟨body, hrequest, rfl, hexact, hs.2.1, hs.2.2⟩⟩

/-! ## The handlers -/

section Requests

variable {I O : Type}
  {H : Host ServiceRequest.Answer UnresolvedWrite Journal TerminalError InvocationId I O W}
  {J : List (OrderEvent I) → W → Prop} {config : WorkerConfig} {ctx : Context}
  {P start : OrderCondition I W} {fact : Exchange ServiceRequest.Answer → OrderCondition I W}

omit [FaultText] [RustDecimal] in
/-- Answering after a handler changes nothing about it. -/
theorem obeys_answer {α : Type} {handler : Handler α} {κ : OrderAssertion I W}
    {respond : α → OrderAnswer} (h : handler.Obeys H J id (fun _ => True) false κ) :
    (handler >>= fun a => pure (respond a)).Obeys H J id (fun _ => True) false κ :=
  h.answering (fun a => ⟨.ok (respond a), rfl⟩)

/-- **Every exclusive handler respects an invariant** that its justified writes respect,
and its recovery. -/
theorem obeys_request {request : OrderRequest}
    (hR : ReadingAt H J id ServiceRequest.Reads P fact)
    (hfree : ∀ h w, start h w → J h w → storedAt h = none → P h w)
    (hwrite : ∀ order exec write seen, order.text = ctx.key → exec.config = config →
      Justified config.namespace order seen write →
        (write.handler exec ctx order).Obeys H J id (fun m => m = none) false
          (Holds (Known P fact seen)))
    (hrecover : ∀ body, request = .recover (.ok body) →
      (recoverMarker ctx body.request body.exactMarker).Obeys H J id (fun _ => True) false
        (Holds start)) :
    (request.handler config ctx).Obeys H J id (fun _ => True) false (Holds start) := by
  -- Every handler but the recovery starts with the guard and the prologue.
  have hserved : ∀ {α : Type} {order : OrderKey} {serve : Execution → Handler α},
      order.text = ctx.key → (∀ exec seen, exec.config = config →
        (serve exec).Admits config ctx order seen) →
      Handler.Obeys H J id (do
        guard
        let exec ← runPrologue ctx config
        serve exec) (fun _ => True) false (Holds start) :=
    fun hkey hserve => obeys_guarded hR hfree hserve
      (fun exec write seen hconfig hjustified => hwrite _ exec write seen hkey hconfig hjustified)
  cases request with
  | create kind body =>
    refine obeys_answer ?_
    refine Handler.obeys_lift_bind fun request _ => Handler.obeys_lift_bind fun order hkey => ?_
    refine hserved (text_of_orderKey hkey) fun exec seen hconfig => ?_
    rw [← hconfig]
    exact admits_issueKind exec _ kind request seen
  | correct body =>
    refine obeys_answer ?_
    unfold correctInvoice
    split_ifs
    · exact Handler.obeys_raise _
    · refine Handler.obeys_lift_bind fun request _ => Handler.obeys_lift_bind fun order hkey => ?_
      refine hserved (text_of_orderKey hkey) fun exec seen hconfig => ?_
      rw [← hconfig]
      exact admits_correct exec _ request seen
  | storno body =>
    refine obeys_answer ?_
    refine Handler.obeys_lift_bind fun request _ => Handler.obeys_lift_bind fun order hkey => ?_
    refine hserved (text_of_orderKey hkey) fun exec seen hconfig => ?_
    rw [← hconfig]
    exact admits_storno exec _ order request seen
  | deleteProforma body =>
    refine obeys_answer ?_
    refine Handler.obeys_lift_bind fun request _ => Handler.obeys_lift_bind fun order hkey => ?_
    refine hserved (text_of_orderKey hkey) fun exec seen hconfig => ?_
    rw [← hconfig]
    exact admits_delete exec _ order request seen
  | recover body =>
    refine obeys_answer ?_
    refine Handler.obeys_lift_bind fun recovery hbody => ?_
    exact hrecover recovery (congrArg OrderRequest.recover (Except.mapError_eq_ok.mp hbody))

end Requests

/-- **Every exclusive handler is lawful.** -/
theorem obeys_orderRequest : (input.request.handler input.config ⟨input.scope, key, id⟩).Obeys
    (orderHost key outside) (Lawfully key) id (fun _ => True) false (Holds (Started id input)) := by
  refine obeys_request reading_started (fun _ _ hs _ _ => hs) ?_ ?_
  · exact fun order exec write seen hkey hconfig hjustified =>
      obeys_write write hkey hconfig (hconfig ▸ hjustified)
  · exact fun body hrequest => obeys_recoverMarker (fun hexact => recovers_of_body hrequest hexact)
      reading_started.enduring (fun _ _ hs _ _ => hs)

end Law

end Szamlazz
