import Szamlazz.Contract.Observation
import Szamlazz.Service.WriteRules

/-!
# The order as an object

The exclusive handlers of one order, behind one key: the four creates, the correction,
the reversal, the deletion of the proforma, and the recovery. `orderHost` runs them on
any world outside. What they may do to that world is stated as a law of the history:
`OrderLaw` judges every event by the events before it, and says under which marker a
change may be asked for, when a marker may be stored, and what clears it.
-/

namespace Szamlazz

open Durable

/-! ## The handlers -/

section Handlers

variable [Unicode] [Transport] [Clock] [FaultText]

/-- Reverses an invoice of the order. -/
def Order.stornoInvoice (config : WorkerConfig) (ctx : Context) (body : Body StornoRequest) :
    Handler Contract.StornoResponse := do
  let request ← Handler.lift body.intoRequest
  let order ← Handler.lift (orderKey ctx.key)
  guard
  let exec ← runPrologue ctx config
  exec.storno ctx order request

/-- Deletes the order's expected proforma. -/
def Order.deleteProforma (config : WorkerConfig) (ctx : Context)
    (body : Body DeleteProformaRequest) : Handler Contract.DeleteProformaResponse := do
  let request ← Handler.lift body.intoRequest
  let order ← Handler.lift (orderKey ctx.key)
  guard
  let exec ← runPrologue ctx config
  exec.delete ctx order request

/-- Settles the exact marker; nothing but the body is read before the marker. -/
def Order.recover (ctx : Context) (body : Body RecoveryBody) : Handler RecoveryResponse := do
  let recovery ← Handler.lift body.intoRequest
  recoverMarker ctx recovery.request recovery.exactMarker

/-- The call of an exclusive handler. -/
inductive OrderRequest where
  | create (kind : DocumentKind) (body : Body CreateRequest)
  | correct (body : Body CorrectRequest)
  | storno (body : Body StornoRequest)
  | deleteProforma (body : Body DeleteProformaRequest)
  | recover (body : Body RecoveryBody)

/-- What an exclusive handler answers. -/
inductive OrderAnswer where
  | create (response : Contract.CreateResponse)
  | storno (response : Contract.StornoResponse)
  | deleteProforma (response : Contract.DeleteProformaResponse)
  | recover (response : RecoveryResponse)

variable [RustDecimal]

def OrderRequest.handler (config : WorkerConfig) (ctx : Context) :
    OrderRequest → Handler OrderAnswer
  | create kind body => do
    let response ← createKind kind config ctx body
    return .create response
  | correct body => do
    let response ← correctInvoice config ctx body
    return .create response
  | storno body => do
    let response ← Order.stornoInvoice config ctx body
    return .storno response
  | deleteProforma body => do
    let response ← Order.deleteProforma config ctx body
    return .deleteProforma response
  | recover body => do
    let response ← Order.recover ctx body
    return .recover response

/-- An invocation: the deployment it runs on, the scope it came in under, its call. -/
structure OrderInput where
  config : WorkerConfig
  scope : Option String
  request : OrderRequest

/-- **The world outside an order**: what it admits, how it answers, how it moves. -/
structure Outside (W : Type) where
  admits : OrderInput → W → Prop
  answers : InvocationId → W → (request : ServiceRequest) → request.Answer → W → Prop
  observes : W → (request : ServiceRequest) → request.Answer → Prop
  drift : W → W → Prop
  initial : W → Prop

/-- **The object of one order key**, in a world. -/
def orderHost {W : Type} (key : String) (outside : Outside W) :
    Host ServiceRequest.Answer UnresolvedWrite Journal TerminalError InvocationId OrderInput
      (Except HandlerError OrderAnswer) W where
  program id input := ExceptT.run (input.request.handler input.config ⟨input.scope, key, id⟩)
  admits := outside.admits
  answers := outside.answers
  observes := outside.observes
  drift := outside.drift
  initial := outside.initial

end Handlers

/-! ## Sends -/

section Sends

variable [Unicode] [Transport] [Clock] {I : Type}

/-- Whether an event is a request of the invocation for a change. -/
def isSend (id : InvocationId) : OrderEvent I → Bool
  | .asked id' request _ => id' = id && request.isMutation
  | _ => false

/-- The sends of an invocation. -/
def sends (id : InvocationId) (h : List (OrderEvent I)) : List (OrderEvent I) := h.filter (isSend id)

/-- The invocation has sent nothing. -/
def NoSend (id : InvocationId) (h : List (OrderEvent I)) : Prop := ∀ e ∈ h, isSend id e = false

/-- Whatever the invocation has sent is this request. -/
def OnlySends (id : InvocationId) (request : AgentRequest) (h : List (OrderEvent I)) : Prop :=
  ∀ other x, Event.asked id (.agent other) x ∈ h → other.isMutation = true → other = request

/-- The invocation has sent nothing since it last began to execute a run. -/
def Quiescent (id : InvocationId) (h : List (OrderEvent I)) : Prop :=
  ∀ before e after, h = before ++ e :: after → isSend id e = true →
    ∃ name, Event.began id name ∈ after

section Lemmas

variable {id : InvocationId} {h : List (OrderEvent I)} {e : OrderEvent I}

theorem isSend_of_isQuiet (he : e.isQuiet = true) : isSend id e = false := by
  cases e with
  | asked => cases he
  | _ => rfl

theorem isSend_of_reads {id' : InvocationId} {request : ServiceRequest} {x : request.Answer}
    (h : request.Reads) : isSend id (.asked id' request x : OrderEvent I) = false := by
  simp [isSend, show request.isMutation = false from h]

theorem NoSend.snoc (h' : NoSend id h) (he : isSend id e = false) : NoSend id (h ++ [e]) :=
  List.forall_mem_append.mpr ⟨h', List.forall_mem_singleton.mpr he⟩

theorem NoSend.onlySends (h' : NoSend id h) (request : AgentRequest) : OnlySends id request h := by
  intro other x hmem hmutation
  have := h' _ hmem
  simp [isSend, ServiceRequest.isMutation, hmutation] at this

theorem OnlySends.snoc {request : AgentRequest} (h' : OnlySends id request h)
    (he : isSend id e = false) : OnlySends id request (h ++ [e]) := by
  intro other x hmem hmutation
  rcases List.mem_append.mp hmem with hmem | hmem
  · exact h' other x hmem hmutation
  · obtain rfl := List.mem_singleton.mp hmem
    simp [isSend, ServiceRequest.isMutation, hmutation] at he

/-- Sending it again is allowed. -/
theorem OnlySends.again {request : AgentRequest} (h' : OnlySends id request h)
    (answer : request.Answer) : OnlySends id request (h ++ [.asked id (.agent request) answer]) := by
  intro other x hmem hmutation
  rcases List.mem_append.mp hmem with hmem | hmem
  · exact h' other x hmem hmutation
  · cases List.mem_singleton.mp hmem
    rfl

theorem NoSend.quiescent (h' : NoSend id h) : Quiescent id h := by
  rintro before e after rfl he
  have := h' e (List.mem_append_right _ List.mem_cons_self)
  simp [he] at this

theorem Quiescent.snoc (h' : Quiescent id h) (he : isSend id e = false) :
    Quiescent id (h ++ [e]) := by
  intro before d after heq hd
  rcases snoc_eq_append_cons.mp heq with ⟨-, -, rfl⟩ | ⟨rest, rfl, rfl⟩
  · simp [he] at hd
  · obtain ⟨name, hname⟩ := h' before d rest rfl hd
    exact ⟨name, List.mem_append_left _ hname⟩

/-- A run that begins has sent nothing yet. -/
theorem quiescent_began (h : List (OrderEvent I)) (name : String) :
    Quiescent id (h ++ [.began id name]) := by
  intro before d after heq hd
  rcases snoc_eq_append_cons.mp heq with ⟨-, -, rfl⟩ | ⟨rest, rfl, -⟩
  · cases hd
  · exact ⟨name, by simp⟩

end Lemmas

end Sends

/-! ## The law -/

/-- The request is the one the marker retains. -/
def UnresolvedWrite.Covers [Unicode] (marker : UnresolvedWrite) : AgentRequest → Prop
  | .query _ => False
  | .create create => create.externalId = some marker.externalId
      ∧ create.header.orderNumber = some marker.order.text
      ∧ ∃ kind expected base, CreateStepRequest.outbound create.kind = some (kind, base)
        ∧ marker.operation = .create kind expected base
  | .storno storno => storno.externalId = some marker.externalId
      ∧ marker.operation = .storno storno.invoiceNumber
  | .deleteProforma number => marker.operation = .delete number

/-- What shows that a write was made. -/
def WriteResult.isPositive : WriteResult → Bool
  | .create (.issued _) | .create (.found _) | .create (.reconciled _) | .create (.reversed _) => true
  | .storno (.reversed _) | .storno (.alreadyReversed _ _) => true
  | .delete .deleted => true
  | _ => false

/-- Whether a result is one of an operation of this kind. -/
def WriteResult.isOf : WriteResult → WriteOperation → Bool
  | .create _, .create _ _ _ | .storno _, .storno _ | .delete _, .delete _ => true
  | _, _ => false

/-- **What shows that an operation was made**: a positive result of its own kind. -/
def WriteResult.Shows (result : WriteResult) (operation : WriteOperation) : Prop :=
  result.isPositive = true ∧ result.isOf operation = true

section Law

variable [Unicode] [Transport] [Clock]

/-- **The marker of an invocation of the key.** -/
structure OwnMarker (key : String) (id : InvocationId) (input : OrderInput)
    (marker : UnresolvedWrite) : Prop where
  token : marker.token = id.text
  owner : marker.ownerInvocation = id.text
  scope : marker.scope = input.scope
  order : marker.order.text = key
  inNamespace : marker.namespace = input.config.namespace
  contract : marker.executionContract.isSome = input.config.orderExecution.permitsReplay
  valid : marker.validExecutionContract = true

/-- What permits an invocation to send: the recorded arming, once; or the recorded
barrier behind the marker. -/
def Permitted (id : InvocationId) (input : OrderInput) (h : List (OrderEvent OrderInput)) : Prop :=
  match input.config.orderExecution with
  | .protected => NoSend id h ∧ Event.recorded id "arm-write" (.ok .unit) ∈ h
  | .replayEnabled => ∃ operation : ReplayWrite,
      Event.recorded id (operation.step ++ "-marker-committed") (.ok .unit) ∈ h

/-- **A send under the law**: behind the invocation's own stored marker, which retains
it, by an execution that has sent nothing else, and the same as any earlier one sent. -/
structure LawfulSend (key : String) (h : List (OrderEvent OrderInput)) (id : InvocationId)
    (request : AgentRequest) (input : OrderInput) (marker : UnresolvedWrite) : Prop where
  invoked : Event.invoked id input ∈ h
  stored : storedAt h = some marker
  own : OwnMarker key id input marker
  covers : marker.Covers request
  same : OnlySends id request h
  attempt : Quiescent id h
  permitted : Permitted id input h

/-- **The owner's settlement** of its marker: a result was recorded that is not
uncertain, and under a replay-enabled execution a positive one. -/
structure OwnerSettles (key : String) (h : List (OrderEvent OrderInput)) (id : InvocationId)
    (input : OrderInput) (marker : UnresolvedWrite) (result : WriteResult) : Prop where
  own : OwnMarker key id input marker
  recorded : ∃ name, Event.recorded id name (.ok (.write result)) ∈ h
  resolved : result.isUnresolved = false
  positive : input.config.orderExecution = .replayEnabled → result.isPositive = true

/-- The evidence of a recovery: the document it names was read and checked, or it is an
attestation that holds on its face. -/
def Evidenced (h : List (OrderEvent OrderInput)) (id : InvocationId) (request : RecoveryRequest) :
    Prop :=
  (∃ number name result, request.evidence = .document number
      ∧ Event.recorded id name (.ok (.write result)) ∈ h ∧ checkVerified result = .ok ())
    ∨ (∀ number, request.evidence ≠ .document number)
      ∧ checkEvidence request.marker.operation request.evidence = .ok ()

/-- What a recovery records of itself. -/
def RecoveryRequest.receipt (request : RecoveryRequest) : RecoveryResponse where
  token := request.marker.token
  operator := request.operator
  evidence := request.evidence.toJson

/-- **The settlement by an operator**: the recovery carries the very marker, its evidence
is there, and the receipt was recorded. -/
structure OperatorSettles (h : List (OrderEvent OrderInput)) (id : InvocationId)
    (input : OrderInput) (marker : UnresolvedWrite) (body : RecoveryBody) : Prop where
  request : input.request = .recover (.ok body)
  same : body.request.marker = marker
  exact : Json.sameValue marker.toJson body.exactMarker = true
  evidence : Evidenced h id body.request
  receipt : Event.recorded id "record-recovery" (.ok (.recovery body.request.receipt)) ∈ h

/-- **The law of an order's history**: when a change may be asked for, which marker may be
stored and when, and when it may be cleared. -/
def OrderLaw (key : String) (h : List (OrderEvent OrderInput)) : OrderEvent OrderInput → Prop
  | .asked id (.agent request) _ => request.isMutation = true →
      ∃ input marker, LawfulSend key h id request input marker
  | .stored id marker => storedAt h = none ∧ NoSend id h
      ∧ ∃ input, Event.invoked id input ∈ h ∧ OwnMarker key id input marker
        ∧ decodeMarker marker.toJson input.scope key = some marker
  | .cleared id => ∃ input marker, Event.invoked id input ∈ h ∧ storedAt h = some marker
      ∧ ((∃ result, OwnerSettles key h id input marker result
          ∧ (input.config.orderExecution = .replayEnabled → result.Shows marker.operation))
        ∨ ∃ body, OperatorSettles h id input marker body)
  | _ => True

end Law

end Szamlazz
