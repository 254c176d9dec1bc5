import Szamlazz.Contract.Order
import Szamlazz.Gateway.Build
import Szamlazz.Gateway.Delete
import Szamlazz.Gateway.ReplayCreate
import Szamlazz.Lib.DurableLogic

/-!
# The runtime of the handlers

What an Order handler can do: ask the outside inside a run, have the result of
the run journaled under a type of the closed list `Journal`, and read, set and
clear the marker. A run ends with a result, or with a terminal error whose code
tells a cancellation (409) from an exhausted policy (500) and from an
initialization that failed (503); everything else is retried by the host.

The retry policies of the runs are the host's and do not appear: what a closure
returns is either journaled or executed again, and the host may end it with an
error at any moment.
-/

namespace Szamlazz

open Durable

/-! ## Deployment and context -/

/-- How the writes of the orders are executed. -/
inductive OrderExecution where
  /-- One send, behind a permission no replay restores. -/
  | «protected»
  /-- Unfinished executions may send again. -/
  | replayEnabled
deriving DecidableEq

def OrderExecution.permitsReplay : OrderExecution → Bool
  | .protected => false
  | .replayEnabled => true

/-- The settings of a deployment. -/
structure WorkerConfig where
  «namespace» : Namespace
  orderExecution : OrderExecution

/-- The id of an invocation. -/
structure InvocationId where
  text : String
  nonempty : text ≠ ""
deriving DecidableEq

/-- The context of an exclusive handler. -/
structure Context where
  scope : Option String
  key : String
  invocationId : InvocationId

/-! ## Terminal errors -/

/-- What a run ends with when it has no result. -/
structure TerminalError where
  code : Nat
  message : String
deriving DecidableEq

/-- What a handler ends with when it has no answer. -/
inductive HandlerError where
  | fault (fault : Fault)
  | terminal (error : TerminalError)
deriving DecidableEq

/-- The JSON text of a fault, as it travels inside a terminal error. -/
class FaultText where
  text : Fault → String
  parse : String → Option Fault

/-- The HTTP status of a known code. -/
def TerminalCode.status : TerminalCode → Option Nat
  | .invalidInput | .unknownAccount => some 400
  | .notFound => some 404
  | .cancelled => some 409
  | .szamlazzError => some 422
  | .outcomeUnknown => some 500
  | .unavailable | .credentialsRejected => some 503
  | .other _ => none

/-- Whether a run ended because the invocation was cancelled. -/
def TerminalError.isCancelled (error : TerminalError) : Bool := error.code = 409

/-- The cause is taken from the verdict of the run, never from its prose. -/
def Fault.withRunCause (fault : Fault) (error : TerminalError) : Fault :=
  if error.isCancelled then { fault with cause := some .cancelled } else fault

/-- The answered codes no document can be concluded from. -/
inductive AnsweredCode where
  | credentialsRejected (answer : SzamlazzAnswer)
  | inconclusive (answer : SzamlazzAnswer)

def AnsweredCode.toFault : AnsweredCode → Fault
  | credentialsRejected answer => .credentialsRejected answer
  | inconclusive answer => .inconclusiveAnswer answer

section FaultText

variable [FaultText]

/-- A fault that ends the run it is raised in; one of an unknown code cannot, and
the run is retried. -/
def Fault.toClosed {T : Type} (fault : Fault) : Closed T TerminalError :=
  match fault.code.status with
  | some code => .failed ⟨code, FaultText.text fault⟩
  | none => .retry

/-- The fault of a failed initialization, which alone ends a run with 503. -/
def initializationFault (error : TerminalError) (next : String) : Option Fault :=
  if error.code = 503 then
    ((FaultText.parse error.message).filter (fun fault => fault.code = .unavailable)).map
      (fun fault => { fault with message := fault.message ++ "; " ++ next })
  else none

/-- The fault of a read that ended without an answer. -/
def readExhausted (step : String) (error : TerminalError) : Fault :=
  match initializationFault error
    "reconcile any earlier write before deliberately renewing; use a fresh invocation for a new read" with
  | some fault => fault
  | none =>
    if error.isCancelled then
      .cancelled ("the " ++ step ++ " read was cancelled (" ++ toString error.code
        ++ ") before szamlazz.hu answered; nothing was sent")
    else
      .unavailable ("the " ++ step ++ " read ended without an answer from szamlazz.hu ("
        ++ toString error.code ++ "): " ++ error.message
        ++ "; reconcile any earlier write before deliberately renewing; use a fresh invocation for a new read")

end FaultText

/-! ## What is asked outside -/

/-- Why a resolver names no account. -/
inductive ResolveError where
  | unscoped
  | unknown (scope : String)
  /-- Also when it did not answer in time. -/
  | unavailable

/-- A request made inside a run. -/
inductive ServiceRequest where
  | agent (request : AgentRequest)
  /-- The credentials and the client. -/
  | gateway
  | now
  | resolve (scope : Option String)

/-- Whether a request asks szamlazz.hu to change anything. -/
def ServiceRequest.isMutation : ServiceRequest → Bool
  | agent request => request.isMutation
  | gateway | now | resolve _ => false

section Outside

variable [Transport] [Clock]

/-- What a request is answered with. -/
def ServiceRequest.Answer : ServiceRequest → Type
  | agent request => request.Answer
  | gateway => Except Fault Unit
  | now => Clock.Timestamp
  | resolve _ => Except ResolveError Account

/-- What runs inside a closure. -/
abbrev Inside (α : Type) : Type := Prog (Act.Ans ServiceRequest.Answer) α

namespace Inside

/-- A call of the gateway. -/
def call {α : Type} (p : Call α) : Inside α :=
  p.embed (fun request => Act.ask (.agent request)) (fun _ answer => answer)

/-- The credentials are fetched and the client opened only inside a run that
executes. -/
def gateway : Inside (Except Fault Unit) := Prog.perform (Act.ask ServiceRequest.gateway)

def now : Inside Clock.Timestamp := Prog.perform (Act.ask ServiceRequest.now)

def resolve (scope : Option String) : Inside (Except ResolveError Account) :=
  Prog.perform (Act.ask (ServiceRequest.resolve scope))

/-- Exchanges the permission of the execution. -/
def swap (permit : Bool) : Inside Bool := Prog.perform (Act.swap permit)

end Inside

end Outside

/-! ## The journal -/

section Journal

variable [Unicode] [Transport]

/-- A marker that carries a valid contract of its operation: a recorded result of
its own kind, which no other kind of preparation can be taken for. -/
structure ReplayIntent where
  marker : UnresolvedWrite
  contract : marker.executionContract.isSome = true
  valid : marker.validExecutionContract = true

/-- The intent of a marker. -/
def ReplayIntent.new (marker : UnresolvedWrite) : Except String ReplayIntent :=
  if h : marker.executionContract.isSome = true ∧ marker.validExecutionContract = true then
    .ok ⟨marker, h.1, h.2⟩
  else .error "replay intent requires a valid operation-specific execution contract"

/-- The intent, prepared at a time. -/
def ReplayIntent.preparedAt (intent : ReplayIntent) (createdAt : String) : ReplayIntent where
  marker := { intent.marker with createdAt := createdAt }
  contract := intent.contract
  valid := intent.valid

/-- The recorded answer of the resolver. -/
inductive Resolution where
  | account (account : Account)
  | unscoped
  | unknown (scope : String)

/-- **What a run can record.** -/
inductive Journal where
  | unit
  | marker (marker : UnresolvedWrite)
  | intent (intent : ReplayIntent)
  | recovery (receipt : RecoveryResponse)
  | write (result : WriteResult)
  | «namespace» (ns : Namespace)
  | resolution (resolution : Resolution)
  | query (outcome : QueryOutcome)
  | ownership (outcome : OwnershipOutcome)
  | lookup (outcome : LookupOutcome)
  | stornoLookup (outcome : StornoLookupOutcome)
  | storno (outcome : StornoOutcome)

/-- A type the runs record: read back, a result is the one recorded. -/
class Journaled (T : Type) where
  encode : T → Journal
  decode : Journal → Option T
  decode_encode : ∀ value, decode (encode value) = some value

instance : Journaled Unit where
  encode _ := .unit
  decode
    | .unit => some ()
    | _ => none
  decode_encode _ := rfl

instance : Journaled UnresolvedWrite where
  encode := .marker
  decode
    | .marker marker => some marker
    | _ => none
  decode_encode _ := rfl

instance : Journaled ReplayIntent where
  encode := .intent
  decode
    | .intent intent => some intent
    | _ => none
  decode_encode _ := rfl

instance : Journaled RecoveryResponse where
  encode := .recovery
  decode
    | .recovery receipt => some receipt
    | _ => none
  decode_encode _ := rfl

instance : Journaled WriteResult where
  encode := .write
  decode
    | .write result => some result
    | _ => none
  decode_encode _ := rfl

instance : Journaled Namespace where
  encode := .namespace
  decode
    | .namespace ns => some ns
    | _ => none
  decode_encode _ := rfl

instance : Journaled Resolution where
  encode := .resolution
  decode
    | .resolution resolution => some resolution
    | _ => none
  decode_encode _ := rfl

instance : Journaled QueryOutcome where
  encode := .query
  decode
    | .query outcome => some outcome
    | _ => none
  decode_encode _ := rfl

instance : Journaled OwnershipOutcome where
  encode := .ownership
  decode
    | .ownership outcome => some outcome
    | _ => none
  decode_encode _ := rfl

instance : Journaled LookupOutcome where
  encode := .lookup
  decode
    | .lookup outcome => some outcome
    | _ => none
  decode_encode _ := rfl

instance : Journaled StornoLookupOutcome where
  encode := .stornoLookup
  decode
    | .stornoLookup outcome => some outcome
    | _ => none
  decode_encode _ := rfl

instance : Journaled StornoOutcome where
  encode := .storno
  decode
    | .storno outcome => some outcome
    | _ => none
  decode_encode _ := rfl

end Journal

/-! ## Handlers and their runs -/

/-- The end of a closure, its result encoded for the journal. -/
def closedAs [Unicode] [Transport] {T : Type} [Journaled T] :
    Closed T TerminalError → Closed Journal TerminalError
  | .done value => .done (Journaled.encode value)
  | .failed error => .failed error
  | .retry => .retry

section Handler

variable [Unicode] [Transport] [Clock]

/-- The text of a handler that returns. -/
abbrev HandlerFlow (α : Type) : Type :=
  Flow ServiceRequest.Answer UnresolvedWrite Journal TerminalError α

/-- The text of a handler that returns or fails. -/
abbrev Handler (α : Type) : Type := ExceptT HandlerError HandlerFlow α

namespace Handler

/-- A fault. -/
def raise {α : Type} (fault : Fault) : Handler α := throw (.fault fault)

/-- A result that may be a fault. -/
def lift {α : Type} : Except Fault α → Handler α
  | .ok value => pure value
  | .error fault => raise fault

/-- The same handler, its faults completed. -/
def mapFault {α : Type} (f : Fault → Fault) (handler : Handler α) : Handler α :=
  ExceptT.mk (ExceptT.run handler >>= fun
    | .ok value => pure (.ok value)
    | .error (.fault fault) => pure (.error (.fault (f fault)))
    | .error error => pure (.error error))

/-- How a recorded entry is read back. -/
def ofEntry {T : Type} [Journaled T] (fault : TerminalError → HandlerError) :
    Except TerminalError Journal → Except HandlerError T
  | .ok entry =>
    match Journaled.decode entry with
    | some value => .ok value
    | none => .error (.terminal ⟨500, "the recorded result is of another type"⟩)
  | .error error => .error (fault error)

/-- The closure of a run, its result encoded. -/
def closure {T : Type} [Journaled T] (body : Inside (Closed T TerminalError)) :
    Inside (Closed Journal TerminalError) :=
  body >>= fun closed => pure (closedAs closed)

/-- **A run**: its result is journaled under the name, and awaited. -/
def run {T : Type} [Journaled T] (name : String) (fault : TerminalError → HandlerError)
    (body : Inside (Closed T TerminalError)) : Handler T :=
  ExceptT.mk (Flow.run name (closure body) (fun entry => Flow.ret (ofEntry fault entry)))

end Handler

/-- A pure step of the prologue. -/
def runOnce {T : Type} [Journaled T] (name : String) (value : T) : Handler T :=
  Handler.run name
    (fun error =>
      if error.isCancelled then
        .fault (.cancelled "namespace pinning was cancelled; nothing was sent")
      else .terminal error)
    (pure (.done value))

variable [FaultText]

/-- The closure of a read: unavailable credentials and an unanswered read are
retried, since an exclusive handler keeps its work. -/
def readingClosure {T : Type} (p : Call (Except Unanswered T)) :
    Inside (Closed T TerminalError) := do
  let acquired ← Inside.gateway
  match acquired with
  | .error _ => return .retry
  | .ok () => do
    let answer ← Inside.call p
    match answer with
    | .ok value => return .done value
    | .error _ => return .retry

/-- A read. -/
def runReading {T : Type} [Journaled T] (name : String) (p : Call (Except Unanswered T)) :
    Handler T :=
  Handler.run name (fun error => .fault (readExhausted name error)) (readingClosure p)

/-- The closure of an operation whose failed initialization ends its run. -/
def operatingClosure {T U : Type} (p : Call (Except U T)) :
    Inside (Closed T TerminalError) := do
  let acquired ← Inside.gateway
  match acquired with
  | .error fault => return fault.toClosed
  | .ok () => do
    let answer ← Inside.call p
    match answer with
    | .ok value => return .done value
    | .error _ => return .retry

/-- A read of a handler that keeps no work: its policy is bounded, and a failed
initialization ends it. -/
def runReadingWithPolicy {T : Type} [Journaled T] (name : String)
    (p : Call (Except Unanswered T)) : Handler T :=
  Handler.run name (fun error => .fault (readExhausted name error)) (operatingClosure p)

/-- A read whose handler already knows its answer and only lacks a detail: a
failure is no detail, a cancellation stays one. -/
def runBestEffort {T : Type} [Journaled T] (name : String) (p : Call (Except Unanswered T)) :
    Handler (Option T) :=
  ExceptT.mk (ExceptT.run (Handler.run (T := T) name .terminal (operatingClosure p)) >>= fun
    | .ok value => pure (.ok (some value))
    | .error (.terminal error) =>
      if error.isCancelled then pure (.error (.fault (readExhausted name error)))
      else pure (.ok none)
    | .error error => pure (.error error))

end Handler

end Szamlazz
