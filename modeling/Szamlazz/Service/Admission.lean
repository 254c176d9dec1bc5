import Szamlazz.Lib.DurableRules
import Szamlazz.Service.Legible

/-!
# What comes before a write

Every handler of an order first reads and then makes at most one write. This module
takes the handlers apart along that line: `Handler.OnlyReads` for what only reads,
`OrderWrite` for the writes there are, and `Handler.Admits` for a handler that comes
to one of them only after reads that `Justified` it. What the creates rest on is the
reads of the other kinds' slots; the target itself is read again by the write.
-/

namespace Szamlazz

open Durable

/-! ## Reading -/

/-- A request that changes nothing. -/
def ServiceRequest.Reads (request : ServiceRequest) : Prop := request.isMutation = false

/-- A call that changes nothing. -/
def ReadingCall {α : Type} (p : Call α) : Prop := p.OnlyAsks (fun request => request.isMutation = false)

section Calls

variable [Unicode]

omit [Unicode] in
/-- A call whose exchanges are queries reads. -/
theorem readingCall_of_readOnly {α : Type} {p : Call α}
    (h : Prog.Ensures p fun tr _ => ReadOnly tr) : ReadingCall p :=
  Prog.onlyAsks_of_ensures h

omit [Unicode] in
/-- Verifying a number reads. -/
theorem readingCall_verify (number : String) : ReadingCall (verify number) :=
  ⟨rfl, fun _ => trivial⟩

/-- Asking for the order's documents reads. -/
theorem readingCall_hint (order : OrderKey) : ReadingCall (hint order) :=
  ⟨rfl, fun _ => trivial⟩

/-- Looking for the order's own document reads. -/
theorem readingCall_lookupOurs (externalId : ExternalId) (order : OrderKey) (kind : IssuedKind) :
    ReadingCall (lookupOurs externalId order kind) :=
  ⟨rfl, fun _ => trivial⟩

/-- The hint of a lookup reads. -/
theorem readingCall_lookupHint (request : LookupRequest) (blockProforma : Bool)
    (reversed : Option FoundDocument) :
    ReadingCall (lookupHint request blockProforma reversed) := by
  unfold lookupHint
  split_ifs
  · rw [hintRaw_bind]
    refine ⟨rfl, fun answer => ?_⟩
    dsimp only
    split
    · split_ifs <;> trivial
    · split <;> trivial
  · trivial

/-- So does the lookup as a whole. -/
theorem readingCall_lookupInner (request : LookupRequest) (blockProforma : Bool) :
    ReadingCall (lookupInner request blockProforma) := by
  rw [lookupInner, seen_bind]
  refine ⟨rfl, fun answer => ?_⟩
  dsimp only
  split
  · trivial
  · trivial
  · exact readingCall_lookupHint request blockProforma _
  · exact readingCall_lookupHint request blockProforma _
  · split
    · exact readingCall_lookupHint request blockProforma _
    · trivial
    · trivial
    · trivial

/-- Looking for the storno of a document reads. -/
theorem readingCall_lookupOrderStorno (externalId : ExternalId) (order : OrderKey)
    (number : String) : ReadingCall (lookupOrderStorno externalId order number) := by
  refine readingCall_of_readOnly ((lookupOrderStornoChecked_spec externalId order number).bind ?_)
  rintro tr checked ⟨hro, -⟩
  split
  · simpa using hro
  · split <;> simpa using hro

end Calls

section Handlers

variable [Unicode] [Transport] [Clock]

/-- What a handler has read so far. -/
abbrev Readings : Type := List (Exchange ServiceRequest.Answer)

omit [Unicode] in
/-- What szamlazz.hu answered in a closure was asked by it. -/
theorem mem_asks_of_agentExchanges {t : List (Exchange (Act.Ans ServiceRequest.Answer))}
    {request : AgentRequest} {answer : request.Answer} (h : ⟨request, answer⟩ ∈ agentExchanges t) :
    (⟨.agent request, answer⟩ : Exchange ServiceRequest.Answer) ∈ asks t := by
  induction t with
  | nil => exact by cases h
  | cons e t ih =>
    obtain ⟨act, x⟩ := e
    cases act with
    | swap permit => exact ih h
    | ask r =>
      cases r with
      | agent r =>
        rcases List.mem_cons.mp h with heq | h
        · cases heq
          exact List.mem_cons_self
        · exact List.mem_cons_of_mem _ (ih h)
      | gateway | now | resolve scope => exact List.mem_cons_of_mem _ (ih h)

omit [Unicode] in
/-- A closure that asks reading requests alone is one that reads. -/
theorem readsOnly_of_onlyAsks {R E : Type} {body : Prog (Act.Ans ServiceRequest.Answer) (Closed R E)}
    (h : body.OnlyAsks fun act => ∃ request, act = Act.ask request ∧ request.Reads) :
    Closure.ReadsOnly ServiceRequest.Reads body := by
  induction body with
  | ret closed => trivial
  | call act k ih =>
    obtain ⟨⟨request, rfl, hreads⟩, hk⟩ := h
    exact ⟨hreads, fun x => ih x (hk x)⟩

omit [Unicode] in
/-- A call of the agent inside a closure asks for what it reads. -/
theorem onlyAsks_call {α : Type} {p : Call α} (h : ReadingCall p) :
    (Inside.call p).OnlyAsks fun act => ∃ request, act = Act.ask request ∧ request.Reads :=
  h.embed (fun request hrequest => ⟨.agent request, rfl, hrequest⟩)

/-- **A handler that only reads.** -/
def Handler.OnlyReads {α : Type} (handler : Handler α) : Prop :=
  Flow.OnlyReads ServiceRequest.Reads (ExceptT.run handler)

namespace Handler

variable {α β T : Type}

/-- A handler that is done asks nothing. -/
theorem onlyReads_pure (a : α) : (pure a : Handler α).OnlyReads := trivial

/-- A result that was computed asks nothing. -/
theorem onlyReads_lift (result : Except Fault α) : (lift result).OnlyReads := by
  cases result <;> trivial

/-- A sequence of handlers that read reads. -/
theorem OnlyReads.bind {handler : Handler α} {next : α → Handler β} (h : handler.OnlyReads)
    (hnext : ∀ a, (next a).OnlyReads) : (handler >>= next).OnlyReads :=
  Flow.OnlyReads.bind h (fun result => by
    cases result with
    | ok a => exact hnext a
    | error error => trivial)

/-- Renaming faults asks nothing. -/
theorem OnlyReads.mapFault {handler : Handler α} (h : handler.OnlyReads) (f : Fault → Fault) :
    (mapFault f handler).OnlyReads :=
  Flow.OnlyReads.bind h (fun result => by
    cases result with
    | ok a => trivial
    | error error => cases error <;> trivial)

/-- A run whose closure reads. -/
theorem onlyReads_run [Journaled T] {name : String} {fault : TerminalError → HandlerError}
    {body : Inside (Closed T TerminalError)}
    (h : body.OnlyAsks fun act => ∃ request, act = Act.ask request ∧ request.Reads) :
    (run name fault body).OnlyReads :=
  ⟨readsOnly_of_onlyAsks (h.bind fun _ => trivial), fun _ => trivial⟩

end Handler

/-- The prologue pins the namespace and asks the resolver. -/
theorem onlyReads_runPrologue (ctx : Context) (config : WorkerConfig) :
    (runPrologue ctx config).OnlyReads := by
  have hpin : (runOnce "namespace" config.namespace).OnlyReads :=
    Handler.onlyReads_run (T := Namespace) (show Prog.OnlyAsks _
      (pure (.done config.namespace) : Inside (Closed Namespace TerminalError)) from trivial)
  refine hpin.bind fun _ => ?_
  refine Handler.OnlyReads.bind ?_ fun _ => ?_
  · rw [resolveClosure_eq]
    exact Handler.onlyReads_run ⟨⟨_, rfl, rfl⟩, fun _ => trivial⟩
  · exact (Handler.onlyReads_lift _).bind fun _ => Handler.onlyReads_pure _

variable [FaultText]

/-- A reading step. -/
theorem onlyReads_runReading {T : Type} [Journaled T] (name : String)
    {p : Call (Except Unanswered T)} (h : ReadingCall p) : (runReading name p).OnlyReads := by
  refine Handler.onlyReads_run ⟨⟨_, rfl, rfl⟩, fun acquired => ?_⟩
  cases acquired with
  | error fault => trivial
  | ok _ =>
    refine (onlyAsks_call h).bind fun answer => ?_
    cases answer <;> trivial

omit [Unicode] in
/-- The closure of an operating step asks what its call does. -/
theorem onlyAsks_operatingClosure {T U : Type} {p : Call (Except U T)} (h : ReadingCall p) :
    (operatingClosure p).OnlyAsks fun act => ∃ request, act = Act.ask request ∧ request.Reads := by
  refine ⟨⟨_, rfl, rfl⟩, fun acquired => ?_⟩
  cases acquired with
  | error fault => trivial
  | ok _ =>
    refine (onlyAsks_call h).bind fun answer => ?_
    cases answer <;> trivial

/-- A step whose failure is an answer. -/
theorem onlyReads_runBestEffort {T : Type} [Journaled T] (name : String)
    {p : Call (Except Unanswered T)} (h : ReadingCall p) : (runBestEffort name p).OnlyReads := by
  refine Flow.OnlyReads.bind (Handler.onlyReads_run (onlyAsks_operatingClosure h)) fun result => ?_
  cases result with
  | ok value => trivial
  | error error =>
    cases error with
    | fault fault => trivial
    | terminal error =>
      dsimp only
      split_ifs <;> trivial

/-- The verification step. -/
theorem onlyReads_verify (name number : String) : (Handler.verify name number).OnlyReads :=
  onlyReads_runReading name (readingCall_verify number)

/-- The lookup step. -/
theorem onlyReads_lookup (name : String) (externalId : ExternalId) (order : OrderKey)
    (kind : IssuedKind) : (Handler.lookup name externalId order kind).OnlyReads :=
  (onlyReads_runReading name (readingCall_lookupOurs externalId order kind)).mapFault _

/-- The step that looks for a storno. -/
theorem onlyReads_stornoOf (order : OrderKey) (number : String) (stornoId : ExternalId) :
    (Handler.stornoOf order number stornoId).OnlyReads := by
  refine (onlyReads_runBestEffort _ (readingCall_hint order)).bind fun outcome => ?_
  cases outcome with
  | none => exact Handler.onlyReads_pure _
  | some outcome => exact Handler.onlyReads_lift _

end Handlers

/-! ## The writes -/

/-- **The one write an invocation may make.** -/
inductive OrderWrite [Unicode] where
  | create (request : CreateStepRequest)
  | storno (request : StornoStepRequest) (original : FoundDocument)
  | delete (externalId : ExternalId) (found : FoundDocument) (request : DeleteProformaRequest)

section Writes

variable [Unicode] [Transport] [Clock]

namespace OrderWrite

/-- What is recorded about a write as its operation. -/
def operation : OrderWrite → WriteOperation
  | create request => request.operation
  | storno request _ => .storno request.invoiceNumber
  | delete _ found _ => .delete found.number

/-- The external id a write is made under. -/
def externalId : OrderWrite → ExternalId
  | create request => request.externalId
  | storno request _ => request.externalId
  | delete externalId _ _ => externalId

/-- The name of the run that sends. -/
def name : OrderWrite → String
  | create request => "create-" ++ request.kind.asStr
  | storno request _ => "storno-" ++ request.invoiceNumber
  | delete _ found _ => "delete-proforma-" ++ found.number

/-- The protected call. -/
def call (exec : Execution) (order : OrderKey) : OrderWrite → UnresolvedWrite → Call WriteResult
  | create request, _ => protectedCreate request
  | storno request _, marker => protectedStorno exec.account request marker
  | delete _ found request, _ => protectedDelete found order request.force

/-- The write, as the deployment executes it. -/
def handler (exec : Execution) (ctx : Context) (order : OrderKey) (write : OrderWrite) :
    Handler WriteResult :=
  if exec.config.orderExecution.permitsReplay then
    match write with
    | create request => exec.createReplayEnabled ctx request
    | storno request original => exec.stornoReplayEnabled ctx order request original
    | delete externalId found request =>
      exec.deleteReplayEnabled ctx order externalId found request
  else
    exec.protectedWrite ctx order write.externalId write.operation write.name
      (write.call exec order)

end OrderWrite

omit [Unicode] [Transport] [Clock] in
/-- A slot without a live document, as a query of it was answered. -/
def HoldsNoLive (holder : Except QueryError FoundDocument) : Prop :=
  holder = .error .notFound ∨ ∃ found, holder = .ok found ∧ found.isLive = false

omit [Unicode] [Transport] [Clock] in
/-- A slot with a live document. -/
def HoldsLive (holder : Except QueryError FoundDocument) : Prop :=
  ∃ found, holder = .ok found ∧ found.isLive = true

/-- The slot of a kind was read, and found as `P` says. -/
def SlotSeen (P : Except QueryError FoundDocument → Prop) (ns : Namespace) (order : OrderKey)
    (other : DocumentKind) (seen : Readings) : Prop :=
  ∃ answer : Except ClientError InvoiceDocument,
    (⟨.agent (.query (.externalId (ExternalId.forKind ns order other).text)), answer⟩ :
        Exchange ServiceRequest.Answer) ∈ seen
      ∧ P (queryAnswer (.externalId (ExternalId.forKind ns order other).text) answer)

/-- **What a write rests on when it begins**: its external id is one of the order's
own, its numbers are read back, a create has read the slots that exclude it, and a final
invoice the prepayment it settles. -/
def Justified (ns : Namespace) (order : OrderKey) (seen : Readings) : OrderWrite → Prop
  | .create request => request.order = order
      ∧ ((∃ kind : DocumentKind, request.kind = kind.issued
          ∧ request.externalId = .forKind ns order kind
          ∧ (∀ other ∈ exclusiveWith kind, SlotSeen HoldsNoLive ns order other.1 seen)
          ∧ (kind = .final → SlotSeen HoldsLive ns order .prepayment seen))
        ∨ (request.kind = .corrective
          ∧ ∃ id, request.externalId = .forCorrective ns order id))
      ∧ request.Legible
  | .storno request _ => ∃ number : InvoiceNumber, request.invoiceNumber = number.text
      ∧ request.externalId = .forStorno ns order number
  | .delete externalId found _ => externalId = .forKind ns order .proforma
      ∧ ∃ number : InvoiceNumber, found.number = number.text

/-- A continuation that only answers. -/
def Answering {α β : Type} (respond : α → Handler β) : Prop :=
  ∀ a, ∃ result, ExceptT.run (respond a) = Flow.ret result

/-- A handler that is about to make a justified write, and then only answers. -/
def LeadsToWrite {α : Type} (config : WorkerConfig) (ctx : Context) (order : OrderKey)
    (seen : Readings) (flow : HandlerFlow (Except HandlerError α)) : Prop :=
  ∃ exec write, ∃ respond : WriteResult → Handler α, exec.config = config
    ∧ Justified config.namespace order seen write ∧ Answering respond
    ∧ flow = ExceptT.run (OrderWrite.handler exec ctx order write >>= respond)

/-- **A handler that reads until it answers or makes a justified write.** -/
def Handler.Admits {α : Type} (config : WorkerConfig) (ctx : Context) (order : OrderKey)
    (handler : Handler α) (seen : Readings) : Prop :=
  Flow.Admits ServiceRequest.Reads (fun _ _ => True) (LeadsToWrite config ctx order)
    (ExceptT.run handler) seen

namespace Handler

variable {α β : Type} {config : WorkerConfig} {ctx : Context} {order : OrderKey} {seen : Readings}

/-- A handler that is done writes nothing. -/
theorem admits_pure (a : α) : (pure a : Handler α).Admits config ctx order seen :=
  Flow.admits_ret trivial

/-- **Reads come first**, and what follows may rest on them. -/
theorem OnlyReads.admits {handler : Handler α} {next : α → Handler β}
    {Q : List (Exchange AgentRequest.Answer) → α → Prop} (h : handler.OnlyReads)
    (hanswers : handler.Answers Q)
    (hnext : ∀ t a, Q (agentExchanges t) a → (next a).Admits config ctx order (seen ++ asks t)) :
    (handler >>= next).Admits config ctx order seen := by
  refine Flow.OnlyReads.andThen h hanswers (fun t result hresult => ?_)
  cases result with
  | ok a => exact hnext t a (hresult a rfl)
  | error error => exact Flow.admits_ret trivial

/-- Reads nothing rests on. -/
theorem OnlyReads.admits_of_forall {handler : Handler α} {next : α → Handler β}
    (h : handler.OnlyReads) (hnext : ∀ a seen, (next a).Admits config ctx order seen) :
    (handler >>= next).Admits config ctx order seen :=
  h.admits (answers_true handler) (fun _ a _ => hnext a _)

/-- A decision, and what it lets follow. -/
theorem admits_lift_bind {result : Except Fault α} {next : α → Handler β}
    (h : ∀ a, result = .ok a → (next a).Admits config ctx order seen) :
    (lift result >>= next).Admits config ctx order seen := by
  cases result with
  | ok a => exact h a rfl
  | error fault => exact Flow.admits_ret trivial

/-- **A write is admitted** where it is justified by what was read. -/
theorem admits_write (ctx : Context) {exec : Execution} {write : OrderWrite}
    {respond : WriteResult → Handler α} (hconfig : exec.config = config)
    (hjustified : Justified config.namespace order seen write) (hrespond : Answering respond) :
    (write.handler exec ctx order >>= respond).Admits config ctx order seen :=
  Flow.admits_of_then ⟨exec, write, respond, hconfig, hjustified, hrespond, rfl⟩

/-- The write as the handlers spell it. -/
theorem admits_writing {exec : Execution} (write : OrderWrite)
    {replayed once : Handler WriteResult} {respond : WriteResult → Handler α} (hconfig : exec.config = config)
    (hjustified : Justified config.namespace order seen write) (hrespond : Answering respond)
    (hwrite : write.handler exec ctx order
      = if exec.config.orderExecution.permitsReplay then replayed else once) :
    Handler.Admits config ctx order
      (if exec.config.orderExecution.permitsReplay then replayed >>= respond
        else once >>= respond) seen := by
  have h := admits_write ctx hconfig hjustified hrespond
  rw [hwrite] at h
  split_ifs at h ⊢ <;> exact h

/-- An answer that is computed from the result writes nothing more. -/
theorem answering_lift {f : α → Except Fault β} : Answering (fun a => lift (f a)) := by
  intro a
  cases h : f a with
  | ok b => exact ⟨.ok b, by simp only [h]; rfl⟩
  | error fault => exact ⟨.error (.fault fault), by simp only [h]; rfl⟩

end Handler

/-- What was seen stays seen. -/
theorem SlotSeen.append {P : Except QueryError FoundDocument → Prop} {ns : Namespace}
    {order : OrderKey} {other : DocumentKind} {seen : Readings} (h : SlotSeen P ns order other seen)
    (more : Readings) : SlotSeen P ns order other (seen ++ more) := by
  obtain ⟨answer, hmem, hP⟩ := h
  exact ⟨answer, List.mem_append_left _ hmem, hP⟩

end Writes

/-! ## The handlers -/

section Orders

variable [Unicode] [Transport] [Clock] [FaultText]

/-! ### The reversal -/

omit [Unicode] [Clock] [FaultText] in
/-- The intent of a reversal is about the document that was named, and repeats its date. -/
theorem StornoIntent.of_fromVerified {found : FoundDocument} {account : Account} {number : String}
    {stornoId : ExternalId} {comment : Option String} {buyerEmail : Option StornoRecipient}
    {intent : StornoIntent}
    (h : StornoIntent.fromVerified found account number stornoId comment buyerEmail = .ok intent) :
    intent.number = number ∧ intent.stornoId = stornoId
      ∧ found.fulfillmentDate = some intent.fulfillmentDate := by
  unfold StornoIntent.fromVerified at h
  split at h
  · cases h
  · rename_i hdate
    dsimp only at h
    split at h
    · cases h
      exact ⟨rfl, rfl, hdate⟩
    · cases h

/-- The verification in front of a storno. -/
theorem onlyReads_verifyForStorno (order : OrderKey) (number : String) (stornoId : ExternalId) :
    (Handler.verifyForStorno order number stornoId).OnlyReads := by
  unfold Handler.verifyForStorno
  refine ((onlyReads_verify _ _).mapFault _).bind fun found => ?_
  refine (Handler.onlyReads_lift _).bind fun found => ?_
  split
  · exact Handler.onlyReads_pure _
  · exact Handler.onlyReads_pure _
  · exact (onlyReads_stornoOf order number stornoId).bind fun _ => Handler.onlyReads_pure _

/-- **The reversal** writes a storno of an original it has verified. -/
theorem admits_storno (exec : Execution) (ctx : Context) (order : OrderKey)
    (request : StornoRequest) (seen : Readings) :
    (exec.storno ctx order request).Admits exec.config ctx order seen := by
  unfold Execution.storno
  refine (onlyReads_verifyForStorno _ _ _).admits_of_forall fun verified seen => ?_
  cases verified with
  | inl response => exact Handler.admits_pure _
  | inr found =>
    refine Handler.admits_lift_bind fun intent hintent => ?_
    obtain ⟨hnumber, hid, -⟩ := StornoIntent.of_fromVerified (Except.mapError_eq_ok.mp hintent)
    refine Handler.OnlyReads.admits_of_forall ((onlyReads_runReading _
      (readingCall_lookupOrderStorno _ _ _)).mapFault _) fun looked seen => ?_
    refine Handler.admits_lift_bind fun settled _ => ?_
    cases settled with
    | some response => exact Handler.admits_pure _
    | none =>
      rw [← hid, ← hnumber]
      exact Handler.admits_writing (.storno intent.asStepRequest found) rfl
        ⟨request.invoiceNumber, hnumber, hid⟩ Handler.answering_lift rfl

/-! ### The deletion -/

/-- Choosing what to delete reads. -/
theorem onlyReads_selectDeletion (order : OrderKey) (proformaId : ExternalId)
    (request : DeleteProformaRequest) :
    (Execution.selectDeletion order proformaId request).OnlyReads := by
  unfold Execution.selectDeletion
  dsimp only
  split
  · exact (onlyReads_lookup _ _ _ _).bind fun _ => Handler.onlyReads_lift _
  · exact ((onlyReads_verify _ _).mapFault _).bind fun _ => Handler.onlyReads_lift _

/-- **The deletion** writes under the proforma it has selected. -/
theorem admits_delete (exec : Execution) (ctx : Context) (order : OrderKey)
    (request : DeleteProformaRequest) (seen : Readings) :
    (exec.delete ctx order request).Admits exec.config ctx order seen := by
  unfold Execution.delete
  refine (onlyReads_selectDeletion _ _ _).admits (answers_selectDeletion_number _ _ _)
    fun t selected hnumber => ?_
  cases selected with
  | inl response => exact Handler.admits_pure _
  | inr found =>
    exact Handler.admits_writing (.delete _ found request) rfl
      ⟨rfl, request.expectedNumber, hnumber found rfl⟩ Handler.answering_lift rfl

/-! ### The creates -/

section Creates

variable {order : OrderKey} {identity : Identity}

omit [Transport] [Clock] [FaultText] in
/-- A slot that is free for exclusivity holds no live document. -/
theorem holdsNoLive_of_decideExclusivity {kind : IssuedKind} {r : Except QueryError FoundDocument}
    {outcome : OwnershipOutcome} {reason : Contract.ConflictReason}
    (howned : ownership (classifySeen order kind r) = .ok outcome)
    (h : decideExclusivity outcome reason identity = .ok none) : HoldsNoLive r := by
  obtain ⟨-, hreversed, habsent⟩ := ownership_cases howned
  unfold decideExclusivity at h
  split at h
  · cases h
  · cases h
  · exact Or.inl (habsent rfl)
  · obtain ⟨hr, -, hlive⟩ := hreversed _ rfl
    exact Or.inr ⟨_, hr, hlive⟩
  · cases h
  · cases h

omit [Transport] [Clock] [FaultText] in
/-- A final invoice goes on only with a live prepayment. -/
theorem holdsLive_of_decidePrepaymentForFinal {r : Except QueryError FoundDocument}
    {outcome : OwnershipOutcome} {refs refs' : Refs}
    (howned : ownership (classifySeen order .prepayment r) = .ok outcome)
    (h : decidePrepaymentForFinal outcome identity refs = .ok (.inr refs')) : HoldsLive r := by
  obtain ⟨hlive, -, -⟩ := ownership_cases howned
  unfold decidePrepaymentForFinal at h
  split at h
  · cases h
  · cases h
  · cases h
  · obtain ⟨hr, -, hfound⟩ := hlive _ rfl
    exact ⟨_, hr, hfound⟩
  · cases h
  · cases h

/-- A slot read in a transcript. -/
def SlotIn (P : Except QueryError FoundDocument → Prop) (ns : Namespace) (order : OrderKey)
    (other : DocumentKind) (tr : List (Exchange AgentRequest.Answer)) : Prop :=
  ∃ answer : Except ClientError InvoiceDocument,
    ⟨.query (.externalId (ExternalId.forKind ns order other).text), answer⟩ ∈ tr
      ∧ P (queryAnswer (.externalId (ExternalId.forKind ns order other).text) answer)

section Slots

variable {P : Except QueryError FoundDocument → Prop} {ns : Namespace} {other : DocumentKind}

omit [Clock] [FaultText] [Transport] in
/-- What is in an earlier part of the exchanges is in all of them. -/
theorem SlotIn.left {t : List (Exchange AgentRequest.Answer)} (h : SlotIn P ns order other t)
    (t' : List (Exchange AgentRequest.Answer)) : SlotIn P ns order other (t ++ t') := by
  obtain ⟨answer, hmem, hP⟩ := h
  exact ⟨answer, List.mem_append_left _ hmem, hP⟩

omit [Clock] [FaultText] [Transport] in
/-- What is in a later part is, too. -/
theorem SlotIn.right {t' : List (Exchange AgentRequest.Answer)} (h : SlotIn P ns order other t')
    (t : List (Exchange AgentRequest.Answer)) : SlotIn P ns order other (t ++ t') := by
  obtain ⟨answer, hmem, hP⟩ := h
  exact ⟨answer, List.mem_append_right _ hmem, hP⟩

omit [FaultText] in
/-- What is in the exchanges of a handler was seen. -/
theorem SlotIn.seen {t : List (Exchange (Act.Ans ServiceRequest.Answer))}
    (h : SlotIn P ns order other (agentExchanges t)) (seen : Readings) :
    SlotSeen P ns order other (seen ++ asks t) := by
  obtain ⟨answer, hmem, hP⟩ := h
  exact ⟨answer, List.mem_append_right _ (mem_asks_of_agentExchanges hmem), hP⟩

end Slots

/-- Checking a slot for exclusivity reads. -/
theorem onlyReads_exclusivity (exec : Execution) (other : DocumentKind)
    (reason : Contract.ConflictReason) :
    (exec.exclusivity order identity other reason).OnlyReads :=
  (onlyReads_lookup _ _ _ _).bind fun _ => Handler.onlyReads_lift _

/-- A check that lets the handler go on has seen the slot without a live document. -/
theorem answers_exclusivity_free (exec : Execution) (other : DocumentKind)
    (reason : Contract.ConflictReason) :
    (exec.exclusivity order identity other reason).Answers fun tr early =>
      early = none → SlotIn HoldsNoLive exec.config.namespace order other tr := by
  refine (answers_lookup_holder _ _ _ _).bind ?_
  rintro _ outcome ⟨answer, rfl, howned⟩
  refine Handler.answers_liftAbout ?_
  rintro _ hearly rfl
  exact ⟨answer, by simp, holdsNoLive_of_decideExclusivity howned hearly⟩

/-- Checking several slots reads. -/
theorem onlyReads_exclusivities (exec : Execution)
    (others : List (DocumentKind × Contract.ConflictReason)) :
    (exec.exclusivities order identity others).OnlyReads := by
  induction others with
  | nil => exact Handler.onlyReads_pure _
  | cons other others ih =>
    refine (onlyReads_exclusivity exec _ _).bind fun early => ?_
    cases early with
    | some response => exact Handler.onlyReads_pure _
    | none => exact ih

/-- **Every kind that excludes the create was read**, and holds no live document. -/
theorem answers_exclusivities_free (exec : Execution)
    (others : List (DocumentKind × Contract.ConflictReason)) :
    (exec.exclusivities order identity others).Answers fun tr early =>
      early = none → ∀ other ∈ others,
        SlotIn HoldsNoLive exec.config.namespace order other.1 tr := by
  induction others with
  | nil => exact Handler.answers_pure (fun _ _ h => by cases h)
  | cons other others ih =>
    refine (answers_exclusivity_free exec other.1 other.2).bind fun tr early hfree => ?_
    cases early with
    | some response => exact Handler.answers_pure (fun h => by cases h)
    | none =>
      refine ih.mono fun t early hrest hnone o ho => ?_
      rcases List.mem_cons.mp ho with rfl | ho
      · exact (hfree rfl).left t
      · exact (hrest hnone o ho).right tr

/-- Looking for the prepayment reads. -/
theorem onlyReads_prepaymentForFinal (exec : Execution) (refs : Refs) :
    (exec.prepaymentForFinal order identity refs).OnlyReads :=
  (onlyReads_lookup _ _ _ _).bind fun _ => Handler.onlyReads_lift _

/-- A final invoice that goes on has seen a live prepayment. -/
theorem answers_prepaymentForFinal_live (exec : Execution) (refs : Refs) :
    (exec.prepaymentForFinal order identity refs).Answers fun tr decided =>
      ∀ refs', decided = .inr refs' →
        SlotIn HoldsLive exec.config.namespace order .prepayment tr := by
  refine (answers_lookup_holder _ _ _ _).bind ?_
  rintro _ outcome ⟨answer, rfl, howned⟩
  refine Handler.answers_liftAbout ?_
  rintro _ hdecided refs' rfl
  exact ⟨answer, by simp, holdsLive_of_decidePrepaymentForFinal howned hdecided⟩

/-- Reading the linked proforma reads. -/
theorem onlyReads_proformaLink (exec : Execution) (prepared : Prepared) (refs : Refs) :
    (exec.proformaLink prepared identity refs).OnlyReads := by
  unfold Execution.proformaLink
  split
  · exact (onlyReads_lookup _ _ _ _).bind fun _ => Handler.onlyReads_lift _
  · exact (onlyReads_lookup _ _ _ _).bind fun _ => Handler.onlyReads_lift _
  · exact ((onlyReads_verify _ _).mapFault _).bind fun _ => Handler.onlyReads_lift _

/-- Reading the slot of the proforma reads. -/
theorem onlyReads_proformaSlot (exec : Execution) (refs : Refs) :
    (exec.proformaSlot order identity refs).OnlyReads := by
  refine (onlyReads_lookup _ _ _ _).bind fun found => ?_
  dsimp only
  split_ifs
  · exact Handler.onlyReads_pure _
  · exact Handler.onlyReads_lift _

omit [FaultText] in
/-- A step that may refuse, and what follows where it does not. -/
theorem onlyReads_refusing {step : Handler (Option Contract.CreateResponse)}
    {next : Handler (Contract.CreateResponse ⊕ Refs)} (hstep : step.OnlyReads)
    (hnext : next.OnlyReads) :
    Handler.OnlyReads (do
      let early ← step
      match early with
      | some response => pure (Sum.inl response)
      | none => next) := by
  refine hstep.bind fun early => ?_
  cases early with
  | some response => exact Handler.onlyReads_pure _
  | none => exact hnext

omit [FaultText] in
/-- A step that resolves a reference. -/
theorem onlyReads_resolving {step : Handler (Contract.CreateResponse ⊕ Refs)}
    {next : Refs → Handler (Contract.CreateResponse ⊕ Refs)} (hstep : step.OnlyReads)
    (hnext : ∀ refs, (next refs).OnlyReads) :
    Handler.OnlyReads (do
      let decided ← step
      match decided with
      | .inl response => pure (Sum.inl response)
      | .inr refs => next refs) := by
  refine hstep.bind fun decided => ?_
  cases decided with
  | inl response => exact Handler.onlyReads_pure _
  | inr refs => exact hnext refs

omit [FaultText] in
/-- A refusing step that is taken in some cases only. -/
theorem onlyReads_refusingIf {c : Prop} [Decidable c]
    {step : Handler (Option Contract.CreateResponse)}
    {next : Handler (Contract.CreateResponse ⊕ Refs)} (hstep : step.OnlyReads)
    (hnext : next.OnlyReads) :
    Handler.OnlyReads (if c then do
        let early ← step
        match early with
        | some response => pure (Sum.inl response)
        | none => next
      else do
        let early ← pure none
        match early with
        | some response => pure (Sum.inl response)
        | none => next) := by
  split_ifs
  · exact onlyReads_refusing hstep hnext
  · exact onlyReads_refusing (Handler.onlyReads_pure _) hnext

omit [FaultText] in
/-- A resolving step that is taken in some cases only. -/
theorem onlyReads_resolvingIf {c : Prop} [Decidable c]
    {step : Handler (Contract.CreateResponse ⊕ Refs)} {refs : Refs}
    {next : Refs → Handler (Contract.CreateResponse ⊕ Refs)} (hstep : step.OnlyReads)
    (hnext : ∀ refs, (next refs).OnlyReads) :
    Handler.OnlyReads (if c then do
        let decided ← step
        match decided with
        | .inl response => pure (Sum.inl response)
        | .inr refs => next refs
      else do
        let decided ← pure (Sum.inr refs)
        match decided with
        | .inl response => pure (Sum.inl response)
        | .inr refs => next refs) := by
  split_ifs
  · exact onlyReads_resolving hstep hnext
  · exact onlyReads_resolving (Handler.onlyReads_pure _) hnext

/-- All references are read before the write. -/
theorem onlyReads_references (exec : Execution) (prepared : Prepared) (kind : DocumentKind) :
    (exec.references prepared identity kind).OnlyReads := by
  unfold Execution.references
  refine onlyReads_refusing (onlyReads_exclusivities exec _) ?_
  refine onlyReads_resolvingIf (onlyReads_prepaymentForFinal exec _) fun refs => ?_
  refine onlyReads_refusingIf (onlyReads_exclusivity exec _ _) ?_
  refine onlyReads_resolvingIf (onlyReads_proformaLink exec prepared _) fun refs => ?_
  exact onlyReads_refusingIf (onlyReads_proformaSlot exec refs) (Handler.onlyReads_pure _)

/-- A create that has its references has read every kind that excludes it, and a final
invoice its prepayment. -/
theorem answers_references_slots (exec : Execution) (prepared : Prepared) (kind : DocumentKind) :
    (exec.references prepared identity kind).Answers fun tr decided => ∀ refs, decided = .inr refs →
      (∀ other ∈ exclusiveWith kind,
        SlotIn HoldsNoLive exec.config.namespace prepared.order other.1 tr)
      ∧ (kind = .final → SlotIn HoldsLive exec.config.namespace prepared.order .prepayment tr) := by
  unfold Execution.references
  refine (answers_exclusivities_free exec (exclusiveWith kind)).bind fun tr excluded hfree => ?_
  cases excluded with
  | some response => exact Handler.answers_pure (fun _ h => by cases h)
  | none =>
    by_cases hfinal : kind = .final
    · rw [if_pos hfinal]
      refine (answers_prepaymentForFinal_live exec {}).bind fun t prepaid hlive => ?_
      cases prepaid with
      | inl response => exact Handler.answers_pure (fun _ h => by cases h)
      | inr refs =>
        refine (Handler.answers_true _).mono (fun t' _ _ _ _ => ⟨fun other ho => ?_, fun _ => ?_⟩)
        · exact (hfree rfl other ho).left (t ++ t')
        · exact ((hlive refs rfl).left t').right tr
    · refine (Handler.answers_true _).mono (fun t _ _ _ _ => ⟨fun other ho => ?_, fun h => ?_⟩)
      · exact (hfree rfl other ho).left t
      · exact absurd h hfinal

variable [RustDecimal]

omit [RustDecimal] in
/-- Completing an early answer reads. -/
theorem onlyReads_withStornoNumber (early : Option Contract.CreateResponse) :
    (withStornoNumber order identity early).OnlyReads := by
  unfold withStornoNumber
  cases early with
  | none => exact Handler.onlyReads_pure _
  | some response =>
    dsimp only
    split
    · split_ifs
      · exact ((onlyReads_stornoOf _ _ _).bind fun _ => Handler.onlyReads_pure _).bind fun _ =>
          Handler.onlyReads_pure _
      · exact Handler.onlyReads_pure _
    · exact Handler.onlyReads_pure _

/-- Looking for the document to reissue reads. -/
theorem onlyReads_existingTarget (reissue : Option Reissue) :
    (existingTarget order identity reissue).OnlyReads :=
  (onlyReads_lookup _ _ _ _).bind fun _ => (Handler.onlyReads_lift _).bind fun early =>
    onlyReads_withStornoNumber early

omit [RustDecimal] in
/-- The lookup of an intent reads. -/
theorem onlyReads_lookupStep (exec : Execution) (intent : Intent) :
    (exec.lookupStep order intent).OnlyReads := by
  refine onlyReads_runReading _ ?_
  unfold Intent.lookupCall
  dsimp only
  split_ifs
  · exact readingCall_lookupInner _ true
  · exact Prog.OnlyAsks.bind (readingCall_lookupInner _ false) fun _ => trivial

omit [FaultText] [RustDecimal] in
/-- What takes a settled write for its outcome, or raises a fault. -/
theorem answering_settled {β : Type} {settle : WriteResult → Handler CreateOutcome}
    {respond : CreateOutcome → Handler β} (hsettle : ∀ result,
      (∃ outcome, settle result = pure outcome) ∨ ∃ fault, settle result = Handler.raise fault)
    (hrespond : Answering respond) : Answering (fun result => settle result >>= respond) := by
  intro result
  dsimp only
  rcases hsettle result with ⟨outcome, houtcome⟩ | ⟨fault, hfault⟩
  · obtain ⟨answer, hanswer⟩ := hrespond outcome
    rw [houtcome, pure_bind]
    exact ⟨answer, hanswer⟩
  · rw [hfault]
    exact ⟨.error (.fault fault), rfl⟩

omit [FaultText] [RustDecimal] in
/-- The write of an intent, as the handlers spell it. -/
theorem admits_createStep {β : Type} {exec : Execution} {ctx : Context} {intent : Intent}
    {reversed : Option String} {seen : Readings} {respond : CreateOutcome → Handler β}
    (hjustified : ∀ request : CreateStepRequest, request.OfIntent order intent reversed →
      Justified exec.config.namespace order seen (.create request))
    (hrespond : Answering respond) :
    (exec.createStep ctx order intent reversed >>= respond).Admits exec.config ctx order seen := by
  unfold Execution.createStep
  rw [bind_assoc]
  refine Handler.admits_lift_bind fun request hrequest => ?_
  have hintent := CreateStepRequest.ofIntent_of_new (Except.mapError_eq_ok.mp hrequest)
  have hwrite := hjustified request hintent
  have hsettled : ∀ settle : WriteResult → Handler CreateOutcome,
      (∀ result, (∃ outcome, settle result = pure outcome)
        ∨ ∃ fault, settle result = Handler.raise fault) →
        ((OrderWrite.create request).handler exec ctx order >>= fun result =>
          settle result >>= respond).Admits exec.config ctx order seen :=
    fun settle hsettle => Handler.admits_write ctx rfl hwrite (answering_settled hsettle hrespond)
  split_ifs with hreplay
  · rw [bind_assoc]
    rw [OrderWrite.handler, if_pos hreplay] at hsettled
    refine hsettled _ fun result => ?_
    cases result with
    | create outcome => exact Or.inl ⟨outcome, rfl⟩
    | storno | delete | unresolved | answered => exact Or.inr ⟨_, rfl⟩
  · rw [bind_assoc]
    rw [OrderWrite.handler, if_neg hreplay] at hsettled
    rw [← hintent.kind]
    obtain rfl := hintent.order
    refine hsettled _ fun result => ?_
    cases result with
    | create outcome => exact Or.inl ⟨outcome, rfl⟩
    | storno | delete | unresolved | answered => exact Or.inr ⟨_, rfl⟩

/-- An intent is issued after one more read, of its target. -/
theorem admits_issue {exec : Execution} {ctx : Context} {intent : Intent} {seen : Readings}
    (hlegible : intent.Legible) (hjustified : ∀ (request : CreateStepRequest) (more : Readings),
      request.order = order → request.kind = intent.identity.kind →
        request.externalId = intent.identity.externalId → request.Legible →
          Justified exec.config.namespace order (seen ++ more) (.create request)) :
    (exec.issue ctx order intent).Admits exec.config ctx order seen := by
  unfold Execution.issue
  refine ((onlyReads_lookupStep exec intent).mapFault _).admits (Handler.answers_true _)
    fun t found _ => ?_
  refine Handler.admits_lift_bind fun decided hdecided => ?_
  cases decided with
  | inl response => exact Handler.admits_pure _
  | inr reversed =>
    refine admits_createStep (fun request hrequest => ?_) Handler.answering_lift
    refine hjustified request (asks t) hrequest.order hrequest.kind hrequest.externalId
      (hlegible.request hrequest ?_)
    rintro number rfl
    exact decideLookupForExecution_eq_past (Except.mapError_eq_ok.mp hdecided)

omit [Clock] [FaultText] in
/-- A request is prepared for its own order. -/
theorem Execution.order_of_prepare {exec : Execution} {kind : DocumentKind}
    {request : CreateRequest} {prepared : Prepared}
    (h : exec.prepare order kind request = .ok prepared) : prepared.order = order := by
  unfold Execution.prepare at h
  split_ifs at h
  · cases h
  · obtain ⟨_, -, hdone⟩ := Except.bind_eq_ok.mp h
    cases hdone
    rfl

/-- **The four creates**: the kinds that exclude the create were read before it. -/
theorem admits_issueKind (exec : Execution) (ctx : Context) (kind : DocumentKind)
    (request : CreateRequest) (seen : Readings) :
    (exec.issueKind ctx order kind request).Admits exec.config ctx order seen := by
  unfold Execution.issueKind
  refine Handler.admits_lift_bind fun prepared hprepared => ?_
  have horder := Execution.order_of_prepare hprepared
  refine (onlyReads_existingTarget _).admits_of_forall fun existing seen => ?_
  cases existing with
  | some response => exact Handler.admits_pure _
  | none =>
    refine (onlyReads_references exec prepared kind).admits
      ((answers_references_slots exec prepared kind).and (numbers_references exec prepared kind))
      fun t referred hreferred => ?_
    cases referred with
    | inl response => exact Handler.admits_pure _
    | inr refs =>
      refine Handler.admits_lift_bind fun create hcreate => ?_
      obtain ⟨hfree, hlive⟩ := hreferred.1 refs rfl
      rw [horder] at hfree hlive
      refine admits_issue (Intent.legible_of_kind hcreate (hreferred.2 refs rfl) rfl)
        fun request more ho hkind hid hlegible =>
          ⟨ho, Or.inl ⟨kind, hkind, hid, fun other hother => ?_, fun hfinal => ?_⟩, hlegible⟩
      · exact ((hfree other hother).seen seen).append more
      · exact ((hlive hfinal).seen seen).append more

/-- A correction is read for its base only. -/
theorem admits_correct (exec : Execution) (ctx : Context) (request : CorrectRequest)
    (seen : Readings) :
    (exec.correct ctx order request).Admits exec.config ctx order seen := by
  unfold Execution.correct
  refine Handler.admits_lift_bind fun _ _ => ?_
  refine (onlyReads_existingTarget _).admits_of_forall fun existing seen => ?_
  cases existing with
  | some response => exact Handler.admits_pure _
  | none =>
    refine ((onlyReads_verify _ _).mapFault _).admits_of_forall fun outcome seen => ?_
    refine Handler.admits_lift_bind fun found _ => ?_
    refine Handler.admits_lift_bind fun refused _ => ?_
    cases refused with
    | some response => exact Handler.admits_pure _
    | none =>
      refine Handler.admits_lift_bind fun create hcreate => ?_
      exact admits_issue (Intent.legible_of_correction hcreate rfl rfl)
        fun create more ho hkind hid hlegible => ⟨ho, Or.inr ⟨hkind, _, hid⟩, hlegible⟩

end Creates

end Orders

end Szamlazz
