import Szamlazz.Service.Correction
import Szamlazz.Service.Observe
import Szamlazz.Service.OrderPath
import Szamlazz.Service.OrderSafety

/-!
# What the law of an order means over a run

`order_lawful` says that every history the object can come to is lawful. A law judges
one event by those before it; what follows here is about whole histories. A protected
invocation sends at most once. A replay-enabled one may send again, but always the
same request, behind the same marker, and once in each execution of its run. While a
marker is stored, nobody but its owner sends, and nothing but what the marker retains.
And whatever marker is stored, `stored_markers_read_back` says that a worker can read it.
-/

namespace Szamlazz

open Durable

section Runs

variable [Unicode] [Transport] [Clock]

/-- An order, in a world. -/
abbrev OrderSystem (W : Type) : Type :=
  System ServiceRequest.Answer UnresolvedWrite Journal TerminalError InvocationId OrderInput
    (Except HandlerError OrderAnswer) W

/-- A world that allows anything. -/
def anything : Outside Unit where
  admits _ _ := True
  answers _ _ _ _ _ := True
  observes _ _ _ := True
  drift _ _ := True
  initial _ := True

omit [Unicode] [Transport] [Clock] in
theorem InvocationId.eq_of_text {id id' : InvocationId} (h : id.text = id'.text) : id = id' := by
  cases id
  cases id'
  cases h
  rfl

theorem noSend_of_fresh {id : InvocationId} {h : List (OrderEvent OrderInput)}
    (hfresh : Fresh id h) : NoSend id h := by
  intro e he
  have howner := hfresh e he
  cases e with
  | asked id' request x =>
    have hne : id' ≠ id := fun heq => howner (congrArg some heq)
    simp [isSend, hne]
  | _ => rfl

/-! ## Lawful histories -/

section Lawful

variable {key : String} {id : InvocationId} {h before after : List (OrderEvent OrderInput)}
  {e : OrderEvent OrderInput}

/-- What the law says of a send. -/
theorem lawfulSend_of_isSend (hlaw : OrderLaw key h e) (he : isSend id e = true) :
    ∃ request x input marker, e = .asked id (.agent request) x
      ∧ LawfulSend key h id request input marker := by
  cases e with
  | asked id' request x =>
    simp only [isSend, Bool.and_eq_true, decide_eq_true_eq] at he
    obtain ⟨rfl, hmutation⟩ := he
    cases request with
    | agent request =>
      obtain ⟨input, marker, hsend⟩ := hlaw hmutation
      exact ⟨request, x, input, marker, rfl, hsend⟩
    | gateway | now | resolve => cases hmutation
  | _ => cases he

theorem storedAt_of_isSend (he : isSend id e = true) : storedAt (h ++ [e]) = storedAt h := by
  rw [storedAt_snoc]
  cases e with
  | asked => rfl
  | _ => cases he

omit [Transport] [Clock] in
/-- A marker is of one invocation. -/
theorem OwnMarker.owner_unique {id' : InvocationId} {input input' : OrderInput}
    {marker : UnresolvedWrite} (hown : OwnMarker key id input marker)
    (hown' : OwnMarker key id' input' marker) : id' = id :=
  InvocationId.eq_of_text (hown'.token.symm.trans hown.token)

theorem sends_snoc : sends id (h ++ [e]) = sends id h ++ if isSend id e then [e] else [] := by
  simp [sends, List.filter_append, List.filter_cons]

theorem sends_eq_nil : sends id h = [] ↔ NoSend id h := by
  simp [sends, NoSend, List.filter_eq_nil_iff]

/-- **An invocation under the protected protocol sends at most once.** -/
theorem sends_length_le_one (hlaw : Lawful (OrderLaw key) h)
    (hmode : ∀ input, Event.invoked id input ∈ h → input.config.orderExecution = .protected) :
    (sends id h).length ≤ 1 := by
  induction h using List.reverseRecOn with
  | nil => exact Nat.zero_le 1
  | append_singleton h e ih =>
    obtain ⟨hbefore, hlast⟩ := lawful_snoc.mp hlaw
    rw [sends_snoc]
    cases he : isSend id e with
    | false => simpa using ih hbefore (fun input hmem => hmode input (List.mem_append_left _ hmem))
    | true =>
      obtain ⟨request, x, input, marker, rfl, hsend⟩ := lawfulSend_of_isSend hlast he
      have hpermitted := hsend.permitted
      rw [Permitted, hmode input (List.mem_append_left _ hsend.invoked)] at hpermitted
      rw [sends_eq_nil.mpr hpermitted.1]
      simp

/-- **A marker stays stored until it is cleared**: none is stored over it. -/
theorem storedAt_kept {marker : UnresolvedWrite} (hlaw : Lawful (OrderLaw key) (before ++ after))
    (hstored : storedAt before = some marker) (hkept : ∀ id', Event.cleared id' ∉ after) :
    storedAt (before ++ after) = some marker := by
  -- the induction is on what happened since, from its end
  induction after using List.reverseRecOn with
  | nil => rw [List.append_nil, hstored]
  | append_singleton after e ih =>
    rw [← List.append_assoc] at hlaw ⊢
    obtain ⟨hbefore, hlast⟩ := lawful_snoc.mp hlaw
    have hnow := ih hbefore (fun id' hmem => hkept id' (List.mem_append_left _ hmem))
    rw [storedAt_snoc, hnow]
    cases e with
    | stored id' m => exact absurd hlast.1 (by simp [hnow])
    | cleared id' => exact absurd (by simp) (hkept id')
    | _ => rfl

/-- **While a marker stays stored**, it is the stored one, no other is stored, and only
its owner sends, under it. -/
theorem window_of_lawful {marker : UnresolvedWrite}
    (hlaw : Lawful (OrderLaw key) (before ++ .stored id marker :: after))
    (hkept : ∀ id', Event.cleared id' ∉ after) :
    storedAt (before ++ .stored id marker :: after) = some marker
      ∧ (∀ id' m, Event.stored id' m ∉ after)
      ∧ ∀ id' request x, Event.asked id' (.agent request) x ∈ after → request.isMutation = true →
        id' = id ∧ marker.Covers request := by
  obtain ⟨-, -, input, -, hown, -⟩ := hlaw before _ after rfl
  have hopen : ∀ {rest more}, after = rest ++ more →
      storedAt (before ++ .stored id marker :: rest) = some marker := by
    rintro rest more rfl
    have hlaw : Lawful (OrderLaw key) ((before ++ [.stored id marker]) ++ rest ++ more) := by
      simpa using hlaw
    have hthen : storedAt (before ++ [.stored id marker]) = some marker := storedAt_snoc before _
    have hnow := storedAt_kept hlaw.left hthen
      (fun id' hmem => hkept id' (List.mem_append_left _ hmem))
    simpa using hnow
  refine ⟨hopen (List.append_nil _).symm, fun id' m hmem => ?_, fun id' request x hmem hmutation => ?_⟩
  · obtain ⟨rest, more, rfl⟩ := List.append_of_mem hmem
    obtain ⟨hfree, -⟩ := hlaw (before ++ .stored id marker :: rest) (.stored id' m) more (by simp)
    simp [hopen rfl] at hfree
  · obtain ⟨rest, more, rfl⟩ := List.append_of_mem hmem
    obtain ⟨input', marker', hsend⟩ := hlaw (before ++ .stored id marker :: rest)
      (.asked id' (.agent request) x) more (by simp) hmutation
    obtain rfl : marker = marker' := Option.some.inj ((hopen rfl).symm.trans hsend.stored)
    exact ⟨hown.owner_unique hsend.own, hsend.covers⟩

/-- **All sends of an invocation are one**: the same request, behind the same marker,
each in an execution of its own; and no other marker of the invocation follows. -/
structure OneWrite (key : String) (id : InvocationId) (h : List (OrderEvent OrderInput))
    (input : OrderInput) (marker : UnresolvedWrite) (request : AgentRequest) : Prop where
  invoked : Event.invoked id input ∈ h
  own : OwnMarker key id input marker
  covers : marker.Covers request
  sent : ∃ x, (Event.asked id (.agent request) x : OrderEvent OrderInput) ∈ h
  mutation : request.isMutation = true
  only : OnlySends id request h
  behind : ∀ before e after, h = before ++ e :: after → isSend id e = true →
    storedAt before = some marker
  executions : ∀ before e mid e' after, h = before ++ e :: (mid ++ e' :: after) →
    isSend id e = true → isSend id e' = true → ∃ name, Event.began id name ∈ mid
  last : ∀ m, storedAt h = some m → m.token = id.text → m = marker

section OneWrite

variable {input : OrderInput} {marker : UnresolvedWrite} {request : AgentRequest}

/-- The first send. -/
theorem LawfulSend.oneWrite {x : request.Answer} (hsend : LawfulSend key h id request input marker)
    (hmutation : request.isMutation = true) (hnone : NoSend id h) :
    OneWrite key id (h ++ [.asked id (.agent request) x]) input marker request where
  invoked := List.mem_append_left _ hsend.invoked
  own := hsend.own
  covers := hsend.covers
  sent := ⟨x, by simp⟩
  mutation := hmutation
  only := hsend.same.again x
  behind before e after heq he := by
    rcases snoc_eq_append_cons.mp heq with ⟨-, rfl, -⟩ | ⟨rest, -, rfl⟩
    · exact hsend.stored
    · simpa [he] using hnone e (by simp)
  executions before e mid e' after heq he he' := by
    rw [← List.cons_append, ← List.append_assoc] at heq
    rcases snoc_eq_append_cons.mp heq with ⟨-, rfl, -⟩ | ⟨rest, -, rfl⟩
    · simpa [he] using hnone e (by simp)
    · simpa [he] using hnone e (by simp)
  last m hm _ := by
    have he : isSend id (.asked id (.agent request) x : OrderEvent OrderInput) = true := by
      simp [isSend, ServiceRequest.isMutation, hmutation]
    rw [storedAt_of_isSend he, hsend.stored] at hm
    exact (Option.some.inj hm).symm

/-- One event more. -/
theorem OneWrite.snoc (hone : OneWrite key id h input marker request) (hlaw : OrderLaw key h e) :
    OneWrite key id (h ++ [e]) input marker request where
  invoked := List.mem_append_left _ hone.invoked
  own := hone.own
  covers := hone.covers
  sent := by
    obtain ⟨x, hmem⟩ := hone.sent
    exact ⟨x, List.mem_append_left _ hmem⟩
  mutation := hone.mutation
  only := by
    cases he : isSend id e with
    | false => exact hone.only.snoc he
    | true =>
      obtain ⟨other, y, input', marker', rfl, hsend⟩ := lawfulSend_of_isSend hlaw he
      obtain ⟨x, hmem⟩ := hone.sent
      obtain rfl := hsend.same request x hmem hone.mutation
      exact hone.only.again y
  behind before d after heq hd := by
    rcases snoc_eq_append_cons.mp heq with ⟨-, rfl, rfl⟩ | ⟨rest, -, rfl⟩
    · obtain ⟨r, x, input', marker', -, hsend⟩ := lawfulSend_of_isSend hlaw hd
      rw [hsend.stored, hone.last marker' hsend.stored hsend.own.token]
    · exact hone.behind before d rest rfl hd
  executions before d mid d' after heq hd hd' := by
    rw [← List.cons_append, ← List.append_assoc] at heq
    rcases snoc_eq_append_cons.mp heq with ⟨-, rfl, rfl⟩ | ⟨rest, -, rfl⟩
    · obtain ⟨r, x, input', marker', -, hsend⟩ := lawfulSend_of_isSend hlaw hd'
      exact hsend.attempt before d mid rfl hd
    · exact hone.executions before d mid d' rest (by simp) hd hd'
  last m hm htoken := by
    rw [storedAt_snoc] at hm
    cases e with
    | stored id' m' =>
      obtain ⟨-, hnone, input', -, hown, -⟩ := hlaw
      obtain rfl : m' = m := Option.some.inj hm
      obtain rfl := InvocationId.eq_of_text (hown.token.symm.trans htoken)
      -- an invocation that has sent stores no other marker
      obtain ⟨x, hmem⟩ := hone.sent
      have := hnone _ hmem
      simp [isSend, ServiceRequest.isMutation, hone.mutation] at this
    | cleared id' => cases hm
    | _ => exact hone.last m hm htoken

/-- **Whatever an invocation sends is one write.** -/
theorem noSend_or_oneWrite (hlaw : Lawful (OrderLaw key) h) : NoSend id h
    ∨ ∃ input marker request, OneWrite key id h input marker request := by
  induction h using List.reverseRecOn with
  | nil => exact Or.inl (fun e he => by cases he)
  | append_singleton h e ih =>
    obtain ⟨hbefore, hlast⟩ := lawful_snoc.mp hlaw
    rcases ih hbefore with hnone | ⟨input, marker, request, hone⟩
    · cases he : isSend id e with
      | false => exact Or.inl (hnone.snoc he)
      | true =>
        obtain ⟨request, x, input, marker, rfl, hsend⟩ := lawfulSend_of_isSend hlast he
        have hmutation : request.isMutation = true := by
          simpa [isSend, ServiceRequest.isMutation] using he
        exact Or.inr ⟨input, marker, request, hsend.oneWrite hmutation hnone⟩
    · exact Or.inr ⟨input, marker, request, hone.snoc hlast⟩

end OneWrite

end Lawful

/-! ## Runs -/

section Reachable

variable [FaultText] [RustDecimal] {W : Type} {key : String} {outside : Outside W}
  {s : OrderSystem W}

/-- **The history of an order is lawful**, whatever the world does, and the stored
marker is the one its history left. -/
theorem order_lawful (hs : Reachable (orderHost key outside) s) :
    Lawful (OrderLaw key) s.history ∧ storedAt s.history = s.stored := by
  refine reachable_invariant lawfully_kept (fun id input h w _ hfresh _ => ?_) hs
  have hstarted : Started id input (h ++ [.invoked id input]) w :=
    ⟨by simp, (noSend_of_fresh hfresh).snoc rfl⟩
  exact ⟨Holds (Started id input), reading_started.lasting, hstarted, obeys_orderRequest⟩

/-- **Nothing is changed but behind the invocation's own stored marker**, which retains
what is sent, and with what the execution mode asks for recorded before. -/
theorem sends_behind_marker (hs : Reachable (orderHost key outside) s)
    {before after : List (OrderEvent OrderInput)} {id : InvocationId} {request : AgentRequest}
    {x : request.Answer} (hhistory : s.history = before ++ .asked id (.agent request) x :: after)
    (hmutation : request.isMutation = true) :
    ∃ input marker, LawfulSend key before id request input marker :=
  (order_lawful hs).1 _ _ _ hhistory hmutation

/-- **A protected invocation sends at most once**, however often its execution is lost,
replayed or cancelled. -/
theorem protected_sends_once (hs : Reachable (orderHost key outside) s) {id : InvocationId}
    {input : OrderInput} (hinvoked : Event.invoked id input ∈ s.history)
    (hmode : input.config.orderExecution = .protected) : (sends id s.history).length ≤ 1 :=
  sends_length_le_one (order_lawful hs).1 fun input' hinput => by
    rw [hs.invoked_once hinput hinvoked]
    exact hmode

/-- **Protected writes, over a whole history.** -/
structure GuardedWrites (key : String) (h : List (OrderEvent OrderInput)) : Prop where
  /-- An invocation sends at most one create, storno or deletion. -/
  single : ∀ id input, Event.invoked id input ∈ h → input.config.orderExecution = .protected →
    (sends id h).length ≤ 1
  /-- It sends behind its own marker, which is the stored one and retains what is sent, with
  its permission armed and nothing sent before. -/
  behind : ∀ before id request x after, h = before ++ .asked id (.agent request) x :: after →
    request.isMutation = true → ∃ input marker, Event.invoked id input ∈ before
      ∧ storedAt before = some marker ∧ OwnMarker key id input marker ∧ marker.Covers request
      ∧ (input.config.orderExecution = .protected →
        NoSend id before ∧ Event.recorded id "arm-write" (.ok .unit) ∈ before)
  /-- A marker is stored where none is, by an invocation that has sent nothing. -/
  vacant : ∀ before id marker after, h = before ++ .stored id marker :: after →
    storedAt before = none ∧ NoSend id before
  /-- Until it is cleared it stays the stored one, and nobody sends but its owner. -/
  kept : ∀ before id marker after, h = before ++ .stored id marker :: after →
    (∀ id', Event.cleared id' ∉ after) → storedAt h = some marker
      ∧ ∀ id' request x, Event.asked id' (.agent request) x ∈ after → request.isMutation = true →
        id' = id ∧ marker.Covers request
  /-- So what was sent is retained until then. -/
  retained : ∀ before id request x after, h = before ++ .asked id (.agent request) x :: after →
    request.isMutation = true → (∀ id', Event.cleared id' ∉ after) →
    ∃ marker, storedAt h = some marker ∧ marker.token = id.text ∧ marker.Covers request
  /-- It is cleared by its owner, after a recorded result that is not uncertain, or by an
  operator who submits it with evidence. -/
  cleared : ∀ before id after, h = before ++ .cleared id :: after →
    ∃ input marker, Event.invoked id input ∈ before ∧ storedAt before = some marker
      ∧ ((∃ result, OwnerSettles key before id input marker result)
        ∨ ∃ body, OperatorSettles before id input marker body)

/-- **Protected writes are single and guarded**, in every state an order can come to: by
whatever invocations, crashes, replays, cancellations and kills, and whatever is answered. -/
theorem protected_writes_guarded (hs : Reachable (orderHost key outside) s) :
    GuardedWrites key s.history ∧ storedAt s.history = s.stored := by
  obtain ⟨hlaw, hstored⟩ : Lawful (OrderLaw key) s.history ∧ storedAt s.history = s.stored :=
    order_lawful hs
  refine ⟨?_, hstored⟩
  exact {
    single := by
      intro id input hinvoked hmode
      refine sends_length_le_one hlaw fun input' hinput => ?_
      rw [hs.invoked_once hinput hinvoked]
      exact hmode
    behind := by
      intro before id request x after hhistory hmutation
      obtain ⟨input, marker, hsend⟩ := hlaw before (.asked id (.agent request) x) after hhistory hmutation
      refine ⟨input, marker, hsend.invoked, hsend.stored, hsend.own, hsend.covers, fun hmode => ?_⟩
      have hpermitted := hsend.permitted
      rwa [Permitted, hmode] at hpermitted
    vacant := by
      intro before id marker after hhistory
      obtain ⟨hfree, hnone, -⟩ := hlaw before (.stored id marker) after hhistory
      exact ⟨hfree, hnone⟩
    kept := by
      intro before id marker after hhistory hkept
      rw [hhistory] at hlaw ⊢
      obtain ⟨hnow, -, hsends⟩ := window_of_lawful hlaw hkept
      exact ⟨hnow, hsends⟩
    retained := by
      intro before id request x after hhistory hmutation hkept
      obtain ⟨input, marker, hsend⟩ := hlaw before (.asked id (.agent request) x) after hhistory hmutation
      rw [hhistory] at hlaw ⊢
      exact ⟨marker, storedAt_kept hlaw hsend.stored (by simpa using hkept), hsend.own.token,
        hsend.covers⟩
    cleared := by
      intro before id after hhistory
      obtain ⟨input, marker, hinvoked, hstored, hsettles⟩ :=
        hlaw before (.cleared id) after hhistory
      refine ⟨input, marker, hinvoked, hstored, ?_⟩
      rcases hsettles with ⟨result, hsettles, -⟩ | hoperator
      · exact Or.inl ⟨result, hsettles⟩
      · exact Or.inr hoperator }

/-- **Every marker an order stores is read back**, from whatever bytes are parsed as its
JSON: by a worker of the same scope and key, and as the very marker. The requests, the
accounts and what szamlazz.hu reports are arbitrary. -/
theorem stored_markers_read_back {Bytes : Type} (parse : Bytes → Option Json)
    (hs : Reachable (orderHost key outside) s) {id : InvocationId} {marker : UnresolvedWrite}
    (hstored : Event.stored id marker ∈ s.history) :
    (∃ input, Event.invoked id input ∈ s.history)
      ∧ ∀ input, Event.invoked id input ∈ s.history → ∀ bytes, parse bytes = some marker.toJson →
        decodeStored parse bytes input.scope key = some marker := by
  obtain ⟨hlaw, -⟩ := order_lawful hs
  obtain ⟨before, after, hhistory⟩ := List.append_of_mem hstored
  obtain ⟨-, -, input, hinvoked, -, hread⟩ := hlaw before (.stored id marker) after hhistory
  have hinput : Event.invoked id input ∈ s.history := by
    rw [hhistory]
    exact List.mem_append_left _ hinvoked
  refine ⟨⟨input, hinput⟩, fun input' hinput' bytes hbytes => ?_⟩
  obtain rfl := hs.invoked_once hinput hinput'
  exact decodeStored_eq_some.mpr ⟨marker.toJson, hbytes, hread⟩

end Reachable

end Runs

/-! ## A run -/

section Sample

local instance runUnicode : Unicode := sampleUnicode

local instance runTransport : Transport := sampleTransport

local instance runClock : Clock := observedClock

local instance runFaultText : FaultText := observedFaultText

local instance runDecimal : RustDecimal := RustDecimal.exact

/-- The proforma `D-1` of the order. -/
def deletedDocument : InvoiceDocument where
  info :=
    { id := 5
      invoiceNumber := "D-1"
      documentType := .proforma
      appearance := .paper
      referencedInvoiceNumber := none
      referencedProformaNumber := none
      issueDate := some sampleDate
      fulfillmentDate := some sampleDate
      dueDate := some sampleDate
      orderNumber := some "A-1"
      currency := some ⟨"HUF"⟩
      test := some true
      reversed := none }
  total :=
    ⟨⟨false, 10, 0, Decimal.ten_lt_bound, Decimal.zero_le_places⟩, .zero,
      ⟨false, 10, 0, Decimal.ten_lt_bound, Decimal.zero_le_places⟩⟩
  creditEntries := []

def deletedFound : FoundDocument := .ofInvoiceDocument deletedDocument

/-- The deletion of `D-1`, by its number. -/
def deletionRequest : DeleteProformaRequest where
  expectedNumber := ⟨"D-1", by decide⟩
  mode := .namedTarget
  force := false

def deletionInput : OrderInput where
  config := correctedConfig
  scope := none
  request := .deleteProforma (.ok deletionRequest)

abbrev deletionId : InvocationId := sampleContext.invocationId

section Deletion

variable {W : Type} {outside : Outside W} {w w' : W}

/-- The world answers what the deletion of `D-1` reads, and stays as it is. -/
structure ServesDeletion (outside : Outside W) (w : W) : Prop where
  gateway : outside.answers deletionId w .gateway (Except.ok () : Except Fault Unit) w
  resolve : outside.answers deletionId w (.resolve none)
    (Except.ok sampleAccount : Except ResolveError Account) w
  now : outside.answers deletionId w .now "2024-01-01T00:00:00Z" w
  query : outside.answers deletionId w (.agent (.query (.invoiceNumber "D-1")))
    (Except.ok deletedDocument : Except ClientError InvoiceDocument) w

/-- The handler can return `a`, and only adds to the history. -/
def Passes (outside : Outside W) (w : W) {α : Type} (handler : Handler α) (a : α) : Prop :=
  ∀ σ : OrderSpot OrderInput W, σ.world = w → ∃ σ',
    handler.Conducts (orderHost "A-1" outside) deletionId σ a σ'
      ∧ σ'.stored = σ.stored ∧ σ'.world = w ∧ ∃ more, σ'.history = σ.history ++ more

theorem Passes.bind {α β : Type} {handler : Handler α} {next : α → Handler β} {a : α} {b : β}
    (h : Passes outside w handler a) (h' : Passes outside w (next a) b) :
    Passes outside w (handler >>= next) b := by
  intro σ hσ
  obtain ⟨σ', hfirst, hstored, hw, more, hmore⟩ := h σ hσ
  obtain ⟨σ'', hsecond, hstored', hw', more', hmore'⟩ := h' σ' hw
  exact ⟨σ'', hfirst.bind hsecond, hstored'.trans hstored, hw', more ++ more',
    by rw [hmore', hmore, List.append_assoc]⟩

theorem passes_pure {α : Type} (a : α) : Passes outside w (pure a) a :=
  fun σ hσ => ⟨σ, Handler.conducts_pure, rfl, hσ, [], (List.append_nil _).symm⟩

theorem passes_lift {α : Type} {result : Except Fault α} {a : α} (h : result = .ok a) :
    Passes outside w (Handler.lift result) a :=
  fun σ hσ => ⟨σ, Handler.conducts_lift h, rfl, hσ, [], (List.append_nil _).symm⟩

theorem passes_run {T : Type} [Journaled T] {name : String} {fault : TerminalError → HandlerError}
    {body : Inside (Closed T TerminalError)} {value : T}
    (h : ∀ σ : OrderSpot OrderInput W, σ.world = w → ∃ σ',
      Carries (orderHost "A-1" outside) deletionId body σ (.done value) σ' ∧ σ'.world = w) :
    Passes outside w (Handler.run name fault body) value := by
  intro σ hσ
  obtain ⟨σ', hbody, hw⟩ := h (σ.add (.began deletionId name)) hσ
  obtain ⟨hstored, more, hmore⟩ := hbody.extends
  exact ⟨_, Handler.conducts_run hbody, hstored, hw, .began deletionId name :: more
    ++ [.recorded deletionId name (.ok (Journaled.encode value))], by simp [Spot.add, hmore]⟩

theorem passes_prologue (hserves : ServesDeletion outside w) (config : WorkerConfig) :
    Passes outside w (runPrologue sampleContext config) ⟨sampleAccount, config⟩ := by
  have haccount : accountOf (.account sampleAccount) = .ok sampleAccount := by
    have hvalid : sampleAccount.validate = .ok () := by decide +kernel
    rw [accountOf, hvalid]
  have hresolve : ∀ σ : OrderSpot OrderInput W, σ.world = w →
      Carries (orderHost "A-1" outside) deletionId (resolveClosure none) σ
        (.done (.account sampleAccount)) (σ.add (.asked deletionId (.resolve none)
          (Except.ok sampleAccount : Except ResolveError Account))) := by
    rintro σ rfl
    exact carries_resolve (.ok sampleAccount) hserves.resolve .ret
  exact (passes_run fun σ hσ => ⟨σ, .ret, hσ⟩).bind
    ((passes_run fun σ hσ => ⟨_, hresolve σ hσ, hσ⟩).bind
      ((passes_lift haccount).bind (passes_pure _)))

/-- `D-1` is selected. -/
theorem passes_select (hserves : ServesDeletion outside w) :
    Passes outside w (Execution.selectDeletion correctedOrder
      (.forKind correctedConfig.namespace correctedOrder .proforma) deletionRequest)
      (.inr deletedFound) := by
  have hread : Prog.Runs (verify "D-1") [⟨.query (.invoiceNumber "D-1"), .ok deletedDocument⟩]
      (.ok (.found deletedFound)) :=
    Prog.runs_call.mpr ⟨.ok deletedDocument, _, rfl, Prog.runs_ret.mpr ⟨rfl, by decide +kernel⟩⟩
  have hclosure : ∀ σ : OrderSpot OrderInput W, σ.world = w →
      Carries (orderHost "A-1" outside) deletionId
        (readingClosure (verify "D-1")) σ (.done (.found deletedFound)) (exchanged deletionId
          (σ.add (.asked deletionId .gateway (Except.ok () : Except Fault Unit)))
          [⟨.query (.invoiceNumber "D-1"), .ok deletedDocument⟩]) := by
    rintro σ rfl
    refine carries_gateway (.ok ()) hserves.gateway ((carries_call hread fun e he => ?_).bind .ret)
    cases List.mem_singleton.mp he
    exact hserves.query
  have hdecide : namedDeleteGuard (.found deletedFound) correctedOrder deletionRequest.force
      = .ok (.inr deletedFound) := by decide +kernel
  refine Passes.bind (a := .found deletedFound) (fun σ hσ => ?_) (passes_lift ?_)
  · obtain ⟨σ', hpasses, hkept⟩ := passes_run (fun σ hσ => ⟨_, hclosure σ hσ, hσ⟩) σ hσ
    exact ⟨σ', hpasses.mapFault _, hkept⟩
  · rw [hdecide]
    rfl

/-- The send, answered so. -/
def deletionAsked (reply : Except ClientError Unit) : OrderEvent OrderInput :=
  .asked deletionId (.agent (.deleteProforma "D-1")) reply

/-- The send, acknowledged. -/
def deletionSend : OrderEvent OrderInput := deletionAsked (.ok ())

/-- The id of the proforma's slot. -/
abbrev deletionSlot : ExternalId :=
  .forKind correctedConfig.namespace correctedOrder .proforma

/-- The marker. -/
def deletionMarker : UnresolvedWrite :=
  { correctedExecution.writeMarker sampleContext correctedOrder deletionSlot (.delete "D-1") with
    createdAt := "2024-01-01T00:00:00Z" }

/-- What follows the send: the settlement, and the clearing. -/
def deletionSettlement (result : WriteResult) : Handler WriteResult := do
  let result ← settle "reconcile-write"
    (protectedUncertain correctedOrder deletionSlot (.delete "D-1")) deletionMarker result
  Handler.clear
  return result

/-- **The deletion is sent**, behind its marker. -/
theorem reach_deletionSend (hserves : ServesDeletion outside w) {reply : Except ClientError Unit}
    (hsend : outside.answers deletionId w (.agent (.deleteProforma "D-1")) reply w') {i : OrderInput}
    {g : Except HandlerError WriteResult → Flow ServiceRequest.Answer UnresolvedWrite Journal
      TerminalError (Except HandlerError OrderAnswer)} {σ : OrderSpot OrderInput W}
    (hσ : σ.world = w)
    (hr : CanReach (orderHost "A-1" outside) deletionId i
      (ExceptT.run (correctedExecution.protectedWrite sampleContext correctedOrder deletionSlot
        (.delete "D-1") "delete-proforma-D-1"
        (fun _ => protectedDelete deletedFound correctedOrder false)) >>= g) σ) :
    ∃ σ' more between, CanReach (orderHost "A-1" outside) deletionId i
        (ExceptT.run (deletionSettlement (.ofDelete (deletionReply reply))) >>= g) σ'
      ∧ σ'.history = σ.history ++ more ++ .stored deletionId deletionMarker :: between
      ∧ σ'.stored = some deletionMarker ∧ σ'.world = w' ∧ deletionAsked reply ∈ between
      ∧ ∀ id, Event.cleared id ∉ between := by
  subst hσ
  have hprepare : ∀ σ : OrderSpot OrderInput W,
      outside.answers deletionId σ.world .now "2024-01-01T00:00:00Z" σ.world →
      Carries (orderHost "A-1" outside) deletionId
        (prepareClosure (correctedExecution.writeMarker sampleContext correctedOrder deletionSlot
          (.delete "D-1"))) σ (.done deletionMarker)
        (σ.add (.asked deletionId .now "2024-01-01T00:00:00Z")) :=
    fun σ hnow => carries_now "2024-01-01T00:00:00Z" hnow .ret
  have harm : ∀ σ : OrderSpot OrderInput W, Carries (orderHost "A-1" outside) deletionId
      armClosure σ (.done ()) { σ with flag := true } := fun σ => .swap .ret
  have hguard : deletionGuard deletedFound correctedOrder false
      (queryAnswer (.invoiceNumber deletedFound.number) (.ok deletedDocument)) = none := by
    decide +kernel
  have hcall : ∃ k, protectedDelete deletedFound correctedOrder false
      = Prog.call (AgentRequest.query (.invoiceNumber "D-1")) k
        ∧ k (.ok deletedDocument) = Prog.call (AgentRequest.deleteProforma "D-1")
          (fun reply => Prog.ret (.ofDelete (deletionReply reply))) := by
    unfold protectedDelete deleteProforma
    rw [queryRaw_bind]
    refine ⟨_, rfl, ?_⟩
    dsimp only
    rw [hguard]
    rfl
  -- the permission, the credentials, the guard, the send
  have hbody : ∀ σ' : OrderSpot OrderInput W, σ'.flag = true → σ'.world = σ.world →
      Carries (orderHost "A-1" outside) deletionId
        (protectedClosure (protectedDelete deletedFound correctedOrder false)) σ'
        (.done (.ofDelete (deletionReply reply)))
        { ((({ σ' with flag := false } : OrderSpot OrderInput W).add
            (.asked deletionId .gateway (Except.ok () : Except Fault Unit))).add
            (.asked deletionId (.agent (.query (.invoiceNumber "D-1")))
              (Except.ok deletedDocument : Except ClientError InvoiceDocument))).add
            (deletionAsked reply) with world := w' } := by
    rintro ⟨flag, stored, h, world⟩ rfl rfl
    obtain ⟨k, hquery, hdelete⟩ := hcall
    refine .swap (carries_gateway (.ok ()) hserves.gateway (Carries.bind ?_ .ret))
    rw [hquery]
    refine .ask (Except.ok deletedDocument) σ.world hserves.query ?_
    rw [hdelete]
    exact .ask reply w' hsend .ret
  have hprepared := (Handler.conducts_run (hprepare (σ.add (.began deletionId "prepare-write"))
    hserves.now)).reach hr
  have hstored := (Handler.conducts_store deletionMarker).reach hprepared
  have harmed := (Handler.conducts_run (T := Unit) (harm _)).reach hstored
  have hsent := fun hflag hworld => (Handler.conducts_run (hbody _ hflag hworld)).reach harmed
  refine ⟨_, [.began deletionId "prepare-write",
      .asked deletionId .now "2024-01-01T00:00:00Z",
      .recorded deletionId "prepare-write" (.ok (.marker deletionMarker))],
    [.began deletionId "arm-write", .recorded deletionId "arm-write" (.ok .unit),
      .began deletionId "delete-proforma-D-1",
      .asked deletionId .gateway (Except.ok () : Except Fault Unit),
      .asked deletionId (.agent (.query (.invoiceNumber "D-1")))
        (Except.ok deletedDocument : Except ClientError InvoiceDocument), deletionAsked reply,
      .recorded deletionId "delete-proforma-D-1"
        (.ok (.write (.ofDelete (deletionReply reply))))], hsent rfl rfl, ?_, rfl, rfl, ?_, ?_⟩
  · simp [Spot.add, deletionAsked, Journaled.encode]
  · simp
  · simp [deletionAsked]

/-- The invocation of the deletion, by a worker of that mode. -/
def deletionBy (mode : OrderExecution) : OrderInput :=
  { deletionInput with config := { correctedConfig with orderExecution := mode } }

/-- The write that deletes it. -/
def deletionWrite (mode : OrderExecution) : Handler WriteResult :=
  let exec : Execution := ⟨sampleAccount, { correctedConfig with orderExecution := mode }⟩
  if mode.permitsReplay then
    exec.deleteReplayEnabled sampleContext correctedOrder deletionSlot deletedFound deletionRequest
  else
    exec.protectedWrite sampleContext correctedOrder deletionSlot (.delete "D-1")
      "delete-proforma-D-1" (fun _ => protectedDelete deletedFound correctedOrder false)

/-- **A run that comes to the write**, from the beginning. -/
theorem reach_deletionWrite (hserves : ServesDeletion outside w) (hinitial : outside.initial w)
    {mode : OrderExecution} (hadmits : outside.admits (deletionBy mode) w) :
    ∃ (g : Except HandlerError WriteResult → Flow ServiceRequest.Answer UnresolvedWrite Journal
      TerminalError (Except HandlerError OrderAnswer)) (σ : OrderSpot OrderInput W),
      CanReach (orderHost "A-1" outside) deletionId (deletionBy mode)
        (ExceptT.run (deletionWrite mode) >>= g) σ
      ∧ σ.world = w ∧ Event.invoked deletionId (deletionBy mode) ∈ σ.history := by
  have hstart : CanReach (orderHost "A-1" outside) deletionId (deletionBy mode)
      ((orderHost "A-1" outside).program deletionId (deletionBy mode))
      ⟨false, none, [.invoked deletionId (deletionBy mode)], w⟩ :=
    canReach_start (.start hinitial) (fun _ he => by cases he) hadmits
  have hguard : guard.Conducts (orderHost "A-1" outside) deletionId
      ⟨false, none, [.invoked deletionId (deletionBy mode)], w⟩ () _ :=
    Handler.conducts_stored.bind Handler.conducts_pure
  obtain ⟨σ, hprologue, -, hσ, first, hfirst⟩ := passes_prologue hserves (deletionBy mode).config
    ⟨false, none, [.invoked deletionId (deletionBy mode)], w⟩ rfl
  obtain ⟨σ', hselect, -, hσ', second, hsecond⟩ := passes_select hserves σ hσ
  rw [← Flow.bind_ret ((orderHost "A-1" outside).program deletionId (deletionBy mode))] at hstart
  have hhandler : CanReach (orderHost "A-1" outside) deletionId (deletionBy mode)
      (ExceptT.run (Order.deleteProforma (deletionBy mode).config sampleContext
          (.ok deletionRequest))
        >>= fun x => ExceptT.bindCont (fun response => pure (OrderAnswer.deleteProforma response)) x
          >>= Flow.ret) _ := Handler.reach_inner hstart
  have hrequest := (Handler.conducts_lift (a := deletionRequest) rfl).reach hhandler
  have horder := (Handler.conducts_lift (a := correctedOrder) rfl).reach hrequest
  have hselected := hselect.reach (hprologue.reach (hguard.reach horder))
  have hinvoked : Event.invoked deletionId (deletionBy mode) ∈ σ'.history := by
    simp [hsecond, hfirst]
  cases mode with
  | «protected» => exact ⟨_, σ', Handler.reach_inner hselected, hσ', hinvoked⟩
  | replayEnabled => exact ⟨_, σ', Handler.reach_inner hselected, hσ', hinvoked⟩

/-- **A run that sends the deletion**, from the beginning. -/
theorem reach_deletion (hserves : ServesDeletion outside w) (hinitial : outside.initial w)
    (hadmits : outside.admits deletionInput w) (reply : Except ClientError Unit) (w' : W)
    (hsend : outside.answers deletionId w (.agent (.deleteProforma "D-1")) reply w') :
    ∃ (g : Except HandlerError WriteResult → Flow ServiceRequest.Answer UnresolvedWrite Journal
      TerminalError (Except HandlerError OrderAnswer)) (σ : OrderSpot OrderInput W)
      (before between : List (OrderEvent OrderInput)),
      CanReach (orderHost "A-1" outside) deletionId deletionInput
        (ExceptT.run (deletionSettlement (.ofDelete (deletionReply reply))) >>= g) σ
      ∧ σ.history = before ++ .stored deletionId deletionMarker :: between
      ∧ σ.stored = some deletionMarker ∧ σ.world = w' ∧ deletionAsked reply ∈ between
      ∧ (∀ id, Event.cleared id ∉ between) ∧ Event.invoked deletionId deletionInput ∈ before := by
  obtain ⟨g, σ, hwrite, hσ, hinvoked⟩ :=
    reach_deletionWrite hserves hinitial (show outside.admits (deletionBy .protected) w from hadmits)
  obtain ⟨σ', more, between, hsent, hhistory, hstored, hw, hmem, hkept⟩ :=
    reach_deletionSend hserves hsend hσ hwrite
  exact ⟨g, σ', σ.history ++ more, between, hsent, hhistory, hstored, hw, hmem, hkept,
    List.mem_append_left _ hinvoked⟩

end Deletion

/-- **A run that deletes**: the marker, the one send, and the clearing. -/
theorem deletion_reachable : ∃ (s : OrderSystem Unit) (before between : List (OrderEvent OrderInput)),
    Reachable (orderHost "A-1" anything) s
      ∧ s.history = before ++ .stored deletionId deletionMarker :: between ++ [.cleared deletionId]
      ∧ deletionSend ∈ between ∧ (∀ id, Event.cleared id ∉ between)
      ∧ Event.invoked deletionId deletionInput ∈ before := by
  obtain ⟨g, σ, before, between, hsent, hhistory, -, -, hmem, hkept, hinvoked⟩ :=
    reach_deletion (⟨trivial, trivial, trivial, trivial⟩ : ServesDeletion anything ()) trivial trivial
      (.ok ()) () trivial
  have hsettlement : (deletionSettlement (.delete .deleted)).Conducts (orderHost "A-1" anything)
      deletionId σ (.delete .deleted) (σ.add (.cleared deletionId)) :=
    Handler.conducts_pure.bind (Handler.conducts_clear.bind Handler.conducts_pure)
  obtain ⟨c, hs⟩ := (hsettlement deletionInput g hsent).reachable
  exact ⟨_, before, between, hs, by simp [Spot.add, hhistory], hmem, hkept, hinvoked⟩

theorem isSend_deletionSend : isSend deletionId deletionSend = true := by decide

theorem protected_sends_once_sample : ∃ s : OrderSystem Unit,
    Reachable (orderHost "A-1" anything) s ∧ deletionSend ∈ s.history
      ∧ (sends deletionId s.history).length ≤ 1 := by
  obtain ⟨s, before, between, hs, hhistory, hsend, -, hinvoked⟩ := deletion_reachable
  have hinvoked : Event.invoked deletionId deletionInput ∈ s.history := by simp [hhistory, hinvoked]
  exact ⟨s, hs, by simp [hhistory, hsend], protected_sends_once hs hinvoked rfl⟩

/-- In a run that deletes a proforma, the deletion is the only send and its marker is gone
by the owner's settlement. -/
theorem protected_writes_guarded_sample : ∃ s : OrderSystem Unit,
    Reachable (orderHost "A-1" anything) s ∧ deletionSend ∈ s.history ∧ s.stored = none
      ∧ GuardedWrites "A-1" s.history := by
  obtain ⟨s, before, between, hs, hhistory, hsend, -, -⟩ := deletion_reachable
  obtain ⟨hguarded, hstored⟩ := protected_writes_guarded hs
  refine ⟨s, hs, by simp [hhistory, hsend], ?_, hguarded⟩
  rw [← hstored, hhistory, storedAt_snoc]
  rfl

theorem stored_markers_read_back_sample : ∃ s : OrderSystem Unit,
    Reachable (orderHost "A-1" anything) s ∧ Event.stored deletionId deletionMarker ∈ s.history
      ∧ decodeStored (fun raw : Json => some raw) deletionMarker.toJson none "A-1"
        = some deletionMarker := by
  obtain ⟨s, before, between, hs, hhistory, -, -, hinvoked⟩ := deletion_reachable
  have hstored : Event.stored deletionId deletionMarker ∈ s.history := by simp [hhistory]
  have hinvoked : Event.invoked deletionId deletionInput ∈ s.history := by simp [hhistory, hinvoked]
  obtain ⟨-, hread⟩ := stored_markers_read_back (fun raw : Json => some raw) hs hstored
  exact ⟨s, hs, hstored, hread deletionInput hinvoked deletionMarker.toJson rfl⟩

end Sample

end Szamlazz
