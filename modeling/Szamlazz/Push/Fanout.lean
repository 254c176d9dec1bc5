import Szamlazz.Lib.Exchange
import Szamlazz.Lib.Xml
import Mathlib.Algebra.BigOperators.Group.List.Basic

/-!
# Acknowledgements and the fan-out of a push

What a handler answers to a pushed document, and the fan-out that delivers one
document to several handlers and merges their answers into one. A fan-out is a
handler itself, so handlers form a tree; the leaves are the receiver's own code,
and what they answer is open.

Above the code stands `Verdict`: what an answer means for the push. Verdicts form
a monoid – the strongest control code wins, and where nobody objects the first
registration number stands – and both merges of the code are its product
(`verdict_mergeInvoiceAcks`, `verdict_mergeAcks`). That is why nesting changes
nothing: a tree answers with the product of its leaves, read depth first
(`deliver_spec`).
-/

namespace Szamlazz.Adatkapcsolat

/-! ## Acknowledgements -/

/-- A control code sent instead of a normal acknowledgement. -/
inductive ControlCode where
  | keyUnknown
  | disconnect
  deriving DecidableEq

/-- The wire token. -/
def ControlCode.asWire : ControlCode → String
  | keyUnknown => "KEY_ERR"
  | disconnect => "KEY_DEL"

/-- Which kind of document a push carries, named by its root element. -/
inductive RootKind where
  | outgoingInvoice
  | incomingInvoice
  | bankTransaction
  | receipts
  deriving DecidableEq

namespace RootKind

/-- The root element of an acknowledgement. -/
def rootElement : RootKind → String
  | outgoingInvoice => "szamla"
  | incomingInvoice => "szamlabe"
  | bankTransaction => "banktranz"
  | receipts => "xmlnyugtaarchiv"

/-- The official namespace of the pushed document. -/
def «namespace» : RootKind → String
  | outgoingInvoice => "http://www.szamlazz.hu/szamla"
  | incomingInvoice => "http://www.szamlazz.hu/szamlabe"
  | bankTransaction => "http://www.szamlazz.hu/banktranz"
  | receipts => "http://www.szamlazz.hu/xmlnyugtaarchiv"

/-- The local name of the acknowledgement's root element. -/
def ackRootElement : RootKind → String
  | outgoingInvoice => "szamlavalasz"
  | incomingInvoice => "szamlabevalasz"
  | bankTransaction => "banktranzvalasz"
  | receipts => "nyugtavalasz"

end RootKind

/-- A rendered acknowledgement: the namespaced root and its children. -/
structure AckXml where
  root : String
  xmlns : String
  children : List Xml.Node

/-- The envelope of a kind around what is written into it. -/
def AckXml.render (kind : RootKind) (children : List Xml.Node) : AckXml where
  root := kind.ackRootElement
  xmlns := "http://www.szamlazz.hu/" ++ kind.ackRootElement
  children := children

/-- A control code as the acknowledgement of any kind. -/
def ControlCode.toXml (code : ControlCode) (kind : RootKind) : AckXml :=
  AckXml.render kind [.leaf "hibakod" code.asWire]

/-- Which invoice stream a pushed invoice arrived on. -/
inductive InvoiceDirection where
  | outgoing
  | incoming
  deriving DecidableEq

/-- The root kind of an invoice's direction. -/
def InvoiceDirection.rootKind : InvoiceDirection → RootKind
  | outgoing => .outgoingInvoice
  | incoming => .incomingInvoice

/-- The characters XML 1.0 admits in a text. -/
def isXml10Character (c : Char) : Bool :=
  c.val == 0x9 || c.val == 0xA || c.val == 0xD || (0x20 ≤ c.val && c.val ≤ 0xD7FF)
    || (0xE000 ≤ c.val && c.val ≤ 0xFFFD) || (0x10000 ≤ c.val && c.val ≤ 0x10FFFF)

/-- An acknowledgement that well-formed XML cannot carry. -/
inductive AckError where
  | invalidXmlCharacter (codepoint : UInt32)

/-- A text has to be of characters that XML 1.0 has. -/
def validateXml10 (value : String) : Except AckError Unit :=
  match value.toList.find? (fun c => !isXml10Character c) with
  | some c => .error (.invalidXmlCharacter c.val)
  | none => .ok ()

/-- A text is valid when all its characters are. -/
theorem validateXml10_eq_ok {value : String} :
    validateXml10 value = .ok () ↔ ∀ c ∈ value.toList, isXml10Character c = true := by
  unfold validateXml10
  split
  · next c hc =>
    have hbad := List.find?_some hc
    constructor
    · intro h
      cases h
    · intro h
      simp [h c (List.mem_of_find?_eq_some hc)] at hbad
  · next hnone =>
    simpa using hnone

/-- Acknowledgement of a pushed invoice. -/
structure InvoiceAck where
  id : Option Int64
  registrationNumber : Option String
  control : Option ControlCode
  deriving DecidableEq

namespace InvoiceAck

/-- Everything was handled. -/
def accept (id : Int64) : InvoiceAck := ⟨some id, none, none⟩

/-- An acknowledgement with a registration number. -/
def withRegistrationNumber (ack : InvoiceAck) (number : String) : InvoiceAck :=
  { ack with registrationNumber := some number }

/-- The key is not known. -/
def keyUnknown : InvoiceAck := ⟨none, none, some .keyUnknown⟩

/-- The connection is to be ended. -/
def disconnect : InvoiceAck := ⟨none, none, some .disconnect⟩

/-- The fields of an acknowledgement. -/
def parts (ack : InvoiceAck) : Option Int64 × Option String × Option ControlCode :=
  (ack.id, ack.registrationNumber, ack.control)

/-- Binds the acknowledgement to the document it answers. -/
def forDocument (ack : InvoiceAck) (id : Int64) : InvoiceAck :=
  if ack.control.isSome then { ack with id := none, registrationNumber := none }
  else { ack with id := some id }

/-- The children of the rendered acknowledgement. -/
def writeXml (ack : InvoiceAck) : List Xml.Node :=
  (if ack.id.isSome || ack.registrationNumber.isSome then
    [.node "alap" ((ack.id.map (fun id => Xml.Node.leaf "id" (toString id.toInt))).toList
      ++ (ack.registrationNumber.map (Xml.Node.leaf "iktatoszam")).toList)]
  else [])
    ++ (ack.control.map (fun control => Xml.Node.leaf "hibakod" control.asWire)).toList

/-- The acknowledgement as it is sent. -/
def toXml (ack : InvoiceAck) (direction : InvoiceDirection) : Except AckError AckXml :=
  match ack.registrationNumber with
  | some number => (validateXml10 number).map fun _ => AckXml.render direction.rootKind ack.writeXml
  | none => .ok (AckXml.render direction.rootKind ack.writeXml)

end InvoiceAck

/-- Acknowledgement of a pushed bank transaction or receipt batch. -/
structure Ack where
  control : Option ControlCode
  deriving DecidableEq

namespace Ack

def accept : Ack := ⟨none⟩

def keyUnknown : Ack := ⟨some .keyUnknown⟩

def disconnect : Ack := ⟨some .disconnect⟩

/-- The control code, if there is one. -/
def controlCode (ack : Ack) : Option ControlCode := ack.control

def toXml (ack : Ack) (kind : RootKind) : AckXml :=
  AckXml.render kind
    (ack.control.map (fun control => Xml.Node.leaf "hibakod" control.asWire)).toList

/-- The acknowledgement of a bank transaction. -/
def toBankTransactionXml (ack : Ack) : AckXml := ack.toXml .bankTransaction

/-- The acknowledgement of receipts. -/
def toReceiptsXml (ack : Ack) : AckXml := ack.toXml .receipts

end Ack

/-! ## Merging -/

/-- The strongest control code: `KEY_DEL` over `KEY_ERR` over none. -/
def escalate : Option ControlCode → Option ControlCode → Option ControlCode
  | some .disconnect, _ => some .disconnect
  | _, some .disconnect => some .disconnect
  | some .keyUnknown, _ => some .keyUnknown
  | _, some .keyUnknown => some .keyUnknown
  | none, none => none

/-- The loop of `mergeInvoiceAcks` over its two accumulators. -/
def mergeInvoiceParts : List InvoiceAck → Option ControlCode → Option String →
    Option ControlCode × Option String
  | [], control, registration => (control, registration)
  | ack :: acks, control, registration =>
    let (_, reg, code) := ack.parts
    mergeInvoiceParts acks (escalate control code)
      (if registration.isNone then reg else registration)

/-- The acknowledgement of an invoice that several handlers took. -/
def mergeInvoiceAcks (documentId : Int64) (acks : List InvoiceAck) : InvoiceAck :=
  match mergeInvoiceParts acks none none with
  | (some .disconnect, _) => .disconnect
  | (some .keyUnknown, _) => .keyUnknown
  | (none, some registration) => (InvoiceAck.accept documentId).withRegistrationNumber registration
  | (none, none) => InvoiceAck.accept documentId

/-- The acknowledgement of any other document that several handlers took. -/
def mergeAcks (acks : List Ack) : Ack :=
  match acks.foldl (fun current ack => escalate current ack.controlCode) none with
  | some .disconnect => .disconnect
  | some .keyUnknown => .keyUnknown
  | none => .accept

/-! ## Verdicts -/

/-- **What an answer means for the push.** Acceptance, with the registration
number supplied for it, or a control code. -/
inductive Verdict where
  | accepted (registration : Option String)
  | control (code : ControlCode)
  deriving DecidableEq

namespace Verdict

/-- The verdict of a control code and a registration number, which only counts without one.
-/
def ofParts : Option ControlCode → Option String → Verdict
  | some code, _ => control code
  | none, registration => accepted registration

/-- The control code of a verdict. -/
def code : Verdict → Option ControlCode
  | accepted _ => none
  | control code => some code

/-- The registration number of a verdict. -/
def registration : Verdict → Option String
  | accepted registration => registration
  | control _ => none

instance : Mul Verdict where
  mul v w := ofParts (escalate v.code w.code) (v.registration <|> w.registration)

instance : One Verdict where
  one := accepted none

/-- Two verdicts are merged by parts. -/
theorem mul_def (v w : Verdict) :
    v * w = ofParts (escalate v.code w.code) (v.registration <|> w.registration) := rfl

/-- A verdict keeps its control code. -/
@[simp] theorem code_ofParts (c : Option ControlCode) (r : Option String) :
    (ofParts c r).code = c := by
  cases c <;> rfl

/-- Escalation is associative. -/
theorem escalate_assoc (a b c : Option ControlCode) :
    escalate (escalate a b) c = escalate a (escalate b c) := by
  rcases a with - | - | - <;> rcases b with - | - | - <;> rcases c with - | - | - <;> rfl

/-- A code survives any other. -/
theorem isSome_escalate (a b : Option ControlCode) :
    (escalate a b).isSome = (a.isSome || b.isSome) := by
  rcases a with - | - | - <;> rcases b with - | - | - <;> rfl

/-- With a code the registration number does not count. -/
theorem ofParts_eq_of_isSome {c : Option ControlCode} (hc : c.isSome = true)
    (r s : Option String) : ofParts c r = ofParts c s := by
  obtain ⟨code, rfl⟩ := Option.isSome_iff_exists.mp hc
  rfl

/-- A registration number dropped beside a control code is one that the control
code would have hidden anyway. -/
theorem ofParts_registration_left (c d : Option ControlCode) (r s : Option String) :
    ofParts (escalate c d) ((ofParts c r).registration <|> s) = ofParts (escalate c d) (r <|> s) := by
  cases c with
  | none => rfl
  | some code => exact ofParts_eq_of_isSome (by rw [isSome_escalate]; rfl) _ _

/-- Nor does that of a merged part with a code. -/
theorem ofParts_registration_right (c d : Option ControlCode) (r s : Option String) :
    ofParts (escalate c d) (r <|> (ofParts d s).registration) = ofParts (escalate c d) (r <|> s) := by
  cases d with
  | none => rfl
  | some code =>
    refine ofParts_eq_of_isSome ?_ _ _
    rw [isSome_escalate, Bool.or_eq_true]
    exact Or.inr rfl

instance : Monoid Verdict where
  mul_assoc u v w := by
    simp only [mul_def, code_ofParts]
    rw [ofParts_registration_left, ofParts_registration_right, escalate_assoc]
    congr 1
    cases u.registration <;> rfl
  one_mul v := by
    rcases v with r | c
    · rfl
    · cases c <;> rfl
  mul_one v := by
    rcases v with r | c
    · cases r <;> rfl
    · cases c <;> rfl

/-- Verdicts are merged before or after their parts. -/
theorem ofParts_mul_ofParts (c d : Option ControlCode) (r s : Option String) :
    ofParts c r * ofParts d s = ofParts (escalate c d) (r <|> s) := by
  rw [mul_def, code_ofParts, code_ofParts, ofParts_registration_left, ofParts_registration_right]

/-- The code of a merged verdict. -/
@[simp] theorem code_mul (v w : Verdict) : (v * w).code = escalate v.code w.code := by
  rw [mul_def, code_ofParts]

/-- The registration number of a merged verdict without a code is the first there is. -/
theorem registration_mul {v w : Verdict} (h : (v * w).code = none) :
    (v * w).registration = (v.registration <|> w.registration) := by
  rw [code_mul] at h
  rw [mul_def, h]
  rfl

/-- There is no code only if neither has one. -/
theorem escalate_eq_none {a b : Option ControlCode} :
    escalate a b = none ↔ a = none ∧ b = none := by
  rcases a with - | - | - <;> rcases b with - | - | - <;> simp [escalate]

/-- To disconnect is the strongest code. -/
theorem escalate_eq_disconnect {a b : Option ControlCode} :
    escalate a b = some .disconnect ↔ a = some .disconnect ∨ b = some .disconnect := by
  rcases a with - | - | - <;> rcases b with - | - | - <;> simp [escalate]

/-- Nobody objects exactly when no verdict is a control code. -/
theorem code_prod_eq_none (vs : List Verdict) :
    vs.prod.code = none ↔ ∀ v ∈ vs, v.code = none := by
  induction vs with
  | nil => exact ⟨fun _ v hv => absurd hv List.not_mem_nil, fun _ => rfl⟩
  | cons v vs ih => rw [List.prod_cons, code_mul, escalate_eq_none, ih, List.forall_mem_cons]

/-- One `KEY_DEL` severs the connection. -/
theorem code_prod_eq_disconnect (vs : List Verdict) :
    vs.prod.code = some .disconnect ↔ ∃ v ∈ vs, v.code = some .disconnect := by
  induction vs with
  | nil =>
    refine ⟨fun h => ?_, fun ⟨_, hv, _⟩ => absurd hv List.not_mem_nil⟩
    cases h
  | cons v vs ih =>
    rw [List.prod_cons, code_mul, escalate_eq_disconnect, ih, List.exists_mem_cons_iff]

/-- `KEY_ERR` stands when somebody said it and nobody `KEY_DEL`. -/
theorem code_prod_eq_keyUnknown (vs : List Verdict) :
    vs.prod.code = some .keyUnknown
      ↔ (∃ v ∈ vs, v.code = some .keyUnknown) ∧ ∀ v ∈ vs, v.code ≠ some .disconnect := by
  have hnone := code_prod_eq_none vs
  have hdisconnect := code_prod_eq_disconnect vs
  constructor
  · intro h
    rw [h] at hnone hdisconnect
    have hsome : ∃ v ∈ vs, v.code ≠ none := by
      by_contra hall
      push Not at hall
      exact absurd (hnone.mpr hall) (by simp)
    have hall : ∀ v ∈ vs, v.code ≠ some .disconnect := fun v hv hcode =>
      absurd (hdisconnect.mpr ⟨v, hv, hcode⟩) (by simp)
    obtain ⟨v, hv, hcode⟩ := hsome
    refine ⟨⟨v, hv, ?_⟩, hall⟩
    match hc : v.code with
    | none => exact absurd hc hcode
    | some .disconnect => exact absurd hc (hall v hv)
    | some .keyUnknown => rfl
  · rintro ⟨⟨v, hv, hcode⟩, hall⟩
    match hc : vs.prod.code with
    | none => exact absurd (hnone.mp hc v hv) (by simp [hcode])
    | some .disconnect =>
      obtain ⟨w, hw, hcode'⟩ := hdisconnect.mp hc
      exact absurd hcode' (hall w hw)
    | some .keyUnknown => rfl

/-- Where nobody objects, the first registration number stands. -/
theorem registration_prod {vs : List Verdict} (h : vs.prod.code = none) :
    vs.prod.registration = (vs.filterMap registration).head? := by
  induction vs with
  | nil => rfl
  | cons v vs ih =>
    rw [List.prod_cons] at h ⊢
    rw [registration_mul h, List.filterMap_cons]
    rw [code_mul, escalate_eq_none] at h
    cases hv : v.registration with
    | none => exact ih h.2
    | some number => rfl

end Verdict

/-- What an invoice acknowledgement means. -/
def InvoiceAck.verdict (ack : InvoiceAck) : Verdict :=
  Verdict.ofParts ack.control ack.registrationNumber

/-- What an acknowledgement without metadata means. -/
def Ack.verdict (ack : Ack) : Verdict := Verdict.ofParts ack.control none

/-- Merging invoice acknowledgements is multiplying their verdicts. -/
theorem ofParts_mergeInvoiceParts (acks : List InvoiceAck) (control : Option ControlCode)
    (registration : Option String) :
    Verdict.ofParts (mergeInvoiceParts acks control registration).1
        (mergeInvoiceParts acks control registration).2
      = Verdict.ofParts control registration * (acks.map InvoiceAck.verdict).prod := by
  induction acks generalizing control registration with
  | nil => exact (mul_one _).symm
  | cons ack acks ih =>
    rw [mergeInvoiceParts, List.map_cons, List.prod_cons, ← mul_assoc, InvoiceAck.verdict,
      Verdict.ofParts_mul_ofParts]
    refine (ih _ _).trans ?_
    congr 2
    cases registration <;> rfl

/-- **The merge of invoice acknowledgements is the product of their verdicts.** -/
theorem verdict_mergeInvoiceAcks (documentId : Int64) (acks : List InvoiceAck) :
    (mergeInvoiceAcks documentId acks).verdict = (acks.map InvoiceAck.verdict).prod := by
  have hparts := ofParts_mergeInvoiceParts acks none none
  rw [show Verdict.ofParts none none = 1 from rfl, one_mul] at hparts
  rw [← hparts, mergeInvoiceAcks]
  rcases mergeInvoiceParts acks none none with ⟨- | - | -, - | registration⟩ <;> rfl

/-- So is merging the others. -/
theorem ofParts_foldl_escalate (acks : List Ack) (control : Option ControlCode) :
    Verdict.ofParts (acks.foldl (fun current ack => escalate current ack.controlCode) control) none
      = Verdict.ofParts control none * (acks.map Ack.verdict).prod := by
  induction acks generalizing control with
  | nil => exact (mul_one _).symm
  | cons ack acks ih =>
    rw [List.foldl_cons, List.map_cons, List.prod_cons, ← mul_assoc, Ack.verdict,
      Verdict.ofParts_mul_ofParts]
    exact ih _

/-- **So is the merge of the others.** -/
theorem verdict_mergeAcks (acks : List Ack) :
    (mergeAcks acks).verdict = (acks.map Ack.verdict).prod := by
  have hfold := ofParts_foldl_escalate acks none
  rw [show Verdict.ofParts none none = 1 from rfl, one_mul] at hfold
  rw [← hfold, mergeAcks]
  generalize acks.foldl (fun current ack => escalate current ack.controlCode) none = control
  rcases control with - | - | - <;> rfl

/-! ## The fan-out -/

/-- A member's error: its own, or a nested fan-out's failures by type name. -/
inductive BoxError where
  | member (text : String)
  | fanout (failures : List (String × BoxError))

/-- One member's failure inside a fan-out delivery. -/
structure HandlerFailure where
  handler : String
  error : BoxError

/-- The failures of a fan-out delivery, in registration order. -/
structure FanoutError where
  failures : List HandlerFailure

/-- The error as its caller sees it. -/
def FanoutError.boxed (e : FanoutError) : BoxError :=
  .fanout (e.failures.map fun failure => (failure.handler, failure.error))

/-- **A handler tree.** A leaf is the receiver's own handler, with its type name; a
fan-out holds its members in registration order. -/
inductive HandlerTree (L : Type) where
  | leaf (typeName : String) (handler : L)
  | fanout (handlers : List (HandlerTree L))

namespace HandlerTree

variable {L : Type}

/-- The name a member is registered under. -/
def typeName : HandlerTree L → String
  | leaf typeName _ => typeName
  | fanout _ => "szamlazz_adatkapcsolat::fanout::Fanout"

mutual

/-- The leaves, depth first. -/
def leaves : HandlerTree L → List L
  | leaf _ handler => [handler]
  | fanout handlers => leavesAll handlers

/-- The leaves of several trees, from the left. -/
def leavesAll : List (HandlerTree L) → List L
  | [] => []
  | h :: hs => leaves h ++ leavesAll hs

end

mutual

/-- Whether no fan-out of the tree is empty. -/
def complete : HandlerTree L → Bool
  | leaf _ _ => true
  | fanout handlers => !handlers.isEmpty && completeAll handlers

/-- Whether several trees are complete. -/
def completeAll : List (HandlerTree L) → Bool
  | [] => true
  | h :: hs => complete h && completeAll hs

end

/-- Induction over a tree, with the hypothesis for every member. -/
theorem members_induction {P : HandlerTree L → Prop}
    (hleaf : ∀ typeName handler, P (leaf typeName handler))
    (hfanout : ∀ handlers, (∀ h ∈ handlers, P h) → P (fanout handlers)) :
    ∀ t, P t
  | leaf typeName handler => hleaf typeName handler
  | fanout handlers => hfanout handlers fun h _ => members_induction hleaf hfanout h

end HandlerTree

/-- An empty fan-out rejects delivery. -/
def requireHandler {L : Type} (handlers : List (HandlerTree L)) : Except FanoutError Unit :=
  if handlers.isEmpty then .error ⟨[⟨"Fanout", .member "no handlers configured"⟩]⟩ else .ok ()

section Dispatch

variable {Req : Type} {Ans : Req → Type} {L D K : Type}

/-- What one handler answers; `none` is a panic. -/
abbrev Handled (K : Type) := Option (Except BoxError K)

/-- The loop of `dispatch!`. Every member but the last is handed a clone of the
document, the last one the original, which leaves the slot empty. -/
def dispatchFrom (count : Nat) : List (String × (D → Prog Ans (Handled K))) → Nat → Option D →
    List K → List HandlerFailure → Prog Ans (Option (Except FanoutError (List K)))
  | [], _, _, acks, failures =>
    pure (some (if failures.isEmpty then .ok acks else .error ⟨failures⟩))
  | (name, handler) :: rest, index, document, acks, failures =>
    match document with
    | none => pure none
    | some doc => do
      let document := if index + 1 == count then none else document
      match ← handler doc with
      | none => pure none
      | some (.ok ack) => dispatchFrom count rest (index + 1) document (acks ++ [ack]) failures
      | some (.error error) =>
        dispatchFrom count rest (index + 1) document acks (failures ++ [⟨name, error⟩])

/-- Calls every handler with the document, and goes on behind a failure. -/
def dispatch (handlers : List (String × (D → Prog Ans (Handled K)))) (document : D) :
    Prog Ans (Option (Except FanoutError (List K))) :=
  dispatchFrom handlers.length handlers 0 (some document) [] []

/-- A method of `Fanout` on its members, each given by its name and its method. -/
def fanOut (merge : D → List K → K) (required : Except FanoutError Unit)
    (handlers : List (String × (D → Prog Ans (Handled K)))) (document : D) :
    Prog Ans (Handled K) :=
  match required with
  | .error error => pure (some (.error error.boxed))
  | .ok () => do
    match ← dispatch handlers document with
    | none => pure none
    | some (.error error) => pure (some (.error error.boxed))
    | some (.ok acks) => pure (some (.ok (merge document acks)))

mutual

/-- **One method of `Handler` on a tree**: what a leaf does (`call`), and how a
fan-out merges. The four methods are its instances. -/
def deliver (call : L → D → Prog Ans (Except BoxError K)) (merge : D → List K → K) :
    HandlerTree L → D → Prog Ans (Handled K)
  | .leaf _ handler, document => do
    let answer ← call handler document
    pure (some answer)
  | .fanout handlers, document =>
    fanOut merge (requireHandler handlers) (deliverAll call merge handlers) document

/-- The handlers of several trees, by name. -/
def deliverAll (call : L → D → Prog Ans (Except BoxError K)) (merge : D → List K → K) :
    List (HandlerTree L) → List (String × (D → Prog Ans (Handled K)))
  | [] => []
  | h :: hs => (h.typeName, deliver call merge h) :: deliverAll call merge hs

end

/-! ## What a tree answers -/

/-- The exchanges of a delivery: each leaf called once, in order, on the document.
`calls` pairs the leaves with what they answered. -/
def Delivered (event : L → D → Except BoxError K → Exchange Ans) (document : D) (leaves : List L)
    (tr : List (Exchange Ans)) (calls : List (L × Except BoxError K)) : Prop :=
  calls.map Prod.fst = leaves ∧ tr = calls.map (fun c => event c.1 document c.2)

/-- Some leaf failed. -/
def SomeFailed (calls : List (L × Except BoxError K)) : Prop :=
  ∃ c ∈ calls, ∃ error, c.2 = .error error

/-- **What the leaves' answers settle.** A handler fails when a fan-out below it is
empty or a leaf failed, and otherwise answers with the product of its leaves. -/
def Settles (verdict : K → Verdict) (complete : Bool) (calls : List (L × Except BoxError K)) :
    Handled K → Prop
  | none => False
  | some (.error _) => complete = false ∨ SomeFailed calls
  | some (.ok ack) => complete = true ∧ ∃ acks : List K, calls.map Prod.snd = acks.map Except.ok
      ∧ verdict ack = (acks.map verdict).prod

/-- The same for the loop, over the members it has still to run. -/
def SettlesFrom (verdict : K → Verdict) (complete : Bool) (calls : List (L × Except BoxError K))
    (acks : List K) (failures : List HandlerFailure) : Option (Except FanoutError (List K)) → Prop
  | none => False
  | some (.error _) => failures ≠ [] ∨ complete = false ∨ SomeFailed calls
  | some (.ok acks') => failures = [] ∧ complete = true ∧ ∃ more leafAcks : List K,
      acks' = acks ++ more ∧ calls.map Prod.snd = leafAcks.map Except.ok
      ∧ (more.map verdict).prod = (leafAcks.map verdict).prod

variable {event : L → D → Except BoxError K → Exchange Ans}

/-- Two deliveries, one after the other. -/
theorem Delivered.append {document : D} {leaves leaves' : List L} {tr tr' : List (Exchange Ans)}
    {calls calls' : List (L × Except BoxError K)} (h : Delivered event document leaves tr calls)
    (h' : Delivered event document leaves' tr' calls') :
    Delivered event document (leaves ++ leaves') (tr ++ tr') (calls ++ calls') :=
  ⟨by rw [List.map_append, h.1, h'.1], by rw [List.map_append, h.2, h'.2]⟩

/-- A failure stays one with more calls behind it. -/
theorem SomeFailed.append_left {calls calls' : List (L × Except BoxError K)}
    (h : SomeFailed calls) : SomeFailed (calls ++ calls') := by
  obtain ⟨c, hc, herror⟩ := h
  exact ⟨c, List.mem_append_left _ hc, herror⟩

/-- And with more calls before it. -/
theorem SomeFailed.append_right {calls calls' : List (L × Except BoxError K)}
    (h : SomeFailed calls') : SomeFailed (calls ++ calls') := by
  obtain ⟨c, hc, herror⟩ := h
  exact ⟨c, List.mem_append_right _ hc, herror⟩

variable {verdict : K → Verdict}

/-- A member that answered, before the rest of the loop. -/
theorem SettlesFrom.cons_ok {c cs : Bool} {calls calls' : List (L × Except BoxError K)} {ack : K}
    {acks : List K} {failures : List HandlerFailure} {r : Option (Except FanoutError (List K))}
    (hhead : Settles verdict c calls (some (.ok ack)))
    (htail : SettlesFrom verdict cs calls' (acks ++ [ack]) failures r) :
    SettlesFrom verdict (c && cs) (calls ++ calls') acks failures r := by
  obtain ⟨rfl, leafAcks, hcalls, hverdict⟩ := hhead
  match r, htail with
  | some (.error _), h =>
    rcases h with h | h | h
    · exact Or.inl h
    · exact Or.inr (Or.inl h)
    · exact Or.inr (Or.inr h.append_right)
  | some (.ok _), ⟨hfailures, hcomplete, more, leafAcks', hacks, hcalls', hprod⟩ =>
    refine ⟨hfailures, hcomplete, ack :: more, leafAcks ++ leafAcks', ?_, ?_, ?_⟩
    · rw [hacks, List.append_assoc, List.singleton_append]
    · rw [List.map_append, List.map_append, hcalls, hcalls']
    · rw [List.map_cons, List.prod_cons, List.map_append, List.prod_append, hverdict, hprod]

/-- A member that failed, before the rest of the loop. -/
theorem SettlesFrom.cons_error {c cs : Bool} {calls calls' : List (L × Except BoxError K)}
    {error : BoxError} {acks : List K} {failures : List HandlerFailure} {failure : HandlerFailure}
    {r : Option (Except FanoutError (List K))}
    (hhead : Settles verdict c calls (some (.error error)))
    (htail : SettlesFrom verdict cs calls' acks (failures ++ [failure]) r) :
    SettlesFrom verdict (c && cs) (calls ++ calls') acks failures r := by
  match r, htail with
  | some (.error _), _ =>
    rcases hhead with rfl | h
    · exact Or.inr (Or.inl rfl)
    · exact Or.inr (Or.inr h.append_left)
  | some (.ok _), ⟨hfailures, _⟩ =>
    exact absurd hfailures (List.append_ne_nil_of_right_ne_nil _ (List.cons_ne_nil _ _))

section Deliver

variable {call : L → D → Prog Ans (Except BoxError K)} {merge : D → List K → K}

/-- What a delivery to a tree amounts to. -/
def Delivers (event : L → D → Except BoxError K → Exchange Ans) (verdict : K → Verdict)
    (t : HandlerTree L) (document : D) (tr : List (Exchange Ans)) (r : Handled K) : Prop :=
  ∃ calls, Delivered event document t.leaves tr calls ∧ Settles verdict t.complete calls r

/-- The loop, from the point where `hs` are still to run. The slot holds the
document as long as a member is left, so no `expect` fires. -/
theorem dispatchFrom_spec {count : Nat} {document : D} (hs : List (HandlerTree L))
    (hmembers : ∀ h ∈ hs, Prog.Ensures (deliver call merge h document)
      (Delivers event verdict h document))
    (index : Nat) (hcount : index + hs.length = count) (slot : Option D)
    (hslot : hs ≠ [] → slot = some document) (acks : List K) (failures : List HandlerFailure) :
    Prog.Ensures (dispatchFrom count (deliverAll call merge hs) index slot acks failures)
      (fun tr r => ∃ calls, Delivered event document (HandlerTree.leavesAll hs) tr calls
        ∧ SettlesFrom verdict (HandlerTree.completeAll hs) calls acks failures r) := by
  induction hs generalizing index slot acks failures with
  | nil =>
    refine Prog.ensures_ret.mpr ⟨[], ⟨rfl, rfl⟩, ?_⟩
    cases failures with
    | nil => exact ⟨rfl, rfl, [], [], (List.append_nil _).symm, rfl, rfl⟩
    | cons failure failures => exact Or.inl (List.cons_ne_nil _ _)
  | cons h hs ih =>
    obtain rfl := hslot (List.cons_ne_nil _ _)
    have htail := ih (fun h' hh' => hmembers h' (List.mem_cons_of_mem _ hh')) (index + 1)
      (by rw [← hcount, List.length_cons]; omega)
      (if index + 1 == count then none else some document) (fun hne => by
        have : hs.length ≠ 0 := fun hzero => hne (List.eq_nil_of_length_eq_zero hzero)
        rw [if_neg]
        rw [beq_iff_eq, ← hcount, List.length_cons]
        omega)
    refine Prog.Ensures.bind (hmembers h List.mem_cons_self) ?_
    rintro tr r ⟨calls, hdelivered, hsettles⟩
    match r, hsettles with
    | some (.ok ack), hsettles =>
      refine (htail (acks ++ [ack]) failures).mono ?_
      rintro tr' r' ⟨calls', hdelivered', hsettles'⟩
      exact ⟨calls ++ calls', hdelivered.append hdelivered', hsettles'.cons_ok hsettles⟩
    | some (.error error), hsettles =>
      refine (htail acks (failures ++ [⟨h.typeName, error⟩])).mono ?_
      rintro tr' r' ⟨calls', hdelivered', hsettles'⟩
      exact ⟨calls ++ calls', hdelivered.append hdelivered', hsettles'.cons_error hsettles⟩

variable (event verdict) in
/-- **A tree answers with the product of its leaves**, each called once, depth
first, on the document; it fails when a fan-out is empty or a leaf fails. -/
theorem deliver_spec
    (hcall : ∀ l d, Prog.Ensures (call l d) (fun tr a => tr = [event l d a]))
    (hmerge : ∀ d acks, verdict (merge d acks) = (acks.map verdict).prod)
    (t : HandlerTree L) (document : D) :
    Prog.Ensures (deliver call merge t document) (Delivers event verdict t document) := by
  induction t using HandlerTree.members_induction with
  | hleaf typeName handler =>
    refine Prog.Ensures.bind (hcall handler document) ?_
    rintro tr answer rfl
    refine Prog.ensures_ret.mpr ⟨[(handler, answer)], ⟨rfl, rfl⟩, ?_⟩
    cases answer with
    | error error => exact Or.inr ⟨_, List.mem_cons_self, error, rfl⟩
    | ok ack => exact ⟨rfl, [ack], rfl, by rw [List.map_singleton, List.prod_singleton]⟩
  | hfanout handlers ih =>
    rw [deliver, requireHandler]
    by_cases hempty : handlers.isEmpty = true
    · obtain rfl := List.isEmpty_iff.mp hempty
      exact Prog.ensures_ret.mpr ⟨[], ⟨rfl, rfl⟩, Or.inl rfl⟩
    rw [if_neg hempty]
    have hlength : (deliverAll call merge handlers).length = handlers.length := by
      clear ih hempty
      induction handlers with
      | nil => rfl
      | cons h hs ih => rw [deliverAll, List.length_cons, List.length_cons, ih]
    have hloop := dispatchFrom_spec handlers ih 0 (Nat.zero_add handlers.length) (some document)
      (fun _ => rfl) [] []
    rw [fanOut, dispatch, hlength]
    refine Prog.Ensures.bind hloop ?_
    rintro tr r ⟨calls, hdelivered, hsettles⟩
    have hcomplete : (HandlerTree.fanout handlers).complete = HandlerTree.completeAll handlers := by
      rw [HandlerTree.complete, Bool.eq_false_iff.mpr hempty, Bool.not_false, Bool.true_and]
    match r, hsettles with
    | some (.error error), hsettles =>
      refine Prog.ensures_ret.mpr ⟨calls, by rwa [List.append_nil], ?_⟩
      rw [hcomplete]
      exact hsettles.resolve_left (fun hne => hne rfl)
    | some (.ok acks), ⟨_, hall, more, leafAcks, hacks, hcalls, hprod⟩ =>
      refine Prog.ensures_ret.mpr ⟨calls, by rwa [List.append_nil], ?_⟩
      rw [hcomplete]
      refine ⟨hall, leafAcks, hcalls, ?_⟩
      rw [hmerge, hacks, List.nil_append, hprod]

end Deliver

end Dispatch

end Szamlazz.Adatkapcsolat
