import Szamlazz.Contract.Order

/-!
# The answer of a create, interpreted

A create answers with one open record of a dozen optional fields. A client does
not read those: it asks for the record's view, which exists only if the fields
its outcome requires are there (`Complete`), and then says what they say
(`Shows`). A record of an unknown outcome has a view of its own, so that a newer
worker can be read by an older client.
-/

namespace Szamlazz

namespace Contract

/-- The wire token of a reason. -/
def ConflictReason.asStr : ConflictReason → String
  | prepaidChain => "prepaid_chain"
  | orderInvoiced => "order_invoiced"
  | live => "live"
  | targetChanged => "target_changed"
  | foreign => "foreign"
  | duplicateOrderNumber => "duplicate_order_number"
  | externalIdCollision => "external_id_collision"
  | proformaLive => "proforma_live"
  | proformaMissing => "proforma_missing"
  | prepaymentMissing => "prepayment_missing"
  | prepaymentReversed => "prepayment_reversed"
  | baseReversed => "base_reversed"
  | notManaged => "not_managed"
  | other token => token

/-- The reasons of this version. -/
def ConflictReason.known : List ConflictReason :=
  [live, targetChanged, prepaidChain, orderInvoiced, proformaLive, proformaMissing, notManaged,
    prepaymentMissing, prepaymentReversed, baseReversed, foreign, duplicateOrderNumber,
    externalIdCollision]

theorem ConflictReason.nonblank_of_known {reason : ConflictReason} (h : reason ∈ known) :
    Text.isBlank reason.asStr = false := by
  revert reason
  decide

/-- What a record of an outcome lacks. -/
structure InvalidCreateResponse where
  field : String
deriving DecidableEq

/-- A record with what its outcome requires. -/
inductive CreateResponseView where
  | issued (invoiceNumber : String)
  | alreadyIssued (invoiceNumber : String)
  | reconciled (invoiceNumber : String)
  | reversed (invoiceNumber : String) (stornoNumber : Option String)
  | rejected (code message : String)
  | duplicateOrderNumber (code message : String) (existingNumber : Option String)
  | conflict (reason : ConflictReason)
  | other (outcome : String)
deriving DecidableEq

namespace CreateResponse

def required (field : String) (value : Option String) : Except InvalidCreateResponse String :=
  match value with
  | some value => .ok value
  | none => .error ⟨field⟩

def nonblank (field : String) (value : Option String) : Except InvalidCreateResponse String :=
  required field (value.filter (fun value => !Text.isBlank value))

/-- The number of the document. -/
def number (response : CreateResponse) : Except InvalidCreateResponse String :=
  nonblank "invoice_number" response.invoiceNumber

/-- The code and the message of szamlazz.hu. -/
def answer (response : CreateResponse) : Except InvalidCreateResponse (String × String) := do
  let code ← nonblank "code" response.code
  let message ← required "message" response.message
  return (code, message)

/-- The reason of a conflict. -/
def reason (response : CreateResponse) : Except InvalidCreateResponse ConflictReason :=
  match response.conflictReason.filter (fun reason => !Text.isBlank reason.asStr) with
  | some reason => .ok reason
  | none => .error ⟨"conflict_reason"⟩

/-- **Interprets the outcome**, after checking what it requires. -/
def validated (response : CreateResponse) : Except InvalidCreateResponse CreateResponseView :=
  match response.outcome with
  | .issued => response.number.map .issued
  | .alreadyIssued => response.number.map .alreadyIssued
  | .reconciled => response.number.map .reconciled
  | .reversed => response.number.map (fun number => .reversed number response.stornoNumber)
  | .rejected => response.answer.map (fun answer => .rejected answer.1 answer.2)
  | .conflict => do
    let reason ← response.reason
    if reason = .duplicateOrderNumber then
      response.answer.map
        (fun answer => .duplicateOrderNumber answer.1 answer.2 response.existingNumber)
    else return .conflict reason
  | .other outcome => .ok (.other outcome)

/-! ## What is required -/

/-- A field that is there and not blank. -/
def Present (value : Option String) : Prop := ∃ text, value = some text ∧ Text.isBlank text = false

/-- **What an outcome requires** of its record. -/
def Complete (response : CreateResponse) : Prop :=
  match response.outcome with
  | .issued | .alreadyIssued | .reconciled | .reversed => Present response.invoiceNumber
  | .rejected => Present response.code ∧ response.message.isSome = true
  | .conflict => ∃ reason, response.conflictReason = some reason
      ∧ Text.isBlank reason.asStr = false
      ∧ (reason = .duplicateOrderNumber →
          Present response.code ∧ response.message.isSome = true)
  | .other _ => True

/-- **What a view says** of a record: its outcome, and the numbers, codes and
reasons it carries. -/
def Shows (response : CreateResponse) : CreateResponseView → Prop
  | .issued number => response.outcome = .issued ∧ response.invoiceNumber = some number
  | .alreadyIssued number =>
    response.outcome = .alreadyIssued ∧ response.invoiceNumber = some number
  | .reconciled number => response.outcome = .reconciled ∧ response.invoiceNumber = some number
  | .reversed number stornoNumber =>
    response.outcome = .reversed ∧ response.invoiceNumber = some number
      ∧ response.stornoNumber = stornoNumber
  | .rejected code message =>
    response.outcome = .rejected ∧ response.code = some code ∧ response.message = some message
  | .duplicateOrderNumber code message existingNumber =>
    response.outcome = .conflict ∧ response.conflictReason = some .duplicateOrderNumber
      ∧ response.code = some code ∧ response.message = some message
      ∧ response.existingNumber = existingNumber
  | .conflict reason =>
    response.outcome = .conflict ∧ response.conflictReason = some reason
      ∧ reason ≠ .duplicateOrderNumber
  | .other outcome => response.outcome = .other outcome

/-- **A client decodes the record**: it has a view, of an outcome the client knows,
that says what the record says. -/
def Decodes (response : CreateResponse) : Prop :=
  ∃ view, response.validated = .ok view ∧ response.Shows view ∧ ∀ token, view ≠ .other token

variable {response : CreateResponse} {view : CreateResponseView}

theorem required_eq_ok {field text : String} {value : Option String} :
    required field value = .ok text ↔ value = some text := by
  cases value <;> simp [required]

theorem nonblank_eq_ok {field text : String} {value : Option String} :
    nonblank field value = .ok text ↔ value = some text ∧ Text.isBlank text = false := by
  rw [nonblank, required_eq_ok, Option.filter_eq_some_iff]
  simp

theorem answer_eq_ok {code message : String} :
    response.answer = .ok (code, message)
      ↔ (response.code = some code ∧ Text.isBlank code = false)
        ∧ response.message = some message := by
  unfold answer
  simp only [Except.bind_eq_ok, nonblank_eq_ok, required_eq_ok, pure, Except.pure, Except.ok.injEq,
    Prod.mk.injEq]
  constructor
  · rintro ⟨c, hc, m, hm, rfl, rfl⟩
    exact ⟨hc, hm⟩
  · rintro ⟨hc, hm⟩
    exact ⟨code, hc, message, hm, rfl, rfl⟩

theorem reason_eq_ok {reason : ConflictReason} :
    response.reason = .ok reason
      ↔ response.conflictReason = some reason ∧ Text.isBlank reason.asStr = false := by
  unfold CreateResponse.reason
  split
  · rename_i found hfound
    rw [Option.filter_eq_some_iff] at hfound
    constructor
    · rintro ⟨⟩
      exact ⟨hfound.1, by simpa using hfound.2⟩
    · rintro ⟨hreason, -⟩
      rw [hfound.1] at hreason
      exact congrArg Except.ok (Option.some.inj hreason)
  · rename_i hnone
    refine iff_of_false (fun h => by cases h) ?_
    rintro ⟨hreason, hblank⟩
    rw [hreason, Option.filter_eq_none_iff] at hnone
    simpa [hblank] using hnone reason rfl

theorem present_iff (field : String) {value : Option String} :
    Present value ↔ ∃ text, nonblank field value = .ok text := by
  simp only [nonblank_eq_ok]
  rfl

theorem map_eq_ok {ε α β : Type} {f : α → β} {x : Except ε α} {b : β} :
    x.map f = .ok b ↔ ∃ a, x = .ok a ∧ f a = b := by
  cases x <;> simp [Except.map]

/-- **A view says what its record says.** -/
theorem shows_of_validated (h : response.validated = .ok view) : response.Shows view := by
  unfold validated at h
  split at h
  case h_1 houtcome =>
    obtain ⟨number, hnumber, rfl⟩ := map_eq_ok.mp h
    exact ⟨houtcome, (nonblank_eq_ok.mp hnumber).1⟩
  case h_2 houtcome =>
    obtain ⟨number, hnumber, rfl⟩ := map_eq_ok.mp h
    exact ⟨houtcome, (nonblank_eq_ok.mp hnumber).1⟩
  case h_3 houtcome =>
    obtain ⟨number, hnumber, rfl⟩ := map_eq_ok.mp h
    exact ⟨houtcome, (nonblank_eq_ok.mp hnumber).1⟩
  case h_4 houtcome =>
    obtain ⟨number, hnumber, rfl⟩ := map_eq_ok.mp h
    exact ⟨houtcome, (nonblank_eq_ok.mp hnumber).1, rfl⟩
  case h_5 houtcome =>
    obtain ⟨⟨code, message⟩, hanswer, rfl⟩ := map_eq_ok.mp h
    obtain ⟨⟨hcode, -⟩, hmessage⟩ := answer_eq_ok.mp hanswer
    exact ⟨houtcome, hcode, hmessage⟩
  case h_6 houtcome =>
    obtain ⟨reason, hreason, h⟩ := Except.bind_eq_ok.mp h
    obtain ⟨hreason, -⟩ := reason_eq_ok.mp hreason
    split_ifs at h with hduplicate
    · obtain ⟨⟨code, message⟩, hanswer, rfl⟩ := map_eq_ok.mp h
      obtain ⟨⟨hcode, -⟩, hmessage⟩ := answer_eq_ok.mp hanswer
      exact ⟨houtcome, hduplicate ▸ hreason, hcode, hmessage, rfl⟩
    · cases h
      exact ⟨houtcome, hreason, hduplicate⟩
  case h_7 houtcome =>
    cases h
    exact houtcome

/-- **A record has a view exactly if it is complete.** -/
theorem validated_isOk_iff : (∃ view, response.validated = .ok view) ↔ response.Complete := by
  have hanswer : (∃ answer, response.answer = .ok answer)
      ↔ Present response.code ∧ response.message.isSome = true := by
    constructor
    · rintro ⟨⟨code, message⟩, h⟩
      obtain ⟨hcode, hmessage⟩ := answer_eq_ok.mp h
      exact ⟨⟨code, hcode⟩, by rw [hmessage]; rfl⟩
    · rintro ⟨⟨code, hcode⟩, hmessage⟩
      obtain ⟨message, hmessage⟩ := Option.isSome_iff_exists.mp hmessage
      exact ⟨(code, message), answer_eq_ok.mpr ⟨hcode, hmessage⟩⟩
  unfold validated Complete
  cases houtcome : response.outcome with
  | issued | alreadyIssued | reconciled | reversed =>
    rw [present_iff "invoice_number"]
    simp [map_eq_ok, number]
  | rejected =>
    rw [← hanswer]
    simp [map_eq_ok]
  | conflict =>
    constructor
    · rintro ⟨view, h⟩
      obtain ⟨reason, hreason, h⟩ := Except.bind_eq_ok.mp h
      obtain ⟨hreason, hblank⟩ := reason_eq_ok.mp hreason
      refine ⟨reason, hreason, hblank, fun hduplicate => ?_⟩
      rw [if_pos hduplicate] at h
      obtain ⟨answer, h, -⟩ := map_eq_ok.mp h
      exact hanswer.mp ⟨answer, h⟩
    · rintro ⟨reason, hreason, hblank, hduplicate⟩
      have hfound : response.reason = .ok reason := reason_eq_ok.mpr ⟨hreason, hblank⟩
      by_cases hd : reason = .duplicateOrderNumber
      · obtain ⟨answer, h⟩ := hanswer.mpr (hduplicate hd)
        exact ⟨.duplicateOrderNumber answer.1 answer.2 response.existingNumber, by
          simp [hfound, hd, h, bind, Except.bind, Except.map]⟩
      · exact ⟨.conflict reason, by simp [hfound, hd, bind, Except.bind, pure, Except.pure]⟩
  | other token => simp

end CreateResponse

end Contract

end Szamlazz
