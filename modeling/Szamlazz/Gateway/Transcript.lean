import Szamlazz.Gateway.Query

/-!
# What a transcript shows

The claims about the calls of the gateway are claims about their transcripts:
nothing was sent, a document was read and another one after it, the one send
stands behind a query that permits it. These are the words for them, each with
the rules by which longer transcripts inherit it from their parts.
-/

namespace Szamlazz

variable [Unicode]

/-! ## Reads -/

/-- A transcript without a send. -/
def ReadOnly (tr : List (Exchange AgentRequest.Answer)) : Prop :=
  ∀ e ∈ tr, e.1.isMutation = false

/-- The call read `found` by `selector`. -/
def ReadIn (tr : List (Exchange AgentRequest.Answer)) (selector : InvoiceSelector)
    (found : FoundDocument) : Prop :=
  ∃ answer : Except ClientError InvoiceDocument,
    (⟨AgentRequest.query selector, answer⟩ : Exchange AgentRequest.Answer) ∈ tr
      ∧ queryAnswer selector answer = .ok found

/-- The call read a storno of `number` on this order, and afterwards the original
itself, of this order, reported reversed and satisfying `P`. -/
def ReversalReadIn (tr : List (Exchange AgentRequest.Answer)) (order : OrderKey) (number : String)
    (P : FoundDocument → Prop) (storno : FoundDocument) : Prop :=
  ∃ before after selector original, tr = before ++ after ∧ ReadIn before selector storno
    ∧ storno.isStornoOf number = true ∧ storno.carriesOrder order = true
    ∧ ReadIn after (.invoiceNumber number) original
    ∧ isReversedOriginal original order = true ∧ P original

section Transcript

omit [Unicode]

variable {t t' : List (Exchange AgentRequest.Answer)} {e : Exchange AgentRequest.Answer}
  {selector : InvoiceSelector} {answer : Except ClientError InvoiceDocument}
  {found : FoundDocument}

@[simp] theorem readOnly_nil : ReadOnly [] := fun _ h => by cases h

@[simp] theorem readOnly_cons : ReadOnly (e :: t) ↔ e.1.isMutation = false ∧ ReadOnly t := by
  simp [ReadOnly]

@[simp] theorem readOnly_append : ReadOnly (t ++ t') ↔ ReadOnly t ∧ ReadOnly t' := by
  simp [ReadOnly, or_imp, forall_and]

theorem ReadIn.left (h : ReadIn t selector found) : ReadIn (t ++ t') selector found := by
  obtain ⟨answer, hmem, heq⟩ := h
  exact ⟨answer, List.mem_append_left _ hmem, heq⟩

theorem ReadIn.right (h : ReadIn t' selector found) : ReadIn (t ++ t') selector found := by
  obtain ⟨answer, hmem, heq⟩ := h
  exact ⟨answer, List.mem_append_right _ hmem, heq⟩

theorem readIn_head (h : queryAnswer selector answer = .ok found) :
    ReadIn (⟨AgentRequest.query selector, answer⟩ :: t) selector found :=
  ⟨answer, List.mem_cons_self, h⟩

end Transcript

section Reversal

variable {t t' : List (Exchange AgentRequest.Answer)} {order : OrderKey} {number : String}
  {P : FoundDocument → Prop} {storno : FoundDocument}

theorem ReversalReadIn.mono {Q : FoundDocument → Prop} (h : ReversalReadIn t order number P storno)
    (hPQ : ∀ original, P original → Q original) : ReversalReadIn t order number Q storno := by
  obtain ⟨before, after, selector, original, ht, hb, hs, hc, ha, hr, hP⟩ := h
  exact ⟨before, after, selector, original, ht, hb, hs, hc, ha, hr, hPQ original hP⟩

theorem ReversalReadIn.left (h : ReversalReadIn t order number P storno) :
    ReversalReadIn (t ++ t') order number P storno := by
  obtain ⟨before, after, selector, original, rfl, hb, hs, hc, ha, hr, hP⟩ := h
  exact ⟨before, after ++ t', selector, original, List.append_assoc .., hb, hs, hc, ha.left, hr, hP⟩

theorem ReversalReadIn.right (h : ReversalReadIn t' order number P storno) :
    ReversalReadIn (t ++ t') order number P storno := by
  obtain ⟨before, after, selector, original, rfl, hb, hs, hc, ha, hr, hP⟩ := h
  exact ⟨t ++ before, after, selector, original, (List.append_assoc ..).symm, hb.right, hs, hc, ha,
    hr, hP⟩

end Reversal

/-! ## Gated sends -/

/-- **A gated send.** Whatever mutation the transcript holds is `send`, made once,
after the query `lead` of the same call whose answer permits it; `between` tells
what was exchanged from that query to the send. -/
def Gated (send : AgentRequest) (lead : InvoiceSelector)
    (permits : Except QueryError FoundDocument → Prop)
    (between : List (Exchange AgentRequest.Answer) → Prop)
    (tr : List (Exchange AgentRequest.Answer)) : Prop :=
  ∀ before e after, tr = before ++ e :: after → e.1.isMutation = true →
    e.1 = send ∧ ReadOnly before ∧ ReadOnly after
      ∧ ∃ (answer : Except ClientError InvoiceDocument) (guards : List _),
        before = ⟨AgentRequest.query lead, answer⟩ :: guards
          ∧ permits (queryAnswer lead answer) ∧ between guards

section Gated

omit [Unicode]

variable {send : AgentRequest} {lead : InvoiceSelector}
  {permits : Except QueryError FoundDocument → Prop}
  {between : List (Exchange AgentRequest.Answer) → Prop}
  {tr guards post : List (Exchange AgentRequest.Answer)}

/-- The one send of a transcript is found in one way. -/
theorem split_at_mutation {before after before' after' : List (Exchange AgentRequest.Answer)}
    {e e' : Exchange AgentRequest.Answer} (h : before ++ e :: after = before' ++ e' :: after')
    (hb : ReadOnly before) (ha : ReadOnly after) (he' : e'.1.isMutation = true) :
    before' = before ∧ e' = e ∧ after' = after := by
  induction before generalizing before' with
  | nil =>
    cases before' with
    | nil =>
      obtain ⟨rfl, rfl⟩ := List.cons.inj h
      exact ⟨rfl, rfl, rfl⟩
    | cons x rest =>
      obtain ⟨-, rfl⟩ := List.cons.inj h
      simp [he'] at ha
  | cons y before ih =>
    cases before' with
    | nil =>
      obtain ⟨rfl, -⟩ := List.cons.inj h
      simp [he'] at hb
    | cons x rest =>
      obtain ⟨rfl, htail⟩ := List.cons.inj h
      obtain ⟨rfl, rfl, rfl⟩ := ih htail (readOnly_cons.mp hb).2
      exact ⟨rfl, rfl, rfl⟩

theorem gated_of_readOnly (h : ReadOnly tr) : Gated send lead permits between tr := by
  rintro before e after rfl he
  have := h e (List.mem_append_right _ List.mem_cons_self)
  simp [he] at this

theorem gated_of_send {answer : Except ClientError InvoiceDocument} {reply : send.Answer}
    (hpermit : permits (queryAnswer lead answer)) (hro : ReadOnly guards) (hpost : ReadOnly post)
    (hbetween : between guards) :
    Gated send lead permits between
      (⟨AgentRequest.query lead, answer⟩ :: (guards ++ ⟨send, reply⟩ :: post)) := by
  intro before e after htr he
  rw [← List.cons_append] at htr
  obtain ⟨rfl, rfl, rfl⟩ := split_at_mutation htr
    (readOnly_cons.mpr ⟨rfl, hro⟩) hpost he
  exact ⟨rfl, readOnly_cons.mpr ⟨rfl, hro⟩, hpost, answer, guards, rfl, hpermit, hbetween⟩

/-- A call cut short has sent no more than the whole call. -/
theorem Gated.of_append {t t' : List (Exchange AgentRequest.Answer)}
    (h : Gated send lead permits between (t ++ t')) : Gated send lead permits between t := by
  rintro before e after rfl he
  obtain ⟨hsend, hb, ha, rest⟩ := h before e (after ++ t') (by simp) he
  exact ⟨hsend, hb, (readOnly_append.mp ha).1, rest⟩

end Gated

end Szamlazz
