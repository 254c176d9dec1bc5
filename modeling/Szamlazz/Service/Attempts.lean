import Szamlazz.Lib.DurablePlay
import Szamlazz.Service.Answers

/-!
# What a handler executes

`Answers` is about what is recorded. Where nothing is stored before a send, the
executions that were lost count too: `Handler.Throughout` says what every
execution of every closure of a handler exchanges with szamlazz.hu, and
`Handler.Commits` that a handler whose executions went beyond reading answers
within bounds. Both are inherited by the plays of the handler, and both are
proved along its text.
-/

namespace Szamlazz

open Durable

section Attempts

variable [Unicode] [Transport] [Clock]

/-- What an attempt exchanged with szamlazz.hu. -/
def exchangesOf (attempt : Attempt ServiceRequest.Answer) : List (Exchange AgentRequest.Answer) :=
  agentExchanges attempt.exchanges

namespace Handler

variable {α β T : Type} {P : List (Exchange AgentRequest.Answer) → Prop}
  {Q : List (Exchange AgentRequest.Answer) → Except HandlerError α → Prop}

/-- **Every execution of every closure satisfies `P`.** -/
def Throughout (P : List (Exchange AgentRequest.Answer) → Prop) (handler : Handler α) : Prop :=
  Flow.Throughout (fun attempt => P (exchangesOf attempt)) (fun _ => True) (ExceptT.run handler)

/-- A handler whose executions satisfy `P`, and which ends where a run does without
a result. -/
def Prepares (P : List (Exchange AgentRequest.Answer) → Prop) (handler : Handler α) : Prop :=
  Flow.Prepares (fun attempt => P (exchangesOf attempt)) (fun result => ∃ error, result = .error error)
    (ExceptT.run handler)

/-- **As long as the executions satisfy `P`, anything may be answered; beyond that
only what satisfies `Q`.** -/
def Commits (P : List (Exchange AgentRequest.Answer) → Prop)
    (Q : List (Exchange AgentRequest.Answer) → Except HandlerError α → Prop)
    (handler : Handler α) : Prop :=
  Flow.Commits (fun attempt => P (exchangesOf attempt)) (fun tr result => Q (agentExchanges tr) result)
    (ExceptT.run handler)

theorem Throughout.bind {handler : Handler α} {next : α → Handler β} (h : Throughout P handler)
    (hnext : ∀ a, Throughout P (next a)) : Throughout P (handler >>= next) :=
  Flow.Throughout.bind h (fun result _ => by
    cases result with
    | ok a => exact hnext a
    | error error => trivial)

theorem Prepares.bind {handler : Handler α} {next : α → Handler β} (h : Prepares P handler)
    (hnext : ∀ a, Prepares P (next a)) : Prepares P (handler >>= next) := by
  refine Flow.Prepares.bind h ?_ (fun result => ?_)
  · rintro _ ⟨error, rfl⟩
    exact ⟨error, rfl⟩
  · cases result with
    | ok a => exact hnext a
    | error error => trivial

theorem Throughout.commits {handler : Handler α} (h : Throughout P handler) : Commits P Q handler :=
  Flow.Throughout.commits h

/-- What only prepares may be followed by what commits. -/
theorem Prepares.commits {handler : Handler β} {next : β → Handler α} (h : Prepares P handler)
    (hnext : ∀ a, Commits P Q (next a)) : Commits P Q (handler >>= next) := by
  refine Flow.Prepares.commits h ?_ (fun result => ?_)
  · rintro _ ⟨error, rfl⟩
    trivial
  · cases result with
    | ok a => exact hnext a
    | error error => trivial

/-- **Every execution of a play** satisfies what all of them do. -/
theorem Throughout.plays {handler : Handler α} (h : Throughout P handler)
    {attempts : List (Attempt ServiceRequest.Answer)} {flow : HandlerFlow (Except HandlerError α)}
    (hp : Flow.Plays (ExceptT.run handler) attempts flow) :
    ∀ attempt ∈ attempts, P (exchangesOf attempt) :=
  Flow.Throughout.plays h hp

/-- Every exchange of `tr` was made by an execution whose result was recorded. -/
def Recorded (attempts : List (Attempt ServiceRequest.Answer))
    (tr : List (Exchange AgentRequest.Answer)) : Prop :=
  ∀ e ∈ tr, ∃ attempt ∈ attempts, attempt.recorded = true ∧ e ∈ exchangesOf attempt

omit [Unicode] in
theorem recorded_of_recordedIn {attempts : List (Attempt ServiceRequest.Answer)}
    {t : List (Exchange (Act.Ans ServiceRequest.Answer))} (h : Flow.RecordedIn attempts t) :
    Recorded attempts (agentExchanges t) := by
  intro e he
  obtain ⟨attempt, hmem, hrec, hask⟩ := h _ (mem_agentExchanges he)
  exact ⟨attempt, hmem, hrec, agentExchanges_mem hask⟩

/-- **What a play answers** is backed by its recorded executions. -/
theorem Answers.plays {handler : Handler α} {Q : List (Exchange AgentRequest.Answer) → α → Prop}
    (h : handler.Answers Q) {attempts : List (Attempt ServiceRequest.Answer)} {a : α}
    (hp : Flow.Plays (ExceptT.run handler) attempts (.ret (.ok a))) :
    ∃ tr, Q tr a ∧ Recorded attempts tr := by
  obtain ⟨t, hr, hrec⟩ := hp.reaches
  exact ⟨agentExchanges t, h t _ hr a rfl, recorded_of_recordedIn hrec⟩

/-- **Beyond `P`, a play answers within `Q`.** -/
theorem Commits.plays {handler : Handler α} (h : Commits P Q handler)
    {attempts : List (Attempt ServiceRequest.Answer)} {result : Except HandlerError α}
    (hp : Flow.Plays (ExceptT.run handler) attempts (.ret result)) :
    (∀ attempt ∈ attempts, P (exchangesOf attempt)) ∨ ∃ tr, Q tr result ∧ Recorded attempts tr := by
  rcases Flow.Commits.plays h hp with hkeeps | ⟨t, hQ, hrec⟩
  · exact Or.inl hkeeps
  · exact Or.inr ⟨agentExchanges t, hQ, recorded_of_recordedIn hrec⟩

/-! ## Single plays -/

/-- **The handler can answer `a`**, its closures having been executed as the attempts
tell. -/
def Plays (handler : Handler α) (attempts : List (Attempt ServiceRequest.Answer)) (a : α) : Prop :=
  Flow.Plays (ExceptT.run handler) attempts (.ret (.ok a))

theorem Plays.bind {handler : Handler α} {next : α → Handler β}
    {as as' : List (Attempt ServiceRequest.Answer)} {a : α} {b : β} (h : handler.Plays as a)
    (h' : (next a).Plays as' b) : (handler >>= next).Plays (as ++ as') b :=
  (Flow.Plays.bind h _).trans h'

/-- An execution of a run that is executed again. -/
theorem Plays.tried [Journaled T] {name : String} {fault : TerminalError → HandlerError}
    {body c : Inside (Closed T TerminalError)}
    {t : List (Exchange (Act.Ans ServiceRequest.Answer))} {value : T}
    {as : List (Attempt ServiceRequest.Answer)} (h : Prog.Steps body t c)
    (hp : (run name fault body).Plays as value) :
    (run name fault body).Plays (⟨name, t, false⟩ :: as) value :=
  .lost (.tried (.run (h.bind _)) (.stop _)) hp

end Handler

/-! ## The closures -/

variable [FaultText]

end Attempts

end Szamlazz
