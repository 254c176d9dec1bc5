import Szamlazz.Lib.DurableOutlived
import Szamlazz.Service.OrderRuns

/-!
# What survivors of an order send

The host does not stop an execution that it gives up. In replay-enabled mode such an
execution can hold its request back, be replaced, see its replacement send, settle and
clear the marker, and then send after all; in either mode it can send while an operator
recovers the order. So a marker need not be stored at the moment of a send. What is left of
the law is this: a survivor has behind it what it had behind it when it was given up
(`RetainedSend`), it repeats the one write of its invocation (`OneWriteEver`), and while a
marker is stored whoever else sends is a survivor (`marker_window_with_survivors`).
-/

namespace Szamlazz

open Durable Outlived

section Survivors

variable [Unicode] [Transport] [Clock]

/-- An order with its survivors, in a world. -/
abbrev OrderState (W : Type) : Type :=
  Outlived.State ServiceRequest.Answer UnresolvedWrite Journal TerminalError InvocationId OrderInput
    (Except HandlerError OrderAnswer) W

/-- One thing that happened to it. -/
abbrev OrderHappened : Type :=
  Happened ServiceRequest.Answer UnresolvedWrite Journal TerminalError InvocationId OrderInput

/-- **What a send has behind it**, were it made after `h`: its invocation's own stored
marker, which retains it, and the recorded arming or the recorded barrier. -/
structure RetainedSend (key : String) (h : List (OrderEvent OrderInput)) (id : InvocationId)
    (request : AgentRequest) (input : OrderInput) (marker : UnresolvedWrite) : Prop where
  invoked : Event.invoked id input ∈ h
  stored : storedAt h = some marker
  own : OwnMarker key id input marker
  covers : marker.Covers request
  armed : input.config.orderExecution = .protected →
    Event.recorded id "arm-write" (.ok .unit) ∈ h
  committed : input.config.orderExecution = .replayEnabled → ∃ operation : ReplayWrite,
    Event.recorded id (operation.step ++ "-marker-committed") (.ok .unit) ∈ h

/-- **All sends of an invocation are one write**, those of its survivors among them. -/
structure OneWriteEver (key : String) (id : InvocationId) (h : List OrderHappened)
    (input : OrderInput) (marker : UnresolvedWrite) (request : AgentRequest) : Prop where
  invoked : Event.invoked id input ∈ told h
  own : OwnMarker key id input marker
  covers : marker.Covers request
  only : OnlySends id request (told h)
  /-- The marker is the stored one at every send, or was when the survivor was given up. -/
  behind : ∀ before d after, h = before ++ d :: after → isSend id d.event = true →
    ∃ earlier, earlier <+: before ∧ (d.survivor = none → earlier = before)
      ∧ storedAt (timely earlier) = some marker
  /-- Between two sends a run was begun, -/
  executions : ∀ before e mid e' after, timely h = before ++ e :: (mid ++ e' :: after) →
    isSend id e = true → isSend id e' = true → ∃ name, Event.began id name ∈ mid
  /-- by each survivor too. -/
  survivors : ∀ k before e mid e' after, lateBy k h = before ++ e :: (mid ++ e' :: after) →
    isSend id e = true → isSend id e' = true → ∃ name, Event.began id name ∈ mid
  once : input.config.orderExecution = .protected → (sends id (told h)).length ≤ 1
  last : ∀ m, storedAt (timely h) = some m → m.token = id.text → m = marker

section Anticipated

variable {key : String} {id : InvocationId} {h : List OrderHappened}
  {F : List (List (OrderEvent OrderInput))} {t : List (OrderEvent OrderInput)}
  {request : AgentRequest} {input : OrderInput} {marker : UnresolvedWrite}

/-- A lawful send has behind it what the law asks for. -/
theorem LawfulSend.retained (ha : Anticipates h F t)
    (hsend : LawfulSend key t id request input marker) :
    RetainedSend key (timely h) id request input marker where
  invoked := ha.mem_timely hsend.invoked (by rintro id' (⟨_, h⟩ | ⟨_, _, h⟩) <;> cases h)
  stored := ha.storedAt.1 ▸ hsend.stored
  own := hsend.own
  covers := hsend.covers
  armed hmode := by
    have hpermitted := hsend.permitted
    rw [Permitted, hmode] at hpermitted
    exact ha.mem_timely hpermitted.2 (by rintro id' (⟨_, h⟩ | ⟨_, _, h⟩) <;> cases h)
  committed hmode := by
    have hpermitted := hsend.permitted
    rw [Permitted, hmode] at hpermitted
    obtain ⟨operation, hrecorded⟩ := hpermitted
    exact ⟨operation, ha.mem_timely hrecorded (by rintro id' (⟨_, h⟩ | ⟨_, _, h⟩) <;> cases h)⟩

/-- Between two sends of an invocation a run was begun, in whatever is lawful. -/
theorem began_between (hlaw : Lawful (OrderLaw key) t)
    {before mid after : List (OrderEvent OrderInput)} {e e' : OrderEvent OrderInput}
    (ht : t = before ++ e :: (mid ++ e' :: after)) (he : isSend id e = true)
    (he' : isSend id e' = true) : ∃ name, Event.began id name ∈ mid := by
  have hsent : NoSend id t ∨ ∃ input marker request, OneWrite key id t input marker request :=
    noSend_or_oneWrite hlaw
  rcases hsent with hnone | ⟨input, marker, request, hone⟩
  · simp [hnone e (by simp [ht])] at he
  · exact hone.executions before e mid e' after ht he he'

/-- And between two sends of one survivor: what it did stands together in the telling. -/
theorem began_between_late (ha : Anticipates h F t) (hdone : ∀ l ∈ F, l = [])
    (hlaw : Lawful (OrderLaw key) t) {k : ℕ} {before mid after : List (OrderEvent OrderInput)}
    {e e' : OrderEvent OrderInput} (hlate : lateBy k h = before ++ e :: (mid ++ e' :: after))
    (he : isSend id e = true) (he' : isSend id e' = true) : ∃ name, Event.began id name ∈ mid := by
  obtain ⟨t₁, t₂, heq⟩ : ∃ t₁ t₂, t = t₁ ++ (lateBy k h ++ t₂) := by
    rcases Nat.lt_or_ge k F.length with hk | hk
    · obtain ⟨t₁, t₂, heq⟩ := ha.together (List.getElem?_eq_getElem hk)
      exact ⟨t₁, t₂, by rw [heq, hdone _ (List.getElem_mem hk), List.append_nil]⟩
    · simp [ha.lateBy_eq_nil hk] at hlate
  have hthere : t = (t₁ ++ before) ++ e :: (mid ++ e' :: (after ++ t₂)) := by
    simp [heq, hlate]
  exact began_between hlaw hthere he he'

/-- What one telling says of an invocation's sends, every telling does. -/
theorem OneWrite.ever (hone : OneWrite key id t input marker request) (ha : Anticipates h F t)
    (hdone : ∀ l ∈ F, l = []) (ht : Lawful (OrderLaw key) t)
    (htimely : Lawful (OrderLaw key) (timely h))
    (honce : ∀ input', Event.invoked id input' ∈ t → input' = input) :
    OneWriteEver key id h input marker request := by
  have hsame : t.Perm (told h) := by
    simpa [List.flatten_eq_nil_iff.mpr hdone] using ha.perm
  exact {
    invoked := hsame.mem_iff.mp hone.invoked
    own := hone.own
    covers := hone.covers
    only := fun other x hmem => hone.only other x (hsame.mem_iff.mpr hmem)
    behind := by
      rintro before d after hh hd
      obtain ⟨earlier, F', t₁, t₂, hprefix, hlistened, ha', heq⟩ := ha.located hh
      refine ⟨earlier, hprefix, hlistened, ?_⟩
      rw [← ha'.storedAt.1]
      exact hone.behind t₁ d.event t₂ heq hd
    executions := fun before e mid e' after heq he he' => began_between htimely heq he he'
    survivors := fun k before e mid e' after hlate he he' =>
      began_between_late ha hdone ht hlate he he'
    once := by
      intro hmode
      have hlength : (sends id (told h)).length = (sends id t).length :=
        (hsame.filter _).length_eq.symm
      rw [hlength]
      refine sends_length_le_one ht fun input' hinput => ?_
      rw [honce input' hinput]
      exact hmode
    last := by
      rw [← ha.storedAt.1]
      exact hone.last }

end Anticipated

section Runs

variable [FaultText] [RustDecimal] {W : Type} {key : String} {outside : Outside W}
  {c : OrderState W}

/-- A run in a world that may do anything. -/
theorem reachable_anything {s : OrderSystem Unit}
    (hs : Durable.Reachable (orderHost key outside).free s) :
    Durable.Reachable (orderHost key anything) s := hs

/-- Whoever sends, its marker was the stored one at an earlier moment of the run, and at that
very moment if the host still listens. -/
theorem exists_retainedSend (hc : Outlived.Reachable (orderHost key outside) c)
    {before after : List OrderHappened} {id : InvocationId} {request : AgentRequest}
    {x : request.Answer} {survivor : Option ℕ}
    (hhistory : c.history = before ++ ⟨.asked id (.agent request) x, survivor⟩ :: after)
    (hmutation : request.isMutation = true) :
    ∃ earlier input marker, earlier <+: before ∧ (survivor = none → earlier = before)
      ∧ RetainedSend key (timely earlier) id request input marker := by
  obtain ⟨t, hs, ha⟩ := hc.retold
  obtain ⟨earlier, F, t₁, t₂, hprefix, hlistened, ha', ht⟩ := ha.located hhistory
  obtain ⟨input, marker, hsend⟩ := sends_behind_marker (reachable_anything hs) ht hmutation
  exact ⟨earlier, input, marker, hprefix, hlistened, hsend.retained ha'⟩

/-- **Nothing is changed but behind the invocation's own stored marker**, survivors or not:
of an execution that the host still listens to the whole law holds, and of a survivor what
it had behind it when it was given up. -/
theorem every_send_behind_marker (hc : Outlived.Reachable (orderHost key outside) c)
    {before after : List OrderHappened} {id : InvocationId} {request : AgentRequest}
    {x : request.Answer} {survivor : Option ℕ}
    (hhistory : c.history = before ++ ⟨.asked id (.agent request) x, survivor⟩ :: after)
    (hmutation : request.isMutation = true) :
    (survivor = none → ∃ input marker, LawfulSend key (timely before) id request input marker)
      ∧ ∃ earlier input marker, earlier <+: before
        ∧ RetainedSend key (timely earlier) id request input marker := by
  constructor
  · rintro rfl
    have htimely : timely c.history
        = timely before ++ .asked id (.agent request) x :: timely after := by
      rw [hhistory, timely_append]
      rfl
    exact sends_behind_marker (reachable_anything hc.timely) htimely hmutation
  · obtain ⟨earlier, input, marker, hprefix, -, hsend⟩ := exists_retainedSend hc hhistory hmutation
    exact ⟨earlier, input, marker, hprefix, hsend⟩

/-- **A replayed invocation repeats one send**, and so do its executions that were given
up. -/
theorem survivors_repeat_one_write (hc : Outlived.Reachable (orderHost key outside) c)
    (id : InvocationId) : NoSend id (told c.history)
      ∨ ∃ input marker request, OneWriteEver key id c.history input marker request := by
  obtain ⟨t, hs, ha⟩ := hc.retold
  have hlaw : Lawful (OrderLaw key) t := (order_lawful (reachable_anything hs)).1
  have hsent : NoSend id t ∨ ∃ input marker request, OneWrite key id t input marker request :=
    noSend_or_oneWrite hlaw
  rcases hsent with hnone | ⟨input, marker, request, hone⟩
  · exact Or.inl fun e he => hnone e (ha.perm.mem_iff.mpr (List.mem_append_left _ he))
  · refine Or.inr ⟨input, marker, request, hone.ever ha (by simp) hlaw
      (order_lawful (reachable_anything hc.timely)).1 fun input' hinput => ?_⟩
    exact hs.invoked_once hinput hone.invoked

/-- **While a marker stays stored, nothing new is sent but by its owner.** Whoever else
sends was given up before the marker was stored, and had its own stored marker then. -/
theorem marker_window_with_survivors (hc : Outlived.Reachable (orderHost key outside) c)
    {before after : List OrderHappened} {id : InvocationId} {marker : UnresolvedWrite}
    (hhistory : c.history = before ++ ⟨.stored id marker, none⟩ :: after)
    (hkept : ∀ id', (⟨.cleared id', none⟩ : OrderHappened) ∉ after) :
    c.stored = some marker
      ∧ ∀ id' request x survivor, ⟨.asked id' (.agent request) x, survivor⟩ ∈ after →
        request.isMutation = true → (id' = id ∧ marker.Covers request)
          ∨ survivor ≠ none ∧ ∃ earlier input marker', earlier <+: before
            ∧ RetainedSend key (timely earlier) id' request input marker' := by
  obtain ⟨hlaw, hstored⟩ : Lawful (OrderLaw key) (timely c.history)
      ∧ storedAt (timely c.history) = c.stored := order_lawful (reachable_anything hc.timely)
  have htold : timely c.history = timely before ++ .stored id marker :: timely after := by
    rw [hhistory, timely_append, timely_cons]
  obtain ⟨-, -, input, -, hown, -⟩ := hlaw _ _ _ htold
  have hwindow : ∀ {rest}, (∃ more, after = rest ++ more) →
      storedAt (timely (before ++ ⟨.stored id marker, none⟩ :: rest)) = some marker
        ∧ ∀ id' request x, Event.asked id' (.agent request) x ∈ timely rest →
          request.isMutation = true → id' = id ∧ marker.Covers request := by
    rintro rest ⟨more, rfl⟩
    have htimely : timely c.history
        = (timely before ++ .stored id marker :: timely rest) ++ timely more := by
      simp [htold]
    have hopen : ∀ id', Event.cleared id' ∉ timely rest :=
      fun id' hmem => hkept id' (List.mem_append_left _ (mem_timely.mp hmem))
    obtain ⟨hnow, -, hsends⟩ := window_of_lawful (Lawful.left (htimely ▸ hlaw)) hopen
    rw [timely_append, timely_cons]
    exact ⟨hnow, hsends⟩
  obtain ⟨hnow, hsends⟩ := hwindow ⟨[], (List.append_nil _).symm⟩
  refine ⟨?_, fun id' request x survivor hmem hmutation => ?_⟩
  · rw [← hstored, hhistory]
    exact hnow
  · cases survivor with
    | none => exact Or.inl (hsends id' request x (mem_timely.mpr hmem) hmutation)
    | some k =>
      obtain ⟨first, last, rfl⟩ := List.append_of_mem hmem
      have hsent : c.history = (before ++ ⟨.stored id marker, none⟩ :: first)
          ++ ⟨.asked id' (.agent request) x, some k⟩ :: last := by
        simp [hhistory]
      obtain ⟨-, earlier, input', marker', hprefix, hsend⟩ :=
        every_send_behind_marker hc hsent hmutation
      rcases List.prefix_or_prefix_of_prefix hprefix (List.prefix_append before _)
        with hbefore | ⟨since, rfl⟩
      · exact Or.inr ⟨nofun, earlier, input', marker', hbefore, hsend⟩
      · cases since with
        | nil =>
          refine Or.inr ⟨nofun, before, input', marker', List.prefix_refl _, ?_⟩
          simpa using hsend
        | cons d since =>
          -- given up since the marker was stored, it is the owner's
          obtain ⟨more, hmore⟩ := hprefix
          rw [List.append_assoc, List.append_cancel_left_eq, List.cons_append] at hmore
          obtain ⟨rfl, rfl⟩ := List.cons.inj hmore
          have hthen : storedAt (timely (before ++ ⟨.stored id marker, none⟩ :: since))
              = some marker := (hwindow ⟨_, List.append_assoc _ _ _⟩).1
          obtain rfl : marker = marker' := Option.some.inj (hthen.symm.trans hsend.stored)
          exact Or.inl ⟨hown.owner_unique hsend.own, hsend.covers⟩

end Runs

end Survivors

/-! ## A deletion that is sent late -/

section Sample

local instance survivorUnicode : Unicode := sampleUnicode

local instance survivorTransport : Transport := sampleTransport

local instance survivorClock : Clock := observedClock

local instance survivorFaultText : FaultText := observedFaultText

local instance survivorDecimal : RustDecimal := RustDecimal.exact

/-- **A run in which a deletion is sent after its invocation was dropped**, its marker still
stored. -/
theorem late_deletion_reachable : ∃ (c : OrderState Unit)
    (before between : List (OrderEvent OrderInput)),
    Outlived.Reachable (orderHost "A-1" anything) c ∧ c.current = none
      ∧ c.history = onTime (before ++ .stored deletionId deletionMarker :: between)
        ++ late 0 [deletionSend]
      ∧ ∀ id, Event.cleared id ∉ between := by
  obtain ⟨s, before, between, hs, hhistory, hsend, hkept, -⟩ := deletion_reachable
  obtain ⟨first, rest, rfl⟩ := List.append_of_mem hsend
  have heq : s.history = (before ++ .stored deletionId deletionMarker :: first) ++ deletionSend
      :: (rest ++ [.cleared deletionId]) := by simp [hhistory]
  obtain ⟨c, hc, hcurrent, hlate⟩ := Reachable.asked_late hs heq
  exact ⟨c, before, first, hc, hcurrent, hlate,
    fun id hmem => hkept id (List.mem_append_left _ hmem)⟩

/-- The late deletion had its marker behind it. -/
theorem every_send_behind_marker_sample : ∃ (c : OrderState Unit) (before : List OrderHappened),
    Outlived.Reachable (orderHost "A-1" anything) c ∧ c.current = none
      ∧ c.history = before ++ [⟨deletionSend, some 0⟩]
      ∧ ∃ earlier input marker, earlier <+: before
        ∧ RetainedSend "A-1" (timely earlier) deletionId (.deleteProforma "D-1") input marker := by
  obtain ⟨c, before, between, hc, hcurrent, hhistory, -⟩ := late_deletion_reachable
  exact ⟨c, _, hc, hcurrent, hhistory, (every_send_behind_marker hc hhistory rfl).2⟩

/-- It is all the invocation ever sent. -/
theorem survivors_repeat_one_write_sample : ∃ (c : OrderState Unit) (input : OrderInput)
    (marker : UnresolvedWrite) (request : AgentRequest),
    Outlived.Reachable (orderHost "A-1" anything) c ∧ ⟨deletionSend, some 0⟩ ∈ c.history
      ∧ OneWriteEver "A-1" deletionId c.history input marker request := by
  obtain ⟨c, before, between, hc, -, hhistory, -⟩ := late_deletion_reachable
  have hmem : ⟨deletionSend, some 0⟩ ∈ c.history := by simp [hhistory, late]
  rcases survivors_repeat_one_write hc deletionId with hnone | ⟨input, marker, request, hone⟩
  · have := hnone deletionSend (List.mem_map_of_mem hmem)
    simp [isSend_deletionSend] at this
  · exact ⟨c, input, marker, request, hc, hmem, hone⟩

/-- And its marker stays. -/
theorem marker_window_with_survivors_sample : ∃ (c : OrderState Unit)
    (before after : List OrderHappened),
    Outlived.Reachable (orderHost "A-1" anything) c
      ∧ c.history = before ++ ⟨.stored deletionId deletionMarker, none⟩ :: after
      ∧ ⟨deletionSend, some 0⟩ ∈ after ∧ c.stored = some deletionMarker
      ∧ ∀ id request x survivor, ⟨.asked id (.agent request) x, survivor⟩ ∈ after →
        request.isMutation = true → (id = deletionId ∧ deletionMarker.Covers request)
          ∨ survivor ≠ none ∧ ∃ earlier input marker, earlier <+: before
            ∧ RetainedSend "A-1" (timely earlier) id request input marker := by
  obtain ⟨c, before, between, hc, -, hhistory, hkept⟩ := late_deletion_reachable
  have heq : c.history = onTime before ++ ⟨.stored deletionId deletionMarker, none⟩
      :: (onTime between ++ late 0 [deletionSend]) := by
    simp [hhistory, onTime]
  have hopen : ∀ id, (⟨.cleared id, none⟩ : OrderHappened)
      ∉ onTime between ++ late 0 [deletionSend] := by
    simpa [onTime, late] using hkept
  exact ⟨c, _, _, hc, heq, by simp [late], marker_window_with_survivors hc heq hopen⟩

/-! ### In replay-enabled mode -/

end Sample

end Szamlazz
