import Szamlazz.Gateway.Create

/-!
# The deletion of a proforma

A deletion is sent only behind a fresh read of the pinned document, by its number.
Nothing but the acknowledgement says that it happened: szamlazz.hu reports an absent
proforma the same way whether an earlier send deleted it or nobody ever issued it.
-/

namespace Szamlazz

variable [Unicode]

/-! ## The calls -/

/-- What the freshly read target says about the deletion; `none` lets it proceed. -/
def deletionGuard (pinned : FoundDocument) (order : OrderKey) (force : Bool) :
    Except QueryError FoundDocument → Option DeleteOutcome
  | .ok fresh =>
    if fresh.number ≠ pinned.number || fresh.documentId ≠ pinned.documentId
        || !fresh.isOurs order .proforma then some .targetChanged
    else if !force && !fresh.creditEntries.isEmpty then some .paid
    else none
  | .error error =>
    match error.answered with
    | .ok .notFound => some .alreadyGone
    | .ok (.credentialsRejected answer) => some (.credentialsRejected answer)
    | .ok (.api answer) => some (.api answer)
    | .error unanswered => some (.guardFailed unanswered)

/-- What the reply to a deletion says. -/
def deletionReply : Except ClientError Unit → DeleteOutcome
  | .ok () => .deleted
  | .error (.api api) => .ofApi api
  | .error (.request error) => .rejected (.ofRequest error.display)
  | .error error => .lost (Diagnostic.exchange "delete-proforma" error)

/-- Reads the pinned proforma afresh and deletes it. -/
def deleteProforma (pinned : FoundDocument) (order : OrderKey) (force : Bool) :
    Call DeleteOutcome := do
  let fresh ← queryRaw (.invoiceNumber pinned.number)
  match deletionGuard pinned order force fresh with
  | some outcome => return outcome
  | none => do
    let reply ← Prog.perform (AgentRequest.deleteProforma pinned.number)
    return deletionReply reply

/-- What the holder of the proforma's external id says about a deletion in the
namespace; `none` lets it proceed. -/
def deletionNamespace (pinned : FoundDocument) :
    Except Unanswered OwnershipOutcome → Option WriteResult
  | .ok (.live current) | .ok (.reversed current) =>
    if current.number = pinned.number ∧ current.documentId = pinned.documentId then none
    else some (.because "deletion namespace target changed or collided")
  | .ok (.credentialsRejected answer) =>
    some (.because ("deletion namespace credentials rejected: " ++ answer.code))
  | .ok .absent =>
    some (.because "deletion namespace holder absent; absence does not settle deletion")
  | .ok (.api answer) => some (.because ("deletion namespace vendor code " ++ answer.code))
  | .error cause => some (.because ("deletion namespace query unanswered: " ++ cause.display))
  | .ok (.collision _) => some (.because "deletion namespace target changed or collided")

/-- Acknowledged deletion alone is a result. -/
def replayDeleteResult : DeleteOutcome → WriteResult
  | .deleted => .delete .deleted
  | .credentialsRejected answer => .because ("deletion credentials rejected: " ++ answer.code)
  | .alreadyGone =>
    .because "proforma reported absent; absence does not settle earlier deletion"
  | .paid => .because "fresh deletion paid guard refused; earlier deletion remains unresolved"
  | .targetChanged =>
    .because "fresh deletion target changed; earlier deletion remains unresolved"
  | .api answer => .because ("deletion guard vendor code " ++ answer.code)
  | .rejected rejection =>
    .because ("deletion refused: " ++ rejection.code.display
      ++ "; earlier execution remains unresolved")
  | .inconclusive answer => .because ("inconclusive deletion code " ++ answer.code)
  | .guardFailed cause => .because ("deletion guard unanswered: " ++ cause.display)
  | .lost cause => .because ("deletion answer lost: " ++ cause.display)

/-- Whether the marker retains exactly this deletion. -/
def retainsDelete (marker : UnresolvedWrite) (found : FoundDocument)
    (request : DeleteProformaRequest) : Bool :=
  marker.executionContract
      = some (ReplayExecutionContract.forDelete request found.documentId)
    && marker.operation = .delete found.number

/-- The deletion whose unfinished executions may run again. -/
def deleteReplayEnabled (externalId : ExternalId) (marker : UnresolvedWrite)
    (found : FoundDocument) (request : DeleteProformaRequest) : Call WriteResult :=
  if !retainsDelete marker found request then
    return .because "deletion request differs from retained intent"
  else if request.mode = .namespaceOwned then do
    let holder ← lookupOurs externalId marker.order .proforma
    match deletionNamespace found holder with
    | some result => return result
    | none => do
      let outcome ← deleteProforma found marker.order request.force
      return replayDeleteResult outcome
  else do
    let outcome ← deleteProforma found marker.order request.force
    return replayDeleteResult outcome

/-! ## The gate -/

/-- **What permits a deletion**: the pinned proforma, read afresh, still this
order's, and unpaid unless the caller insists. -/
def PermitsDeletion (pinned : FoundDocument) (order : OrderKey) (force : Bool)
    (r : Except QueryError FoundDocument) : Prop :=
  ∃ fresh, r = .ok fresh ∧ fresh.number = pinned.number ∧ fresh.documentId = pinned.documentId
    ∧ fresh.isOurs order .proforma = true ∧ (force = true ∨ fresh.creditEntries = [])

theorem deletionGuard_eq_none {pinned : FoundDocument} {order : OrderKey} {force : Bool}
    {r : Except QueryError FoundDocument} :
    deletionGuard pinned order force r = none ↔ PermitsDeletion pinned order force r := by
  unfold deletionGuard PermitsDeletion
  split
  · rename_i fresh
    split_ifs with htarget hpaid
    · simp only [Bool.or_eq_true, decide_eq_true_eq, Bool.not_eq_true', or_assoc] at htarget
      constructor
      · intro h
        cases h
      · rintro ⟨fresh', ⟨⟩, hnumber, hid, hours, -⟩
        rcases htarget with h | h | h
        · exact absurd hnumber h
        · exact absurd hid h
        · exact absurd (h.symm.trans hours) (by simp)
    · simp only [Bool.and_eq_true, Bool.not_eq_true', List.isEmpty_eq_false_iff] at hpaid
      constructor
      · intro h
        cases h
      · rintro ⟨fresh', ⟨⟩, -, -, -, hforce | hentries⟩
        · exact absurd (hpaid.1.symm.trans hforce) (by simp)
        · exact absurd hentries hpaid.2
    · simp only [Bool.or_eq_true, decide_eq_true_eq, Bool.not_eq_true', not_or, not_not,
        Bool.not_eq_false] at htarget
      simp only [Bool.and_eq_true, Bool.not_eq_true', not_and, not_not, ← Bool.not_eq_true]
        at hpaid
      refine ⟨fun _ => ⟨fresh, rfl, htarget.1.1, htarget.1.2, htarget.2, ?_⟩, fun _ => rfl⟩
      by_cases hforce : force = true
      · exact Or.inl hforce
      · exact Or.inr (List.isEmpty_iff.mp (hpaid hforce))
  · rename_i error
    constructor
    · intro h
      split at h <;> cases h
    · rintro ⟨fresh, ⟨⟩, -⟩

/-- A deletion sends at most once, behind the fresh read of its target. -/
theorem deleteProforma_gated (pinned : FoundDocument) (order : OrderKey) (force : Bool) :
    Prog.Ensures (deleteProforma pinned order force) fun tr outcome =>
      (ReadOnly tr ∧ ∃ r, deletionGuard pinned order force r = some outcome)
        ∨ ∃ (answer : Except ClientError InvoiceDocument) (reply : Except ClientError Unit),
          tr = [⟨AgentRequest.query (.invoiceNumber pinned.number), answer⟩,
              ⟨AgentRequest.deleteProforma pinned.number, reply⟩]
            ∧ PermitsDeletion pinned order force (queryAnswer (.invoiceNumber pinned.number) answer)
            ∧ outcome = deletionReply reply := by
  unfold deleteProforma
  rw [queryRaw_bind, Prog.ensures_call]
  intro answer
  split
  · rename_i outcome hguard
    rw [Prog.pure_eq, Prog.ensures_ret]
    exact Or.inl ⟨by simp [AgentRequest.isMutation], _, hguard⟩
  · rename_i hguard
    rw [Prog.perform_bind, Prog.ensures_call]
    intro reply
    rw [Prog.pure_eq, Prog.ensures_ret]
    exact Or.inr ⟨answer, reply, rfl, deletionGuard_eq_none.mp hguard, rfl⟩

end Szamlazz
