import Szamlazz.Service.Runtime

/-!
# The prologue, and the reads handlers share

Before anything else a handler pins the namespace and resolves the account of
its scope, each in a run of its own: a redeploy cannot move a running invocation
to another namespace, and what the resolver answered is settled by the journal.
Credentials are not part of it – they are fetched inside the runs that use them.

`verify` and `lookup` are the two reads every handler is written with: a
document by number, and the holder of an external id of ours.
-/

namespace Szamlazz

open Durable

/-! ## The account -/

/-- A field of an account, and the rule it breaks. -/
structure InvalidAccount where
  field : String
  rule : String
deriving DecidableEq

def InvalidAccount.display (error : InvalidAccount) : String := error.field ++ ": " ++ error.rule

section Account

variable [Transport]

/-- The texts of an account that end up in documents. -/
def Account.texts (account : Account) : List (String × Option String) :=
  [("defaults.currency", some account.defaults.currency),
    ("defaults.exchange_rate_bank", some account.defaults.exchangeRateBank),
    ("defaults.template", account.defaults.template),
    ("defaults.number_prefix", account.defaults.numberPrefix),
    ("defaults.extra_logo", account.defaults.extraLogo),
    ("defaults.aggregator", account.defaults.aggregator),
    ("seller.bank", account.seller.bank),
    ("seller.bank_account", account.seller.bankAccount),
    ("seller.signer_name", account.seller.signerName),
    ("seller.email.reply_to", account.seller.email.replyTo),
    ("seller.email.subject", account.seller.email.subject),
    ("seller.email.body", account.seller.email.body)]

/-- Validates what an account contributes to documents; its id and its credential
reference are opaque. -/
def Account.validate (account : Account) : Except InvalidAccount Unit :=
  if (Language.ofToken account.defaults.language).isNone then
    .error ⟨"defaults.language", "unknown document language"⟩
  else
    match account.texts.find? (fun text => text.2.any (fun v => !(validateXmlText v).isOk)) with
    | some text => .error ⟨text.1, "must be XML 1.0 text"⟩
    | none => .ok ()

end Account

/-! ## The steps -/

section Prologue

variable [Unicode] [Transport]

/-- Every answer of the resolver is data; its absence is retried. -/
def resolution : Except ResolveError Account → Option Resolution
  | .ok account => some (.account account)
  | .error .unscoped => some .unscoped
  | .error (.unknown scope) => some (.unknown scope)
  | .error .unavailable => none

/-- The account of a recorded resolution. -/
def accountOf : Resolution → Except Fault Account
  | .account account =>
    match account.validate with
    | .ok () => .ok account
    | .error error => .error (.unavailable ("invalid account configuration: " ++ error.display
        ++ "; contact the deployment operator"))
  | .unscoped => .error { code := .unknownAccount, message :=
      "no account is reachable unscoped: this deployment serves accounts by scope, send the request under the account's scope (/restate/scope/\x7bscope\x7d/call/…)" }
  | .unknown scope => .error { code := .unknownAccount, message :=
      "no account is reachable under scope " ++ Unicode.debugText scope }

/-- The fault of a resolution that was never recorded. -/
def resolveExhausted (error : TerminalError) : Fault :=
  if error.isCancelled then
    .cancelled ("the account resolution was cancelled (" ++ toString error.code
      ++ "); nothing was sent")
  else
    .unavailable ("the account could not be resolved (" ++ toString error.code ++ "): "
      ++ error.message
      ++ "; reconcile any earlier write before deliberately renewing the operation")

/-- **What a handler runs on**: the account, and the settings with the pinned
namespace. -/
structure Execution where
  account : Account
  config : WorkerConfig

variable [Clock]

/-- The closure of the resolution. -/
def resolveClosure (scope : Option String) : Inside (Closed Resolution TerminalError) := do
  let answer ← Inside.resolve scope
  match resolution answer with
  | some resolution => return .done resolution
  | none => return .retry

omit [Unicode] in
theorem resolveClosure_eq (scope : Option String) :
    resolveClosure scope = Inside.resolve scope >>= fun answer =>
      pure ((resolution answer).elim .retry .done) := by
  refine congrArg _ (funext fun answer => ?_)
  cases resolution answer with
  | some resolution => rfl
  | none => rfl

/-- The prologue: pin, then resolve. -/
def runPrologue (ctx : Context) (config : WorkerConfig) : Handler Execution := do
  let pinned ← runOnce "namespace" config.namespace
  let resolved ← Handler.run "account" (fun error => .fault (resolveExhausted error))
    (resolveClosure ctx.scope)
  let account ← Handler.lift (accountOf resolved)
  return { account := account, config := { config with «namespace» := pinned } }

end Prologue

/-! ## The reads -/

section Reads

variable [Unicode] [Transport] [Clock] [FaultText]

/-- Reads a document by number. -/
def Handler.verify (name number : String) : Handler QueryOutcome :=
  runReading name (Szamlazz.verify number)

/-- Reads what an external id of ours holds. -/
def Handler.lookup (name : String) (externalId : ExternalId) (order : OrderKey)
    (kind : IssuedKind) : Handler OwnershipOutcome :=
  Handler.mapFault (fun fault => fault.about order (some kind) externalId)
    (runReading name (lookupOurs externalId order kind))

/-- The document a read by number found, or the fault of anything else. -/
def verifiedDocument (outcome : QueryOutcome) (number : String) : Except Fault FoundDocument :=
  match outcome with
  | .found found => .ok found
  | .notFound =>
    .error (.notFound ("invoice " ++ number ++ " is not known to szamlazz.hu (code 7)"))
  | .api answer => .error (AnsweredCode.inconclusive answer).toFault
  | .credentialsRejected answer => .error (AnsweredCode.credentialsRejected answer).toFault

end Reads

end Szamlazz
