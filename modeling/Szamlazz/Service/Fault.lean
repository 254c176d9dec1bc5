import Szamlazz.Identity

/-!
# Faults, and the key of an order

What a handler ends with when it has no answer to give: a code of the public
contract, the prose the caller reads, and the document it is about when one is
known. The first of them a handler can raise is about its own key: `orderKey`
refuses a key that is not already trimmed, since the lock of an order is on the
raw key and two spellings of one order would be two locks.
-/

namespace Szamlazz

/-- The code of a fault. -/
inductive TerminalCode where
  | cancelled
  | outcomeUnknown
  | unavailable
  | invalidInput
  | credentialsRejected
  | unknownAccount
  | notFound
  | szamlazzError
  | other (token : String)
deriving DecidableEq, Repr

/-- Why an operation ended, when separately known. -/
inductive FaultCause where
  | cancelled
  | other (token : String)
deriving DecidableEq, Repr

/-- The fault of a handler. -/
structure Fault where
  code : TerminalCode
  message : String
  cause : Option FaultCause := none
  szamlazzCode : Option String := none
  order : Option String := none
  kind : Option IssuedKind := none
  externalId : Option String := none
deriving DecidableEq, Repr

/-- What szamlazz.hu answered with when the answer is a code. -/
structure SzamlazzAnswer where
  code : String
  message : String
deriving DecidableEq, Repr

namespace SzamlazzAnswer

/-- The static description that stands in for the message of a credential code. -/
def credentialMessage (code : String) : Option String :=
  match ErrorCode.ofString code with
  | .invalidCredentials => some "credentials rejected: invalid credentials"
  | .browserSessionActive => some "credentials rejected: browser session active"
  | .loginBlocked => some "credentials rejected: login blocked"
  | .multipleAccounts => some "credentials rejected: multiple-account access"
  | _ => none

/-- An answer; credential codes do not keep the message beside them. -/
def new (code message : String) : SzamlazzAnswer :=
  ⟨code, (credentialMessage code).getD message⟩

/-- An API error as the answer it is. -/
def ofApi (api : ApiError) : SzamlazzAnswer := new api.code.display api.message

def display (answer : SzamlazzAnswer) : String := answer.code ++ ": " ++ answer.message

end SzamlazzAnswer

namespace Fault

/-- The same fault about a document. -/
def about [Unicode] (fault : Fault) (order : OrderKey) (kind : Option IssuedKind)
    (externalId : ExternalId) : Fault :=
  { fault with order := some order.text, kind := kind, externalId := some externalId.text }

/-- The request cannot succeed as it is. -/
def invalidInput (message : String) : Fault := { code := .invalidInput, message := message }

/-- The document the request names is not known. -/
def notFound (message : String) : Fault := { code := .notFound, message := message }

/-- Nothing may be concluded. -/
def unavailable (message : String) : Fault := { code := .unavailable, message := message }

/-- A write may or may not have landed. -/
def outcomeUnknown (message : String) : Fault := { code := .outcomeUnknown, message := message }

/-- A read was cancelled. -/
def cancelled (message : String) : Fault := { code := .cancelled, message := message }

/-- szamlazz.hu answered a read with a code nothing can be concluded from. -/
def inconclusiveAnswer (answer : SzamlazzAnswer) : Fault :=
  { unavailable ("szamlazz.hu answered the query with code " ++ answer.display
      ++ "; nothing may be concluded; reconcile any earlier write before deliberately renewing the operation")
    with szamlazzCode := some answer.code }

/-- szamlazz.hu reported unavailability to the query that leads a write. -/
def szlahuDownAnswer (message : String) : Fault :=
  unavailable ("szamlazz.hu reported unavailability (szlahu_down) to the query: " ++ message
    ++ "; this query sent no mutation; reconcile any earlier write before deliberately renewing the operation")

/-- The verified original of a storno carries no fulfillment date. -/
def missingFulfillmentDate (number : String) : Fault :=
  unavailable ("szamlazz.hu returned invoice " ++ number
    ++ " without a fulfillment date (telj), which the storno must repeat; nothing was sent, so retry with a new Idempotency-Key, or query the invoice")

/-- szamlazz.hu rejected the agent credentials. -/
def credentialsRejected (answer : SzamlazzAnswer) : Fault :=
  { code := .credentialsRejected
    message := "szamlazz.hu rejected the agent credentials (code " ++ answer.display
      ++ "); the outcome is not known; fix the account's agent key and reconcile any earlier write before deliberately renewing the operation"
    szamlazzCode := some answer.code }

end Fault

/-! ## The key of an order -/

section OrderKey

variable [Unicode]

/-- Parses the key of a Virtual Object, which must arrive trimmed. -/
def orderKey (key : String) : Except Fault OrderKey :=
  if Text.trim key ≠ key then
    .error (.invalidInput ("invalid order key " ++ Unicode.debugText key
      ++ ": the order key must not have leading or trailing whitespace; Restate locks on the raw key, so trim it before calling"))
  else
    (OrderKey.parse key).mapError
      (fun error => .invalidInput ("invalid order key: " ++ error.display))

/-- **An accepted key is the order number itself.** -/
theorem text_of_orderKey {key : String} {o : OrderKey} (h : orderKey key = .ok o) :
    o.text = key := by
  unfold orderKey at h
  split at h
  · cases h
  · rename_i htrim
    rw [OrderKey.text_of_parse (Except.mapError_eq_ok.mp h)]
    exact not_not.mp htrim

/-- **External ids never alias.** Two compositions have the same id exactly if
they are the same composition, or the two sides of the one accepted alias –
which every namespace has once; every id fits the verified length; and two raw
keys the handlers accept have no id in common. -/
theorem externalId_alias_iff :
    (∀ c d : Composition, c.externalId = d.externalId ↔ c = d ∨ c.IsAliasOf d ∨ d.IsAliasOf c)
      ∧ (∀ ns : Namespace, Unicode.isNfc ExternalId.byNumber = true →
          ∃! p : Composition × Composition, p.1.namespace = ns ∧ p.1.IsAliasOf p.2)
      ∧ (∀ c : Composition, c.externalId.text.utf8ByteSize ≤ ExternalId.maxLen)
      ∧ (∀ (key key' : String) (o o' : OrderKey), orderKey key = .ok o → orderKey key' = .ok o' →
          key ≠ key' → ∀ c d : Composition, c.order = some o → d.order = some o' →
            c.externalId ≠ d.externalId) := by
  refine ⟨fun c d => ?_, Composition.existsUnique_isAliasOf, Composition.externalId_length_le,
    fun key key' o o' hkey hkey' hne c d hc hd heq => hne ?_⟩
  · rw [Composition.externalId_eq_iff_segments, Composition.segments_eq_iff]
  · have hcd : c = d := Composition.eq_of_externalId_eq hc hd heq
    have ho : o = o' := Option.some.inj (hc.symm.trans (hcd ▸ hd))
    calc key = o.text := (text_of_orderKey hkey).symm
      _ = o'.text := congrArg OrderKey.text ho
      _ = key' := text_of_orderKey hkey'

end OrderKey

end Szamlazz
