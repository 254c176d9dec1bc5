import Szamlazz.Agent.Operations

/-!
# Accounts

The account a handler works for: where its requests go, the defaults of its
documents and its seller block. Whether a text is an endpoint is decided by the
URL parser of the HTTP transport, a parameter here: the model only uses that it
is a function of the text.
-/

namespace Szamlazz

/-- The URL parser of the transport. -/
class Transport where
  /-- Whether the text is an `http` or `https` URL with a host and no userinfo. -/
  acceptsEndpoint : String → Bool

/-- The production endpoint. -/
def Endpoint.production : String := "https://www.szamlazz.hu/szamla/"

/-- A transport that knows the production endpoint only. -/
@[reducible] def Transport.production : Transport where
  acceptsEndpoint text := text = Endpoint.production

/-- A Számla Agent endpoint. -/
structure Endpoint [Transport] where
  text : String
  valid : Transport.acceptsEndpoint text = true
deriving DecidableEq

/-- Parses an endpoint; the text is kept as written. -/
def Endpoint.parse [Transport] (value : String) : Option Endpoint :=
  if h : Transport.acceptsEndpoint value = true then some ⟨value, h⟩ else none

theorem Endpoint.parse_text [Transport] (endpoint : Endpoint) :
    Endpoint.parse endpoint.text = some endpoint := by
  simp [Endpoint.parse, endpoint.valid]

/-- Document defaults. -/
structure Defaults where
  eInvoice : Bool := false
  language : String := "hu"
  currency : String := "HUF"
  exchangeRateBank : String := "MNB"
  template : Option String := none
  sendEmail : Option Bool := none
  numberPrefix : Option String := none
  extraLogo : Option String := none
  aggregator : Option String := none
  guardian : Option Bool := none
deriving DecidableEq

/-- The notification email of a seller. -/
structure SellerEmailConfig where
  replyTo : Option String := none
  subject : Option String := none
  body : Option String := none
deriving DecidableEq

/-- The seller block. -/
structure SellerConfig where
  bank : Option String := none
  bankAccount : Option String := none
  signerName : Option String := none
  email : SellerEmailConfig := {}
deriving DecidableEq

/-- The email block is present only when one of its fields is. -/
def SellerEmailConfig.toSellerEmail (email : SellerEmailConfig) : Option SellerEmail :=
  if email.replyTo = none ∧ email.subject = none ∧ email.body = none then none
  else some { replyTo := email.replyTo, subject := email.subject, body := email.body }

def SellerConfig.toSeller (seller : SellerConfig) : Seller where
  bank := seller.bank
  bankAccount := seller.bankAccount
  signerName := seller.signerName
  email := seller.email.toSellerEmail

/-- An account. -/
structure Account [Transport] where
  id : String
  endpoint : Endpoint
  defaults : Defaults
  seller : SellerConfig
  credentialRef : String
deriving DecidableEq

end Szamlazz
