import Szamlazz.Account
import Szamlazz.Agent.Decimal
import Szamlazz.Identity

/-!
# The document of a request

Everything a caller decides about one document: the buyer, the line items, the
payment terms and the overrides of the account's defaults. The order number is
not among it – it is the key – and neither are the numbers a document refers to,
which the worker resolves.
-/

namespace Szamlazz

/-! ## The input -/

/-- Asserted amounts, of a line or of the whole document. -/
structure Amounts where
  net : Decimal
  vat : Decimal
  gross : Decimal
deriving DecidableEq

structure ExchangeRateInput where
  bank : String
  /-- Left out only for `MNB`, which means the current rate. -/
  rate : Option Decimal
deriving DecidableEq

/-- The per-call overrides of the account's defaults. -/
structure DocumentOverrides where
  language : Option String := none
  currency : Option String := none
  exchangeRate : Option ExchangeRateInput := none
  template : Option String := none
  sendEmail : Option Bool := none
  eInvoice : Option Bool := none
  numberPrefix : Option String := none
deriving DecidableEq

/-- The buyer of a request. -/
structure BuyerInput where
  name : String
  zip : String
  city : String
  address : String
  country : Option String := none
  email : Option String := none
  taxNumber : Option String := none
  euTaxNumber : Option String := none
  groupId : Option String := none
  taxpayerStatus : Option TaxpayerStatus := none
  phone : Option String := none
  comment : Option String := none
  postalAddress : Option PostalAddress := none
  id : Option String := none
deriving DecidableEq

/-- One row of a document. -/
structure LineItemInput where
  name : String
  quantity : Decimal
  unit : String
  unitPrice : Decimal
  vatRate : String
  /-- Authoritative amounts, checked; otherwise they are computed. -/
  amounts : Option Amounts := none
  id : Option String := none
  comment : Option String := none
deriving DecidableEq

/-- One document to issue. -/
structure DocumentInput where
  buyer : BuyerInput
  items : List LineItemInput
  fulfillmentDate : Date
  dueDate : Date
  paymentMethod : PaymentMethod
  paid : Option Bool := none
  comment : Option String := none
  issueDate : Option Date := none
  overrides : DocumentOverrides := {}
  expectedTotals : Option Amounts := none
deriving DecidableEq

/-! ## Amounts -/

def Amounts.sameValue (a b : Amounts) : Bool :=
  a.net.sameValue b.net && a.vat.sameValue b.vat && a.gross.sameValue b.gross

end Szamlazz
