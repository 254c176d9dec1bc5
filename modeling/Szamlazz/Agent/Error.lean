import Szamlazz.Lib.Text

/-!
# The failures of a Számla Agent exchange

The codes szamlazz.hu answers with, what each says about the document the
request asked for (`ErrorCode.outcomeClass`), and the ways an exchange ends
without the answer it asked for (`ClientError`). The set of codes is open: a
code nobody documented parses as `unknown`, a failure reported without one is
`absent`, and both are classed with the codes that leave the outcome open.
-/

namespace Szamlazz

/-- A request that cannot satisfy the Számla Agent wire contract. -/
inductive RequestError where
  | missingLineItems
  | missingPrepaymentReference
  | emptyCreditEntryReplace
  | missingExchangeRate
  | invalidExchangeRate
  | erasureCodeCountOutOfRange (count : Nat)
  | parcelCountOutOfRange (count : Nat)
  | invalidDateYear (field : String) (year : Int)
  | unsupportedOnReceipt (field : String)
  | invalidXmlEncoding
  | invalidXmlCharacter (codePoint : Nat)
deriving DecidableEq, Repr

/-- At least four upper-case hexadecimal digits, as `{:04X}` prints them. -/
def hexUpper (n : Nat) : String :=
  let digits := (Nat.toDigits 16 n).map Char.toUpper
  String.ofList (List.replicate (4 - digits.length) '0' ++ digits)

/-- The text a request error displays. -/
def RequestError.display : RequestError → String
  | missingLineItems => "document creation requires at least one line item"
  | missingPrepaymentReference =>
    "a final invoice requires a prepayment invoice number or order number"
  | emptyCreditEntryReplace =>
    "a replacing credit-entry request needs at least one entry: with none it would clear the invoice's payments"
  | missingExchangeRate => "foreign-currency documents require an exchange rate"
  | invalidExchangeRate => "invalid foreign-currency exchange-rate details"
  | erasureCodeCountOutOfRange count =>
    "line item requests " ++ toString count ++ " data erasure codes; the maximum is 400"
  | parcelCountOutOfRange count =>
    "waybill parcel count " ++ toString count ++ " exceeds 2147483647"
  | invalidDateYear field year =>
    "request date `" ++ field ++ "` has year " ++ toString year
      ++ "; supported years are 1–9999"
  | unsupportedOnReceipt field =>
    "receipt line items cannot carry `" ++ field ++ "`: the field is invoice-only"
  | invalidXmlEncoding => "request XML is not valid UTF-8"
  | invalidXmlCharacter codePoint =>
    "request XML contains character U+" ++ hexUpper codePoint ++ ", which XML 1.0 forbids"

/-- A Számla Agent error code. -/
inductive ErrorCode where
  | maintenance
  | invalidCredentials
  | missingData
  | stornoOfReversalInvoice
  | xmlNotAFile
  | eInvoiceNotEnabled
  | eInvoiceSigningFailed
  | invoiceNotificationDeliveryFailed
  | malformedXml
  | duplicateOrderNumber
  | prepaymentInvoiceNotIdentifiable
  | browserSessionActive
  | loginBlocked
  | duplicateOrderNumberNamed
  | multipleAccounts
  | unregisteredPrefix
  | hasCorrectiveInvoice
  | netValueMismatch
  | vatValueMismatch
  | grossValueMismatch
  | netValueInvalid
  | vatValueInvalid
  | grossValueInvalid
  | proformaNotFound
  | receiptPrefixUsedForInvoices
  | invalidReceiptPrefix
  | duplicateReceiptCallId
  | receiptNotFound
  | receiptPaymentMismatch
  | issueDateMustBeToday
  | receiptGrossNotWhole
  | receiptNetPrecision
  | receiptVatPrecision
  | paymentOnReversedInvoice
  | erasureCodeLimit
  | erasureCodesUnavailable
  | erasureCodesDisabled
  | simplifiedImageAccountIncompatible
  | simplifiedImageItemLimit
  | simplifiedImageVatInvalid
  | simplifiedImageCannotCorrect
  | simplifiedImagePrepaymentVatMismatch
  | simplifiedImageDocumentForbidden
  | unknown (code : String)
  | absent
deriving DecidableEq, Repr

namespace ErrorCode

/-- The code as the wire writes it; empty when none was reported. -/
def code : ErrorCode → String
  | maintenance => "1"
  | invalidCredentials => "3"
  | missingData => "7"
  | stornoOfReversalInvoice => "14"
  | xmlNotAFile => "53"
  | eInvoiceNotEnabled => "54"
  | eInvoiceSigningFailed => "55"
  | invoiceNotificationDeliveryFailed => "56"
  | malformedXml => "57"
  | duplicateOrderNumber => "71"
  | prepaymentInvoiceNotIdentifiable => "73"
  | browserSessionActive => "135"
  | loginBlocked => "136"
  | duplicateOrderNumberNamed => "152"
  | multipleAccounts => "164"
  | unregisteredPrefix => "202"
  | hasCorrectiveInvoice => "221"
  | netValueMismatch => "259"
  | vatValueMismatch => "260"
  | grossValueMismatch => "261"
  | netValueInvalid => "262"
  | vatValueInvalid => "263"
  | grossValueInvalid => "264"
  | proformaNotFound => "335"
  | receiptPrefixUsedForInvoices => "336"
  | invalidReceiptPrefix => "337"
  | duplicateReceiptCallId => "338"
  | receiptNotFound => "339"
  | receiptPaymentMismatch => "340"
  | issueDateMustBeToday => "352"
  | receiptGrossNotWhole => "363"
  | receiptNetPrecision => "364"
  | receiptVatPrecision => "365"
  | paymentOnReversedInvoice => "463"
  | erasureCodeLimit => "537"
  | erasureCodesUnavailable => "538"
  | erasureCodesDisabled => "539"
  | simplifiedImageAccountIncompatible => "551"
  | simplifiedImageItemLimit => "552"
  | simplifiedImageVatInvalid => "553"
  | simplifiedImageCannotCorrect => "554"
  | simplifiedImagePrepaymentVatMismatch => "555"
  | simplifiedImageDocumentForbidden => "556"
  | unknown code => code
  | absent => ""

/-- The documented code with this number. -/
def known : Nat → Option ErrorCode
  | 1 => some maintenance
  | 3 => some invalidCredentials
  | 7 => some missingData
  | 14 => some stornoOfReversalInvoice
  | 53 => some xmlNotAFile
  | 54 => some eInvoiceNotEnabled
  | 55 => some eInvoiceSigningFailed
  | 56 => some invoiceNotificationDeliveryFailed
  | 57 => some malformedXml
  | 71 => some duplicateOrderNumber
  | 73 => some prepaymentInvoiceNotIdentifiable
  | 135 => some browserSessionActive
  | 136 => some loginBlocked
  | 152 => some duplicateOrderNumberNamed
  | 164 => some multipleAccounts
  | 202 => some unregisteredPrefix
  | 221 => some hasCorrectiveInvoice
  | 259 => some netValueMismatch
  | 260 => some vatValueMismatch
  | 261 => some grossValueMismatch
  | 262 => some netValueInvalid
  | 263 => some vatValueInvalid
  | 264 => some grossValueInvalid
  | 335 => some proformaNotFound
  | 336 => some receiptPrefixUsedForInvoices
  | 337 => some invalidReceiptPrefix
  | 338 => some duplicateReceiptCallId
  | 339 => some receiptNotFound
  | 340 => some receiptPaymentMismatch
  | 352 => some issueDateMustBeToday
  | 363 => some receiptGrossNotWhole
  | 364 => some receiptNetPrecision
  | 365 => some receiptVatPrecision
  | 463 => some paymentOnReversedInvoice
  | 537 => some erasureCodeLimit
  | 538 => some erasureCodesUnavailable
  | 539 => some erasureCodesDisabled
  | 551 => some simplifiedImageAccountIncompatible
  | 552 => some simplifiedImageItemLimit
  | 553 => some simplifiedImageVatInvalid
  | 554 => some simplifiedImageCannotCorrect
  | 555 => some simplifiedImagePrepaymentVatMismatch
  | 556 => some simplifiedImageDocumentForbidden
  | _ => none

/-- The value of a token `str::parse::<u16>` accepts: an optional `+`, at least
one decimal digit and nothing else, below `2 ^ 16`. -/
def parseU16 (token : String) : Option Nat :=
  let digits := match token.toList with
    | '+' :: rest => rest
    | all => all
  if digits ≠ [] ∧ digits.all Char.isDigit then
    let value := digits.foldl (fun n c => 10 * n + (c.toNat - '0'.toNat)) 0
    if value < 2 ^ 16 then some value else none
  else none

/-- A wire code: trimmed, a numeric token matched as a number. -/
def ofString (code : String) : ErrorCode :=
  let code := Text.trim code
  if code.isEmpty then absent
  else ((parseU16 code).bind known).getD (unknown code)

/-- The wire code, or `absent` when none was reported. -/
def display : ErrorCode → String
  | absent => "absent"
  | code => code.code

/-- Whether the same *query* can succeed later. -/
def isRetryable : ErrorCode → Bool
  | maintenance | eInvoiceSigningFailed => true
  | _ => false

/-- Whether the code is about the agent credentials rather than the request. -/
def isCredentialError : ErrorCode → Bool
  | invalidCredentials | browserSessionActive | loginBlocked | multipleAccounts => true
  | _ => false

end ErrorCode

/-- What an error says about the document the request asked for. -/
inductive OutcomeClass where
  /-- szamlazz.hu refused this request before acting. -/
  | rejected
  /-- A document may or may not have been created. -/
  | unknown
  /-- Another document already carries the order number. -/
  | duplicateOrderNumber
  /-- The referenced document is absent, or data is missing. -/
  | notFound
deriving DecidableEq, Repr

/-- What the code says about the document the request asked for. -/
def ErrorCode.outcomeClass : ErrorCode → OutcomeClass
  | maintenance | eInvoiceSigningFailed | invoiceNotificationDeliveryFailed
  | unknown _ | absent => .unknown
  | duplicateOrderNumber | duplicateOrderNumberNamed => .duplicateOrderNumber
  | missingData | receiptNotFound => .notFound
  | invalidCredentials | stornoOfReversalInvoice | xmlNotAFile | eInvoiceNotEnabled
  | malformedXml | prepaymentInvoiceNotIdentifiable | browserSessionActive | loginBlocked
  | multipleAccounts | unregisteredPrefix | hasCorrectiveInvoice | netValueMismatch
  | vatValueMismatch | grossValueMismatch | netValueInvalid | vatValueInvalid
  | grossValueInvalid | proformaNotFound | receiptPrefixUsedForInvoices
  | invalidReceiptPrefix | duplicateReceiptCallId | receiptPaymentMismatch
  | issueDateMustBeToday | receiptGrossNotWhole | receiptNetPrecision
  | receiptVatPrecision | paymentOnReversedInvoice | erasureCodeLimit
  | erasureCodesUnavailable | erasureCodesDisabled | simplifiedImageAccountIncompatible
  | simplifiedImageItemLimit | simplifiedImageVatInvalid | simplifiedImageCannotCorrect
  | simplifiedImagePrepaymentVatMismatch | simplifiedImageDocumentForbidden => .rejected

/-- An error szamlazz.hu reported. -/
structure ApiError where
  code : ErrorCode
  message : String
deriving DecidableEq, Repr

/-- A response that could not be read as the payload of its operation. -/
inductive ParseError where
  | xml (error : String)
  | missing (field : String)
  | invalid (field : String) (message : String)
  | base64 (error : String)
  | unexpectedBody (excerpt : String)
deriving DecidableEq, Repr

/-- What the HTTP client tells about a failed request: one flag per question the
diagnostics ask, and the status if one was received. -/
structure TransportError where
  isTimeout : Bool
  isConnect : Bool
  isRedirect : Bool
  isBody : Bool
  isDecode : Bool
  isBuilder : Bool
  isRequest : Bool
  status : Option Nat
deriving DecidableEq, Repr

/-- Failure of a Számla Agent call. -/
inductive ClientError where
  /-- The request violates the wire contract; nothing was sent. -/
  | request (error : RequestError)
  /-- szamlazz.hu reported an error. -/
  | api (error : ApiError)
  /-- The response could not be parsed. -/
  | parse (error : ParseError)
  /-- `szlahu_down`. -/
  | serviceUnavailable (message : String)
  /-- A non-2xx status reached before body interpretation. -/
  | httpStatus (status : Nat) (body : String)
  /-- The HTTP request itself failed. -/
  | transport (error : TransportError)
  /-- Status and headers arrived, but the body did not complete. -/
  | incompleteResponse (status : Nat)
deriving DecidableEq, Repr

/-- The type of a document (`tipus`). -/
inductive DocumentType where
  | invoice
  | proforma
  | prepayment
  | final
  | corrective
  | storno
  | deliveryNote
  | other (token : String)
deriving DecidableEq, Repr

/-- The wire token of a document type. -/
def DocumentType.asWire : DocumentType → String
  | invoice => "SZ"
  | proforma => "D"
  | prepayment => "ES"
  | final => "VS"
  | corrective => "HS"
  | storno => "SS"
  | deliveryNote => "SL"
  | other token => token

theorem Except.mapError_eq_ok {ε ε' α : Type} {f : ε → ε'} {x : Except ε α} {a : α} :
    x.mapError f = .ok a ↔ x = .ok a := by
  cases x <;> simp [Except.mapError]

/-! ## Text an XML 1.0 document can hold -/

/-- `is_xml_10_character`. -/
def isXml10Character (c : Char) : Bool :=
  let n := c.toNat
  n == 0x9 || n == 0xA || n == 0xD || (0x20 ≤ n && n ≤ 0xD7FF) || (0xE000 ≤ n && n ≤ 0xFFFD)
    || (0x10000 ≤ n && n ≤ 0x10FFFF)

/-- The first character XML 1.0 forbids is the error. -/
def validateXmlText (text : String) : Except RequestError Unit :=
  match text.toList.find? (fun c => !isXml10Character c) with
  | some c => .error (.invalidXmlCharacter c.toNat)
  | none => .ok ()

theorem validateXmlText_eq_ok {text : String} :
    validateXmlText text = .ok () ↔ ∀ c ∈ text.toList, isXml10Character c = true := by
  unfold validateXmlText
  cases h : text.toList.find? (fun c => !isXml10Character c) with
  | none => simpa using List.find?_eq_none.mp h
  | some c =>
    refine iff_of_false (by simp) (fun hall => ?_)
    have hc := hall c (List.mem_of_find?_eq_some h)
    simpa [hc] using List.find?_some h

end Szamlazz
