import Szamlazz.Agent.Numeral
import Szamlazz.Agent.Operations

/-!
# The reply envelope

Creates and stornos are answered with one envelope: a verdict and the document
it names, with the number, the totals and the account URL in the body or in the
headers. Exactly one error is tolerated, 56 – issued, but the notification could
not be delivered – and only together with a number, since a number is what says
that the document exists. Which text of the body belongs to which element is for
the XML deserializer to say (`EnvelopeReader`); what is made of those texts is
decided here.
-/

namespace Szamlazz

/-! ## The response -/

/-- A response as it arrived. Header names are in lower case. -/
structure RawResponse where
  status : Option Nat
  headers : List (String × String)
  body : ByteArray

/-- The verdict of an envelope. -/
structure Verdict where
  sikeres : Bool
  hibakod : Option String
  hibauzenet : Option String
deriving DecidableEq

/-- The payload of an envelope, every element as its raw text. -/
structure EnvelopeBody where
  szamlaszam : Option String := none
  szamlanetto : Option String := none
  szamlabrutto : Option String := none
  kintlevoseg : Option String := none
  vevoifiokurl : Option String := none
  pdf : Option String := none
deriving DecidableEq

/-- What reads the texts of a response. -/
class EnvelopeReader where
  /-- Percent escapes become UTF-8; `+` is a space. -/
  percentDecode : String → String
  /-- The text an error quotes. -/
  bodyExcerpt : ByteArray → String
  /-- The verdict, and what is left of the payload when it cannot be read. The flag
  tells that a header already reported 56. -/
  parseEnvelope : ByteArray → Bool → Except ParseError (Verdict × Except ParseError EnvelopeBody)
  /-- The message of an error of the number parser. -/
  numberError : Decimal.Error → String
  /-- Why a text is no base64, if it is none. -/
  base64Error : String → Option String

/-- The error a verdict reports. -/
def Verdict.apiError (verdict : Verdict) : Option ApiError :=
  if verdict.sikeres then none
  else some
    { code := (verdict.hibakod.map ErrorCode.ofString).getD .absent
      message := verdict.hibauzenet.getD "" }

/-- What a successful reply names: a document, or nothing, which the operation has
to interpret; `pdf` tells whether it carried one. -/
inductive Reply where
  | issued (created : CreatedInvoice)
  | unnumbered (pdf : Bool)
deriving DecidableEq

/-- Text without an element, all of it characters XML can hold. -/
def plainNotificationBody (body : ByteArray) : Bool :=
  match String.fromUTF8? body with
  | some text => !text.toList.contains '<' && text.toList.all isXml10Character
  | none => false

/-- The number a text is: trimmed, and none when blank. -/
def nonblankInvoiceNumber (value : String) : Option { number : String // Text.isBlank number = false } :=
  if h : (Text.trim value).isEmpty = false then
    some ⟨Text.trim value, by rw [Text.isBlank, Text.trim_trim]; exact h⟩
  else none

section Reader

variable [EnvelopeReader] [RustDecimal]

namespace RawResponse

/-- The first header with the name, as sent. -/
def header (response : RawResponse) (name : String) : Option String :=
  (response.headers.find? (fun header => header.1 = name)).map Prod.snd

/-- An encoded textual header, decoded. -/
def szlahu (response : RawResponse) (name : String) : Option String :=
  (response.header name).map EnvelopeReader.percentDecode

/-- The error the headers report. -/
def headerError (response : RawResponse) : Option ApiError :=
  (((response.header "szlahu_error_code").map Text.trim).filter (fun code => !code.isEmpty)).map
    (fun code =>
      { code := ErrorCode.ofString code
        message := (response.szlahu "szlahu_error").getD "" })

/-- What the headers and the status say before the body is read. -/
def headerVerdict (response : RawResponse) : Except ClientError (Option ApiError) :=
  match (response.szlahu "szlahu_down").filter (fun message => !Text.isBlank message) with
  | some message => .error (.serviceUnavailable message)
  | none =>
    match response.headerError with
    | some error => .ok (some error)
    | none =>
      match response.status with
      | some status =>
        if 200 ≤ status ∧ status < 300 then .ok none
        else .error (.httpStatus status (EnvelopeReader.bodyExcerpt response.body))
      | none => .ok none

/-- The document identifier; an unusable one is none. -/
def documentId (response : RawResponse) : Option Int64 :=
  (((response.header "szlahu_id").bind (fun value => Number.parseInt 64 (Text.trim value).toList)).filter
    (fun id => 0 ≤ id)).map Int64.ofInt

end RawResponse

namespace EnvelopeBody

/-- The number of the body, else of the header. -/
def invoiceNumber (body : EnvelopeBody) (response : RawResponse) :
    Option { number : String // Text.isBlank number = false } :=
  (body.szamlaszam.bind nonblankInvoiceNumber).or
    ((response.szlahu "szlahu_szamlaszam").bind nonblankInvoiceNumber)

def customerAccountUrl (body : EnvelopeBody) (response : RawResponse) : Option String :=
  body.vevoifiokurl.or
    ((response.szlahu "szlahu_vevoifiokurl").filter (fun url => !url.isEmpty))

end EnvelopeBody

/-- A number of the body or a header, or the element that is none. -/
def parseDecimal (value : String) (field : String) : Except ParseError Decimal :=
  (Number.parse value).mapError
    (fun error => .invalid field (EnvelopeReader.numberError error))

/-- HTTP money: ungrouped, with either separator, padded with blanks and tabs. -/
def headerDecimal (value : String) (field : String) : Except ParseError Decimal :=
  let padding := fun c : Char => c == ' ' || c == '\t'
  let value := ((value.toList.dropWhile padding).reverse.dropWhile padding).reverse
  parseDecimal (String.ofList (value.map (fun c => if c = ',' then '.' else c))) field

/-- The text of the body, else of the header. -/
def decimalBodyOrHeader (bodyValue : Option String) (field : String) (response : RawResponse)
    (header : String) : Except ParseError (Option Decimal) :=
  match bodyValue with
  | some value => (parseDecimal (Text.trim value) field).map some
  | none =>
    match response.header header with
    | some value => (headerDecimal value header).map some
    | none => .ok none

/-- The decoded PDF, when the body carries one. -/
def EnvelopeBody.readPdf (body : EnvelopeBody) : Except ParseError (Option Unit) :=
  match body.pdf with
  | some text =>
    match EnvelopeReader.base64Error text with
    | some error => .error (.base64 error)
    | none => .ok (some ())
  | none => .ok none

/-- A failed notification must not hide an issuance: an unusable value is none. -/
def lenient {T : Type} (failed : Bool) (value : Except ParseError (Option T)) :
    Except ClientError (Option T) :=
  match value with
  | .ok value => .ok value
  | .error error => if failed then .ok none else .error (.parse error)

/-- The verdict and the payload of the body. Under a reported 56 plain text stands
for no payload. -/
def readEnvelope (response : RawResponse) (headerError : Option ApiError) :
    Except ClientError (Option Verdict × Except ParseError EnvelopeBody) :=
  match EnvelopeReader.parseEnvelope response.body headerError.isSome with
  | .ok (verdict, payload) => .ok (some verdict, payload)
  | .error error =>
    if headerError.isSome && plainNotificationBody response.body then .ok (none, .ok {})
    else .error (.parse error)

/-- Any error but 56 is final. -/
def tolerated : Option ApiError → Except ClientError Unit
  | some error =>
    if error.code = .invoiceNotificationDeliveryFailed then .ok () else .error (.api error)
  | none => .ok ()

/-- The reply that carries a number and the values beside it. -/
def numberedReply (number : { number : String // Text.isBlank number = false })
    (body : EnvelopeBody) (response : RawResponse) (failed : Bool)
    (net gross outstanding : Option Decimal) : CreatedInvoice where
  invoiceNumber := number.val
  nonblank := number.property
  documentId := response.documentId
  netTotal := net
  grossTotal := gross
  outstanding := outstanding
  customerAccountUrl := body.customerAccountUrl response
  notificationDeliveryFailed := failed

/-- What a payload names, beside the tolerated error if one was reported. A failed
notification establishes an issuance only with a number. -/
def replyOf (body : EnvelopeBody) (response : RawResponse) (notification : Option ApiError) :
    Except ClientError Reply :=
  match body.invoiceNumber response, notification with
  | none, some error => .error (.api error)
  | number, notification => do
    let failed := notification.isSome
    let net ← lenient failed
      (decimalBodyOrHeader body.szamlanetto "szamlanetto" response "szlahu_nettovegosszeg")
    let gross ← lenient failed
      (decimalBodyOrHeader body.szamlabrutto "szamlabrutto" response "szlahu_bruttovegosszeg")
    let outstanding ← lenient failed
      (decimalBodyOrHeader body.kintlevoseg "kintlevoseg" response "szlahu_kintlevoseg")
    let pdf ← lenient failed body.readPdf
    match number with
    | some number => .ok (.issued (numberedReply number body response failed net gross outstanding))
    | none => .ok (.unnumbered pdf.isSome)

/-- **Reads the reply to a create or a storno.** -/
def parseReply (response : RawResponse) : Except ClientError Reply := do
  let headerError ← response.headerVerdict
  tolerated headerError
  let envelope ← readEnvelope response headerError
  let bodyError := envelope.1.bind Verdict.apiError
  tolerated bodyError
  -- The payload is looked at only after the verdict.
  let body ← envelope.2.mapError .parse
  replyOf body response (headerError.or bodyError)

/-! ## What a numbered reply says -/

omit [EnvelopeReader] [RustDecimal] in
theorem tolerated_eq_ok {error : Option ApiError} :
    tolerated error = .ok () ↔ ∀ e, error = some e → e.code = .invoiceNotificationDeliveryFailed := by
  cases error with
  | none => simp [tolerated]
  | some e =>
    simp only [tolerated, Option.some.injEq, forall_eq']
    split_ifs with h <;> simp [h]

theorem replyOf_eq_issued {body : EnvelopeBody} {response : RawResponse}
    {notification : Option ApiError} {created : CreatedInvoice}
    (h : replyOf body response notification = .ok (.issued created)) :
    body.invoiceNumber response = some ⟨created.invoiceNumber, created.nonblank⟩
      ∧ created.notificationDeliveryFailed = notification.isSome := by
  unfold replyOf at h
  split at h
  · cases h
  · obtain ⟨net, -, h⟩ := Except.bind_eq_ok.mp h
    obtain ⟨gross, -, h⟩ := Except.bind_eq_ok.mp h
    obtain ⟨outstanding, -, h⟩ := Except.bind_eq_ok.mp h
    obtain ⟨pdf, -, h⟩ := Except.bind_eq_ok.mp h
    split at h
    · rename_i number
      cases h
      exact ⟨number, rfl⟩
    · cases h

/-- **A document is reported only by its number**, read off the body or the header,
and beside no error but the one that says it was issued; that error is then what the
reply keeps as a failed notification. -/
theorem parseReply_eq_issued {response : RawResponse} {created : CreatedInvoice}
    (h : parseReply response = .ok (.issued created)) :
    ∃ headerError verdict body, response.headerVerdict = .ok headerError
      ∧ readEnvelope response headerError = .ok (verdict, .ok body)
      ∧ body.invoiceNumber response = some ⟨created.invoiceNumber, created.nonblank⟩
      ∧ (∀ e, (headerError = some e ∨ verdict.bind Verdict.apiError = some e) →
          e.code = .invoiceNotificationDeliveryFailed)
      ∧ created.notificationDeliveryFailed
          = (headerError.or (verdict.bind Verdict.apiError)).isSome := by
  unfold parseReply at h
  obtain ⟨headerError, hheader, h⟩ := Except.bind_eq_ok.mp h
  obtain ⟨_, hheader56, h⟩ := Except.bind_eq_ok.mp h
  obtain ⟨⟨verdict, payload⟩, henvelope, h⟩ := Except.bind_eq_ok.mp h
  obtain ⟨_, hbody56, h⟩ := Except.bind_eq_ok.mp h
  obtain ⟨body, hbody, h⟩ := Except.bind_eq_ok.mp h
  obtain rfl : payload = .ok body := by
    cases payload with
    | error e => cases hbody
    | ok b =>
      cases hbody
      rfl
  obtain ⟨hnumber, hfailed⟩ := replyOf_eq_issued h
  refine ⟨headerError, verdict, body, hheader, henvelope, hnumber, ?_, hfailed⟩
  rintro e (he | he)
  · exact tolerated_eq_ok.mp hheader56 e he
  · exact tolerated_eq_ok.mp hbody56 e he

end Reader

end Szamlazz
