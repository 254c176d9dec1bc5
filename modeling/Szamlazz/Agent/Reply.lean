import Szamlazz.Agent.Envelope

/-!
# What the reply to an issue establishes

The headers and the body are two channels. Each may be absent, malformed,
successful or failing, and one error code – 56 – is a success. `EnvelopeXml` holds
what the XML deserializer reads of a body; the reading of the envelope made of it
is the client's: a payload that cannot be read keeps its number when the
notification failed, since a number is what says that the invoice exists.

`parseReply_verdicts` is about every combination of the channels: when a document
is reported and with which flag, when 56 is an issued document, and which error is
returned otherwise.
-/

namespace Szamlazz

/-! ## The envelope -/

/-- What is read of a body by the libraries. -/
class EnvelopeXml where
  /-- Percent escapes become UTF-8; `+` is a space. -/
  percentDecode : String → String
  /-- The text an error quotes. -/
  bodyExcerpt : ByteArray → String
  /-- The message of an error of the number parser. -/
  numberError : Decimal.Error → String
  /-- Why a text is no base64, if it is none. -/
  base64Error : String → Option String
  /-- The protocol text of a body that is the envelope. -/
  envelopeText : ByteArray → Except ParseError String
  /-- The facts of the verdict: `sikeres`, and `hibakod` when it has one. -/
  facts : String → Except ParseError (Bool × Option String)
  /-- The diagnostic, `hibauzenet`; an unreadable one is none. -/
  diagnostic : String → Option String
  /-- The elements of the payload. -/
  payload : String → Except ParseError EnvelopeBody
  /-- The number alone. -/
  identity : String → Except ParseError (Option String)

namespace EnvelopeXml

variable [EnvelopeXml]

/-- The verdict, its facts independent of its diagnostic. -/
def verdict (text : String) : Except ParseError Verdict :=
  (facts text).map (fun facts =>
    { sikeres := facts.1, hibakod := facts.2, hibauzenet := diagnostic text })

/-- The payload. Optional metadata must not erase a usable number under 56. -/
def body (text : String) (notificationFailed : Bool) : Except ParseError EnvelopeBody :=
  match payload text with
  | .ok body => .ok body
  | .error error =>
    if !notificationFailed then .error error
    else (identity text).map (fun number => { szamlaszam := number })

/-- The verdict and the payload, of one text. -/
def parseEnvelope (body : ByteArray) (notificationHeader : Bool) :
    Except ParseError (Verdict × Except ParseError EnvelopeBody) := do
  let text ← envelopeText body
  let verdict ← verdict text
  let notificationFailed := match verdict.apiError with
    | some error => decide (error.code = .invoiceNotificationDeliveryFailed)
    | none => notificationHeader
  return (verdict, EnvelopeXml.body text notificationFailed)

instance : EnvelopeReader where
  percentDecode := percentDecode
  bodyExcerpt := bodyExcerpt
  parseEnvelope := parseEnvelope
  numberError := numberError
  base64Error := base64Error

end EnvelopeXml

/-! ## The two channels -/

section Channels

variable [EnvelopeXml]

namespace RawResponse

/-- The nonblank `szlahu_down`. -/
def down (response : RawResponse) : Option String :=
  (response.szlahu "szlahu_down").filter (fun message => !Text.isBlank message)

/-- The verdict of a body that is the envelope. -/
def bodyVerdict (response : RawResponse) : Option Verdict :=
  (EnvelopeXml.envelopeText response.body).toOption.bind
    (fun text => (EnvelopeXml.verdict text).toOption)

/-- The error the body reports. -/
def bodyError (response : RawResponse) : Option ApiError :=
  response.bodyVerdict.bind Verdict.apiError

/-- **The response reports the error**, in either channel. -/
def Reports (response : RawResponse) (error : ApiError) : Prop :=
  response.headerError = some error ∨ response.bodyError = some error

/-- The status, if known, lets the body be read. -/
def StatusPasses (response : RawResponse) : Prop :=
  ∀ status, response.status = some status → 200 ≤ status ∧ status < 300

/-- What names the document in the body: the payload of an envelope, or its number
alone; nothing, of plain text. -/
def readBody (response : RawResponse) : Option EnvelopeBody :=
  match EnvelopeXml.parseEnvelope response.body true with
  | .ok envelope => envelope.2.toOption
  | .error _ => if plainNotificationBody response.body then some {} else none

/-- **The document number the response makes available**, of the body, else of the
headers. -/
def availableNumber (response : RawResponse) :
    Option { number : String // Text.isBlank number = false } :=
  response.readBody.bind (fun body => body.invoiceNumber response)

end RawResponse

/-! ## The headers -/

section Headers

variable {response : RawResponse} {reported : Option ApiError}

/-- **The headers leave it to the body** if the service is up, and either they report
an error or the status does not tell of one. -/
theorem headerVerdict_eq_ok : response.headerVerdict = .ok reported
    ↔ response.down = none ∧ response.headerError = reported
      ∧ (reported.isSome = true ∨ response.StatusPasses) := by
  have hdown : (response.szlahu "szlahu_down").filter (fun message => !Text.isBlank message)
      = response.down := rfl
  unfold RawResponse.headerVerdict RawResponse.StatusPasses
  rw [hdown]
  cases response.down with
  | some message =>
    refine ⟨fun h => ?_, fun h => ?_⟩
    · cases h
    · cases h.1
  | none =>
    dsimp only
    cases response.headerError with
    | some error =>
      refine ⟨fun h => ?_, fun h => congrArg Except.ok h.2.1⟩
      cases h
      exact ⟨rfl, rfl, Or.inl rfl⟩
    | none =>
      dsimp only
      cases response.status with
      | none =>
        refine ⟨fun h => ?_, fun h => congrArg Except.ok h.2.1⟩
        cases h
        refine ⟨rfl, rfl, Or.inr ?_⟩
        rintro _ ⟨⟩
      | some status =>
        dsimp only
        split_ifs with hstatus
        · refine ⟨fun h => ?_, fun h => congrArg Except.ok h.2.1⟩
          cases h
          refine ⟨rfl, rfl, Or.inr ?_⟩
          rintro _ ⟨⟩
          exact hstatus
        · refine ⟨fun h => ?_, ?_⟩
          · cases h
          · rintro ⟨-, rfl, h | h⟩
            · cases h
            · exact absurd (h status rfl) hstatus

end Headers

/-! ## The body -/

section Body

variable {response : RawResponse} {verdict : Verdict}

/-- Whether the payload is read as that of a failed notification. -/
def Verdict.notificationFailed (verdict : Verdict) (notificationHeader : Bool) : Bool :=
  match verdict.apiError with
  | some error => decide (error.code = .invoiceNotificationDeliveryFailed)
  | none => notificationHeader

/-- A readable verdict stands beside whatever can be read of the payload. -/
theorem parseEnvelope_of_verdict (h : response.bodyVerdict = some verdict) :
    ∃ text, ∀ notificationHeader, EnvelopeXml.parseEnvelope response.body notificationHeader
      = .ok (verdict, EnvelopeXml.body text (verdict.notificationFailed notificationHeader)) := by
  unfold RawResponse.bodyVerdict at h
  cases htext : EnvelopeXml.envelopeText response.body with
  | error error => rw [htext] at h; cases h
  | ok text =>
    rw [htext] at h
    cases hverdict : EnvelopeXml.verdict text with
    | error error =>
      have h' : (EnvelopeXml.verdict text).toOption = some verdict := h
      rw [hverdict] at h'
      cases h'
    | ok read =>
      have h' : (EnvelopeXml.verdict text).toOption = some verdict := h
      rw [hverdict] at h'
      cases h'
      refine ⟨text, fun notificationHeader => ?_⟩
      unfold EnvelopeXml.parseEnvelope
      rw [htext]
      show (EnvelopeXml.verdict text >>= fun verdict => _) = _
      rw [hverdict]
      rfl

/-- Without a verdict there is no envelope. -/
theorem parseEnvelope_of_none (h : response.bodyVerdict = none) (notificationHeader : Bool) :
    ∃ error, EnvelopeXml.parseEnvelope response.body notificationHeader = .error error := by
  unfold EnvelopeXml.parseEnvelope
  unfold RawResponse.bodyVerdict at h
  cases htext : EnvelopeXml.envelopeText response.body with
  | error error => exact ⟨error, rfl⟩
  | ok text =>
    rw [htext] at h
    have h' : (EnvelopeXml.verdict text).toOption = none := h
    cases hverdict : EnvelopeXml.verdict text with
    | ok read => rw [hverdict] at h'; cases h'
    | error error =>
      refine ⟨error, ?_⟩
      show (EnvelopeXml.verdict text >>= fun verdict => _) = _
      rw [hverdict]
      rfl

/-- What is read leniently can be read strictly, or not at all. -/
theorem body_of_strict {text : String} {body : EnvelopeBody} {failed : Bool}
    (h : EnvelopeXml.body text failed = .ok body) : EnvelopeXml.body text true = .ok body := by
  cases failed with
  | true => exact h
  | false =>
    unfold EnvelopeXml.body at h ⊢
    cases hpayload : EnvelopeXml.payload text with
    | ok read => rwa [hpayload] at h
    | error error => rw [hpayload] at h; cases h

omit [EnvelopeXml] in
theorem notificationFailed_of_apiError (h : verdict.apiError.isSome = true) (a b : Bool) :
    verdict.notificationFailed a = verdict.notificationFailed b := by
  unfold Verdict.notificationFailed
  cases hreported : verdict.apiError with
  | some error => rfl
  | none => rw [hreported] at h; cases h

theorem readEnvelope_of_ok {reported : Option ApiError} {payload : Except ParseError EnvelopeBody}
    (h : EnvelopeXml.parseEnvelope response.body reported.isSome = .ok (verdict, payload)) :
    readEnvelope response reported = .ok (some verdict, payload) := by
  have hparse : EnvelopeReader.parseEnvelope response.body reported.isSome
      = .ok (verdict, payload) := h
  rw [readEnvelope, hparse]

theorem readEnvelope_of_error {reported : Option ApiError} {error : ParseError}
    (h : EnvelopeXml.parseEnvelope response.body reported.isSome = .error error) :
    readEnvelope response reported
      = if reported.isSome && plainNotificationBody response.body then .ok (none, .ok {})
        else .error (.parse error) := by
  have hparse : EnvelopeReader.parseEnvelope response.body reported.isSome = .error error := h
  rw [readEnvelope, hparse]

/-- **What an envelope is read as** is the verdict and what names the document. -/
theorem readEnvelope_eq_ok {reported : Option ApiError} {read : Option Verdict}
    {body : EnvelopeBody} (h : readEnvelope response reported = .ok (read, .ok body)) :
    read = response.bodyVerdict ∧ response.readBody = some body := by
  unfold RawResponse.readBody
  cases hverdict : response.bodyVerdict with
  | some verdict =>
    obtain ⟨text, hparse⟩ := parseEnvelope_of_verdict hverdict
    rw [readEnvelope_of_ok (hparse _)] at h
    rw [hparse]
    obtain ⟨rfl, hbody⟩ := Prod.mk.inj (Except.ok.inj h)
    refine ⟨rfl, ?_⟩
    show (EnvelopeXml.body text (verdict.notificationFailed true)).toOption = some body
    cases hreported : verdict.apiError with
    | some error =>
      rw [notificationFailed_of_apiError (by rw [hreported]; rfl) true reported.isSome, hbody]
      rfl
    | none =>
      have hlenient : verdict.notificationFailed true = true := by
        rw [Verdict.notificationFailed, hreported]
      rw [hlenient, body_of_strict hbody]
      rfl
  | none =>
    obtain ⟨error, hparse⟩ := parseEnvelope_of_none hverdict reported.isSome
    obtain ⟨error', hparse'⟩ := parseEnvelope_of_none hverdict true
    rw [readEnvelope_of_error hparse] at h
    rw [hparse']
    dsimp only at h ⊢
    split_ifs at h with hplain
    cases h
    rw [Bool.and_eq_true] at hplain
    rw [if_pos hplain.2]
    exact ⟨rfl, rfl⟩

/-- **Under a failed notification**, what names the document is what is read. -/
theorem readEnvelope_of_readBody {body : EnvelopeBody}
    (hfailed : response.headerError.isSome = true ∨ response.bodyError.isSome = true)
    (h : response.readBody = some body) :
    readEnvelope response response.headerError = .ok (response.bodyVerdict, .ok body) := by
  unfold RawResponse.readBody at h
  unfold RawResponse.bodyError at hfailed
  cases hverdict : response.bodyVerdict with
  | some verdict =>
    rw [hverdict, Option.bind_some] at hfailed
    obtain ⟨text, hparse⟩ := parseEnvelope_of_verdict hverdict
    rw [hparse] at h
    rw [readEnvelope_of_ok (hparse _)]
    have hsame : verdict.notificationFailed response.headerError.isSome
        = verdict.notificationFailed true := by
      rcases hfailed with hheader | hbody
      · rw [hheader]
      · exact notificationFailed_of_apiError hbody _ _
    have hread : (EnvelopeXml.body text (verdict.notificationFailed true)).toOption = some body := h
    rw [hsame]
    cases hbody : EnvelopeXml.body text (verdict.notificationFailed true) with
    | ok read =>
      rw [hbody] at hread
      cases hread
      rfl
    | error error =>
      rw [hbody] at hread
      cases hread
  | none =>
    rw [hverdict, Option.bind_none] at hfailed
    have hheader : response.headerError.isSome = true :=
      hfailed.resolve_right Bool.false_ne_true
    obtain ⟨error, hparse⟩ := parseEnvelope_of_none hverdict true
    rw [hparse] at h
    rw [readEnvelope_of_error (hheader.symm ▸ hparse)]
    dsimp only at h
    split_ifs at h with hplain
    cases h
    rw [hheader, Bool.true_and, if_pos hplain]

/-- A verdict that can be read is read whatever the headers report. -/
theorem readEnvelope_of_verdict (h : response.bodyVerdict = some verdict)
    (reported : Option ApiError) :
    ∃ payload, readEnvelope response reported = .ok (some verdict, payload) := by
  obtain ⟨text, hparse⟩ := parseEnvelope_of_verdict h
  exact ⟨EnvelopeXml.body text (verdict.notificationFailed reported.isSome),
    readEnvelope_of_ok (hparse _)⟩

end Body

/-! ## The reply -/

section Reply

variable [RustDecimal] {response : RawResponse}

omit [EnvelopeXml] [RustDecimal] in
theorem lenient_true {T : Type} (value : Except ParseError (Option T)) :
    ∃ read, lenient true value = .ok read := by
  cases value with
  | ok read => exact ⟨read, rfl⟩
  | error error => exact ⟨none, rfl⟩

/-- **No optional value hides an issuance** whose notification failed. -/
theorem replyOf_notified {body : EnvelopeBody}
    {number : { number : String // Text.isBlank number = false }}
    (h : body.invoiceNumber response = some number) (error : ApiError) :
    ∃ created, replyOf body response (some error) = .ok (.issued created)
      ∧ created.invoiceNumber = number.val ∧ created.notificationDeliveryFailed = true := by
  obtain ⟨net, hnet⟩ := lenient_true
    (decimalBodyOrHeader body.szamlanetto "szamlanetto" response "szlahu_nettovegosszeg")
  obtain ⟨gross, hgross⟩ := lenient_true
    (decimalBodyOrHeader body.szamlabrutto "szamlabrutto" response "szlahu_bruttovegosszeg")
  obtain ⟨outstanding, houtstanding⟩ := lenient_true
    (decimalBodyOrHeader body.kintlevoseg "kintlevoseg" response "szlahu_kintlevoseg")
  obtain ⟨pdf, hpdf⟩ := lenient_true body.readPdf
  refine ⟨numberedReply number body response true net gross outstanding, ?_, rfl, rfl⟩
  unfold replyOf
  rw [h]
  show (lenient true _ >>= fun net => _) = _
  rw [hnet]
  show (lenient true _ >>= fun gross => _) = _
  rw [hgross]
  show (lenient true _ >>= fun outstanding => _) = _
  rw [houtstanding]
  show (lenient true _ >>= fun pdf => _) = _
  rw [hpdf]
  rfl

/-- **What the reply to an issue establishes.** -/
structure ReplyVerdicts (response : RawResponse) : Prop where
  /-- A document is reported only while the service is up, beside no error but 56,
  and by a number the response makes available. -/
  issued : ∀ created, parseReply response = .ok (.issued created) →
    response.down = none
      ∧ (∀ error, response.Reports error → error.code = .invoiceNotificationDeliveryFailed)
      ∧ ∃ number, response.availableNumber = some number ∧ number.val = created.invoiceNumber
  /-- The flag is the report of 56. -/
  flagged : ∀ created, parseReply response = .ok (.issued created) →
    (created.notificationDeliveryFailed = true
      ↔ ∃ error, response.Reports error ∧ error.code = .invoiceNotificationDeliveryFailed)
  /-- Beside no other error, 56 with a number is an issued document, whatever else
  cannot be read. -/
  notified : ∀ number, response.down = none → (∃ error, response.Reports error) →
    (∀ error, response.Reports error → error.code = .invoiceNotificationDeliveryFailed) →
    (response.headerError.isSome = true ∨ response.StatusPasses) →
    response.availableNumber = some number →
    ∃ created, parseReply response = .ok (.issued created)
      ∧ created.invoiceNumber = number.val ∧ created.notificationDeliveryFailed = true
  /-- Any other error is no success. -/
  refused : ∀ error, response.Reports error →
    error.code ≠ .invoiceNotificationDeliveryFailed → ∀ reply, parseReply response ≠ .ok reply
  /-- That of the headers is returned, whatever the body says. -/
  header : ∀ error, response.down = none → response.headerError = some error →
    error.code ≠ .invoiceNotificationDeliveryFailed → parseReply response = .error (.api error)
  /-- That of the body is, unless the headers or the status come first. -/
  body : ∀ error, response.down = none →
    (∀ reported, response.headerError = some reported →
      reported.code = .invoiceNotificationDeliveryFailed) →
    (response.headerError.isSome = true ∨ response.StatusPasses) →
    response.bodyError = some error → error.code ≠ .invoiceNotificationDeliveryFailed →
    parseReply response = .error (.api error)

omit [EnvelopeXml] [RustDecimal] in
theorem tolerated_of_ne {error : ApiError} (h : error.code ≠ .invoiceNotificationDeliveryFailed) :
    tolerated (some error) = .error (.api error) := if_neg h

/-- A success has passed both verdicts. -/
theorem parseReply_eq_ok {reply : Reply} (h : parseReply response = .ok reply) :
    response.down = none
      ∧ ∀ error, response.Reports error → error.code = .invoiceNotificationDeliveryFailed := by
  unfold parseReply at h
  obtain ⟨reported, hheader, h⟩ := Except.bind_eq_ok.mp h
  obtain ⟨_, hheader56, h⟩ := Except.bind_eq_ok.mp h
  obtain ⟨⟨read, payload⟩, henvelope, h⟩ := Except.bind_eq_ok.mp h
  obtain ⟨_, hbody56, h⟩ := Except.bind_eq_ok.mp h
  obtain ⟨body, hbody, -⟩ := Except.bind_eq_ok.mp h
  obtain rfl : payload = .ok body := by
    cases payload with
    | error e => cases hbody
    | ok b =>
      cases hbody
      rfl
  obtain ⟨hdown, rfl, -⟩ := headerVerdict_eq_ok.mp hheader
  obtain ⟨rfl, -⟩ := readEnvelope_eq_ok henvelope
  refine ⟨hdown, ?_⟩
  rintro error (herror | herror)
  · exact tolerated_eq_ok.mp hheader56 error herror
  · exact tolerated_eq_ok.mp hbody56 error herror

/-- **The two channels, in every combination.** -/
theorem parseReply_verdicts (response : RawResponse) : ReplyVerdicts response where
  issued created h := by
    obtain ⟨hdown, h56⟩ := parseReply_eq_ok h
    obtain ⟨reported, read, body, -, henvelope, hnumber, -, -⟩ := parseReply_eq_issued h
    obtain ⟨-, hbody⟩ := readEnvelope_eq_ok henvelope
    refine ⟨hdown, h56, ⟨created.invoiceNumber, created.nonblank⟩, ?_, rfl⟩
    rw [RawResponse.availableNumber, hbody, Option.bind_some, hnumber]
  -- the flag is raised by either channel, and then what it reports is tolerated
  flagged created h := by
    obtain ⟨-, h56⟩ := parseReply_eq_ok h
    obtain ⟨reported, read, body, hheader, henvelope, -, -, hflag⟩ := parseReply_eq_issued h
    obtain ⟨-, rfl, -⟩ := headerVerdict_eq_ok.mp hheader
    obtain ⟨rfl, -⟩ := readEnvelope_eq_ok henvelope
    rw [hflag]
    constructor
    · intro hsome
      obtain ⟨error, herror⟩ := Option.isSome_iff_exists.mp hsome
      have hreports : response.Reports error := (Option.or_eq_some_iff.mp herror).imp_right And.right
      exact ⟨error, hreports, h56 error hreports⟩
    · rintro ⟨error, herror | herror, -⟩
      · rw [herror]
        rfl
      · have hbody : (response.bodyVerdict.bind Verdict.apiError) = some error := herror
        rw [hbody, Option.isSome_or]
        exact Bool.or_true _
  -- both verdicts let the response through, so only the payload is left to read
  notified number hdown hreports h56 hstatus hnumber := by
    obtain ⟨body, hbody, hnumber⟩ := Option.bind_eq_some_iff.mp hnumber
    have hheader := headerVerdict_eq_ok.mpr ⟨hdown, rfl, hstatus⟩
    have hheader56 : tolerated response.headerError = .ok () :=
      tolerated_eq_ok.mpr (fun error herror => h56 error (Or.inl herror))
    have hbody56 : tolerated (response.bodyVerdict.bind Verdict.apiError) = .ok () :=
      tolerated_eq_ok.mpr (fun error herror => h56 error (Or.inr herror))
    obtain ⟨error, herror⟩ : ∃ error, response.headerError.or
        (response.bodyVerdict.bind Verdict.apiError) = some error := by
      obtain ⟨error, herror | herror⟩ := hreports
      · exact ⟨error, by rw [herror]; rfl⟩
      · refine Option.isSome_iff_exists.mp ?_
        have hsome : (response.bodyVerdict.bind Verdict.apiError) = some error := herror
        rw [hsome, Option.isSome_or]
        exact Bool.or_true _
    have hfailed : response.headerError.isSome = true ∨ response.bodyError.isSome = true := by
      obtain ⟨error, herror | herror⟩ := hreports
      · exact Or.inl (by rw [herror]; rfl)
      · exact Or.inr (by rw [herror]; rfl)
    obtain ⟨created, hcreated, hnumber', hflag⟩ := replyOf_notified hnumber error
    refine ⟨created, ?_, hnumber', hflag⟩
    unfold parseReply
    rw [hheader]
    show (tolerated response.headerError >>= fun _ => _) = _
    rw [hheader56]
    show (readEnvelope response response.headerError >>= fun envelope => _) = _
    rw [readEnvelope_of_readBody hfailed hbody]
    show (tolerated (response.bodyVerdict.bind Verdict.apiError) >>= fun _ => _) = _
    rw [hbody56]
    show replyOf body response (response.headerError.or
      (response.bodyVerdict.bind Verdict.apiError)) = _
    rw [herror, hcreated]
  refused error hreports hcode reply h := hcode ((parseReply_eq_ok h).2 error hreports)
  header error hdown hheader hcode := by
    have hverdict := headerVerdict_eq_ok.mpr ⟨hdown, hheader, Or.inl rfl⟩
    unfold parseReply
    rw [hverdict]
    show (tolerated (some error) >>= fun _ => _) = _
    rw [tolerated_of_ne hcode]
    rfl
  body error hdown hheader56 hstatus hbody hcode := by
    have hverdict := headerVerdict_eq_ok.mpr ⟨hdown, rfl, hstatus⟩
    obtain ⟨verdict, hread, hreported⟩ := Option.bind_eq_some_iff.mp hbody
    obtain ⟨payload, henvelope⟩ := readEnvelope_of_verdict hread response.headerError
    unfold parseReply
    rw [hverdict]
    show (tolerated response.headerError >>= fun _ => _) = _
    rw [tolerated_eq_ok.mpr hheader56]
    show (readEnvelope response response.headerError >>= fun envelope => _) = _
    rw [henvelope]
    show (tolerated ((some verdict).bind Verdict.apiError) >>= fun _ => _) = _
    rw [Option.bind_some, hreported, tolerated_of_ne hcode]
    rfl

end Reply

end Channels

/-! ## A failed notification behind a failed request -/

section Sample

/-- The envelope of an issued invoice whose notification failed. -/
def notifiedBody : String :=
  "<xmlszamlavalasz xmlns=\"http://www.szamlazz.hu/xmlszamlavalasz\"><sikeres>false</sikeres>"
    ++ "<hibakod>56</hibakod><szamlaszam>E-1</szamlaszam></xmlszamlavalasz>"

/-- Its protocol text. -/
def notifiedText : String :=
  "<xmlszamlavalasz><sikeres>false</sikeres>"
    ++ "<hibakod>56</hibakod><szamlaszam>E-1</szamlaszam></xmlszamlavalasz>"

/-- What is read of that envelope. -/
local instance notifiedEnvelope : EnvelopeXml where
  percentDecode text := text
  bodyExcerpt _ := notifiedBody
  numberError _ := ""
  base64Error _ := none
  envelopeText body :=
    if body.data = notifiedBody.toUTF8.data then .ok notifiedText else .error (.unexpectedBody "")
  facts text := if text = notifiedText then .ok (false, some "56") else .error (.xml "")
  diagnostic _ := none
  payload text :=
    if text = notifiedText then .ok { szamlaszam := some "E-1" } else .error (.xml "")
  identity text := if text = notifiedText then .ok (some "E-1") else .error (.xml "")

local instance notifiedDecimal : RustDecimal := RustDecimal.exact

/-- The envelope, answered with an internal server error and no headers. -/
def notifiedResponse : RawResponse where
  status := some 500
  headers := []
  body := notifiedBody.toUTF8

/-- **The status comes before the body**: 56 with a number, in a readable envelope, and
nothing is issued. -/
theorem notified_behind_status :
    notifiedResponse.down = none
      ∧ (∃ error, notifiedResponse.Reports error
          ∧ error.code = .invoiceNotificationDeliveryFailed)
      ∧ (∀ error, notifiedResponse.Reports error →
          error.code = .invoiceNotificationDeliveryFailed)
      ∧ (∃ number, notifiedResponse.availableNumber = some number)
      ∧ parseReply notifiedResponse = .error (.httpStatus 500 notifiedBody) := by
  have htext : EnvelopeXml.envelopeText notifiedResponse.body = .ok notifiedText := if_pos rfl
  have hfacts : EnvelopeXml.facts notifiedText = .ok (false, some "56") := if_pos rfl
  have hpayload : EnvelopeXml.payload notifiedText = .ok { szamlaszam := some "E-1" } := if_pos rfl
  have hverdict : EnvelopeXml.verdict notifiedText
      = .ok { sikeres := false, hibakod := some "56", hibauzenet := none } := by
    rw [EnvelopeXml.verdict, hfacts]
    rfl
  have hbodyVerdict : notifiedResponse.bodyVerdict
      = some { sikeres := false, hibakod := some "56", hibauzenet := none } := by
    rw [RawResponse.bodyVerdict, htext]
    show (EnvelopeXml.verdict notifiedText).toOption = _
    rw [hverdict]
    rfl
  have hbodyError : notifiedResponse.bodyError
      = some ⟨.invoiceNotificationDeliveryFailed, ""⟩ := by
    rw [RawResponse.bodyError, hbodyVerdict]
    decide +kernel
  have hread : notifiedResponse.readBody = some { szamlaszam := some "E-1" } := by
    have hbody : EnvelopeXml.body notifiedText true = .ok { szamlaszam := some "E-1" } := by
      rw [EnvelopeXml.body, hpayload]
    have hparse : EnvelopeXml.parseEnvelope notifiedResponse.body true
        = .ok ({ sikeres := false, hibakod := some "56", hibauzenet := none },
          .ok { szamlaszam := some "E-1" }) := by
      unfold EnvelopeXml.parseEnvelope
      rw [htext]
      show (EnvelopeXml.verdict notifiedText >>= fun verdict => _) = _
      rw [hverdict, ← hbody]
      rfl
    rw [RawResponse.readBody, hparse]
    rfl
  refine ⟨rfl, ⟨_, Or.inr hbodyError, rfl⟩, ?_, ?_, rfl⟩
  · rintro error (herror | herror)
    · cases herror
    · rw [hbodyError] at herror
      cases herror
      rfl
  · refine ⟨⟨"E-1", by decide⟩, ?_⟩
    rw [RawResponse.availableNumber, hread]
    decide +kernel

end Sample

end Szamlazz
