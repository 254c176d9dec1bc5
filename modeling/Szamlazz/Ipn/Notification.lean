import Szamlazz.Ipn.Amount
import Szamlazz.Lib.Urlencoded

/-!
# The payment notification

A form in which only the number of the document is required. The form is validated
as a whole, and decoded by a library that repairs what it cannot decode
(`FormUrlencoded`). `FormVerdict` says why a form is refused, that nothing is repaired
in a form that is accepted, and that every field is the reading of the last occurrence
of its parameter.
-/

namespace Szamlazz

namespace Ipn

open Urlencoded

/-- The libraries that take the form apart. -/
class FormUrlencoded where
  /-- The pairs of a form, decoded. -/
  parse : List UInt8 → List (String × String)
  /-- The text of bytes, what is not UTF-8 replaced. -/
  lossy : List UInt8 → String
  /-- The error of bytes that are not UTF-8. -/
  utf8Error : List UInt8 → String
  /-- A civil date. -/
  CivilDate : Type
  /-- A date as `%Y-%m-%d`. -/
  strptime : String → Option CivilDate

/-- **What the libraries document of them.** The form is cut at `&` and at the first
`=`; a name or a value is decoded on its own; and what is UTF-8 is not replaced. -/
class LawfulFormUrlencoded [FormUrlencoded] : Prop where
  parse_eq : ∀ body, FormUrlencoded.parse body = (sequences body).map
    (fun s => (FormUrlencoded.lossy (decoded s.1), FormUrlencoded.lossy (decoded s.2)))
  lossy_bytes : ∀ text, FormUrlencoded.lossy (Utf8.bytes text) = text

/-- A body that is no notification. -/
inductive IpnParseError where
  | missing (parameter : String)
  | malformedForm
  | invalidUtf8 (error : String)
deriving DecidableEq

/-! ## The validation -/

def hexDigit (byte : UInt8) : Option UInt8 :=
  if 0x30 ≤ byte ∧ byte ≤ 0x39 then some (byte - 0x30)
  else if 0x61 ≤ byte ∧ byte ≤ 0x66 then some (byte - 0x61 + 10)
  else if 0x41 ≤ byte ∧ byte ≤ 0x46 then some (byte - 0x41 + 10)
  else none

/-- The loop over the bytes: what was decoded of them, or a broken escape. -/
def decodeForm (decoded : List UInt8) : List UInt8 → Except IpnParseError (List UInt8)
  | [] => .ok decoded
  | [byte] => if byte = 0x25 then .error .malformedForm else .ok (decoded ++ [byte])
  | [byte, next] =>
    if byte = 0x25 then .error .malformedForm else decodeForm (decoded ++ [byte]) [next]
  | byte :: high :: low :: rest =>
    if byte = 0x25 then
      match hexDigit high, hexDigit low with
      | some high, some low => decodeForm (decoded ++ [high * 16 + low]) rest
      | _, _ => .error .malformedForm
    else decodeForm (decoded ++ [byte]) (high :: low :: rest)

section Notification

variable [FormUrlencoded]

def validateForm (body : List UInt8) : Except IpnParseError Unit := do
  let decoded ← decodeForm [] body
  match Utf8.decode? decoded with
  | some _ => .ok ()
  | none => .error (.invalidUtf8 (FormUrlencoded.utf8Error decoded))

/-! ## The fields -/

/-- The status of a document, as the form tells. -/
structure PaymentNotification where
  documentNumber : String
  grossTotal : Option Decimal
  rawGrossTotal : Option String
  paidGross : Option Decimal
  rawPaidGross : Option String
  paymentMethod : Option String
  rawPaymentMethod : Option String
  paymentDate : Option FormUrlencoded.CivilDate
  rawPaymentDate : Option String
  proformaNumber : Option String
  orderNumber : Option String

/-- The fields read so far. -/
structure Fields where
  documentNumber : Option String := none
  grossTotal : Option Decimal := none
  paidGross : Option Decimal := none
  paymentMethod : Option String := none
  paymentDate : Option FormUrlencoded.CivilDate := none
  rawGrossTotal : Option String := none
  rawPaidGross : Option String := none
  rawPaymentMethod : Option String := none
  rawPaymentDate : Option String := none
  proformaNumber : Option String := none
  orderNumber : Option String := none

def nonEmpty (value : String) : Option String :=
  let trimmed := Text.trim value
  if trimmed.isEmpty then none else some trimmed

def readDate (value : String) : Option FormUrlencoded.CivilDate :=
  FormUrlencoded.strptime (Text.trim value)

/-- One pair. -/
def Fields.read (fields : Fields) (pair : String × String) : Fields :=
  let value := pair.2
  match pair.1 with
  | "szlahu_szamlaszam" => { fields with documentNumber := nonEmpty value }
  | "szlahu_bruttovegosszeg" =>
    { fields with grossTotal := parseDecimal value, rawGrossTotal := some value }
  | "szlahu_kifizetettbrutto" =>
    { fields with paidGross := parseDecimal value, rawPaidGross := some value }
  | "szlahu_fizetesmod" =>
    { fields with paymentMethod := nonEmpty value, rawPaymentMethod := some value }
  | "szlahu_kifizdat" =>
    { fields with paymentDate := readDate value, rawPaymentDate := some value }
  | "szlahu_dijbekero_szama" => { fields with proformaNumber := nonEmpty value }
  | "szlahu_rendelesszam" => { fields with orderNumber := nonEmpty value }
  | _ => fields

def fromPairs (pairs : List (String × String)) : Except IpnParseError PaymentNotification :=
  let fields := pairs.foldl Fields.read {}
  match fields.documentNumber with
  | some documentNumber =>
    .ok
      { documentNumber := documentNumber
        grossTotal := fields.grossTotal, rawGrossTotal := fields.rawGrossTotal
        paidGross := fields.paidGross, rawPaidGross := fields.rawPaidGross
        paymentMethod := fields.paymentMethod, rawPaymentMethod := fields.rawPaymentMethod
        paymentDate := fields.paymentDate, rawPaymentDate := fields.rawPaymentDate
        proformaNumber := fields.proformaNumber, orderNumber := fields.orderNumber }
  | none => .error (.missing "szlahu_szamlaszam")

/-- **Reads a notification off the body of a request.** -/
def fromFormBytes (body : List UInt8) : Except IpnParseError PaymentNotification := do
  validateForm body
  fromPairs (FormUrlencoded.parse body)

end Notification

/-! ## What the validation accepts -/

section Validate

/-- **A broken escape is an escape that is none**, and otherwise the body is decoded. -/
theorem decodeForm_spec (decoded body : List UInt8) :
    (Escaped body ∧ decodeForm decoded body = .ok (decoded ++ percentDecode body))
      ∨ (¬ Escaped body ∧ decodeForm decoded body = .error .malformedForm) := by
  induction decoded, body using decodeForm.induct with
  | case1 decoded => exact Or.inl ⟨.nil, by simp [decodeForm]⟩
  | case2 decoded => exact Or.inr ⟨not_escaped_short (by simp), by simp [decodeForm]⟩
  | case3 decoded byte hb =>
    refine Or.inl ⟨(escaped_byte hb).mpr .nil, ?_⟩
    rw [decodeForm, if_neg hb]
    rfl
  | case4 decoded next => exact Or.inr ⟨not_escaped_short (by simp), by simp [decodeForm]⟩
  | case5 decoded byte next hb ih =>
    rw [decodeForm, if_neg hb, escaped_byte hb, percentDecode_byte hb,
      List.append_cons decoded byte (percentDecode [next])]
    exact ih
  | case6 decoded high low rest high' low' hlow hhigh ih =>
    have hescaped : Escaped (percent :: high :: low :: rest) ↔ Escaped rest := by
      rw [escaped_escape]
      exact ⟨fun ⟨_, _, _, _, h⟩ => h, fun h => ⟨_, _, hhigh, hlow, h⟩⟩
    have hdecode := percentDecode_escape hhigh hlow rest
    rw [decodeForm, if_pos rfl, hhigh, hlow, hescaped, hdecode,
      List.append_cons decoded (high' * 16 + low') (percentDecode rest)]
    exact ih
  | case7 decoded high low rest hnone =>
    refine Or.inr ⟨fun h => ?_, ?_⟩
    · obtain ⟨h, l, hhigh, hlow, -⟩ := escaped_escape.mp h
      exact hnone h l hhigh hlow
    · rw [decodeForm, if_pos rfl]
      split
      · rename_i h l hhigh hlow
        exact absurd hlow (hnone h l hhigh)
      · rfl
  | case8 decoded byte high low rest hb ih =>
    rw [decodeForm, if_neg hb, escaped_byte hb, percentDecode_byte hb,
      List.append_cons decoded byte (percentDecode (high :: low :: rest))]
    exact ih

variable [FormUrlencoded] {body : List UInt8}

/-- **A form is refused for a broken escape first**, then for what it decodes to. -/
theorem validateForm_spec (body : List UInt8) :
    (¬ Escaped body → validateForm body = .error .malformedForm)
      ∧ (Escaped body → ¬ Utf8.Valid (percentDecode body) → validateForm body
        = .error (.invalidUtf8 (FormUrlencoded.utf8Error (percentDecode body))))
      ∧ (Whole body → validateForm body = .ok ()) := by
  unfold validateForm
  rcases decodeForm_spec [] body with ⟨hescaped, hdecoded⟩ | ⟨hescaped, hdecoded⟩
  · rw [hdecoded, List.nil_append]
    refine ⟨fun h => absurd hescaped h, fun _ hvalid => ?_, fun h => ?_⟩
    · have hnone : Utf8.decode? (percentDecode body) = none := by
        rw [← Option.not_isSome_iff_eq_none, Utf8.decode?_isSome]
        exact hvalid
      show (match Utf8.decode? (percentDecode body) with | some _ => _ | none => _) = _
      rw [hnone]
    · obtain ⟨text, htext⟩ := Option.isSome_iff_exists.mp (Utf8.decode?_isSome.mpr h.valid)
      show (match Utf8.decode? (percentDecode body) with | some _ => _ | none => _) = _
      rw [htext]
  · rw [hdecoded]
    exact ⟨fun _ => rfl, fun h => absurd h hescaped, fun h => absurd h.escaped hescaped⟩

end Validate

/-! ## What the fields are -/

section Fields

variable [FormUrlencoded]

/-- The last occurrence of a parameter. -/
def lastValue (key : String) (pairs : List (String × String)) : Option String :=
  ((pairs.filter (fun pair => pair.1 = key)).getLast?).map Prod.snd

omit [FormUrlencoded] in
theorem lastValue_concat (key : String) (pairs : List (String × String))
    (pair : String × String) : lastValue key (pairs ++ [pair])
      = if pair.1 = key then some pair.2 else lastValue key pairs := by
  unfold lastValue
  rw [List.filter_append]
  by_cases hkey : pair.1 = key
  · simp [hkey]
  · simp [hkey]

/-- **A field is the reading of the last occurrence of its parameter**, if one pair
sets it as that parameter does and no other pair touches it. -/
theorem field_eq {β : Type} (field : Fields → Option β) {reading : String → Option β}
    {key : String} (hnone : field {} = none)
    (hread : ∀ fields pair, field (Fields.read fields pair)
      = if pair.1 = key then reading pair.2 else field fields)
    (pairs : List (String × String)) :
    field (pairs.foldl Fields.read {}) = (lastValue key pairs).bind reading := by
  induction pairs using List.reverseRecOn with
  | nil => exact hnone
  | append_singleton pairs pair ih =>
    rw [List.foldl_append, List.foldl_cons, List.foldl_nil, hread, lastValue_concat]
    split_ifs
    · rfl
    · exact ih

/-- The readings of the parameters of a form. -/
structure ReadOff (pairs : List (String × String)) (n : PaymentNotification) : Prop where
  documentNumber : (lastValue "szlahu_szamlaszam" pairs).bind nonEmpty = some n.documentNumber
  grossTotal : n.grossTotal = (lastValue "szlahu_bruttovegosszeg" pairs).bind parseDecimal
  rawGrossTotal : n.rawGrossTotal = lastValue "szlahu_bruttovegosszeg" pairs
  paidGross : n.paidGross = (lastValue "szlahu_kifizetettbrutto" pairs).bind parseDecimal
  rawPaidGross : n.rawPaidGross = lastValue "szlahu_kifizetettbrutto" pairs
  paymentMethod : n.paymentMethod = (lastValue "szlahu_fizetesmod" pairs).bind nonEmpty
  rawPaymentMethod : n.rawPaymentMethod = lastValue "szlahu_fizetesmod" pairs
  paymentDate : n.paymentDate = (lastValue "szlahu_kifizdat" pairs).bind readDate
  rawPaymentDate : n.rawPaymentDate = lastValue "szlahu_kifizdat" pairs
  proformaNumber : n.proformaNumber = (lastValue "szlahu_dijbekero_szama" pairs).bind nonEmpty
  orderNumber : n.orderNumber = (lastValue "szlahu_rendelesszam" pairs).bind nonEmpty

/-- Field by field, what one pair sets. -/
theorem Fields.read_eq (fields : Fields) (pair : String × String) : fields.read pair =
    { documentNumber :=
        if pair.1 = "szlahu_szamlaszam" then nonEmpty pair.2 else fields.documentNumber
      grossTotal :=
        if pair.1 = "szlahu_bruttovegosszeg" then parseDecimal pair.2 else fields.grossTotal
      paidGross :=
        if pair.1 = "szlahu_kifizetettbrutto" then parseDecimal pair.2 else fields.paidGross
      paymentMethod :=
        if pair.1 = "szlahu_fizetesmod" then nonEmpty pair.2 else fields.paymentMethod
      paymentDate := if pair.1 = "szlahu_kifizdat" then readDate pair.2 else fields.paymentDate
      rawGrossTotal :=
        if pair.1 = "szlahu_bruttovegosszeg" then some pair.2 else fields.rawGrossTotal
      rawPaidGross :=
        if pair.1 = "szlahu_kifizetettbrutto" then some pair.2 else fields.rawPaidGross
      rawPaymentMethod :=
        if pair.1 = "szlahu_fizetesmod" then some pair.2 else fields.rawPaymentMethod
      rawPaymentDate := if pair.1 = "szlahu_kifizdat" then some pair.2 else fields.rawPaymentDate
      proformaNumber :=
        if pair.1 = "szlahu_dijbekero_szama" then nonEmpty pair.2 else fields.proformaNumber
      orderNumber :=
        if pair.1 = "szlahu_rendelesszam" then nonEmpty pair.2 else fields.orderNumber } := by
  unfold Fields.read
  dsimp only
  split
  all_goals simp_all

omit [FormUrlencoded] in
theorem bind_some {β : Type} (o : Option β) : o.bind some = o := by cases o <;> rfl

/-- **A notification is what is read off its parameters**, and there is one if the
document has a number. -/
theorem fromPairs_spec (pairs : List (String × String)) :
    (∀ n, fromPairs pairs = .ok n → ReadOff pairs n)
      ∧ ((lastValue "szlahu_szamlaszam" pairs).bind nonEmpty = none →
        fromPairs pairs = .error (.missing "szlahu_szamlaszam"))
      ∧ (((lastValue "szlahu_szamlaszam" pairs).bind nonEmpty).isSome = true →
        ∃ n, fromPairs pairs = .ok n) := by
  have hnumber : (pairs.foldl Fields.read {}).documentNumber
      = (lastValue "szlahu_szamlaszam" pairs).bind nonEmpty :=
    field_eq Fields.documentNumber rfl (fun fields pair => by rw [Fields.read_eq]) pairs
  have hraw : ∀ (field : Fields → Option String) {key : String}, field {} = none →
      (∀ fields pair, field (Fields.read fields pair)
        = if pair.1 = key then some pair.2 else field fields) →
      field (pairs.foldl Fields.read {}) = lastValue key pairs := by
    intro field key hnone hread
    rw [field_eq field hnone hread, bind_some]
  unfold fromPairs
  dsimp only
  cases hread : (pairs.foldl Fields.read {}).documentNumber with
  | none =>
    rw [← hnumber, hread]
    refine ⟨fun n h => ?_, fun _ => rfl, fun h => ?_⟩
    · cases h
    · cases h
  | some number =>
    rw [← hnumber, hread]
    refine ⟨fun n h => ?_, fun h => ?_, fun _ => ⟨_, rfl⟩⟩
    · cases h
      exact
        { documentNumber := by rw [← hnumber, hread]
          grossTotal := field_eq Fields.grossTotal rfl
            (fun fields pair => by rw [Fields.read_eq]) pairs
          rawGrossTotal := hraw Fields.rawGrossTotal rfl (fun fields pair => by rw [Fields.read_eq])
          paidGross := field_eq Fields.paidGross rfl
            (fun fields pair => by rw [Fields.read_eq]) pairs
          rawPaidGross := hraw Fields.rawPaidGross rfl (fun fields pair => by rw [Fields.read_eq])
          paymentMethod := field_eq Fields.paymentMethod rfl
            (fun fields pair => by rw [Fields.read_eq]) pairs
          rawPaymentMethod := hraw Fields.rawPaymentMethod rfl (fun fields pair => by rw [Fields.read_eq])
          paymentDate := field_eq Fields.paymentDate rfl
            (fun fields pair => by rw [Fields.read_eq]) pairs
          rawPaymentDate := hraw Fields.rawPaymentDate rfl (fun fields pair => by rw [Fields.read_eq])
          proformaNumber := field_eq Fields.proformaNumber rfl
            (fun fields pair => by rw [Fields.read_eq]) pairs
          orderNumber := field_eq Fields.orderNumber rfl
            (fun fields pair => by rw [Fields.read_eq]) pairs }
    · cases h

end Fields

/-! ## The form -/

section Form

variable [FormUrlencoded]

/-- **What becomes of a form.** -/
structure FormVerdict (body : List UInt8) : Prop where
  /-- It is malformed for an escape that is none. -/
  malformed : fromFormBytes body = .error .malformedForm ↔ ¬ Escaped body
  /-- Else it is refused for bytes that are not UTF-8 as a whole. -/
  invalid : (∃ error, fromFormBytes body = .error (.invalidUtf8 error))
    ↔ Escaped body ∧ ¬ Utf8.Valid (percentDecode body)
  /-- Else for a document without a number, -/
  missing : (∃ parameter, fromFormBytes body = .error (.missing parameter))
    ↔ Whole body ∧
      (lastValue "szlahu_szamlaszam" (FormUrlencoded.parse body)).bind nonEmpty = none
  /-- and otherwise it is read. -/
  accepted : (∃ n, fromFormBytes body = .ok n)
    ↔ Whole body ∧
      ((lastValue "szlahu_szamlaszam" (FormUrlencoded.parse body)).bind nonEmpty).isSome = true
  /-- In a form that is read nothing was repaired: every name and every value is the
  text of its own bytes. -/
  exactly : ∀ n, fromFormBytes body = .ok n →
    List.Forall₂ (fun s pair => decoded s.1 = Utf8.bytes pair.1 ∧ decoded s.2 = Utf8.bytes pair.2)
      (sequences body) (FormUrlencoded.parse body)
  /-- Its fields are the readings of its parameters. -/
  fields : ∀ n, fromFormBytes body = .ok n → ReadOff (FormUrlencoded.parse body) n

/-- Nothing is repaired in a form that decodes as a whole. -/
theorem forall₂_parse [LawfulFormUrlencoded] {body : List UInt8} (h : Whole body) :
    List.Forall₂ (fun s pair => decoded s.1 = Utf8.bytes pair.1 ∧ decoded s.2 = Utf8.bytes pair.2)
      (sequences body) (FormUrlencoded.parse body) := by
  have hlossy : ∀ bs, Utf8.Valid bs → bs = Utf8.bytes (FormUrlencoded.lossy bs) := by
    intro bs hbs
    obtain ⟨text, htext⟩ := Option.isSome_iff_exists.mp (Utf8.decode?_isSome.mpr hbs)
    rw [Utf8.decode?_eq_some.mp htext, LawfulFormUrlencoded.lossy_bytes]
  rw [LawfulFormUrlencoded.parse_eq, List.forall₂_map_right_iff]
  refine List.forall₂_same.mpr (fun s hs => ?_)
  obtain ⟨hname, hvalue⟩ := whole_sequences h s hs
  exact ⟨hlossy _ hname, hlossy _ hvalue⟩

/-- The verdict, by what the validation says. -/
theorem formVerdict [LawfulFormUrlencoded] (body : List UInt8) : FormVerdict body := by
  obtain ⟨hmalformed, hinvalid, hwhole⟩ := validateForm_spec body
  obtain ⟨hread, hmissing, haccepted⟩ := fromPairs_spec (FormUrlencoded.parse body)
  -- The escapes are checked first, then the bytes they stand for, then the number.
  by_cases hescaped : Escaped body
  · by_cases hvalid : Utf8.Valid (percentDecode body)
    · have hform : fromFormBytes body = fromPairs (FormUrlencoded.parse body) := by
        unfold fromFormBytes
        rw [hwhole ⟨hescaped, hvalid⟩]
        rfl
      have hbody : Whole body := ⟨hescaped, hvalid⟩
      cases hnumber : (lastValue "szlahu_szamlaszam" (FormUrlencoded.parse body)).bind nonEmpty with
      | none =>
        have hresult := hform.trans (hmissing hnumber)
        exact
          { malformed := by rw [hresult]; simp [hescaped]
            invalid := by rw [hresult]; simp [hvalid]
            missing := by rw [hresult]; simp [hbody, hnumber]
            accepted := by rw [hresult]; simp [hnumber]
            exactly := by rw [hresult]; exact fun _ h => by cases h
            fields := by rw [hresult]; exact fun _ h => by cases h }
      | some number =>
        obtain ⟨n, hn⟩ := haccepted (by rw [hnumber]; rfl)
        have hresult := hform.trans hn
        exact
          { malformed := by rw [hresult]; simp [hescaped]
            invalid := by rw [hresult]; simp [hvalid]
            missing := by rw [hresult]; simp [hnumber]
            accepted := by rw [hresult]; simp [hbody, hnumber]
            exactly := fun _ _ => forall₂_parse hbody
            fields := fun m hm => hread m (hform ▸ hm) }
    · have hresult : ∃ error, fromFormBytes body = .error (.invalidUtf8 error) := by
        refine ⟨FormUrlencoded.utf8Error (percentDecode body), ?_⟩
        unfold fromFormBytes
        rw [hinvalid hescaped hvalid]
        rfl
      obtain ⟨error, hresult⟩ := hresult
      have hnot : ¬ Whole body := fun h => hvalid h.valid
      exact
        { malformed := by rw [hresult]; simp [hescaped]
          invalid := by rw [hresult]; simp [hescaped, hvalid]
          missing := by rw [hresult]; simp [hnot]
          accepted := by rw [hresult]; simp [hnot]
          exactly := by rw [hresult]; exact fun _ h => by cases h
          fields := by rw [hresult]; exact fun _ h => by cases h }
  · have hresult : fromFormBytes body = .error .malformedForm := by
      unfold fromFormBytes
      rw [hmalformed hescaped]
      rfl
    have hnot : ¬ Whole body := fun h => hescaped h.escaped
    exact
      { malformed := by rw [hresult]; simp [hescaped]
        invalid := by rw [hresult]; simp [hescaped]
        missing := by rw [hresult]; simp [hnot]
        accepted := by rw [hresult]; simp [hnot]
        exactly := by rw [hresult]; exact fun _ h => by cases h
        fields := by rw [hresult]; exact fun _ h => by cases h }

/-- **A form is read exactly or refused.** A `%` that begins no escape refuses it, then
bytes that are not UTF-8 as a whole, then a document without a number; a form that is
read is read as it was sent, and its amounts are the numbers they spell, or none. -/
theorem form_read_exactly [LawfulFormUrlencoded] :
    (∀ body, FormVerdict body ∧ (Escaped body ↔ ∀ before after,
        body = before ++ percent :: after → ∃ high low rest, after = high :: low :: rest
          ∧ (hexDigit high).isSome = true ∧ (hexDigit low).isSome = true))
      ∧ (∀ value, nonEmpty value = none ↔ Text.isBlank value = true)
      ∧ ∀ value,
        (∀ d, parseDecimal value = some d →
            ∃ a : Amount, a.text = pointed (Text.trim value).toList ∧ d.value = a.value
              ∧ d.scale = a.scale)
          ∧ ∀ a : Amount, a.text = pointed (Text.trim value).toList →
            ∃ d, parseDecimal value = some d ∧ d.value = a.value ∧ d.scale = a.scale := by
  refine ⟨fun body => ⟨formVerdict body, escaped_iff⟩, fun value => ?_, fun value =>
    ⟨fun d => parseDecimal_eq_some, fun a => parseDecimal_amount⟩⟩
  unfold nonEmpty Text.isBlank
  dsimp only
  split_ifs with h
  · exact iff_of_true rfl h
  · exact iff_of_false (fun h => by cases h) h

end Form

section Sample

/-- A decoder that writes a sign in place of a text it cannot decode. -/
local instance sampleForm : FormUrlencoded where
  parse body := (sequences body).map (fun s =>
    ((Utf8.decode? (decoded s.1)).getD "\uFFFD", (Utf8.decode? (decoded s.2)).getD "\uFFFD"))
  lossy bs := (Utf8.decode? bs).getD "\uFFFD"
  utf8Error _ := "invalid utf-8 sequence"
  CivilDate := String
  strptime text := if text.length = 10 then some text else none

local instance sampleLawfulForm : LawfulFormUrlencoded where
  parse_eq _ := rfl
  lossy_bytes text := by
    show (Utf8.decode? (Utf8.bytes text)).getD "\uFFFD" = text
    rw [Utf8.decode?_bytes]
    rfl

/-- The body of a form with one parameter twice and an escape in its value. -/
def sampleBody : List UInt8 :=
  Utf8.bytes "szlahu_szamlaszam=A-1&szlahu_bruttovegosszeg=1&szlahu_bruttovegosszeg=12%2C5"

/-- The amount `12.5`. -/
def sampleAmount : Amount where
  sign := .none
  whole := ['1', '2']
  fraction := some ['5']
  isDigit := by
    have hall : ['1', '2', '5'].all Char.isDigit = true := by decide
    exact fun c hc => Or.inl (List.all_eq_true.mp hall c hc)
  first := ⟨'1', ['2', '5'], rfl, by decide⟩
  places := by decide
  full before after h hlength := by
    have hbefore : 1 = before.length + after.length := by simpa using congrArg List.length h
    have hdigits : (digits before).length ≤ before.length := List.length_filter_le ..
    omega
  small := by decide

theorem whole_sampleBody : Whole sampleBody where
  escaped := by
    rcases decodeForm_spec [] sampleBody with ⟨hescaped, -⟩ | ⟨-, hrefused⟩
    · exact hescaped
    · have hdecoded : (decodeForm [] sampleBody).toOption.isSome = true := by decide +kernel
      rw [hrefused] at hdecoded
      cases hdecoded
  valid := ⟨"szlahu_szamlaszam=A-1&szlahu_bruttovegosszeg=1&szlahu_bruttovegosszeg=12,5".toList,
    by decide +kernel⟩

theorem parse_sampleBody : FormUrlencoded.parse sampleBody
    = [("szlahu_szamlaszam", "A-1"), ("szlahu_bruttovegosszeg", "1"),
      ("szlahu_bruttovegosszeg", "12,5")] := by
  have hsequences : (sequences sampleBody).map (fun s => (decoded s.1, decoded s.2))
      = [("szlahu_szamlaszam", "A-1"), ("szlahu_bruttovegosszeg", "1"),
        ("szlahu_bruttovegosszeg", "12,5")].map (fun p => (Utf8.bytes p.1, Utf8.bytes p.2)) := by
    decide +kernel
  have hparse := congrArg
    (List.map (fun p => (FormUrlencoded.lossy p.1, FormUrlencoded.lossy p.2))) hsequences
  rw [List.map_map, List.map_map] at hparse
  rw [LawfulFormUrlencoded.parse_eq]
  refine hparse.trans ?_
  simp only [List.map_cons, List.map_nil, Function.comp_apply, LawfulFormUrlencoded.lossy_bytes]

/-- Of a parameter that is there twice the last one counts, and a lone comma is a point. -/
theorem form_read_exactly_sample :
    ∃ n, fromFormBytes sampleBody = .ok n ∧ n.documentNumber = "A-1"
      ∧ n.rawGrossTotal = some "12,5" ∧ ∃ d, n.grossTotal = some d ∧ d.value = 25 / 2 := by
  obtain ⟨hform, -, hamounts⟩ := form_read_exactly
  have hverdict := (hform sampleBody).1
  obtain ⟨n, hn⟩ := hverdict.accepted.mpr ⟨whole_sampleBody, by
    rw [parse_sampleBody]
    decide +kernel⟩
  have hfields := hverdict.fields n hn
  rw [parse_sampleBody] at hfields
  obtain ⟨d, hd, hvalue, -⟩ := (hamounts "12,5").2 sampleAmount (by decide +kernel)
  refine ⟨n, hn, ?_, hfields.rawGrossTotal, d, hfields.grossTotal.trans hd, ?_⟩
  · exact (Option.some.inj hfields.documentNumber).symm.trans (by decide +kernel)
  · have hcoefficient : sampleAmount.coefficient = 125 := by decide
    have hscale : sampleAmount.scale = 1 := by decide
    rw [hvalue, Amount.value, hcoefficient, hscale, FixedPoint.number]
    norm_num

end Sample

end Ipn

end Szamlazz
