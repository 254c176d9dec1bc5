import Szamlazz.Push.Fanout

/-!
# The receiver of a push

`receiveInner`, the protocol around the handlers, in the order the router documents
it: key header, body under the limit, root element, key, full parse, handler. A
`200` ends the delivery for good, so the question is always which requests may get
one.

The XML reader is a parameter (`PushReader`): the receiver decides on what the
reader reports, never on the text itself.
-/

namespace Szamlazz.Adatkapcsolat

/-! ## Pushed documents -/

/-- The part of an invoice the receiver reads. -/
structure InvoiceInfo where
  id : Int64

/-- A pushed invoice: its identity, and the text everything else was read from. -/
structure InvoiceDocument where
  info : InvoiceInfo
  rawXml : String

/-- A bank transaction that was pushed. -/
structure BankTransaction where
  rawXml : String

/-- Receipts that were pushed together. -/
structure ReceiptBatch where
  rawXml : String

/-- A document of any of the four kinds. -/
inductive Document where
  | outgoingInvoice (invoice : InvoiceDocument)
  | incomingInvoice (invoice : InvoiceDocument)
  | bankTransaction (transaction : BankTransaction)
  | receipts (batch : ReceiptBatch)

/-- A pushed document that could not be interpreted. -/
inductive ParseError where
  | utf8 (error : String)
  | xml (error : String)
  | unknownRoot (root : String)
  | empty
  | wrongNamespace (root expected actual : String)

/-- The text of a parse error. -/
def ParseError.display : ParseError → String
  | utf8 error => "document is not valid UTF-8: " ++ error
  | xml error => "invalid document XML: " ++ error
  | unknownRoot root => "unknown document root element: " ++ root
  | empty => "empty request body"
  | wrongNamespace root expected actual =>
    "wrong namespace for " ++ root ++ ": expected " ++ expected ++ ", got " ++ actual

/-- A start tag as the reader reports it. The attributes come lazily: each may
turn out malformed, and so may its value. -/
structure StartTag where
  localName : String
  name : String
  attributes : List (Except String (String × Except String String))

/-- **The XML reader.** What it makes of a text, and of bytes that are none. -/
class PushReader where
  /-- Why bytes are not UTF-8. -/
  utf8Error : ByteArray → String
  /-- The first start tag of a text; `none` at the end of a text without one. -/
  firstStart : String → Except String (Option StartTag)
  /-- The namespace pass over every element, giving the normalised text. -/
  validate : String → RootKind → Except ParseError String
  /-- The typed reading of an invoice; its identity is what is kept here. -/
  invoice : String → Except String InvoiceInfo
  bankTransaction : String → Except String Unit
  receipts : String → Except String Unit

section Reading

variable [PushReader]

/-- The kind of a root element, by its name. -/
def RootKind.ofLocalName : String → Option RootKind
  | "szamla" => some .outgoingInvoice
  | "szamlabe" => some .incomingInvoice
  | "banktranz" => some .bankTransaction
  | "xmlnyugtaarchiv" => some .receipts
  | _ => none

/-- The attribute that declares the namespace of a start tag. -/
def StartTag.namespaceAttribute (start : StartTag) : String :=
  match (start.name.toList.reverse).drop start.localName.length with
  | ':' :: qualifier => "xmlns:" ++ String.ofList qualifier.reverse
  | _ => "xmlns"

/-- The value of the first attribute of a name. -/
def findNamespace (key : String) : List (Except String (String × Except String String)) →
    Except ParseError (Option String)
  | [] => .ok none
  | .error error :: _ => .error (.xml error)
  | .ok (name, value) :: rest =>
    if name = key then
      match value with
      | .ok value => .ok (some value)
      | .error error => .error (.xml error)
    else findNamespace key rest

/-- Identifies a known root and verifies its exact official namespace. -/
def rootKind (text : String) : Except ParseError RootKind :=
  match PushReader.firstStart text with
  | .error error => .error (.xml error)
  | .ok none => .error .empty
  | .ok (some start) =>
    match RootKind.ofLocalName start.localName with
    | none => .error (.unknownRoot start.localName)
    | some kind =>
      match findNamespace start.namespaceAttribute start.attributes with
      | .error error => .error error
      | .ok found =>
        if found = some kind.namespace then .ok kind
        else .error (.wrongNamespace kind.rootElement kind.namespace (found.getD ""))

/-- The body has to be a text. -/
def fromUtf8 (body : ByteArray) : Except ParseError String :=
  match String.fromUTF8? body with
  | some text => .ok text
  | none => .error (.utf8 (PushReader.utf8Error body))

/-- The root kind of a body, reading no XML past its start tag. -/
def Document.identify (body : ByteArray) : Except ParseError RootKind := do
  rootKind (← fromUtf8 body)

/-- The full parse of an identified body. -/
def Document.parseIdentified (body : ByteArray) (root : RootKind) : Except ParseError Document := do
  let rawXml ← fromUtf8 body
  let text ← PushReader.validate rawXml root
  match root with
  | .outgoingInvoice =>
    let info ← (PushReader.invoice text).mapError .xml
    return .outgoingInvoice ⟨info, rawXml⟩
  | .incomingInvoice =>
    let info ← (PushReader.invoice text).mapError .xml
    return .incomingInvoice ⟨info, rawXml⟩
  | .bankTransaction =>
    (PushReader.bankTransaction text).mapError .xml
    return .bankTransaction ⟨rawXml⟩
  | .receipts =>
    (PushReader.receipts text).mapError .xml
    return .receipts ⟨rawXml⟩

end Reading

/-! ## The exchanges of a push -/

/-- The acknowledgement a document is answered with. -/
def Document.Ack : Document → Type
  | .outgoingInvoice _ => InvoiceAck
  | .incomingInvoice _ => InvoiceAck
  | .bankTransaction _ => Adatkapcsolat.Ack
  | .receipts _ => Adatkapcsolat.Ack

/-- What the receiver asks of the code it is given: the handler of a key, and one
leaf's answer to a document. -/
inductive PushRequest (L : Type) where
  | resolve (presentedKey : String)
  | handle (handler : L) (document : Document)

/-- The answers to them. -/
def PushRequest.Answer {L : Type} : PushRequest L → Type
  | resolve _ => Except String (Option (HandlerTree L))
  | handle _ document => Except BoxError document.Ack

/-- The receiver's code, between the answers it gets. -/
abbrev Reception (L α : Type) := Prog (PushRequest.Answer (L := L)) α

namespace HandlerTree

variable {L : Type}

/-- The call of the handlers for an outgoing invoice. -/
def outgoingInvoice (t : HandlerTree L) (invoice : InvoiceDocument) :
    Reception L (Handled InvoiceAck) :=
  deliver (fun handler d => Prog.perform (PushRequest.handle handler (.outgoingInvoice d)))
    (fun d acks => mergeInvoiceAcks d.info.id acks) t invoice

/-- For an incoming one. -/
def incomingInvoice (t : HandlerTree L) (invoice : InvoiceDocument) :
    Reception L (Handled InvoiceAck) :=
  deliver (fun handler d => Prog.perform (PushRequest.handle handler (.incomingInvoice d)))
    (fun d acks => mergeInvoiceAcks d.info.id acks) t invoice

/-- For a bank transaction. -/
def bankTransaction (t : HandlerTree L) (transaction : BankTransaction) :
    Reception L (Handled Ack) :=
  deliver (fun handler d => Prog.perform (PushRequest.handle handler (.bankTransaction d)))
    (fun _ acks => mergeAcks acks) t transaction

/-- For receipts. -/
def receipts (t : HandlerTree L) (batch : ReceiptBatch) : Reception L (Handled Ack) :=
  deliver (fun handler d => Prog.perform (PushRequest.handle handler (.receipts d)))
    (fun _ acks => mergeAcks acks) t batch

end HandlerTree

/-! ## The receiver -/

/-- A request: its headers under lower-case names, and its body as far as it was
transmitted. -/
structure Request where
  headers : List (String × List UInt8)
  body : Except String ByteArray

/-- How long a body may be. -/
inductive BodyLimit where
  | max (bytes : Nat)
  | unlimited

/-- 64 MiB. -/
def BodyLimit.default : BodyLimit := .max (64 * 1024 * 1024)

/-- A reply: its status, and a text or an acknowledgement. -/
inductive Response where
  | text (status : Nat) (text : String)
  | xml (ack : AckXml)

/-- The status of a response. -/
def Response.status : Response → Nat
  | text status _ => status
  | xml _ => 200

/-- Why a body could not be buffered. -/
inductive BytesRejection where
  | lengthLimit
  | unknownBody (error : String)

/-- The response to a body that was not taken. -/
def BytesRejection.intoResponse : BytesRejection → Response
  | lengthLimit => .text 413 "Failed to buffer the request body: length limit exceeded"
  | unknownBody error => .text 400 ("Failed to buffer the request body: " ++ error)

/-- Buffers the body under the limit. -/
def bytesFromRequest (limit : BodyLimit) (request : Request) : Except BytesRejection ByteArray :=
  match request.body with
  | .error error => .error (.unknownBody error)
  | .ok body =>
    match limit with
    | .unlimited => .ok body
    | .max bytes => if bytes < body.size then .error .lengthLimit else .ok body

/-- A header value read as text: visible ASCII, spaces and tabs only. -/
def headerToStr (value : List UInt8) : Option String :=
  if value.all (fun b => (32 ≤ b && b < 127) || b == 9) then
    some (String.ofList (value.map fun b => Char.ofNat b.toNat))
  else none

/-- The key header, if it is there and readable. -/
def presentedKey (request : Request) : Option String :=
  (request.headers.lookup "x-szamlazzhu-key").bind headerToStr

/-- The response when a handler failed. -/
def handlerError : Response := .text 500 "handler error"

/-- The response when the key could not be checked. -/
def resolverUnavailable : Response := .text 503 "key resolver unavailable"

/-- The response to an invoice, if the acknowledgement can be written. -/
def invoiceXmlResponse (ack : InvoiceAck) (direction : InvoiceDirection) : Response :=
  match ack.toXml direction with
  | .ok body => .xml body
  | .error _ => handlerError

section Receiver

variable [PushReader] {L : Type}

/-- The reply to what a handler made of a document; a panic drops the connection. -/
def respond {K : Type} (reply : K → Response) : Handled K → Option Response
  | none => none
  | some (.ok ack) => some (reply ack)
  | some (.error _) => some handlerError

/-- Hands the document to the method of its kind. -/
def deliverDocument (handler : HandlerTree L) : Document → Reception L (Option Response)
  | .outgoingInvoice invoice => do
    let id := invoice.info.id
    return respond (fun ack => invoiceXmlResponse (ack.forDocument id) .outgoing)
      (← handler.outgoingInvoice invoice)
  | .incomingInvoice invoice => do
    let id := invoice.info.id
    return respond (fun ack => invoiceXmlResponse (ack.forDocument id) .incoming)
      (← handler.incomingInvoice invoice)
  | .bankTransaction transaction => do
    return respond (fun ack => .xml ack.toBankTransactionXml)
      (← handler.bankTransaction transaction)
  | .receipts batch => do
    return respond (fun ack => .xml ack.toReceiptsXml) (← handler.receipts batch)

/-- **The protocol.** Unauthenticated work stays minimal; every uncertain answer
stays retryable. -/
def receiveInner (limit : BodyLimit) (request : Request) : Reception L (Option Response) :=
  match presentedKey request with
  | none => pure (some (.text 401 "missing X-Szamlazzhu-Key header"))
  | some key =>
    match bytesFromRequest limit request with
    | .error rejection => pure (some rejection.intoResponse)
    | .ok body =>
      match Document.identify body with
      | .error error => pure (some (.text 400 error.display))
      | .ok root => do
        match ← Prog.perform (PushRequest.resolve key) with
        | .ok none => pure (some (.xml (ControlCode.keyUnknown.toXml root)))
        | .error _ => pure (some resolverUnavailable)
        | .ok (some handler) =>
          match Document.parseIdentified body root with
          | .error error => pure (some (.text 400 error.display))
          | .ok document => deliverDocument handler document

end Receiver

/-! ## What the reply says -/

namespace Document

/-- The kind of a document. -/
def root : Document → RootKind
  | outgoingInvoice _ => .outgoingInvoice
  | incomingInvoice _ => .incomingInvoice
  | bankTransaction _ => .bankTransaction
  | receipts _ => .receipts

/-- The pushed id, which an invoice's acknowledgement echoes. -/
def id? : Document → Option Int64
  | outgoingInvoice invoice => some invoice.info.id
  | incomingInvoice invoice => some invoice.info.id
  | bankTransaction _ => none
  | receipts _ => none

/-- The control code of an answer. -/
def control : (d : Document) → d.Ack → Option ControlCode
  | outgoingInvoice _, ack => InvoiceAck.control ack
  | incomingInvoice _, ack => InvoiceAck.control ack
  | bankTransaction _, ack => Adatkapcsolat.Ack.control ack
  | receipts _, ack => Adatkapcsolat.Ack.control ack

/-- The registration number supplied with an answer. -/
def registrationNumber : (d : Document) → d.Ack → Option String
  | outgoingInvoice _, ack => InvoiceAck.registrationNumber ack
  | incomingInvoice _, ack => InvoiceAck.registrationNumber ack
  | bankTransaction _, _ => none
  | receipts _, _ => none

/-- The verdict of an acknowledgement. -/
def verdict (d : Document) (ack : d.Ack) : Verdict :=
  Verdict.ofParts (d.control ack) (d.registrationNumber ack)

/-- The accepting acknowledgement of a document. -/
def acceptingAck (d : Document) (registration : Option String) : AckXml :=
  AckXml.render d.root
    (match d.id? with
    | some id => [.node "alap" (.leaf "id" (toString id.toInt)
        :: (registration.map (Xml.Node.leaf "iktatoszam")).toList)]
    | none => [])

end Document

/-- The control codes a reply carries. -/
def Response.hibakod : Response → List String
  | text _ _ => []
  | xml ack => Xml.textsAt [{ name := "hibakod" }] ack.children

/-- A `200` with an accepting acknowledgement. -/
def Response.IsAccepting (r : Response) : Prop := r.status = 200 ∧ r.hibakod = []

/-- A `200` with a control code. -/
def Response.IsControl (r : Response) (code : ControlCode) : Prop :=
  r.status = 200 ∧ r.hibakod = [code.asWire]

/-- **A document that reached its handlers**: the tree the resolver returned, and
what each leaf was asked and answered. -/
structure Delivery (L : Type) where
  tree : HandlerTree L
  document : Document
  calls : List (L × Except BoxError document.Ack)

namespace Delivery

variable {L : Type}

/-- The exchanges of the delivery. -/
def transcript (d : Delivery L) : List (Exchange (PushRequest.Answer (L := L))) :=
  d.calls.map fun c => ⟨.handle c.1 d.document, c.2⟩

/-- Every leaf ran exactly once, depth first. -/
def RanAll (d : Delivery L) : Prop := d.calls.map Prod.fst = d.tree.leaves

/-- Every leaf answered, and no fan-out was empty. -/
def AllAnswered (d : Delivery L) : Prop :=
  d.tree.complete = true ∧ ∀ c ∈ d.calls, ∃ ack, c.2 = .ok ack

/-- Some leaf answered with this control code. -/
def Said (d : Delivery L) (code : ControlCode) : Prop :=
  ∃ c ∈ d.calls, ∃ ack, c.2 = .ok ack ∧ d.document.control ack = some code

/-- The first registration number supplied, in leaf order. -/
def firstRegistration (d : Delivery L) : Option String :=
  (d.calls.filterMap fun c =>
    match c.2 with
    | .ok ack => d.document.registrationNumber ack
    | .error _ => none).head?

end Delivery

section Replies

variable {L : Type}

/-- The answers of a delivery. -/
def Delivery.acks (d : Delivery L) : List d.document.Ack :=
  d.calls.filterMap fun c => c.2.toOption

/-- What they amount to. -/
def Delivery.verdict (d : Delivery L) : Verdict := (d.acks.map d.document.verdict).prod

/-- The reply to a document whose handlers answered with a verdict. -/
def Document.reply (document : Document) : Verdict → Response
  | .control code => .xml (code.toXml document.root)
  | .accepted registration =>
    if registration.all (fun number => number.toList.all isXml10Character) then
      .xml (document.acceptingAck registration)
    else handlerError

/-- What a delivery is answered. -/
def Delivery.Replied (d : Delivery L) (reply : Option Response) : Prop :=
  (¬ d.AllAnswered ∧ reply = some handlerError)
    ∨ (d.AllAnswered ∧ reply = some (d.document.reply d.verdict))

/-! ### The reply to an answer -/

/-- A text with another character is refused. -/
theorem validateXml10_error {number : String} (h : ¬ number.toList.all isXml10Character = true) :
    ∃ error, validateXml10 number = .error error := by
  match hv : validateXml10 number with
  | .error error => exact ⟨error, rfl⟩
  | .ok () => exact absurd (List.all_eq_true.mpr (validateXml10_eq_ok.mp hv)) h

/-- An invoice's acknowledgement is rebound to the pushed id, and only then
rendered: whatever id a leaf supplied is gone, and a control code carries nothing
else. -/
theorem invoiceXmlResponse_forDocument (document : Document) (direction : InvoiceDirection)
    (id : Int64) (hroot : document.root = direction.rootKind) (hid : document.id? = some id)
    (ack : InvoiceAck) :
    invoiceXmlResponse (ack.forDocument id) direction = document.reply ack.verdict := by
  obtain ⟨ackId, registration, control⟩ := ack
  cases control with
  | some code =>
    show Response.xml (AckXml.render direction.rootKind _) = .xml (code.toXml document.root)
    rw [hroot]
    rfl
  | none =>
    cases registration with
    | none =>
      show Response.xml (AckXml.render direction.rootKind _) = .xml (document.acceptingAck none)
      rw [Document.acceptingAck, hroot, hid]
      rfl
    | some number =>
      show invoiceXmlResponse ⟨some id, some number, none⟩ direction
        = if number.toList.all isXml10Character then .xml (document.acceptingAck (some number))
          else handlerError
      simp only [invoiceXmlResponse, InvoiceAck.toXml]
      by_cases hxml : number.toList.all isXml10Character = true
      · rw [if_pos hxml, Document.acceptingAck, hroot, hid,
          validateXml10_eq_ok.mpr (List.all_eq_true.mp hxml)]
        rfl
      · obtain ⟨error, herror⟩ := validateXml10_error hxml
        rw [if_neg hxml, herror]
        rfl

/-- An acknowledgement is written as its verdict is. -/
theorem ack_toXml_eq_reply (document : Document) (kind : RootKind) (hroot : document.root = kind)
    (hid : document.id? = none) (ack : Ack) :
    Response.xml (ack.toXml kind) = document.reply ack.verdict := by
  obtain ⟨control⟩ := ack
  subst hroot
  cases control with
  | some code => rfl
  | none =>
    show Response.xml (AckXml.render document.root []) = .xml (document.acceptingAck none)
    rw [Document.acceptingAck, hid]

/-! ### The reply to a delivery -/

/-- Where all handlers acknowledged, the acknowledgements are theirs. -/
theorem acks_eq {document : Document} {calls : List (L × Except BoxError document.Ack)}
    {acks : List document.Ack} (h : calls.map Prod.snd = acks.map Except.ok) :
    calls.filterMap (fun c => c.2.toOption) = acks := by
  have hsnd : calls.filterMap (fun c => c.2.toOption)
      = (calls.map Prod.snd).filterMap Except.toOption := by
    rw [List.filterMap_map]
    rfl
  rw [hsnd, h, List.filterMap_map]
  exact List.filterMap_some

/-- From what the leaves' answers settle to the reply. -/
theorem replied_of_settles (t : HandlerTree L) (document : Document)
    (calls : List (L × Except BoxError document.Ack)) (r : Handled document.Ack)
    (reply : document.Ack → Response)
    (hreply : ∀ ack, reply ack = document.reply (document.verdict ack))
    (h : Settles document.verdict t.complete calls r) :
    Delivery.Replied ⟨t, document, calls⟩ (respond reply r) := by
  match r, h with
  | some (.error _), h =>
    refine Or.inl ⟨?_, rfl⟩
    rintro ⟨hcomplete, hanswers⟩
    rcases h with h | ⟨c, hc, error, herror⟩
    · exact absurd (hcomplete.symm.trans h) (by simp)
    · obtain ⟨ack, hack⟩ := hanswers c hc
      exact absurd (hack.symm.trans herror) (by simp)
  | some (.ok ack), ⟨hcomplete, acks, hcalls, hverdict⟩ =>
    refine Or.inr ⟨⟨hcomplete, fun c hc => ?_⟩, ?_⟩
    · have hmem : c.2 ∈ acks.map Except.ok := hcalls ▸ List.mem_map_of_mem hc
      obtain ⟨ack, -, hack⟩ := List.mem_map.mp hmem
      exact ⟨ack, hack.symm⟩
    · show some (reply ack) = some (document.reply (Delivery.verdict ⟨t, document, calls⟩))
      rw [hreply, hverdict, Delivery.verdict, Delivery.acks, acks_eq hcalls]

/-- A delivery is answered by the verdict of what was said. -/
theorem replied_of_delivers {D : Type} {t : HandlerTree L} {x : D} (document : Document)
    {event : L → D → Except BoxError document.Ack → Exchange (PushRequest.Answer (L := L))}
    (hevent : ∀ l a, event l x a = ⟨.handle l document, a⟩)
    {reply : document.Ack → Response}
    (hreply : ∀ ack, reply ack = document.reply (document.verdict ack))
    {tr : List (Exchange (PushRequest.Answer (L := L)))} {r : Handled document.Ack}
    (h : Delivers event document.verdict t x tr r) :
    ∃ d : Delivery L, d.tree = t ∧ d.document = document ∧ d.RanAll ∧ tr = d.transcript
      ∧ d.Replied (respond reply r) := by
  obtain ⟨calls, ⟨hleaves, rfl⟩, hsettles⟩ := h
  refine ⟨⟨t, document, calls⟩, rfl, rfl, hleaves, ?_,
    replied_of_settles t document calls r reply hreply hsettles⟩
  exact List.map_congr_left fun c _ => hevent c.1 c.2

/-- What is delivered of an outgoing invoice. -/
theorem outgoingInvoice_spec (t : HandlerTree L) (invoice : InvoiceDocument) :
    Prog.Ensures (t.outgoingInvoice invoice) (Delivers (fun l d a => ⟨.handle l (.outgoingInvoice d), a⟩)
      InvoiceAck.verdict t invoice) := by
  refine deliver_spec _ _ (fun l d => ?_) (fun d acks => ?_) t invoice
  · exact Prog.ensures_perform _
  · exact verdict_mergeInvoiceAcks d.info.id acks

/-- Of an incoming one. -/
theorem incomingInvoice_spec (t : HandlerTree L) (invoice : InvoiceDocument) :
    Prog.Ensures (t.incomingInvoice invoice) (Delivers (fun l d a => ⟨.handle l (.incomingInvoice d), a⟩)
      InvoiceAck.verdict t invoice) := by
  refine deliver_spec _ _ (fun l d => ?_) (fun d acks => ?_) t invoice
  · exact Prog.ensures_perform _
  · exact verdict_mergeInvoiceAcks d.info.id acks

/-- Of a bank transaction. -/
theorem bankTransaction_spec (t : HandlerTree L) (transaction : BankTransaction) :
    Prog.Ensures (t.bankTransaction transaction) (Delivers (fun l d a => ⟨.handle l (.bankTransaction d), a⟩)
      Ack.verdict t transaction) := by
  refine deliver_spec _ _ (fun l d => ?_) (fun d acks => ?_) t transaction
  · exact Prog.ensures_perform _
  · exact verdict_mergeAcks acks

/-- Of receipts. -/
theorem receipts_spec (t : HandlerTree L) (batch : ReceiptBatch) :
    Prog.Ensures (t.receipts batch) (Delivers (fun l d a => ⟨.handle l (.receipts d), a⟩)
      Ack.verdict t batch) := by
  refine deliver_spec _ _ (fun l d => ?_) (fun d acks => ?_) t batch
  · exact Prog.ensures_perform _
  · exact verdict_mergeAcks acks

/-- **Every delivery runs all its leaves and is answered by their verdict.** -/
theorem deliverDocument_spec (t : HandlerTree L) (document : Document) :
    Prog.Ensures (deliverDocument t document) (fun tr reply => ∃ d : Delivery L,
      d.tree = t ∧ d.document = document ∧ d.RanAll ∧ tr = d.transcript ∧ d.Replied reply) := by
  cases document with
  | outgoingInvoice invoice =>
    refine (outgoingInvoice_spec t invoice).bind (fun tr r h => Prog.ensures_ret.mpr ?_)
    rw [List.append_nil]
    exact replied_of_delivers (.outgoingInvoice invoice) (fun _ _ => rfl)
      (invoiceXmlResponse_forDocument _ .outgoing _ rfl rfl) h
  | incomingInvoice invoice =>
    refine (incomingInvoice_spec t invoice).bind (fun tr r h => Prog.ensures_ret.mpr ?_)
    rw [List.append_nil]
    exact replied_of_delivers (.incomingInvoice invoice) (fun _ _ => rfl)
      (invoiceXmlResponse_forDocument _ .incoming _ rfl rfl) h
  | bankTransaction transaction =>
    refine (bankTransaction_spec t transaction).bind (fun tr r h => Prog.ensures_ret.mpr ?_)
    rw [List.append_nil]
    exact replied_of_delivers (.bankTransaction transaction) (fun _ _ => rfl)
      (ack_toXml_eq_reply _ _ rfl rfl) h
  | receipts batch =>
    refine (receipts_spec t batch).bind (fun tr r h => Prog.ensures_ret.mpr ?_)
    rw [List.append_nil]
    exact replied_of_delivers (.receipts batch) (fun _ _ => rfl) (ack_toXml_eq_reply _ _ rfl rfl) h

/-! ### Reading a reply -/

/-- A control code is read back. -/
theorem hibakod_control (code : ControlCode) (kind : RootKind) :
    (Response.xml (code.toXml kind)).hibakod = [code.asWire] := by
  simp [Response.hibakod, ControlCode.toXml, AckXml.render, Xml.textsAt, Xml.nodesAt,
    Xml.Step.select, Xml.named]

/-- An acceptance has none. -/
theorem hibakod_accepting (document : Document) (registration : Option String) :
    (Response.xml (document.acceptingAck registration)).hibakod = [] := by
  cases hid : document.id? <;>
    simp [Response.hibakod, Document.acceptingAck, AckXml.render, Xml.textsAt, Xml.nodesAt,
      Xml.Step.select, Xml.named, hid]

/-- The codes are told apart. -/
theorem ControlCode.asWire_injective : Function.Injective ControlCode.asWire := by
  intro a b h
  cases a <;> cases b <;> simp_all [ControlCode.asWire]

/-- A reply with a code has that code only. -/
theorem isControl_control_iff (code code' : ControlCode) (kind : RootKind) :
    (Response.xml (code.toXml kind)).IsControl code' ↔ code = code' := by
  rw [Response.IsControl, hibakod_control, List.cons.injEq, ControlCode.asWire_injective.eq_iff]
  simp [Response.status]

/-- And accepts nothing. -/
theorem not_isAccepting_control (code : ControlCode) (kind : RootKind) :
    ¬ (Response.xml (code.toXml kind)).IsAccepting := by
  rw [Response.IsAccepting, hibakod_control]
  simp

/-- An acceptance accepts. -/
theorem isAccepting_accepting (document : Document) (registration : Option String) :
    (Response.xml (document.acceptingAck registration)).IsAccepting :=
  ⟨rfl, hibakod_accepting document registration⟩

/-- And has no code. -/
theorem not_isControl_accepting (document : Document) (registration : Option String)
    (code : ControlCode) :
    ¬ (Response.xml (document.acceptingAck registration)).IsControl code := by
  rw [Response.IsControl, hibakod_accepting]
  simp

/-! ### Reading a delivery -/

/-- An acknowledgement is that of a call. -/
theorem Delivery.mem_acks {d : Delivery L} {ack : d.document.Ack} :
    ack ∈ d.acks ↔ ∃ c ∈ d.calls, c.2 = .ok ack := by
  rw [Delivery.acks, List.mem_filterMap]
  refine exists_congr fun c => and_congr_right fun _ => ?_
  cases c.2 <;> simp [Except.toOption]

/-- The code of a verdict is that of the acknowledgement. -/
theorem Document.code_verdict (document : Document) (ack : document.Ack) :
    (document.verdict ack).code = document.control ack :=
  Verdict.code_ofParts _ _

/-- A code was said if a verdict has it. -/
theorem Delivery.said_iff {d : Delivery L} {code : ControlCode} :
    d.Said code ↔ ∃ v ∈ d.acks.map d.document.verdict, v.code = some code := by
  constructor
  · rintro ⟨c, hc, ack, hack, hcontrol⟩
    exact ⟨_, List.mem_map_of_mem (d.mem_acks.mpr ⟨c, hc, hack⟩),
      (Document.code_verdict _ _).trans hcontrol⟩
  · rintro ⟨v, hv, hcode⟩
    obtain ⟨ack, hack, rfl⟩ := List.mem_map.mp hv
    obtain ⟨c, hc, hanswer⟩ := d.mem_acks.mp hack
    exact ⟨c, hc, ack, hanswer, (Document.code_verdict _ _).symm.trans hcode⟩

/-- The whole disconnects if one of them did. -/
theorem Delivery.code_verdict_disconnect {d : Delivery L} :
    d.verdict.code = some .disconnect ↔ d.Said .disconnect := by
  rw [Delivery.verdict, Verdict.code_prod_eq_disconnect, Delivery.said_iff]

/-- The key is not known if one said so and none disconnected. -/
theorem Delivery.code_verdict_keyUnknown {d : Delivery L} :
    d.verdict.code = some .keyUnknown ↔ d.Said .keyUnknown ∧ ¬ d.Said .disconnect := by
  rw [Delivery.verdict, Verdict.code_prod_eq_keyUnknown, Delivery.said_iff, Delivery.said_iff]
  simp only [not_exists, not_and, ne_eq]

/-- There is no code if none had one. -/
theorem Delivery.code_verdict_none {d : Delivery L} :
    d.verdict.code = none ↔ ∀ ack ∈ d.acks, d.document.control ack = none := by
  rw [Delivery.verdict, Verdict.code_prod_eq_none, List.forall_mem_map]
  refine forall₂_congr fun ack _ => ?_
  rw [Document.code_verdict]

/-- Where no leaf objects, the verdict carries the first registration number. -/
theorem Delivery.registration_verdict {d : Delivery L} (h : d.verdict.code = none) :
    d.verdict.registration = d.firstRegistration := by
  have hcontrol := Delivery.code_verdict_none.mp h
  rw [Delivery.verdict, Verdict.registration_prod h, List.filterMap_map, Delivery.firstRegistration]
  congr 1
  have hregistration : d.acks.filterMap (Verdict.registration ∘ d.document.verdict)
      = d.acks.filterMap d.document.registrationNumber := by
    refine List.filterMap_congr fun ack hack => ?_
    rw [Function.comp_apply, Document.verdict, hcontrol ack hack]
    rfl
  rw [hregistration, Delivery.acks, List.filterMap_filterMap]
  refine List.filterMap_congr fun c _ => ?_
  cases c.2 <;> rfl

/-- Every leaf ran and accepted, and what it registered can be written down. -/
def Delivery.Accepted (d : Delivery L) : Prop :=
  d.tree.complete = true
    ∧ (∀ c ∈ d.calls, ∃ ack, c.2 = .ok ack ∧ d.document.control ack = none)
    ∧ ∀ number ∈ d.firstRegistration, ∀ c ∈ number.toList, isXml10Character c = true

/-- **A delivery is accepted** when all answered, none with a code, and the number can be
written. -/
theorem Delivery.accepted_iff {d : Delivery L} :
    d.Accepted ↔ d.AllAnswered ∧ d.verdict.code = none
      ∧ d.firstRegistration.all (fun number => number.toList.all isXml10Character) = true := by
  rw [Delivery.Accepted, Delivery.AllAnswered, Delivery.code_verdict_none]
  have hxml : (d.firstRegistration.all (fun number => number.toList.all isXml10Character) = true)
      ↔ ∀ number ∈ d.firstRegistration, ∀ c ∈ number.toList, isXml10Character c = true := by
    cases d.firstRegistration <;> simp
  rw [hxml]
  constructor
  · rintro ⟨hcomplete, hanswers, hregistration⟩
    refine ⟨⟨hcomplete, fun c hc => (hanswers c hc).imp fun _ h => h.1⟩, fun ack hack => ?_,
      hregistration⟩
    obtain ⟨c, hc, hanswer⟩ := d.mem_acks.mp hack
    obtain ⟨ack', hanswer', hcontrol⟩ := hanswers c hc
    obtain rfl := Except.ok.inj (hanswer.symm.trans hanswer')
    exact hcontrol
  · rintro ⟨⟨hcomplete, hanswers⟩, hcontrol, hregistration⟩
    refine ⟨hcomplete, fun c hc => ?_, hregistration⟩
    obtain ⟨ack, hack⟩ := hanswers c hc
    exact ⟨ack, hack, hcontrol ack (d.mem_acks.mpr ⟨c, hc, hack⟩)⟩

/-- What a reply must say of the delivery it answers. -/
structure Delivery.Reflects (d : Delivery L) (r : Response) : Prop where
  accepting : r.IsAccepting ↔ d.Accepted
  echo : r.IsAccepting → r = .xml (d.document.acceptingAck d.firstRegistration)
  control : ∀ code, r.IsControl code ↔ d.AllAnswered ∧ d.verdict.code = some code
  shape : ∀ code, r.IsControl code → r = .xml (code.toXml d.document.root)
  final : r.status = 200 → r.IsAccepting ∨ ∃ code, r.IsControl code

/-- **A reply reflects its delivery.** -/
theorem Delivery.Replied.reflects {d : Delivery L} {reply : Option Response} (h : d.Replied reply) :
    ∃ r, reply = some r ∧ d.Reflects r := by
  have herror : ¬ handlerError.IsAccepting ∧ ∀ code, ¬ handlerError.IsControl code :=
    ⟨fun h => absurd h.1 (by decide), fun code h => absurd h.1 (by decide)⟩
  rcases h with ⟨hfailed, rfl⟩ | ⟨hanswered, rfl⟩
  · refine ⟨handlerError, rfl, ⟨fun h => absurd h herror.1, fun h => ?_⟩,
      fun h => absurd h herror.1, fun code => ⟨fun h => absurd h (herror.2 code), fun h => ?_⟩,
      fun code h => absurd h (herror.2 code), fun h => absurd h (by decide)⟩
    · exact absurd (Delivery.accepted_iff.mp h).1 hfailed
    · exact absurd h.1 hfailed
  refine ⟨d.document.reply d.verdict, rfl, ?_⟩
  cases hv : d.verdict with
  | control code =>
    have hcode : d.verdict.code = some code := by rw [hv]; rfl
    refine ⟨⟨fun h => absurd h (not_isAccepting_control _ _), fun h => ?_⟩,
      fun h => absurd h (not_isAccepting_control _ _), fun code' => ?_, fun code' h => ?_,
      fun _ => Or.inr ⟨code, (isControl_control_iff _ _ _).mpr rfl⟩⟩
    · exact absurd ((Delivery.accepted_iff.mp h).2.1.symm.trans hcode) (by simp)
    · rw [Document.reply, isControl_control_iff, hcode, Option.some.injEq]
      exact ⟨fun h => ⟨hanswered, h⟩, fun h => h.2⟩
    · rw [Document.reply, (isControl_control_iff _ _ _).mp h]
  | accepted registration =>
    have hcode : d.verdict.code = none := by rw [hv]; rfl
    obtain rfl : registration = d.firstRegistration := by
      rw [← Delivery.registration_verdict hcode, hv]
      rfl
    rw [Document.reply]
    by_cases hxml :
        d.firstRegistration.all (fun number => number.toList.all isXml10Character) = true
    · rw [if_pos hxml]
      refine ⟨⟨fun _ => Delivery.accepted_iff.mpr ⟨hanswered, hcode, hxml⟩,
          fun _ => isAccepting_accepting _ _⟩, fun _ => rfl,
        fun code => ⟨fun h => absurd h (not_isControl_accepting _ _ _), fun h => ?_⟩,
        fun code h => absurd h (not_isControl_accepting _ _ _),
        fun _ => Or.inl (isAccepting_accepting _ _)⟩
      exact absurd (hcode.symm.trans h.2) (by simp)
    · rw [if_neg hxml]
      refine ⟨⟨fun h => absurd h herror.1, fun h => ?_⟩, fun h => absurd h herror.1,
        fun code => ⟨fun h => absurd h (herror.2 code), fun h => ?_⟩,
        fun code h => absurd h (herror.2 code), fun h => absurd h (by decide)⟩
      · exact absurd (Delivery.accepted_iff.mp h).2.2 hxml
      · exact absurd (hcode.symm.trans h.2) (by simp)

end Replies

section Claim

variable [PushReader] {L : Type}

/-- The request was received up to the resolver: key readable, body buffered and
identified. -/
def Identified (limit : BodyLimit) (request : Request) (key : String) (body : ByteArray)
    (root : RootKind) : Prop :=
  presentedKey request = some key ∧ bytesFromRequest limit request = .ok body
    ∧ Document.identify body = .ok root

/-- The resolver completed and knows no such key. -/
def UnknownKey (limit : BodyLimit) (request : Request)
    (tr : List (Exchange (PushRequest.Answer (L := L)))) : Prop :=
  ∃ key body root, Identified limit request key body root ∧ tr = [⟨.resolve key, .ok none⟩]

/-- The document was delivered to the handler the resolver returned. -/
def DeliveredTo (limit : BodyLimit) (request : Request)
    (tr : List (Exchange (PushRequest.Answer (L := L)))) (d : Delivery L) : Prop :=
  ∃ key body root, Identified limit request key body root
    ∧ Document.parseIdentified body root = .ok d.document ∧ d.RanAll
    ∧ tr = ⟨.resolve key, .ok (some d.tree)⟩ :: d.transcript

/-! ### The delivery of a transcript -/

omit [PushReader] in
/-- The first exchange of a transcript tells what the resolver answered. -/
theorem resolver_answer_inj {key key' : String} {a a' : Except String (Option (HandlerTree L))}
    {tr tr' : List (Exchange (PushRequest.Answer (L := L)))}
    (h : (⟨.resolve key, a⟩ : Exchange (PushRequest.Answer (L := L))) :: tr
      = ⟨.resolve key', a'⟩ :: tr') : a = a' := by
  obtain ⟨hkey, hanswer⟩ := Sigma.mk.inj (List.cons.inj h).1
  obtain rfl := PushRequest.resolve.inj hkey
  exact eq_of_heq hanswer

/-- A transcript determines the delivery it records. -/
theorem DeliveredTo.unique {limit : BodyLimit} {request : Request}
    {tr : List (Exchange (PushRequest.Answer (L := L)))} {d d' : Delivery L}
    (h : DeliveredTo limit request tr d) (h' : DeliveredTo limit request tr d') : d = d' := by
  obtain ⟨key, body, root, ⟨hkey, hbody, hroot⟩, hparse, -, htr⟩ := h
  obtain ⟨key', body', root', ⟨hkey', hbody', hroot'⟩, hparse', -, htr'⟩ := h'
  obtain rfl : key = key' := Option.some.inj (hkey.symm.trans hkey')
  obtain rfl : body = body' := Except.ok.inj (hbody.symm.trans hbody')
  obtain rfl : root = root' := Except.ok.inj (hroot.symm.trans hroot')
  obtain ⟨t, document, calls⟩ := d
  obtain ⟨t', document', calls'⟩ := d'
  obtain rfl : document = document' := Except.ok.inj (hparse.symm.trans hparse')
  rw [htr] at htr'
  have htree : t = t' := Option.some.inj (Except.ok.inj (resolver_answer_inj htr'))
  have hcalls : calls = calls' := by
    refine List.map_injective_iff.mpr ?_ (List.cons.inj htr').2
    rintro ⟨l, a⟩ ⟨l', a'⟩ heq
    obtain ⟨hrequest, hanswer⟩ := Sigma.mk.inj heq
    obtain ⟨hhandler, -⟩ := PushRequest.handle.inj hrequest
    exact Prod.ext hhandler (eq_of_heq hanswer)
  rw [htree, hcalls]

/-- What was delivered had a known key. -/
theorem DeliveredTo.not_unknownKey {limit : BodyLimit} {request : Request}
    {tr : List (Exchange (PushRequest.Answer (L := L)))} {d : Delivery L}
    (h : DeliveredTo limit request tr d) : ¬ UnknownKey limit request tr := by
  obtain ⟨key, body, root, -, -, -, rfl⟩ := h
  rintro ⟨key', body', root', -, htr⟩
  exact absurd (resolver_answer_inj htr) (by simp)

/-- A document is of the kind its root was identified as. -/
theorem root_of_parseIdentified {body : ByteArray} {root : RootKind} {document : Document}
    (h : Document.parseIdentified body root = .ok document) : document.root = root := by
  unfold Document.parseIdentified at h
  cases hutf8 : fromUtf8 body with
  | error error => rw [hutf8] at h; cases h
  | ok rawXml =>
    rw [hutf8] at h
    cases hvalidate : PushReader.validate rawXml root with
    | error error => simp [hvalidate, bind, Except.bind] at h
    | ok text =>
      cases root <;> simp only [hvalidate, bind, Except.bind] at h <;> split at h <;>
        cases h <;> rfl

/-- The exits before delivery: nothing was delivered, no key was refused, and the
status is not a final one. -/
def ExitsEarly (limit : BodyLimit) (request : Request)
    (tr : List (Exchange (PushRequest.Answer (L := L)))) (reply : Option Response) : Prop :=
  (∀ d, ¬ DeliveredTo limit request tr d) ∧ ¬ UnknownKey limit request tr
    ∧ ∃ status text, reply = some (.text status text) ∧ status ≠ 200

/-- A request that is never identified reaches neither the resolver nor a handler. -/
theorem exitsEarly_of_unidentified {limit : BodyLimit} {request : Request}
    {tr : List (Exchange (PushRequest.Answer (L := L)))} {status : Nat} {text : String}
    (h : ∀ key body root, ¬ Identified limit request key body root) (hstatus : status ≠ 200) :
    ExitsEarly limit request tr (some (.text status text)) := by
  refine ⟨?_, ?_, status, text, rfl, hstatus⟩
  · rintro d ⟨key, body, root, hidentified, -⟩
    exact h key body root hidentified
  · rintro ⟨key, body, root, hidentified, -⟩
    exact h key body root hidentified

/-- **The ways a push can go.** -/
theorem receiveInner_cases (limit : BodyLimit) (request : Request) :
    Prog.Ensures (receiveInner (L := L) limit request) (fun tr reply =>
      ExitsEarly limit request tr reply
        ∨ (∃ key body root, Identified limit request key body root
          ∧ tr = [⟨.resolve key, .ok none⟩] ∧ reply = some (.xml (ControlCode.keyUnknown.toXml root)))
        ∨ ∃ d, DeliveredTo limit request tr d ∧ d.Replied reply) := by
  rw [receiveInner]
  cases hkey : presentedKey request with
  | none =>
    refine Prog.ensures_ret.mpr (Or.inl (exitsEarly_of_unidentified ?_ (by decide)))
    rintro key body root ⟨h, -⟩
    exact absurd (hkey.symm.trans h) (by simp)
  | some key =>
  dsimp only
  cases hbody : bytesFromRequest limit request with
  | error rejection =>
    have hunidentified : ∀ key body root, ¬ Identified limit request key body root := by
      rintro key body root ⟨-, h, -⟩
      exact absurd (hbody.symm.trans h) (by simp)
    refine Prog.ensures_ret.mpr (Or.inl ?_)
    cases rejection with
    | lengthLimit => exact exitsEarly_of_unidentified hunidentified (by decide)
    | unknownBody error => exact exitsEarly_of_unidentified hunidentified (by decide)
  | ok body =>
  dsimp only
  cases hroot : Document.identify body with
  | error error =>
    refine Prog.ensures_ret.mpr (Or.inl (exitsEarly_of_unidentified ?_ (by decide)))
    rintro key body' root ⟨-, h, h'⟩
    obtain rfl : body = body' := Except.ok.inj (hbody.symm.trans h)
    exact absurd (hroot.symm.trans h') (by simp)
  | ok root =>
  have hidentified : Identified limit request key body root := ⟨hkey, hbody, hroot⟩
  refine Prog.Ensures.bind (Prog.ensures_perform _) ?_
  rintro tr answer rfl
  -- what the resolver answered decides whether the push is settled here
  match answer with
  | .error error =>
    refine Prog.ensures_ret.mpr (Or.inl ⟨?_, ?_, 503, "key resolver unavailable", rfl, by decide⟩)
    · rintro d ⟨key', body', root', -, -, -, htr⟩
      exact absurd (resolver_answer_inj htr) (by simp)
    · rintro ⟨key', body', root', -, htr⟩
      exact absurd (resolver_answer_inj htr) (by simp)
  | .ok none => exact Prog.ensures_ret.mpr (Or.inr (Or.inl ⟨key, body, root, hidentified, rfl, rfl⟩))
  | .ok (some t) =>
    dsimp only
    cases hparse : Document.parseIdentified body root with
    | error error =>
      refine Prog.ensures_ret.mpr (Or.inl ⟨?_, ?_, 400, error.display, rfl, by decide⟩)
      · rintro d ⟨key', body', root', ⟨-, hbody', hroot'⟩, hparse', -⟩
        obtain rfl : body = body' := Except.ok.inj (hbody.symm.trans hbody')
        obtain rfl : root = root' := Except.ok.inj (hroot.symm.trans hroot')
        exact absurd (hparse.symm.trans hparse') (by simp)
      · rintro ⟨key', body', root', -, htr⟩
        exact absurd (resolver_answer_inj htr) (by simp)
    | ok document =>
      refine (deliverDocument_spec t document).mono ?_
      rintro tr reply ⟨d, rfl, rfl, hran, rfl, hreplied⟩
      exact Or.inr (Or.inr ⟨d, ⟨key, body, root, hidentified, hparse, hran, rfl⟩, hreplied⟩)

/-- **A push is acknowledged only when it was handled.** Of any request, whatever
the resolver and the leaves answer:

* the reply is a `200` that accepts exactly when the document reached a handler
  tree without an empty fan-out, every leaf ran once, depth first, on that document,
  and accepted, and the first registration number can be written as XML; the
  acknowledgement then echoes the pushed id and that number;
* the reply is a `200` with a control code exactly when the resolver knew no such
  key, or no leaf failed and one answered with a control code, `KEY_DEL` before
  `KEY_ERR`; it takes the shape of the pushed kind;
* no other reply is a `200`. -/
theorem push_acknowledged_iff_handled (limit : BodyLimit) (request : Request) :
    Prog.Ensures (receiveInner (L := L) limit request) (fun tr reply => ∃ r, reply = some r
      ∧ (r.IsAccepting ↔ ∃ d, DeliveredTo limit request tr d ∧ d.Accepted)
      ∧ (∀ d, DeliveredTo limit request tr d → r.IsAccepting →
          r = .xml (d.document.acceptingAck d.firstRegistration))
      ∧ (r.IsControl .disconnect ↔ ∃ d, DeliveredTo limit request tr d ∧ d.AllAnswered
          ∧ d.Said .disconnect)
      ∧ (r.IsControl .keyUnknown ↔ UnknownKey limit request tr
          ∨ ∃ d, DeliveredTo limit request tr d ∧ d.AllAnswered ∧ d.Said .keyUnknown
            ∧ ¬ d.Said .disconnect)
      ∧ (∀ code, r.IsControl code → ∃ key body root, Identified limit request key body root
          ∧ r = .xml (code.toXml root))
      ∧ (r.status = 200 → r.IsAccepting ∨ ∃ code, r.IsControl code)) := by
  refine (receiveInner_cases limit request).mono ?_
  rintro tr reply (⟨hundelivered, hknown, status, text, rfl, hstatus⟩ |
    ⟨key, body, root, hidentified, rfl, rfl⟩ | ⟨d, hd, hreplied⟩)
  · have haccept : ¬ (Response.text status text).IsAccepting := fun h => hstatus h.1
    have hcontrol : ∀ code, ¬ (Response.text status text).IsControl code :=
      fun code h => hstatus h.1
    -- nothing was delivered, and a text is neither kind of reply
    refine ⟨_, rfl, ⟨fun h => absurd h haccept, fun ⟨d, hd, _⟩ => absurd hd (hundelivered d)⟩,
      fun d _ h => absurd h haccept,
      ⟨fun h => absurd h (hcontrol _), fun ⟨d, hd, _⟩ => absurd hd (hundelivered d)⟩,
      ⟨fun h => absurd h (hcontrol _), ?_⟩, fun code h => absurd h (hcontrol code),
      fun h => absurd h hstatus⟩
    rintro (h | ⟨d, hd, -⟩)
    · exact absurd h hknown
    · exact absurd hd (hundelivered d)
  · have hunknown : UnknownKey (L := L) limit request [⟨.resolve key, .ok none⟩] :=
      ⟨key, body, root, hidentified, rfl⟩
    have hundelivered : ∀ d : Delivery L, ¬ DeliveredTo limit request _ d :=
      fun d hd => hd.not_unknownKey hunknown
    refine ⟨_, rfl, ⟨fun h => absurd h (not_isAccepting_control _ _), fun ⟨d, hd, _⟩ =>
        absurd hd (hundelivered d)⟩, fun d hd => absurd hd (hundelivered d),
      ⟨fun h => ?_, fun ⟨d, hd, _⟩ => absurd hd (hundelivered d)⟩,
      ⟨fun _ => Or.inl hunknown, fun _ => (isControl_control_iff _ _ _).mpr rfl⟩,
      fun code h => ?_, fun _ => Or.inr ⟨_, (isControl_control_iff _ _ _).mpr rfl⟩⟩
    · exact absurd ((isControl_control_iff _ _ _).mp h) (by decide)
    · exact ⟨key, body, root, hidentified, by rw [(isControl_control_iff _ _ _).mp h]⟩
  · -- a transcript is that of one delivery, so what is said of one is said of all
    obtain ⟨r, rfl, hreflects⟩ := hreplied.reflects
    have hthe : ∀ d', DeliveredTo limit request tr d' → d' = d := fun d' hd' => hd'.unique hd
    refine ⟨r, rfl, ⟨fun h => ⟨d, hd, hreflects.accepting.mp h⟩, ?_⟩, ?_, ⟨fun h => ?_, ?_⟩,
      ⟨fun h => ?_, ?_⟩, fun code h => ?_, hreflects.final⟩
    · rintro ⟨d', hd', haccepted⟩
      rw [hthe d' hd'] at haccepted
      exact hreflects.accepting.mpr haccepted
    · intro d' hd' h
      rw [hthe d' hd']
      exact hreflects.echo h
    · obtain ⟨hanswered, hcode⟩ := (hreflects.control _).mp h
      exact ⟨d, hd, hanswered, Delivery.code_verdict_disconnect.mp hcode⟩
    · rintro ⟨d', hd', hanswered, hsaid⟩
      rw [hthe d' hd'] at hanswered hsaid
      exact (hreflects.control _).mpr ⟨hanswered, Delivery.code_verdict_disconnect.mpr hsaid⟩
    · obtain ⟨hanswered, hcode⟩ := (hreflects.control _).mp h
      exact Or.inr ⟨d, hd, hanswered, Delivery.code_verdict_keyUnknown.mp hcode⟩
    · rintro (h | ⟨d', hd', hanswered, hsaid⟩)
      · exact absurd h hd.not_unknownKey
      · rw [hthe d' hd'] at hanswered hsaid
        exact (hreflects.control _).mpr ⟨hanswered, Delivery.code_verdict_keyUnknown.mpr hsaid⟩
    · obtain ⟨key, body, root, hidentified, hparse, -, -⟩ := hd
      refine ⟨key, body, root, hidentified, ?_⟩
      rw [hreflects.shape code h, root_of_parseIdentified hparse]

end Claim

end Szamlazz.Adatkapcsolat
