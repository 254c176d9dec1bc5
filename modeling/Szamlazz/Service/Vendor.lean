import Szamlazz.Service.OrderObject

/-!
# szamlazz.hu, behind an order

What the handlers of an order are safe against is a service, of which no program can be
read. It is a parameter: a `Provider` answers requests and moves by itself, and what is
assumed of it are the laws of `Provider.Lawful`, each a behaviour that the repository
records or an assumption that it names.

The laws speak of what the provider holds for the order. These are the documents under
each of its external ids, the newest first, and the requests that were sent and may still
take effect. A reply that does not settle a request may leave it in flight, where it lands
or comes to nothing at any later moment, after the caller has given up on it. Meanwhile
documents are reversed by anybody, and a proforma is gone once it is converted.
-/

namespace Szamlazz

open Durable

/-! ## The documents of an order -/

/-- A document under one of the external ids of an order. -/
structure VendorDocument where
  number : String
  live : Bool

/-- What a request still in flight may do. -/
inductive Change where
  | create (kind : DocumentKind)
  | delete (number : String)

/-- A request that was sent and may still take effect. -/
structure Flight where
  owner : InvocationId
  change : Change

/-- **What szamlazz.hu holds for an order.** -/
structure Vendor where
  /-- The documents of a kind, the newest first. -/
  slot : DocumentKind → List VendorDocument
  flights : List Flight

/-- The kinds of which only one may be billed: an invoice, or a prepayment and its final
invoice. -/
def DocumentKind.excludes : DocumentKind → DocumentKind → Bool
  | .invoice, .prepayment | .invoice, .final | .prepayment, .invoice | .final, .invoice => true
  | _, _ => false

/-- **What becomes of the documents of a kind** while none is added: each keeps its number
and its place, and may be reversed; and a live proforma may be gone, converted by an invoice
that names it or shares its order number. -/
inductive Fading (kind : DocumentKind) : List VendorDocument → List VendorDocument → Prop where
  | nil : Fading kind [] []
  | kept {d l l'} (rest : Fading kind l l') : Fading kind (d :: l) (d :: l')
  | reversed {number live l l'} (rest : Fading kind l l') :
      Fading kind (⟨number, live⟩ :: l) (⟨number, false⟩ :: l')
  | converted {number l l'} (proforma : kind = .proforma) (rest : Fading kind l l') :
      Fading kind (⟨number, true⟩ :: l) l'

namespace Vendor

/-- What a query of the kind's external id finds. -/
def newest (w : Vendor) (kind : DocumentKind) : Option VendorDocument := (w.slot kind).head?

/-- A document of the kind is not reversed. -/
def LiveIn (w : Vendor) (kind : DocumentKind) : Prop := ∃ d ∈ w.slot kind, d.live = true

/-- Documents are reversed or converted, and that is all. -/
def Fades (w w' : Vendor) : Prop :=
  w'.flights = w.flights ∧ ∀ kind, Fading kind (w.slot kind) (w'.slot kind)

/-- A document comes to be. -/
def land (w : Vendor) (kind : DocumentKind) (number : String) : Vendor :=
  { w with slot := Function.update w.slot kind (⟨number, true⟩ :: w.slot kind) }

/-- A create takes effect, and converts what it converts. -/
def Lands (w : Vendor) (kind : DocumentKind) (number : String) (w' : Vendor) : Prop :=
  ∃ faded, w.Fades faded ∧ w' = faded.land kind number

/-- The proforma with the number is gone. -/
def remove (w : Vendor) (number : String) : Vendor where
  slot := Function.update w.slot .proforma ((w.slot .proforma).filter fun d => d.number ≠ number)
  flights := w.flights

/-- One request more may take effect. -/
def send (w : Vendor) (flight : Flight) : Vendor := { w with flights := flight :: w.flights }

/-- **What happens at the vendor by itself**: a request lands late, or comes to nothing,
refused or taken for a repeated one; documents are reversed and converted. -/
inductive Drift : Vendor → Vendor → Prop where
  | landed {slot before after owner kind w'} (number : String)
      (lands : Lands ⟨slot, before ++ after⟩ kind number w') :
      Drift ⟨slot, before ++ ⟨owner, .create kind⟩ :: after⟩ w'
  | deleted {slot before after owner number} :
      Drift ⟨slot, before ++ ⟨owner, .delete number⟩ :: after⟩
        (remove ⟨slot, before ++ after⟩ number)
  | dropped {slot before flight after} :
      Drift ⟨slot, before ++ flight :: after⟩ ⟨slot, before ++ after⟩
  | faded {w w'} (h : w.Fades w') : Drift w w'

/-- A request whose reply settles nothing: it may come, has come already, or never will. -/
def MayCome (w : Vendor) (flight : Flight) (w' : Vendor) : Prop :=
  w' = w.send flight ∨ (w.send flight).Drift w'

end Vendor

/-! ## The answers -/

section Answers

/-- The answer to a query of an external id is what its newest holder is; errors other than
that there is none say nothing. -/
def Truthful (newest : Option VendorDocument) : Except ClientError InvoiceDocument → Prop
  | .ok document => ∃ d, newest = some d ∧ d.number = document.info.invoiceNumber
      ∧ d.live = (FoundDocument.ofInvoiceDocument document).isLive
  | .error (.api api) => api.code = .missingData → newest = none
  | .error _ => True

/-- The errors that say that a create was refused: it was not sent, or szamlazz.hu
reported one of the codes documented as refusals. -/
def ClientError.refusesCreate : ClientError → Bool
  | .request _ => true
  | .api error => error.code.isCredentialError || error.code.outcomeClass ≠ .unknown
  | _ => false

/-- The errors that say that a deletion was refused, or had nothing to delete. -/
def ClientError.refusesDelete : ClientError → Bool
  | .request _ => true
  | .api error => error.code = .proformaNotFound || error.code.isCredentialError
      || error.code = .xmlNotAFile || error.code = .malformedXml
  | _ => false

/-- What a create under the external id of a kind does. A success is a new document, or the
number of one that an identical create made, to which nothing is attached; where that is
the one already there, it does not even show that the request is over. -/
def Created (id : InvocationId) (kind : DocumentKind) (w : Vendor) :
    Except ClientError CreationOutcome → Vendor → Prop
  | .ok (.issued created), w' => w.Lands kind created.invoiceNumber w' ∨ w' = w
      ∨ (∃ d, w.newest kind = some d ∧ d.number = created.invoiceNumber)
        ∧ w.MayCome ⟨id, .create kind⟩ w'
  | .ok .preview, w' => w.MayCome ⟨id, .create kind⟩ w'
  | .error error, w' =>
    if error.refusesCreate then w' = w else w.MayCome ⟨id, .create kind⟩ w'

/-- What a deletion does. -/
def Deleted (id : InvocationId) (number : String) (w : Vendor) :
    Except ClientError Unit → Vendor → Prop
  | .ok (), w' => w' = w.remove number
  | .error error, w' =>
    if error.refusesDelete then w' = w else w.MayCome ⟨id, .delete number⟩ w'

end Answers

/-! ## The provider -/

section Provider

variable [Unicode] [Transport] [Clock] {W : Type}

/-- **szamlazz.hu**, a service: how it answers, how it moves by itself, and what it holds
for the order. -/
structure Provider (W : Type) where
  answers : InvocationId → W → (request : AgentRequest) → request.Answer → W → Prop
  drift : W → W → Prop
  holds : W → Vendor

/-- **What is assumed of szamlazz.hu** for the documents of one order, whose external ids
nobody uses but the order. -/
structure Provider.Lawful (P : Provider W) (ns : Namespace) (order : OrderKey) : Prop where
  /-- A query changes nothing. -/
  reads {id w request x w'} (h : P.answers id w request x w') (hr : request.isMutation = false) :
    w' = w
  /-- **No regression**: a query of an external id answers its newest holder, or leaves the
  question open. -/
  newestHolder {id w w'} {kind : DocumentKind} {answer : Except ClientError InvoiceDocument}
    (h : P.answers id w (.query (.externalId (ExternalId.forKind ns order kind).text)) answer w') :
    Truthful ((P.holds w).newest kind) answer
  /-- A create attaches its external id to the document it makes, and to no other. -/
  creates {id w w'} {create : CreateInvoice} {kind : DocumentKind}
    {reply : Except ClientError CreationOutcome} (h : P.answers id w (.create create) reply w')
    (hid : create.externalId = some (ExternalId.forKind ns order kind).text) :
    Created id kind (P.holds w) reply (P.holds w')
  /-- A create under another external id, a correction's, makes none of these documents. -/
  elsewhere {id w w'} {create : CreateInvoice} {reply : Except ClientError CreationOutcome}
    (h : P.answers id w (.create create) reply w')
    (hid : ∀ kind, create.externalId ≠ some (ExternalId.forKind ns order kind).text) :
    (P.holds w).Fades (P.holds w')
  /-- A storno reverses; its own document carries its own external id. -/
  stornos {id w storno w'} {reply : AgentRequest.Answer (.storno storno)}
    (h : P.answers id w (.storno storno) reply w') : (P.holds w).Fades (P.holds w')
  /-- A deletion takes the proforma away. -/
  deletes {id w w'} {number : String} {reply : Except ClientError Unit}
    (h : P.answers id w (.deleteProforma number) reply w') :
    Deleted id number (P.holds w) reply (P.holds w')
  /-- Nothing happens by itself but this. -/
  drifts {w w'} (h : P.drift w w') : (P.holds w).Drift (P.holds w')

/-- **Nothing is billed twice**: of the documents of a kind only the newest may be live, and
no invoice stands beside a prepayment or a final invoice. -/
structure Vendor.Sound (w : Vendor) : Prop where
  single : ∀ kind, (w.slot kind).Pairwise fun _ older => older.live = false
  apart : ∀ kind other, kind.excludes other = true → w.LiveIn kind → ¬ w.LiveIn other

/-- How the world answers: szamlazz.hu does, and the rest is not its affair. -/
def Provider.answersTo (P : Provider W) (id : InvocationId) (w : W) :
    (request : ServiceRequest) → request.Answer → W → Prop
  | .agent request, x, w' => P.answers id w request x w'
  | .gateway, _, w' | .now, _, w' | .resolve _, _, w' => w' = w

/-- **szamlazz.hu, behind a protected order.** An operator attests only that the request
of a marker can no longer take effect. -/
def Provider.outside (P : Provider W) (ns : Namespace) : Outside W where
  admits input w := input.config.orderExecution = .protected ∧ input.config.namespace = ns
    ∧ ∀ body, input.request = .recover (.ok body) →
      (∀ number, body.request.evidence ≠ .document number) →
        ∀ flight ∈ (P.holds w).flights, flight.owner.text ≠ body.request.marker.token
  answers := P.answersTo
  observes _ request _ := request.isMutation = false
  drift := P.drift
  initial w := (P.holds w).Sound ∧ (P.holds w).flights = []

end Provider

end Szamlazz
