import Szamlazz.Agent.Schema

/-!
# Accepted requests are instances of the schema, and drop nothing

For each container of the two documents, the table of its texts – the field of
the request that stands under each element name. The writer writes exactly its
tables; the tables conform to the schema's content models because validation
excluded the values its simple types cannot hold; and each text of a table is
read back once, at its place, from the whole document.

One pair of header fields is the exception to conformance, by the client's own
choice: with a preview and simplified items both asked for, the two elements
are written in the order of the vendor's download and not in the order of this
schema. The header's table is therefore conforming only when one of them is
absent, while nothing is dropped in either case.
-/

namespace Szamlazz

open Xml Xsd Element

/-! ## Values of the simple types -/

section Fits

variable {name : String}

/-- Any text, or none. -/
theorem fits_string_opt {value : Option String} : Fits (opt name string) (textOpt name value) :=
  fits_opt (fun _ _ => rfl)

/-- Any text. -/
theorem fits_string {value : String} : Fits (req name string) (textOpt name (some value)) :=
  fits_req rfl

/-- A truth value is written as the schema spells it. -/
theorem isBoolean_boolText (value : Bool) : Lexical.isBoolean (boolText value) = true := by
  cases value <;> decide

/-- A truth value, or none. -/
theorem fits_bool_opt {value : Option Bool} :
    Fits (opt name boolean) (textOpt name (value.map boolText)) :=
  fits_map_opt (fun v _ => isBoolean_boolText v)

/-- A truth value. -/
theorem fits_bool {value : Bool} :
    Fits (req name boolean) (textOpt name (some (boolText value))) :=
  fits_req (isBoolean_boolText value)

/-- A decimal, or none. -/
theorem fits_decimal_opt {value : Option Decimal} :
    Fits (opt name double) (textOpt name (value.map Decimal.display)) :=
  fits_map_opt (fun d _ => d.isDouble_display)

/-- A decimal is written without an exponent, which `xs:double` allows. -/
theorem fits_decimal {value : Decimal} :
    Fits (req name double) (textOpt name (some value.display)) :=
  fits_req value.isDouble_display

/-- A date with a year that the schema can write, or none. -/
theorem fits_date_opt {value : Option Date} (h : ∀ d ∈ value, 0 < d.year) :
    Fits (opt name Xsd.date) (textOpt name (value.map Date.display)) :=
  fits_map_opt (fun d hd => Date.isDate_display (h d hd))

/-- A date with a year that the schema can write. -/
theorem fits_date {value : Date} (h : 0 < value.year) :
    Fits (req name Xsd.date) (textOpt name (some value.display)) :=
  fits_req (Date.isDate_display h)

/-- A number of copies fits in an `xs:int`. -/
theorem fits_copies_opt {value : Option UInt8} :
    Fits (opt name int) (textOpt name (value.map (fun copies => toString copies.toNat))) := by
  refine fits_map_opt (fun copies _ => ?_)
  have hlt : copies.toNat < 2 ^ 8 := copies.toNat_lt
  exact Lexical.isInt_toString (by omega)

/-- So does a number of parcels, as it is bounded. -/
theorem fits_parcelCount_opt {value : Option UInt32}
    (h : ∀ count ∈ value, count ≤ maxParcelCount) :
    Fits (opt name int) (textOpt name (value.map (fun count => toString count.toNat))) := by
  refine fits_map_opt (fun count hcount => ?_)
  have hle : count.toNat ≤ 2147483647 := UInt32.le_iff_toNat_le.mp (h count hcount)
  exact Lexical.isInt_toString (by omega)

/-- And a number of erasure codes. -/
theorem fits_erasureCodeCount_opt {value : Option UInt32}
    (h : ∀ count ∈ value, count ≤ maxErasureCodeCount) :
    Fits (opt name nonNegativeInt)
      (textOpt name (value.map (fun count => toString count.toNat))) := by
  refine fits_map_opt (fun count hcount => ?_)
  have hle : count.toNat ≤ 400 := UInt32.le_iff_toNat_le.mp (h count hcount)
  exact Lexical.isNonNegativeInt_toString (by omega)

/-- Every language is one of the enumeration. -/
theorem fits_language {value : Language} :
    Fits (req name Szamla.szamlaNyelveTipus) (textOpt name (some value.asWire)) := by
  refine fits_req ?_
  cases value <;> decide

/-- A taxpayer's status is written as an integer. -/
theorem fits_taxpayerStatus_opt {value : Option TaxpayerStatus} :
    Fits (opt name int) (textOpt name (value.map TaxpayerStatus.asWire)) := by
  refine fits_map_opt (fun status _ => ?_)
  cases status <;> decide

end Fits

/-- The rows of a table, one block each. -/
theorem conforms_table {ps : List (Particle Ty)} {element : String} {t : Table}
    {children : List Node} (hwrite : children = t.rows.write)
    (h : List.Forall₂ Fits ps (t.rows.map Prod.snd)) :
    Conforms (.sequence ps) (.node element children) :=
  conforms_sequence hwrite h

/-! ## Credentials -/

/-- The user name, if there is one. -/
def Credentials.username : Credentials → Option String
  | agentKey _ => none
  | userPassword username _ => some username

/-- The password, if there is one. -/
def Credentials.password : Credentials → Option String
  | agentKey _ => none
  | userPassword _ password => some password

/-- The key, if there is one. -/
def Credentials.key : Credentials → Option String
  | agentKey key => some key
  | userPassword _ _ => none

/-! ## The tables of an invoice -/

namespace Waybill

/-- What is written for Trans-o-flex. -/
def tofTable (c : TransOFlex) : Table :=
  [("azonosito", c.id),
    ("shipmentID", c.shipmentId),
    ("csomagszam", c.parcelCount.map (fun count => toString count.toNat)),
    ("countryCode", c.countryCode),
    ("zip", c.zip),
    ("service", c.service)]

/-- What is written for Pick Pack Pont. -/
def pppTable (c : PickPackPoint) : Table :=
  [("vonalkodPrefix", c.barcodePrefix),
    ("vonalkodPostfix", c.barcodeSuffix)]

/-- What is written for Sprinter. -/
def sprinterTable (c : Sprinter) : Table :=
  [("azonosito", c.id),
    ("feladokod", c.senderCode),
    ("iranykod", c.routingCode),
    ("csomagszam", c.parcelCount.map (fun count => toString count.toNat)),
    ("vonalkodPostfix", c.barcodeSuffix),
    ("szallitasiIdo", c.deliveryTime)]

/-- What is written for MPL. -/
def mplTable (c : Mpl) : Table :=
  [("vevokod", some c.customerCode),
    ("vonalkod", some c.barcode),
    ("tomeg", some c.weight),
    ("kulonszolgaltatasok", c.extraServices),
    ("erteknyilvanitas", c.declaredValue.map Decimal.display)]

/-- The texts of the waybill itself. -/
def table (w : Waybill) : Table :=
  [("uticel", w.destination),
    ("futarSzolgalat", w.carrier),
    ("vonalkod", w.barcode),
    ("megjegyzes", w.comment)]

/-- The carriers below it. -/
def carrierRows (w : Waybill) : Rows :=
  [("tof", nodeOpt "tof" tof w.transOFlex),
    ("ppp", nodeOpt "ppp" ppp w.pickPackPoint),
    ("sprinter", nodeOpt "sprinter" sprinterNode w.sprinter),
    ("mpl", nodeOpt "mpl" mplNode w.mpl)]

end Waybill

namespace CreateInvoice

/-- The settings, by the names of their elements. -/
def settingsTable (r : CreateInvoice) (credentials : Credentials) : Table :=
  [("felhasznalo", credentials.username),
    ("jelszo", credentials.password),
    ("szamlaagentkulcs", credentials.key),
    ("eszamla", some (boolText r.eInvoice)),
    ("szamlaLetoltes", some (boolText r.downloadPdf)),
    ("szamlaLetoltesPld", r.downloadCopies.map (fun copies => toString copies.toNat)),
    ("valaszVerzio", some responseVersion),
    ("aggregator", r.aggregator),
    ("guardian", r.guardian.map boolText),
    ("cikkazoninvoice", r.itemIdentifiersOnInvoice.map boolText),
    ("szamlaKulsoAzon", r.externalId)]

/-- The prepayment a kind refers to. -/
def prepaymentNumber : InvoiceKind → Option String
  | .final prepaymentNumber _ => prepaymentNumber
  | _ => none

/-- The invoice a kind corrects. -/
def correctedNumber : InvoiceKind → Option String
  | .corrective correctedNumber => some correctedNumber
  | _ => none

/-- The flag of a kind, written only when it is raised. -/
def flag (raised : Bool) : Option String := if raised then some "true" else none

/-- The texts of the header up to its last two. -/
def headerMainTable (r : CreateInvoice) : Table :=
  let h := r.header
  [("keltDatum", h.issueDate.map Date.display),
    ("teljesitesDatum", some h.fulfillmentDate.display),
    ("fizetesiHataridoDatum", some h.dueDate.display),
    ("fizmod", some h.paymentMethod.asWire),
    ("penznem", some h.currency.code),
    ("szamlaNyelve", some h.language.asWire),
    ("megjegyzes", h.comment),
    ("arfolyamBank", h.exchangeRate.map (·.bank)),
    ("arfolyam", (h.exchangeRate.bind (·.rate)).map Decimal.display),
    ("rendelesSzam", h.orderNumber),
    ("dijbekeroSzamlaszam", r.kind.proformaNumber),
    ("elolegszamla", flag (r.kind matches .prepayment _)),
    ("vegszamla", flag (r.kind matches .final _ _)),
    ("elolegSzamlaszam", prepaymentNumber r.kind),
    ("helyesbitoszamla", flag (r.kind matches .corrective _)),
    ("helyesbitettSzamlaszam", correctedNumber r.kind),
    ("dijbekero", flag (r.kind matches .proforma)),
    ("szallitolevel", flag (r.kind matches .deliveryNote)),
    ("logoExtra", h.extraLogo),
    ("szamlaszamElotag", h.numberPrefix),
    ("fizetendoKorrekcio", h.payableAdjustment.map Decimal.display),
    ("fizetve", h.paid.map boolText),
    ("arresAfa", h.marginVat.map boolText),
    ("eusAfa", h.euVat.map boolText),
    ("szamlaSablon", r.template.map InvoiceTemplate.asWire)]

/-- The header as it is written, the preview before simplified items. -/
def headerTable (r : CreateInvoice) : Table :=
  r.headerMainTable
    ++ [("elonezetpdf", r.header.previewPdf.map boolText),
      ("simpleItems", r.header.simpleItems.map boolText)]

/-- The seller, by the names of the elements. -/
def sellerTable (s : Seller) : Table :=
  [("bank", s.bank),
    ("bankszamlaszam", s.bankAccount),
    ("emailReplyto", s.email.bind (·.replyTo)),
    ("emailTargy", s.email.bind (·.subject)),
    ("emailSzoveg", s.email.bind (·.body)),
    ("alairoNeve", s.signerName)]

/-- The buyer's ledger data. -/
def buyerLedgerTable (l : BuyerLedger) : Table :=
  [("konyvelesDatum", l.accountingDate.map Date.display),
    ("vevoAzonosito", l.buyerId),
    ("vevoFokonyviSzam", l.buyerAccount),
    ("folyamatosTelj", l.continuousFulfillment.map boolText),
    ("elszDatumTol", l.settlementFrom.map Date.display),
    ("elszDatumIg", l.settlementTo.map Date.display)]

/-- The texts of the buyer before its ledger. -/
def buyerTable (b : Buyer) : Table :=
  [("nev", some b.name),
    ("orszag", b.country),
    ("irsz", some b.zip),
    ("telepules", some b.city),
    ("cim", some b.address),
    ("email", b.email),
    ("sendEmail", b.sendEmail.map boolText),
    ("adoalany", b.taxpayerStatus.map TaxpayerStatus.asWire),
    ("adoszam", b.taxNumber),
    ("csoportazonosito", b.groupId),
    ("adoszamEU", b.euTaxNumber),
    ("postazasiNev", b.postalAddress.bind (·.name)),
    ("postazasiOrszag", b.postalAddress.bind (·.country)),
    ("postazasiIrsz", b.postalAddress.bind (·.zip)),
    ("postazasiTelepules", b.postalAddress.bind (·.city)),
    ("postazasiCim", b.postalAddress.bind (·.address))]

/-- The texts of the buyer after its ledger. -/
def buyerContactTable (b : Buyer) : Table :=
  [("azonosito", b.id),
    ("alairoNeve", b.signerName),
    ("telefonszam", b.phone),
    ("megjegyzes", b.comment)]

/-- A row's ledger data. -/
def itemLedgerTable (l : LineItemLedger) : Table :=
  [("gazdasagiEsem", l.economicEvent),
    ("gazdasagiEsemAfa", l.vatEconomicEvent),
    ("arbevetelFokonyviSzam", l.revenueAccount),
    ("afaFokonyviSzam", l.vatAccount),
    ("elszDatumTol", l.settlementFrom.map Date.display),
    ("elszDatumIg", l.settlementTo.map Date.display)]

/-- The texts of a line item before its ledger. -/
def itemTable (i : LineItem) : Table :=
  [("megnevezes", some i.name),
    ("azonosito", i.id),
    ("mennyiseg", some i.quantity.display),
    ("mennyisegiEgyseg", some i.unit),
    ("nettoEgysegar", some i.unitPrice.display),
    ("afakulcs", some i.vatRate.asWire),
    ("arresAfaAlap", i.marginVatBase.map Decimal.display),
    ("nettoErtek", some i.netValue.display),
    ("afaErtek", some i.vatValue.display),
    ("bruttoErtek", some i.grossValue.display),
    ("megjegyzes", i.comment)]

/-- The texts of a line item after its ledger. -/
def itemErasureTable (i : LineItem) : Table :=
  [("torloKod", i.erasureCodeCount.map (fun count => toString count.toNat))]

/-! ## The writer writes its tables -/

/-- The settings are written row by row. -/
theorem beallitasok_eq (r : CreateInvoice) (credentials : Credentials) :
    r.beallitasok credentials = (r.settingsTable credentials).rows.write := by
  cases credentials <;> rfl

/-- So is the header. -/
theorem fejlec_eq (r : CreateInvoice) : r.fejlec = r.headerTable.rows.write := by
  have hrate : arfolyam r.header.exchangeRate
      = textOpt "arfolyamBank" (r.header.exchangeRate.map (·.bank))
        ++ textOpt "arfolyam" ((r.header.exchangeRate.bind (·.rate)).map Decimal.display) := by
    cases r.header.exchangeRate <;> rfl
  have hkind : kindFlags r.kind
      = textOpt "elolegszamla" (flag (r.kind matches .prepayment _))
        ++ textOpt "vegszamla" (flag (r.kind matches .final _ _))
        ++ textOpt "elolegSzamlaszam" (prepaymentNumber r.kind)
        ++ textOpt "helyesbitoszamla" (flag (r.kind matches .corrective _))
        ++ textOpt "helyesbitettSzamlaszam" (correctedNumber r.kind)
        ++ textOpt "dijbekero" (flag (r.kind matches .proforma))
        ++ textOpt "szallitolevel" (flag (r.kind matches .deliveryNote)) := by
    cases r.kind <;> simp [kindFlags, flag, prepaymentNumber, correctedNumber, Element.bool, boolText]
  simp only [fejlec, headerTable, headerMainTable, Table.rows, Rows.write, hrate, hkind,
    List.cons_append, List.nil_append, List.map_cons, List.map_nil, List.flatten_cons, List.flatten_nil, List.append_assoc, dateOpt_eq, Element.date,
    textOpt_some]

/-- And the seller. -/
theorem elado_eq (s : Seller) : elado s = (sellerTable s).rows.write := by
  have hemail : email s.email
      = textOpt "emailReplyto" (s.email.bind (·.replyTo))
        ++ textOpt "emailTargy" (s.email.bind (·.subject))
        ++ textOpt "emailSzoveg" (s.email.bind (·.body)) := by
    cases s.email <;> rfl
  simp only [elado, sellerTable, Table.rows, Rows.write, hemail, List.map_cons, List.map_nil,
    List.flatten_cons, List.flatten_nil, List.append_assoc]

theorem vevoFokonyv_eq (l : BuyerLedger) : vevoFokonyv l = (buyerLedgerTable l).rows.write := by
  simp only [vevoFokonyv, buyerLedgerTable, Table.rows, Rows.write, List.map_cons, List.map_nil,
    dateOpt_eq]

/-- The buyer: its texts, its ledger, its contact data. -/
def buyerRows (b : Buyer) : Rows :=
  (buyerTable b).rows ++ [("vevoFokonyv", nodeOpt "vevoFokonyv" vevoFokonyv b.ledger)]
    ++ (buyerContactTable b).rows

/-- The buyer, with the groups under it. -/
theorem vevo_eq (b : Buyer) : vevo b = (buyerRows b).write := by
  have hpostal : postazasi b.postalAddress
      = textOpt "postazasiNev" (b.postalAddress.bind (·.name))
        ++ textOpt "postazasiOrszag" (b.postalAddress.bind (·.country))
        ++ textOpt "postazasiIrsz" (b.postalAddress.bind (·.zip))
        ++ textOpt "postazasiTelepules" (b.postalAddress.bind (·.city))
        ++ textOpt "postazasiCim" (b.postalAddress.bind (·.address)) := by
    cases b.postalAddress <;> rfl
  simp only [vevo, buyerRows, buyerTable, buyerContactTable, Table.rows, Rows.write, hpostal,
    List.map_cons, List.map_nil, List.cons_append, List.nil_append, List.flatten_cons,
    List.flatten_nil, List.append_assoc, textOpt_some]

theorem tetelFokonyv_eq (l : LineItemLedger) :
    tetelFokonyv l = (itemLedgerTable l).rows.write := by
  simp only [tetelFokonyv, itemLedgerTable, Table.rows, Rows.write, List.map_cons, List.map_nil,
    dateOpt_eq]

/-- A line item: its texts, its ledger, its erasure codes. -/
def itemRows (i : LineItem) : Rows :=
  (itemTable i).rows ++ [("tetelFokonyv", nodeOpt "tetelFokonyv" tetelFokonyv i.ledger)]
    ++ (itemErasureTable i).rows

/-- A row, with its ledger data under it. -/
theorem tetel_eq (i : LineItem) : tetel i = (itemRows i).write := rfl

end CreateInvoice

namespace Waybill

theorem tof_eq (c : TransOFlex) : tof c = (tofTable c).rows.write := rfl
theorem ppp_eq (c : PickPackPoint) : ppp c = (pppTable c).rows.write := rfl
theorem sprinterNode_eq (c : Sprinter) : sprinterNode c = (sprinterTable c).rows.write := rfl
theorem mplNode_eq (c : Mpl) : mplNode c = (mplTable c).rows.write := rfl

/-- A waybill is the common table and the one of its carrier. -/
theorem write_eq (w : Waybill) : w.write = Rows.write (w.table.rows ++ w.carrierRows) := rfl

end Waybill

/-! ## Content models -/

namespace Waybill

/-- Trans-o-flex, with a parcel count that was checked. -/
theorem conforms_tof {c : TransOFlex} (h : ∀ count ∈ c.parcelCount, count ≤ maxParcelCount) :
    Conforms Szamla.transoflexTipus (.node "tof" (tof c)) :=
  conforms_table (tof_eq c) <|
    .cons fits_string_opt <| .cons fits_string_opt <| .cons (fits_parcelCount_opt h) <|
    .cons fits_string_opt <| .cons fits_string_opt <| .cons fits_string_opt .nil

theorem conforms_ppp (c : PickPackPoint) : Conforms Szamla.pppTipus (.node "ppp" (ppp c)) :=
  conforms_table (ppp_eq c) <| .cons fits_string_opt <| .cons fits_string_opt .nil

/-- Sprinter, with a parcel count that was checked. -/
theorem conforms_sprinter {c : Sprinter} (h : ∀ count ∈ c.parcelCount, count ≤ maxParcelCount) :
    Conforms Szamla.sprinterTipus (.node "sprinter" (sprinterNode c)) :=
  conforms_table (sprinterNode_eq c) <|
    .cons fits_string_opt <| .cons fits_string_opt <| .cons fits_string_opt <|
    .cons (fits_parcelCount_opt h) <| .cons fits_string_opt <| .cons fits_string_opt .nil

theorem conforms_mpl (c : Mpl) : Conforms Szamla.mplTipus (.node "mpl" (mplNode c)) :=
  conforms_table (mplNode_eq c) <|
    .cons fits_string <| .cons fits_string <| .cons fits_string <|
    .cons fits_string_opt <| .cons fits_decimal_opt .nil

/-- The parcel counts of a waybill are those of its two carriers that have one. -/
theorem mem_parcelCounts {w : Waybill} {count : UInt32} :
    count ∈ w.parcelCounts ↔ (∃ c ∈ w.transOFlex, count ∈ c.parcelCount)
      ∨ ∃ c ∈ w.sprinter, count ∈ c.parcelCount := by
  simp [parcelCounts, @eq_comm _ (some count), Option.bind_eq_some_iff]

/-- A waybill conforms if its parcel counts were checked. -/
theorem conforms_write {w : Waybill} (h : ∀ count ∈ w.parcelCounts, count ≤ maxParcelCount) :
    Conforms Szamla.fuvarlevelTipus (.node "fuvarlevel" w.write) :=
  conforms_sequence (w.write_eq) <|
    .cons fits_string_opt <| .cons fits_string_opt <| .cons fits_string_opt <|
    .cons fits_string_opt <|
    .cons (fits_nodeOpt fun c hc => conforms_tof fun count hcount =>
      h count (mem_parcelCounts.mpr (Or.inl ⟨c, hc, hcount⟩))) <|
    .cons (fits_nodeOpt fun c _ => conforms_ppp c) <|
    .cons (fits_nodeOpt fun c hc => conforms_sprinter fun count hcount =>
      h count (mem_parcelCounts.mpr (Or.inr ⟨c, hc, hcount⟩))) <|
    .cons (fits_nodeOpt fun c _ => conforms_mpl c) .nil

end Waybill

namespace CreateInvoice

/-- The version of the response is a constant. -/
theorem fits_responseVersion {name : String} :
    Fits (opt name int) (textOpt name (some responseVersion)) := by
  refine fits_opt ?_
  rintro _ ⟨⟩
  decide

/-- The settings need no check. -/
theorem conforms_beallitasok (r : CreateInvoice) (credentials : Credentials) :
    Conforms Szamla.beallitasokTipus (.node "beallitasok" (r.beallitasok credentials)) :=
  conforms_table (r.beallitasok_eq credentials) <|
    .cons fits_string_opt <| .cons fits_string_opt <| .cons fits_string_opt <|
    .cons fits_bool <| .cons fits_bool <| .cons fits_copies_opt <|
    .cons fits_responseVersion <| .cons fits_string_opt <| .cons fits_bool_opt <|
    .cons fits_bool_opt <| .cons fits_string_opt .nil

/-- A flag is written or left out. -/
theorem fits_flag {name : String} {raised : Bool} :
    Fits (opt name boolean) (textOpt name (flag raised)) := by
  refine fits_opt ?_
  cases raised <;> decide

/-- The header in the order of the schema, which has simplified items first. -/
def schemaHeaderTable (r : CreateInvoice) : Table :=
  r.headerMainTable
    ++ [("simpleItems", r.header.simpleItems.map boolText),
      ("elonezetpdf", r.header.previewPdf.map boolText)]

/-- With one of the two elements absent, the order of the two is no matter. -/
theorem headerTable_write_eq {r : CreateInvoice}
    (h : r.header.previewPdf = none ∨ r.header.simpleItems = none) :
    r.headerTable.rows.write = r.schemaHeaderTable.rows.write := by
  rcases h with h | h <;> simp [headerTable, schemaHeaderTable, h, Table.rows, Rows.write]

/-- The header of an accepted invoice conforms, unless it asks for a preview and simple
items at once. -/
theorem conforms_fejlec {r : CreateInvoice} (hr : r.Accepted)
    (h : r.header.previewPdf = none ∨ r.header.simpleItems = none) :
    Conforms Szamla.fejlecTipus (.node "fejlec" r.fejlec) :=
  conforms_table (r.fejlec_eq.trans (headerTable_write_eq h)) <|
    .cons (fits_date_opt hr.issueDate) <| .cons (fits_date hr.fulfillmentDate) <|
    .cons (fits_date hr.dueDate) <| .cons fits_string <| .cons fits_string <|
    .cons fits_language <| .cons fits_string_opt <| .cons fits_string_opt <|
    .cons fits_decimal_opt <| .cons fits_string_opt <| .cons fits_string_opt <|
    .cons fits_flag <| .cons fits_flag <| .cons fits_string_opt <| .cons fits_flag <|
    .cons fits_string_opt <| .cons fits_flag <| .cons fits_flag <| .cons fits_string_opt <|
    .cons fits_string_opt <| .cons fits_decimal_opt <| .cons fits_bool_opt <|
    .cons fits_bool_opt <| .cons fits_bool_opt <| .cons fits_string_opt <|
    .cons fits_bool_opt <| .cons fits_bool_opt .nil

theorem conforms_elado (s : Seller) : Conforms Szamla.eladoTipus (.node "elado" (elado s)) :=
  conforms_table (elado_eq s) <|
    .cons fits_string_opt <| .cons fits_string_opt <| .cons fits_string_opt <|
    .cons fits_string_opt <| .cons fits_string_opt <| .cons fits_string_opt .nil

/-- The dates of a buyer's ledger data have to be checked. -/
theorem conforms_vevoFokonyv {l : BuyerLedger} (haccounting : ∀ d ∈ l.accountingDate, 0 < d.year)
    (hfrom : ∀ d ∈ l.settlementFrom, 0 < d.year) (hto : ∀ d ∈ l.settlementTo, 0 < d.year) :
    Conforms Szamla.vevoFokonyvTipus (.node "vevoFokonyv" (vevoFokonyv l)) :=
  conforms_table (vevoFokonyv_eq l) <|
    .cons (fits_date_opt haccounting) <| .cons fits_string_opt <| .cons fits_string_opt <|
    .cons fits_bool_opt <| .cons (fits_date_opt hfrom) <| .cons (fits_date_opt hto) .nil

/-- The buyer of an accepted invoice. -/
theorem conforms_vevo {r : CreateInvoice} (hr : r.Accepted) :
    Conforms Szamla.vevoTipus (.node "vevo" (vevo r.buyer)) :=
  conforms_sequence (vevo_eq r.buyer) <|
    .cons fits_string <| .cons fits_string_opt <| .cons fits_string <| .cons fits_string <|
    .cons fits_string <| .cons fits_string_opt <| .cons fits_bool_opt <|
    .cons fits_taxpayerStatus_opt <| .cons fits_string_opt <| .cons fits_string_opt <|
    .cons fits_string_opt <| .cons fits_string_opt <| .cons fits_string_opt <|
    .cons fits_string_opt <| .cons fits_string_opt <| .cons fits_string_opt <|
    .cons (fits_nodeOpt fun l hl => conforms_vevoFokonyv (hr.accountingDate l hl)
      (hr.settlementFrom l hl) (hr.settlementTo l hl)) <|
    .cons fits_string_opt <| .cons fits_string_opt <| .cons fits_string_opt <|
    .cons fits_string_opt .nil

/-- The dates of a row's ledger data have to be checked. -/
theorem conforms_tetelFokonyv {l : LineItemLedger} (hfrom : ∀ d ∈ l.settlementFrom, 0 < d.year)
    (hto : ∀ d ∈ l.settlementTo, 0 < d.year) :
    Conforms Szamla.tetelFokonyvTipus (.node "tetelFokonyv" (tetelFokonyv l)) :=
  conforms_table (tetelFokonyv_eq l) <|
    .cons fits_string_opt <| .cons fits_string_opt <| .cons fits_string_opt <|
    .cons fits_string_opt <| .cons (fits_date_opt hfrom) <| .cons (fits_date_opt hto) .nil

/-- A row of an accepted invoice. -/
theorem conforms_tetel {r : CreateInvoice} (hr : r.Accepted) {i : LineItem} (hi : i ∈ r.items) :
    Conforms Szamla.tetelTipus (.node "tetel" (tetel i)) :=
  conforms_sequence (tetel_eq i) <|
    .cons fits_string <| .cons fits_string_opt <| .cons fits_decimal <| .cons fits_string <|
    .cons fits_decimal <| .cons fits_string <| .cons fits_decimal_opt <| .cons fits_decimal <|
    .cons fits_decimal <| .cons fits_decimal <| .cons fits_string_opt <|
    .cons (fits_nodeOpt fun l hl => conforms_tetelFokonyv (hr.itemSettlementFrom i hi l hl)
      (hr.itemSettlementTo i hi l hl)) <|
    .cons (fits_erasureCodeCount_opt (hr.erasureCodeCount i hi)) .nil

/-- **The written document conforms**, unless both the preview and simplified
items are asked for. -/
theorem conforms_writeXml {r : CreateInvoice} (hr : r.Accepted) (credentials : Credentials)
    (h : r.header.previewPdf = none ∨ r.header.simpleItems = none) :
    Conforms Szamla.xmlszamla
      (.node (r.writeXml credentials).root (r.writeXml credentials).children) :=
  conforms_sequence rfl <|
    .cons (fits_node (r.conforms_beallitasok credentials)) <|
    .cons (fits_node (conforms_fejlec hr h)) <|
    .cons (fits_node (conforms_elado r.seller)) <|
    .cons (fits_node (conforms_vevo hr)) <|
    .cons (fits_nodeOpt fun w hw => Waybill.conforms_write (hr.parcelCount w hw)) <|
    .cons (fits_node (conforms_sequence (List.append_nil _).symm
      (.cons (fits_many hr.items fun _ hi => conforms_tetel hr hi) .nil))) .nil

end CreateInvoice

/-! ## Nothing is dropped -/

/-- A place in a document, from the children of the root. -/
def place (names : List String) : List Step := names.map (fun name => ⟨name, none⟩)

/-- The texts of a waybill and where they stand. -/
def Waybill.fields (w : Waybill) : List (List Step × Option String) :=
  w.table.under (place ["fuvarlevel"])
    ++ w.transOFlex.toList.flatMap (fun c => (tofTable c).under (place ["fuvarlevel", "tof"]))
    ++ w.pickPackPoint.toList.flatMap (fun c => (pppTable c).under (place ["fuvarlevel", "ppp"]))
    ++ w.sprinter.toList.flatMap
      (fun c => (sprinterTable c).under (place ["fuvarlevel", "sprinter"]))
    ++ w.mpl.toList.flatMap (fun c => (mplTable c).under (place ["fuvarlevel", "mpl"]))

namespace CreateInvoice

/-- The texts of the `n`-th line item and where they stand. -/
def itemFields (i : LineItem) (n : Nat) : List (List Step × Option String) :=
  let path : List Step := [⟨"tetelek", none⟩, ⟨"tetel", some n⟩]
  (itemTable i).under path ++ (itemErasureTable i).under path
    ++ i.ledger.toList.flatMap (fun l => (itemLedgerTable l).under (path ++ place ["tetelFokonyv"]))

/-- **Every leaf field of a request**: where the schema has it, and its text. -/
def fields (r : CreateInvoice) (credentials : Credentials) : List (List Step × Option String) :=
  (r.settingsTable credentials).under (place ["beallitasok"])
    ++ r.headerTable.under (place ["fejlec"])
    ++ (sellerTable r.seller).under (place ["elado"])
    ++ (buyerTable r.buyer).under (place ["vevo"])
    ++ (buyerContactTable r.buyer).under (place ["vevo"])
    ++ r.buyer.ledger.toList.flatMap
      (fun l => (buyerLedgerTable l).under (place ["vevo", "vevoFokonyv"]))
    ++ r.waybill.toList.flatMap Waybill.fields
    ++ r.items.zipIdx.flatMap (fun i => itemFields i.1 i.2)

/-- The containers of the document. -/
def rootRows (r : CreateInvoice) (credentials : Credentials) : Rows :=
  [("beallitasok", node "beallitasok" (r.beallitasok credentials)),
    ("fejlec", node "fejlec" r.fejlec),
    ("elado", node "elado" (elado r.seller)),
    ("vevo", node "vevo" (vevo r.buyer)),
    ("fuvarlevel", nodeOpt "fuvarlevel" Waybill.write r.waybill),
    ("tetelek", node "tetelek" (r.items.flatMap (fun item => node "tetel" (tetel item))))]

/-- Each block of the document is written under its name. -/
theorem rootRows_named (r : CreateInvoice) (credentials : Credentials) :
    (r.rootRows credentials).Named := by
  intro row hrow x hx
  simp only [rootRows, List.mem_cons, List.not_mem_nil, or_false] at hrow
  rcases hrow with rfl | rfl | rfl | rfl | rfl | rfl
  case inr.inr.inr.inr.inl =>
    exact Rows.named_nodeOpt "fuvarlevel" Waybill.write r.waybill _ (List.mem_singleton.mpr rfl) x hx
  all_goals
    obtain rfl := List.mem_singleton.mp hx
    rfl

/-- What a block holds stands at the path of its name. -/
theorem placed_root (r : CreateInvoice) (credentials : Credentials) (name : String)
    (cs : List Node) (hrow : (name, node name cs) ∈ r.rootRows credentials) :
    Placed (place [name]) (r.writeXml credentials).children cs := by
  refine placed_row (r.rootRows_named credentials) ?_ hrow
  show Szamla.xmlszamla.names.Nodup
  decide

theorem buyerRows_named (b : Buyer) : (buyerRows b).Named :=
  Rows.named_append (Rows.named_append (buyerTable b).rows_named (Rows.named_nodeOpt _ _ _))
    (buyerContactTable b).rows_named

/-- No element of the buyer has the name of another. -/
theorem buyerRows_nodup (b : Buyer) : ((buyerRows b).map Prod.fst).Nodup := by
  show Szamla.vevoTipus.names.Nodup
  decide

theorem itemRows_named (i : LineItem) : (itemRows i).Named :=
  Rows.named_append (Rows.named_append (itemTable i).rows_named (Rows.named_nodeOpt _ _ _))
    (itemErasureTable i).rows_named

/-- Nor any of a row. -/
theorem itemRows_nodup (i : LineItem) : ((itemRows i).map Prod.fst).Nodup := by
  show Szamla.tetelTipus.names.Nodup
  decide

end CreateInvoice

namespace Waybill

/-- The rows of a waybill. -/
def rows (w : Waybill) : Rows := w.table.rows ++ w.carrierRows

theorem rows_named (w : Waybill) : w.rows.Named := by
  refine Rows.named_append w.table.rows_named ?_
  intro row hrow
  simp only [carrierRows, List.mem_cons, List.not_mem_nil, or_false] at hrow
  rcases hrow with rfl | rfl | rfl | rfl
  all_goals exact Rows.named_nodeOpt _ _ _ _ (List.mem_singleton.mpr rfl)

/-- Nor any of a waybill. -/
theorem rows_nodup (w : Waybill) : (w.rows.map Prod.fst).Nodup := by
  show Szamla.fuvarlevelTipus.names.Nodup
  decide

/-- A carrier the waybill has is below it. -/
theorem placed_carrier (w : Waybill) {name : String} {cs : List Node}
    (hrow : (name, node name cs) ∈ w.carrierRows) : Placed (place [name]) w.write cs :=
  placed_row w.rows_named w.rows_nodup (List.mem_append_right _ hrow)

/-- Every field of a waybill stands once, at its path. -/
theorem textsAt_fields {ns : List Node} {w : Waybill}
    (hplace : Placed (place ["fuvarlevel"]) ns w.write) :
    ∀ f ∈ w.fields, textsAt f.1 ns = f.2.toList := by
  have hcarrier : ∀ (name : String) (cs : List Node), (name, node name cs) ∈ w.carrierRows →
      Placed (place ["fuvarlevel", name]) ns cs := fun _ _ hrow =>
    hplace.trans (List.cons_ne_nil _ _) (w.placed_carrier hrow)
  intro f hf
  simp only [fields, List.mem_append, List.mem_flatMap, Option.mem_toList] at hf
  rcases hf with (((hf | ⟨c, hc, hf⟩) | ⟨c, hc, hf⟩) | ⟨c, hc, hf⟩) | ⟨c, hc, hf⟩
  · exact textsAt_under hplace w.rows_named w.rows_nodup
      (fun _ hrow => List.mem_append_left _ hrow) f hf
  · refine textsAt_table (hcarrier _ (tof c) ?_) ?_ f hf
    · simp [carrierRows, Option.mem_def.mp hc, nodeOpt]
    · show Szamla.transoflexTipus.names.Nodup
      decide
  · refine textsAt_table (hcarrier _ (ppp c) ?_) ?_ f hf
    · simp [carrierRows, Option.mem_def.mp hc, nodeOpt]
    · show Szamla.pppTipus.names.Nodup
      decide
  · refine textsAt_table (hcarrier _ (sprinterNode c) ?_) ?_ f hf
    · simp [carrierRows, Option.mem_def.mp hc, nodeOpt]
    · show Szamla.sprinterTipus.names.Nodup
      decide
  · refine textsAt_table (hcarrier _ (mplNode c) ?_) ?_ f hf
    · simp [carrierRows, Option.mem_def.mp hc, nodeOpt]
    · show Szamla.mplTipus.names.Nodup
      decide

end Waybill

namespace CreateInvoice

/-- Every field of a row stands once, in the row of that number. -/
theorem textsAt_itemFields {r : CreateInvoice} (credentials : Credentials) {i : LineItem} {n : Nat}
    (hi : r.items[n]? = some i) :
    ∀ f ∈ itemFields i n, textsAt f.1 (r.writeXml credentials).children = f.2.toList := by
  have hplace : Placed [⟨"tetelek", none⟩, ⟨"tetel", some n⟩] (r.writeXml credentials).children
      (itemRows i).write :=
    (r.placed_root credentials "tetelek" _ (by simp [rootRows])).trans
      (List.cons_ne_nil _ _) (placed_many (f := tetel) hi)
  intro f hf
  simp only [itemFields, List.mem_append, List.mem_flatMap, Option.mem_toList] at hf
  rcases hf with (hf | hf) | ⟨l, hl, hf⟩
  · exact textsAt_under hplace (itemRows_named i) (itemRows_nodup i)
      (fun _ hrow => List.mem_append_left _ (List.mem_append_left _ hrow)) f hf
  · exact textsAt_under hplace (itemRows_named i) (itemRows_nodup i)
      (fun _ hrow => List.mem_append_right _ hrow) f hf
  · have hledger : Placed (place ["tetelFokonyv"]) (itemRows i).write (tetelFokonyv l) := by
      refine placed_row (itemRows_named i) (itemRows_nodup i) ?_
      refine List.mem_append_left _ (List.mem_append_right _ (List.mem_singleton.mpr ?_))
      simp [Option.mem_def.mp hl, nodeOpt]
    rw [tetelFokonyv_eq] at hledger
    refine textsAt_table (hplace.trans (List.cons_ne_nil _ _) hledger) ?_ f hf
    show Szamla.tetelFokonyvTipus.names.Nodup
    decide

/-- **Nothing is dropped.** Every text of the request stands once at its place
in the written document, and at that place stands nothing else. -/
theorem textsAt_fields (r : CreateInvoice) (credentials : Credentials) :
    ∀ f ∈ r.fields credentials, textsAt f.1 (r.writeXml credentials).children = f.2.toList := by
  have hvevo := r.placed_root credentials "vevo" (vevo r.buyer)
    (by simp [rootRows])
  rw [vevo_eq] at hvevo
  intro f hf
  simp only [fields, List.mem_append, List.mem_flatMap, Option.mem_toList] at hf
  rcases hf with ((((((hf | hf) | hf) | hf) | hf) | ⟨l, hl, hf⟩) | ⟨w, hw, hf⟩) | ⟨⟨i, n⟩, hi, hf⟩
  · refine textsAt_table ?_ ?_ f hf
    · rw [← beallitasok_eq]
      exact r.placed_root credentials _ _ (by simp [rootRows])
    · show Szamla.beallitasokTipus.names.Nodup
      decide
  · refine textsAt_table ?_ ?_ f hf
    · rw [← fejlec_eq]
      exact r.placed_root credentials _ _ (by simp [rootRows])
    · show (Szamla.fejlecTipus.names.take 25 ++ ["elonezetpdf", "simpleItems"]).Nodup
      decide
  · refine textsAt_table ?_ ?_ f hf
    · rw [← elado_eq]
      exact r.placed_root credentials _ _ (by simp [rootRows])
    · show Szamla.eladoTipus.names.Nodup
      decide
  · exact textsAt_under hvevo (buyerRows_named _) (buyerRows_nodup _)
      (fun _ hrow => List.mem_append_left _ (List.mem_append_left _ hrow)) f hf
  · exact textsAt_under hvevo (buyerRows_named _) (buyerRows_nodup _)
      (fun _ hrow => List.mem_append_right _ hrow) f hf
  · have hledger : Placed (place ["vevoFokonyv"]) (buyerRows r.buyer).write (vevoFokonyv l) := by
      refine placed_row (buyerRows_named _) (buyerRows_nodup _) ?_
      refine List.mem_append_left _ (List.mem_append_right _ (List.mem_singleton.mpr ?_))
      simp [Option.mem_def.mp hl, nodeOpt]
    rw [vevoFokonyv_eq] at hledger
    refine textsAt_table (hvevo.trans (List.cons_ne_nil _ _) hledger) ?_ f hf
    show Szamla.vevoFokonyvTipus.names.Nodup
    decide
  · refine Waybill.textsAt_fields (r.placed_root credentials _ _ ?_) f hf
    simp [rootRows, Option.mem_def.mp hw, nodeOpt]
  · have hin : r.items[n]? = some i := by
      simpa using List.mk_mem_zipIdx_iff_getElem?.mp hi
    exact textsAt_itemFields credentials hin f hf

end CreateInvoice

/-! ## Receipts -/

namespace CreateReceipt

/-- What the schema needs of an accepted receipt. -/
structure Accepted (r : CreateReceipt) : Prop where
  items : r.items ≠ []
  supported : ∀ i ∈ r.items, unsupportedOnReceipt i = none
  erasureCodeCount : ∀ i ∈ r.items, ∀ count ∈ i.erasureCodeCount, count ≤ maxErasureCodeCount

/-- A receipt that was validated has what the schema asks for. -/
theorem accepted_of_validate {r : CreateReceipt} (h : r.validate = .ok ()) : r.Accepted := by
  simp only [validate, Except.check_eq_ok, refuseIf_eq_ok, refuseAbove_eq_ok,
    List.mem_filterMap, forall_exists_index, and_imp] at h
  obtain ⟨hitems, hsupported, herasure, -⟩ := h
  refine ⟨by simpa using hitems, ?_, fun i hi count hcount => herasure count i hi hcount⟩
  unfold refuseUnsupported at hsupported
  split at hsupported
  · cases hsupported
  · rename_i hnone
    exact List.findSome?_eq_none_iff.mp hnone

/-- An item carries a field a receipt row has no element for. -/
def CarriesUnsupported (i : LineItem) : Prop :=
  i.marginVatBase.isSome ∨ ∃ l ∈ i.ledger, l.economicEvent.isSome ∨ l.vatEconomicEvent.isSome
    ∨ l.settlementFrom.isSome ∨ l.settlementTo.isSome

/-- What a receipt cannot carry is found in its rows. -/
theorem unsupportedOnReceipt_isSome {i : LineItem} (h : CarriesUnsupported i) :
    (unsupportedOnReceipt i).isSome := by
  unfold unsupportedOnReceipt
  rcases h with h | ⟨l, hl, h⟩
  · simp [h]
  · simp only [Option.mem_def.mp hl]
    split_ifs <;> simp_all

/-- **A line with such a field is refused**, with the name of a field. -/
theorem validate_unsupported {r : CreateReceipt} {i : LineItem} (hi : i ∈ r.items)
    (h : CarriesUnsupported i) : ∃ field, r.validate = .error (.unsupportedOnReceipt field) := by
  have hne : r.items.isEmpty = false := by
    cases hitems : r.items with
    | nil => simp [hitems] at hi
    | cons => rfl
  cases hfind : r.items.findSome? unsupportedOnReceipt with
  | none =>
    have hnone := List.findSome?_eq_none_iff.mp hfind i hi
    simpa [hnone] using unsupportedOnReceipt_isSome h
  | some field =>
    refine ⟨field, ?_⟩
    simp [validate, refuseIf, refuseUnsupported, hne, hfind, bind, Except.bind]

def settingsTable (r : CreateReceipt) (credentials : Credentials) : Table :=
  [("felhasznalo", credentials.username),
    ("jelszo", credentials.password),
    ("szamlaagentkulcs", credentials.key),
    ("pdfLetoltes", some (boolText r.downloadPdf))]

def headerTable (r : CreateReceipt) : Table :=
  [("hivasAzonosito", r.callId),
    ("elotag", some r.receiptPrefix),
    ("fizmod", some r.paymentMethod.asWire),
    ("penznem", some r.currency.code),
    ("devizabank", r.exchangeRate.map (·.bank)),
    ("devizaarf", (r.exchangeRate.bind (·.rate)).map Decimal.display),
    ("megjegyzes", r.comment),
    ("pdfSablon", r.template.map ReceiptTemplate.asWire),
    ("fokonyvVevo", r.ledgerCustomer),
    ("rendelesSzam", r.orderNumber)]

def itemLedgerTable (l : LineItemLedger) : Table :=
  [("arbevetel", l.revenueAccount),
    ("afa", l.vatAccount)]

/-- The texts of a receipt row before its ledger. -/
def itemTable (i : LineItem) : Table :=
  [("megnevezes", some i.name),
    ("azonosito", i.id),
    ("mennyiseg", some i.quantity.display),
    ("mennyisegiEgyseg", some i.unit),
    ("nettoEgysegar", some i.unitPrice.display),
    ("afakulcs", some i.vatRate.asWire),
    ("netto", some i.netValue.display),
    ("afa", some i.vatValue.display),
    ("brutto", some i.grossValue.display)]

/-- The texts of a receipt row after its ledger. -/
def itemNoteTable (i : LineItem) : Table :=
  [("megjegyzes", i.comment),
    ("torloKod", i.erasureCodeCount.map (fun count => toString count.toNat))]

/-- A payment of a receipt. -/
def paymentTable (p : ReceiptPayment) : Table :=
  [("fizetoeszkoz", some p.method),
    ("osszeg", some p.amount.display),
    ("leiras", p.description)]

theorem beallitasok_eq (r : CreateReceipt) (credentials : Credentials) :
    r.beallitasok credentials = (r.settingsTable credentials).rows.write := by
  cases credentials <;> rfl

theorem fejlec_eq (r : CreateReceipt) : r.fejlec = r.headerTable.rows.write := by
  have hrate : devizaarf r.exchangeRate
      = textOpt "devizabank" (r.exchangeRate.map (·.bank))
        ++ textOpt "devizaarf" ((r.exchangeRate.bind (·.rate)).map Decimal.display) := by
    cases r.exchangeRate <;> rfl
  simp only [fejlec, headerTable, Table.rows, Rows.write, hrate, List.map_cons, List.map_nil,
    List.flatten_cons, List.flatten_nil, List.append_assoc, textOpt_some]

/-- A receipt row: its texts, its ledger, its note and erasure codes. -/
def itemRows (i : LineItem) : Rows :=
  (itemTable i).rows ++ [("fokonyv", nodeOpt "fokonyv" fokonyv i.ledger)]
    ++ (itemNoteTable i).rows

/-- The ledger data of a receipt's row. -/
theorem fokonyv_eq (l : LineItemLedger) : fokonyv l = (itemLedgerTable l).rows.write := rfl
theorem tetel_eq (i : LineItem) : tetel i = (itemRows i).write := rfl
/-- A payment, row by row. -/
theorem kifizetes_eq (p : ReceiptPayment) : kifizetes p = (paymentTable p).rows.write := rfl

theorem conforms_beallitasok (r : CreateReceipt) (credentials : Credentials) :
    Conforms Nyugta.beallitasokTipus (.node "beallitasok" (r.beallitasok credentials)) :=
  conforms_all (r.beallitasok_eq credentials) (List.Perm.refl _) (by decide) <|
    .cons fits_string_opt <| .cons fits_string_opt <| .cons fits_string_opt <|
    .cons fits_bool .nil

/-- The group is unordered: the writer has the bank before the rate. -/
theorem conforms_fejlec (r : CreateReceipt) :
    Conforms Nyugta.fejlecTipus (.node "fejlec" r.fejlec) :=
  conforms_all r.fejlec_eq (.cons _ (.cons _ (.cons _ (.cons _ (.swap _ _ _))))) (by decide) <|
    .cons fits_string_opt <| .cons fits_string <| .cons fits_string <| .cons fits_string <|
    .cons fits_string_opt <| .cons fits_decimal_opt <| .cons fits_string_opt <|
    .cons fits_string_opt <| .cons fits_string_opt <| .cons fits_string_opt .nil

/-- The ledger data of a receipt's row needs no check. -/
theorem conforms_fokonyv (l : LineItemLedger) :
    Conforms Nyugta.tetelFokonyvTipus (.node "fokonyv" (fokonyv l)) :=
  conforms_all (fokonyv_eq l) (List.Perm.refl _) (by decide) <|
    .cons fits_string_opt <| .cons fits_string_opt .nil

theorem conforms_tetel {r : CreateReceipt} (hr : r.Accepted) {i : LineItem} (hi : i ∈ r.items) :
    Conforms Nyugta.tetelTipus (.node "tetel" (tetel i)) :=
  conforms_all (tetel_eq i) (List.Perm.refl _) (by decide) <|
    .cons fits_string <| .cons fits_string_opt <| .cons fits_decimal <| .cons fits_string <|
    .cons fits_decimal <| .cons fits_string <| .cons fits_decimal <| .cons fits_decimal <|
    .cons fits_decimal <| .cons (fits_nodeOpt fun l _ => conforms_fokonyv l) <|
    .cons fits_string_opt <|
    .cons (fits_erasureCodeCount_opt (hr.erasureCodeCount i hi)) .nil

/-- Nor does a payment. -/
theorem conforms_kifizetes (p : ReceiptPayment) :
    Conforms Nyugta.kifizetesTipus (.node "kifizetes" (kifizetes p)) :=
  conforms_all (kifizetes_eq p) (List.Perm.refl _) (by decide) <|
    .cons fits_string <| .cons fits_decimal <| .cons fits_string_opt .nil

/-- The payments, if there are any. -/
def paymentsOpt (r : CreateReceipt) : Option (List ReceiptPayment) :=
  if r.payments.isEmpty then none else some r.payments

/-- The children of `kifizetesek`. -/
def kifizetesek (payments : List ReceiptPayment) : List Node :=
  payments.flatMap (fun payment => node "kifizetes" (kifizetes payment))

/-- The containers of the document. -/
def rootRows (r : CreateReceipt) (credentials : Credentials) : Rows :=
  [("beallitasok", node "beallitasok" (r.beallitasok credentials)),
    ("fejlec", node "fejlec" r.fejlec),
    ("tetelek", node "tetelek" (r.items.flatMap (fun item => node "tetel" (tetel item)))),
    ("kifizetesek", nodeOpt "kifizetesek" kifizetesek r.paymentsOpt)]

/-- A receipt is written block by block. -/
theorem writeXml_children (r : CreateReceipt) (credentials : Credentials) :
    (r.writeXml credentials).children = (r.rootRows credentials).write := by
  cases h : r.payments <;>
    simp [writeXml, rootRows, Rows.write, paymentsOpt, h, nodeOpt, kifizetesek]

theorem conforms_writeXml {r : CreateReceipt} (hr : r.Accepted) (credentials : Credentials) :
    Conforms Nyugta.xmlnyugtacreate
      (.node (r.writeXml credentials).root (r.writeXml credentials).children) := by
  refine conforms_all (r.writeXml_children credentials) (List.Perm.refl _) (by decide) <|
    .cons (fits_node (r.conforms_beallitasok credentials)) <|
    .cons (fits_node r.conforms_fejlec) <|
    .cons (fits_node (conforms_sequence (List.append_nil _).symm
      (.cons (fits_many hr.items fun _ hi => conforms_tetel hr hi) .nil))) <|
    .cons (fits_nodeOpt fun payments hpayments => ?_) .nil
  have hne : payments ≠ [] := by
    rintro rfl
    unfold paymentsOpt at hpayments
    split at hpayments
    · cases hpayments
    · rename_i hpay
      simp [Option.some.inj hpayments] at hpay
  exact conforms_sequence (List.append_nil _).symm
    (.cons (fits_many hne fun p _ => conforms_kifizetes p) .nil)

/-! ### Nothing is dropped -/

/-- The texts of the `n`-th receipt row and where they stand. -/
def itemFields (i : LineItem) (n : Nat) : List (List Step × Option String) :=
  let path : List Step := [⟨"tetelek", none⟩, ⟨"tetel", some n⟩]
  (itemTable i).under path ++ (itemNoteTable i).under path
    ++ i.ledger.toList.flatMap (fun l => (itemLedgerTable l).under (path ++ place ["fokonyv"]))

/-- **Every leaf field of a receipt**: where the schema has it, and its text. -/
def fields (r : CreateReceipt) (credentials : Credentials) : List (List Step × Option String) :=
  (r.settingsTable credentials).under (place ["beallitasok"])
    ++ r.headerTable.under (place ["fejlec"])
    ++ r.items.zipIdx.flatMap (fun i => itemFields i.1 i.2)
    ++ r.payments.zipIdx.flatMap
      (fun p => (paymentTable p.1).under [⟨"kifizetesek", none⟩, ⟨"kifizetes", some p.2⟩])

theorem rootRows_named (r : CreateReceipt) (credentials : Credentials) :
    (r.rootRows credentials).Named := by
  intro row hrow x hx
  simp only [rootRows, List.mem_cons, List.not_mem_nil, or_false] at hrow
  rcases hrow with rfl | rfl | rfl | rfl
  case inr.inr.inr =>
    exact Rows.named_nodeOpt "kifizetesek" kifizetesek r.paymentsOpt _
      (List.mem_singleton.mpr rfl) x hx
  all_goals
    obtain rfl := List.mem_singleton.mp hx
    rfl

theorem placed_root (r : CreateReceipt) (credentials : Credentials) (name : String)
    (cs : List Node) (hrow : (name, node name cs) ∈ r.rootRows credentials) :
    Placed (place [name]) (r.writeXml credentials).children cs := by
  rw [writeXml_children]
  refine placed_row (r.rootRows_named credentials) ?_ hrow
  show Nyugta.xmlnyugtacreate.names.Nodup
  decide

theorem itemRows_named (i : LineItem) : (itemRows i).Named :=
  Rows.named_append (Rows.named_append (itemTable i).rows_named (Rows.named_nodeOpt _ _ _))
    (itemNoteTable i).rows_named

theorem itemRows_nodup (i : LineItem) : ((itemRows i).map Prod.fst).Nodup := by
  show Nyugta.tetelTipus.names.Nodup
  decide

theorem textsAt_itemFields {r : CreateReceipt} (credentials : Credentials) {i : LineItem} {n : Nat}
    (hi : r.items[n]? = some i) :
    ∀ f ∈ itemFields i n, textsAt f.1 (r.writeXml credentials).children = f.2.toList := by
  have hplace : Placed [⟨"tetelek", none⟩, ⟨"tetel", some n⟩] (r.writeXml credentials).children
      (itemRows i).write :=
    (r.placed_root credentials "tetelek" _ (by simp [rootRows])).trans
      (List.cons_ne_nil _ _) (placed_many (f := tetel) hi)
  intro f hf
  simp only [itemFields, List.mem_append, List.mem_flatMap, Option.mem_toList] at hf
  rcases hf with (hf | hf) | ⟨l, hl, hf⟩
  · exact textsAt_under hplace (itemRows_named i) (itemRows_nodup i)
      (fun _ hrow => List.mem_append_left _ (List.mem_append_left _ hrow)) f hf
  · exact textsAt_under hplace (itemRows_named i) (itemRows_nodup i)
      (fun _ hrow => List.mem_append_right _ hrow) f hf
  · have hledger : Placed (place ["fokonyv"]) (itemRows i).write (fokonyv l) := by
      refine placed_row (itemRows_named i) (itemRows_nodup i) ?_
      refine List.mem_append_left _ (List.mem_append_right _ (List.mem_singleton.mpr ?_))
      simp [Option.mem_def.mp hl, nodeOpt]
    rw [fokonyv_eq] at hledger
    refine textsAt_table (hplace.trans (List.cons_ne_nil _ _) hledger) ?_ f hf
    show Nyugta.tetelFokonyvTipus.names.Nodup
    decide

/-- **Nothing is dropped** from a receipt either. -/
theorem textsAt_fields (r : CreateReceipt) (credentials : Credentials) :
    ∀ f ∈ r.fields credentials, textsAt f.1 (r.writeXml credentials).children = f.2.toList := by
  intro f hf
  simp only [fields, List.mem_append, List.mem_flatMap] at hf
  rcases hf with ((hf | hf) | ⟨⟨i, n⟩, hi, hf⟩) | ⟨⟨p, n⟩, hp, hf⟩
  · refine textsAt_table ?_ ?_ f hf
    · rw [← beallitasok_eq]
      exact r.placed_root credentials _ _ (by simp [rootRows])
    · show Nyugta.beallitasokTipus.names.Nodup
      decide
  · refine textsAt_table ?_ ?_ f hf
    · rw [← fejlec_eq]
      exact r.placed_root credentials _ _ (by simp [rootRows])
    · show List.Nodup ["hivasAzonosito", "elotag", "fizmod", "penznem", "devizabank",
        "devizaarf", "megjegyzes", "pdfSablon", "fokonyvVevo", "rendelesSzam"]
      decide
  · have hin : r.items[n]? = some i := by
      simpa using List.mk_mem_zipIdx_iff_getElem?.mp hi
    exact textsAt_itemFields credentials hin f hf
  · have hpn : r.payments[n]? = some p := by
      simpa using List.mk_mem_zipIdx_iff_getElem?.mp hp
    have hne : r.payments.isEmpty = false := by
      cases hpay : r.payments with
      | nil => simp [hpay] at hpn
      | cons => rfl
    have hplace : Placed [⟨"kifizetesek", none⟩, ⟨"kifizetes", some n⟩]
        (r.writeXml credentials).children (paymentTable p).rows.write :=
      (r.placed_root credentials "kifizetesek" (kifizetesek r.payments)
        (by simp [rootRows, paymentsOpt, hne, nodeOpt])).trans (List.cons_ne_nil _ _)
        (placed_many (f := kifizetes) hpn)
    refine textsAt_table hplace ?_ f hf
    show Nyugta.kifizetesTipus.names.Nodup
    decide

end CreateReceipt

/-! ## Accepted create requests -/

/-- **Every accepted create request is an instance of the vendor schema and
drops nothing.** An invoice whose `toWire` succeeds conforms unless a preview
and simplified items are both asked for, and every leaf field of it stands once
at its schema position – the template of a delivery note being the fixed one. A
receipt conforms, keeps every field, and has none its schema cannot hold: a
line with such a field is refused. -/
theorem toWire_conforms_and_keeps_fields :
    (∀ (r : CreateInvoice) (credentials : Credentials) (d : XmlDocument),
      r.toWire credentials = .ok d →
        d.root = "xmlszamla" ∧ d.namespace = "http://www.szamlazz.hu/xmlszamla"
          ∧ (¬ (r.header.previewPdf.isSome ∧ r.header.simpleItems.isSome) →
            Conforms Szamla.xmlszamla (.node d.root d.children))
          ∧ (∀ f ∈ r.fields credentials, textsAt f.1 d.children = f.2.toList)
          ∧ r.template
            = if r.kind = .deliveryNote then some .deliveryNote else r.header.template)
      ∧ (∀ (r : CreateReceipt) (credentials : Credentials) (d : XmlDocument),
        r.toWire credentials = .ok d →
          d.root = "xmlnyugtacreate" ∧ d.namespace = "http://www.szamlazz.hu/xmlnyugtacreate"
            ∧ Conforms Nyugta.xmlnyugtacreate (.node d.root d.children)
            ∧ (∀ f ∈ r.fields credentials, textsAt f.1 d.children = f.2.toList)
            ∧ ∀ i ∈ r.items, ¬ CreateReceipt.CarriesUnsupported i)
      ∧ ∀ r : CreateReceipt, (∃ i ∈ r.items, CreateReceipt.CarriesUnsupported i) →
        ∃ field, r.validate = .error (.unsupportedOnReceipt field) := by
  refine ⟨fun r credentials d h => ?_, fun r credentials d h => ?_, ?_⟩
  · obtain ⟨hvalid, -, rfl⟩ := wireRequest_eq_ok.mp h
    have hr := CreateInvoice.accepted_of_validate hvalid
    refine ⟨rfl, rfl, fun hboth => ?_, r.textsAt_fields credentials, ?_⟩
    · refine CreateInvoice.conforms_writeXml hr credentials ?_
      rw [not_and_or] at hboth
      simpa using hboth
    · unfold CreateInvoice.template
      cases r.kind <;> simp
  · obtain ⟨hvalid, -, rfl⟩ := wireRequest_eq_ok.mp h
    have hr := CreateReceipt.accepted_of_validate hvalid
    refine ⟨rfl, rfl, CreateReceipt.conforms_writeXml hr credentials,
      r.textsAt_fields credentials, fun i hi hcarries => ?_⟩
    have hsome := CreateReceipt.unsupportedOnReceipt_isSome hcarries
    rw [hr.supported i hi] at hsome
    cases hsome
  · rintro r ⟨i, hi, hcarries⟩
    exact CreateReceipt.validate_unsupported hi hcarries

end Szamlazz
