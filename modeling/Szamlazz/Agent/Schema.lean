import Szamlazz.Agent.Receipt

/-!
# The vendor's request schemas

The content models of `xmlszamla.xsd` and `xmlnyugtacreate.xsd`, type by type
under the names the schemas give them, and the rules by which what the writer
appends fits a declaration. An element the writer emits block by block is
described by its *table*: for each element name in order, the text it is
written with, if it is written at all. A table settles both questions asked of
a container – `conforms_of_table` its content model, `textsAt_table` that each
text stands once at its place.
-/

namespace Szamlazz

namespace Xsd

open Xml

/-! ## Declarations -/

/-- `minOccurs="0" maxOccurs="1"`. -/
def opt (name : String) (ty : Ty) : Particle Ty := ⟨name, 0, some 1, ty⟩

/-- `minOccurs="1" maxOccurs="1"`. -/
def req (name : String) (ty : Ty) : Particle Ty := ⟨name, 1, some 1, ty⟩

/-- `minOccurs="1" maxOccurs="unbounded"`. -/
def many (name : String) (ty : Ty) : Particle Ty := ⟨name, 1, none, ty⟩

/-- Any text. -/
def string : Ty := .simple (fun _ => true)
/-- `xs:boolean`. -/
def boolean : Ty := .simple Lexical.isBoolean
/-- `xs:int`. -/
def int : Ty := .simple Lexical.isInt
/-- `xs:double`. -/
def double : Ty := .simple Lexical.isDouble
/-- `xs:date`. -/
def date : Ty := .simple Lexical.isDate

/-- `int` restricted by `minInclusive value="0"`. -/
def nonNegativeInt : Ty := .simple Lexical.isNonNegativeInt

/-! ## `xmlszamla.xsd` -/

namespace Szamla

/-- The ledger data of a buyer. -/
def vevoFokonyvTipus : Ty := .sequence
  [opt "konyvelesDatum" date,
    opt "vevoAzonosito" string,
    opt "vevoFokonyviSzam" string,
    opt "folyamatosTelj" boolean,
    opt "elszDatumTol" date,
    opt "elszDatumIg" date]

/-- The buyer. -/
def vevoTipus : Ty := .sequence
  [req "nev" string,
    opt "orszag" string,
    req "irsz" string,
    req "telepules" string,
    req "cim" string,
    opt "email" string,
    opt "sendEmail" boolean,
    opt "adoalany" int,
    opt "adoszam" string,
    opt "csoportazonosito" string,
    opt "adoszamEU" string,
    opt "postazasiNev" string,
    opt "postazasiOrszag" string,
    opt "postazasiIrsz" string,
    opt "postazasiTelepules" string,
    opt "postazasiCim" string,
    opt "vevoFokonyv" vevoFokonyvTipus,
    opt "azonosito" string,
    opt "alairoNeve" string,
    opt "telefonszam" string,
    opt "megjegyzes" string]

/-- The seller. -/
def eladoTipus : Ty := .sequence
  [opt "bank" string,
    opt "bankszamlaszam" string,
    opt "emailReplyto" string,
    opt "emailTargy" string,
    opt "emailSzoveg" string,
    opt "alairoNeve" string]

/-- The settings: credentials, and what is to be made. -/
def beallitasokTipus : Ty := .sequence
  [opt "felhasznalo" string,
    opt "jelszo" string,
    opt "szamlaagentkulcs" string,
    req "eszamla" boolean,
    req "szamlaLetoltes" boolean,
    opt "szamlaLetoltesPld" int,
    opt "valaszVerzio" int,
    opt "aggregator" string,
    opt "guardian" boolean,
    opt "cikkazoninvoice" boolean,
    opt "szamlaKulsoAzon" string]

/-- The ledger data of a row. -/
def tetelFokonyvTipus : Ty := .sequence
  [opt "gazdasagiEsem" string,
    opt "gazdasagiEsemAfa" string,
    opt "arbevetelFokonyviSzam" string,
    opt "afaFokonyviSzam" string,
    opt "elszDatumTol" date,
    opt "elszDatumIg" date]

/-- A row. -/
def tetelTipus : Ty := .sequence
  [req "megnevezes" string,
    opt "azonosito" string,
    req "mennyiseg" double,
    req "mennyisegiEgyseg" string,
    req "nettoEgysegar" double,
    req "afakulcs" string,
    opt "arresAfaAlap" double,
    req "nettoErtek" double,
    req "afaErtek" double,
    req "bruttoErtek" double,
    opt "megjegyzes" string,
    opt "tetelFokonyv" tetelFokonyvTipus,
    opt "torloKod" nonNegativeInt]

/-- At least one row. -/
def tetelekTipus : Ty := .sequence [many "tetel" tetelTipus]

/-- The languages, as an enumeration. -/
def szamlaNyelveTipus : Ty := .simple (fun text =>
  ["hu", "en", "de", "it", "ro", "sk", "hr", "fr", "es", "cz", "pl", "bg", "nl", "ru",
    "si"].contains text)

/-- The header. -/
def fejlecTipus : Ty := .sequence
  [opt "keltDatum" date,
    req "teljesitesDatum" date,
    req "fizetesiHataridoDatum" date,
    req "fizmod" string,
    req "penznem" string,
    req "szamlaNyelve" szamlaNyelveTipus,
    opt "megjegyzes" string,
    opt "arfolyamBank" string,
    opt "arfolyam" double,
    opt "rendelesSzam" string,
    opt "dijbekeroSzamlaszam" string,
    opt "elolegszamla" boolean,
    opt "vegszamla" boolean,
    opt "elolegSzamlaszam" string,
    opt "helyesbitoszamla" boolean,
    opt "helyesbitettSzamlaszam" string,
    opt "dijbekero" boolean,
    opt "szallitolevel" boolean,
    opt "logoExtra" string,
    opt "szamlaszamElotag" string,
    opt "fizetendoKorrekcio" double,
    opt "fizetve" boolean,
    opt "arresAfa" boolean,
    opt "eusAfa" boolean,
    opt "szamlaSablon" string,
    opt "simpleItems" boolean,
    opt "elonezetpdf" boolean]

def transoflexTipus : Ty := .sequence
  [opt "azonosito" string,
    opt "shipmentID" string,
    opt "csomagszam" int,
    opt "countryCode" string,
    opt "zip" string,
    opt "service" string]

def sprinterTipus : Ty := .sequence
  [opt "azonosito" string,
    opt "feladokod" string,
    opt "iranykod" string,
    opt "csomagszam" int,
    opt "vonalkodPostfix" string,
    opt "szallitasiIdo" string]

def pppTipus : Ty := .sequence
  [opt "vonalkodPrefix" string,
    opt "vonalkodPostfix" string]

def mplTipus : Ty := .sequence
  [req "vevokod" string,
    req "vonalkod" string,
    req "tomeg" string,
    opt "kulonszolgaltatasok" string,
    opt "erteknyilvanitas" double]

/-- The waybill, of one carrier or another. -/
def fuvarlevelTipus : Ty := .sequence
  [opt "uticel" string,
    opt "futarSzolgalat" string,
    opt "vonalkod" string,
    opt "megjegyzes" string,
    opt "tof" transoflexTipus,
    opt "ppp" pppTipus,
    opt "sprinter" sprinterTipus,
    opt "mpl" mplTipus]

/-- The request for an invoice, in this order. -/
def xmlszamla : Ty := .sequence
  [req "beallitasok" beallitasokTipus,
    req "fejlec" fejlecTipus,
    req "elado" eladoTipus,
    req "vevo" vevoTipus,
    opt "fuvarlevel" fuvarlevelTipus,
    req "tetelek" tetelekTipus]

end Szamla

/-! ## `xmlnyugtacreate.xsd` -/

namespace Nyugta

def beallitasokTipus : Ty := .all
  [opt "felhasznalo" string,
    opt "jelszo" string,
    opt "szamlaagentkulcs" string,
    req "pdfLetoltes" boolean]

def fejlecTipus : Ty := .all
  [opt "hivasAzonosito" string,
    req "elotag" string,
    req "fizmod" string,
    req "penznem" string,
    opt "devizaarf" double,
    opt "devizabank" string,
    opt "megjegyzes" string,
    opt "pdfSablon" string,
    opt "fokonyvVevo" string,
    opt "rendelesSzam" string]

def tetelFokonyvTipus : Ty := .all
  [opt "arbevetel" string,
    opt "afa" string]

def tetelTipus : Ty := .all
  [req "megnevezes" string,
    opt "azonosito" string,
    req "mennyiseg" double,
    req "mennyisegiEgyseg" string,
    req "nettoEgysegar" double,
    req "afakulcs" string,
    req "netto" double,
    req "afa" double,
    req "brutto" double,
    opt "fokonyv" tetelFokonyvTipus,
    opt "megjegyzes" string,
    opt "torloKod" nonNegativeInt]

def tetelekTipus : Ty := .sequence [many "tetel" tetelTipus]

/-- A payment of a receipt. -/
def kifizetesTipus : Ty := .all
  [req "fizetoeszkoz" string,
    req "osszeg" double,
    opt "leiras" string]

/-- At least one payment, where they are given. -/
def kifizetesekTipus : Ty := .sequence [many "kifizetes" kifizetesTipus]

/-- The request for a receipt, in any order. -/
def xmlnyugtacreate : Ty := .all
  [req "beallitasok" beallitasokTipus,
    req "fejlec" fejlecTipus,
    req "tetelek" tetelekTipus,
    opt "kifizetesek" kifizetesekTipus]

end Nyugta

/-! ## What the writer appends fits a declaration -/

open Element

/-- An optional text that is written in its lexical form. -/
theorem fits_opt {name : String} {lexical : String → Bool} {value : Option String}
    (h : ∀ v ∈ value, lexical v = true) :
    Fits (opt name (.simple lexical)) (textOpt name value) := by
  cases value with
  | none => exact ⟨⟨Nat.le_refl _, by simp [opt, textOpt]⟩, by simp [textOpt], by simp [textOpt]⟩
  | some v =>
    refine ⟨⟨Nat.zero_le _, by simp [opt, textOpt, text]⟩, by simp [opt, textOpt, text], ?_⟩
    intro x hx
    obtain rfl : x = Node.leaf name v := by simpa [textOpt, text] using hx
    exact Conforms.simple (h v rfl)

/-- The same of a value that is rendered. -/
theorem fits_map_opt {α : Type} {name : String} {lexical : String → Bool} {f : α → String}
    {value : Option α} (h : ∀ a ∈ value, lexical (f a) = true) :
    Fits (opt name (.simple lexical)) (textOpt name (value.map f)) := by
  refine fits_opt (fun v hv => ?_)
  obtain ⟨a, ha, rfl⟩ := Option.map_eq_some_iff.mp hv
  exact h a ha

/-- A text that has to be there. -/
theorem fits_req {name : String} {lexical : String → Bool} {value : String}
    (h : lexical value = true) :
    Fits (req name (.simple lexical)) (textOpt name (some value)) := by
  refine ⟨⟨by simp [req, textOpt, text], by simp [req, textOpt, text]⟩,
    by simp [req, textOpt, text], ?_⟩
  intro x hx
  obtain rfl : x = Node.leaf name value := by simpa [textOpt, text] using hx
  exact Conforms.simple h

/-- A group that has to be there. -/
theorem fits_node {name : String} {ty : Ty} {children : List Node}
    (h : Conforms ty (.node name children)) : Fits (req name ty) (node name children) := by
  refine ⟨⟨by simp [req, node], by simp [req, node]⟩, by simp [req, node], ?_⟩
  intro x hx
  obtain rfl : x = Node.node name children := by simpa [node] using hx
  exact h

/-- A group that may be left out. -/
theorem fits_nodeOpt {α : Type} {name : String} {ty : Ty} {f : α → List Node} {value : Option α}
    (h : ∀ a ∈ value, Conforms ty (.node name (f a))) :
    Fits (opt name ty) (nodeOpt name f value) := by
  cases value with
  | none => exact ⟨⟨Nat.le_refl _, by simp [opt, nodeOpt]⟩, by simp [nodeOpt], by simp [nodeOpt]⟩
  | some a =>
    refine ⟨⟨Nat.zero_le _, by simp [opt, nodeOpt, node]⟩, by simp [opt, nodeOpt, node], ?_⟩
    intro x hx
    obtain rfl : x = Node.node name (f a) := by simpa [nodeOpt, node] using hx
    exact h a rfl

/-- The entries of a list, each in an element of its own. -/
theorem flatMap_node {α : Type} (name : String) (f : α → List Node) (values : List α) :
    values.flatMap (fun a => node name (f a)) = values.map (fun a => Node.node name (f a)) :=
  List.map_eq_flatMap.symm

/-- A list that has an entry. -/
theorem fits_many {α : Type} {name : String} {ty : Ty} {f : α → List Node} {values : List α}
    (hne : values ≠ []) (h : ∀ a ∈ values, Conforms ty (.node name (f a))) :
    Fits (many name ty) (values.flatMap (fun a => node name (f a))) := by
  rw [flatMap_node]
  refine ⟨⟨?_, by simp [many]⟩, ?_, ?_⟩
  · simpa [many, Nat.one_le_iff_ne_zero] using hne
  · simp [many]
  · intro x hx
    obtain ⟨a, ha, rfl⟩ := List.mem_map.mp hx
    exact h a ha

/-! ## Tables

The rows of a container, in the order they are written: an element name, and
the occurrences of it. `Table` is the part of a container that is text only. -/

/-- The rows of a table of blocks: the name of an element and what is written under it. -/
abbrev Rows := List (String × List Node)

/-- What the rows write. -/
def Rows.write (rows : Rows) : List Node := (rows.map Prod.snd).flatten

/-- Each row holds occurrences of its own element. -/
def Rows.Named (rows : Rows) : Prop := ∀ row ∈ rows, ∀ x ∈ row.2, x.name = row.1

/-- A table of optional texts, by the names of their elements. -/
abbrev Table := List (String × Option String)

/-- The rows of a table. -/
def Table.rows (t : Table) : Rows := t.map (fun f => (f.1, textOpt f.1 f.2))

/-- A text is written under its own name. -/
theorem Table.rows_named (t : Table) : Rows.Named t.rows := by
  intro row hrow x hx
  obtain ⟨⟨name, value⟩, -, rfl⟩ := List.mem_map.mp hrow
  cases value with
  | none => cases hx
  | some v =>
    obtain rfl : x = Node.leaf name v := by simpa [textOpt, text] using hx
    rfl

/-- Blocks of rows are named one by one. -/
theorem Rows.named_append {rows rows' : Rows} (h : rows.Named) (h' : rows'.Named) :
    Rows.Named (rows ++ rows') := by
  intro row hrow
  rcases List.mem_append.mp hrow with hrow | hrow
  · exact h row hrow
  · exact h' row hrow

/-- A group is written under its own name. -/
theorem Rows.named_nodeOpt {α : Type} (name : String) (f : α → List Node) (value : Option α) :
    Rows.Named [(name, nodeOpt name f value)] := by
  intro row hrow x hx
  obtain rfl := List.mem_singleton.mp hrow
  cases value with
  | none => cases hx
  | some a =>
    obtain rfl : x = Node.node name (f a) := by simpa [nodeOpt, node] using hx
    rfl

/-- **A row is read back by its element name.** -/
theorem Rows.named_write {rows : Rows} (h : rows.Named) (hnodup : (rows.map Prod.fst).Nodup)
    {row : String × List Node} (hrow : row ∈ rows) : named row.1 rows.write = row.2 := by
  have hlabel : Labelled (rows.map Prod.fst) (rows.map Prod.snd) := by
    clear hrow hnodup
    induction rows with
    | nil => exact .nil
    | cons r rows ih =>
      exact .cons (h r List.mem_cons_self) (ih (fun x hx => h x (List.mem_cons_of_mem _ hx)))
  refine named_flatten hlabel hnodup ?_
  rw [List.zip_map']
  exact List.mem_map.mpr ⟨row, hrow, rfl⟩

/-! ## Places -/

/-- **The element at the end of `path` has the children `cs`.** -/
def Placed (path : List Step) (ns cs : List Node) : Prop :=
  ∀ (t : Step) (rest : List Step), textsAt (path ++ t :: rest) ns = textsAt (t :: rest) cs

/-- The one element that a step selects. -/
theorem placed_of_select {s : Step} {ns cs : List Node} (name : String)
    (h : s.select ns = [.node name cs]) : Placed [s] ns cs := by
  intro t rest
  simp [textsAt, nodesAt, h]

/-- Places in places. -/
theorem Placed.trans {p q : List Step} {ns cs ds : List Node} (hq : q ≠ []) (h : Placed p ns cs)
    (h' : Placed q cs ds) : Placed (p ++ q) ns ds := by
  intro t rest
  cases q with
  | nil => exact absurd rfl hq
  | cons s q =>
    rw [List.append_assoc, List.cons_append, h s (q ++ t :: rest)]
    exact h' t rest

/-- The children of a row that is written. -/
theorem placed_row {rows : Rows} (h : rows.Named) (hnodup : (rows.map Prod.fst).Nodup)
    {name : String} {cs : List Node} (hrow : (name, node name cs) ∈ rows) :
    Placed [⟨name, none⟩] rows.write cs :=
  placed_of_select name (Rows.named_write h hnodup hrow)

/-- The children of one of several elements. -/
theorem placed_many {α : Type} {name : String} {f : α → List Node} {values : List α} {a : α}
    {i : Nat} (ha : values[i]? = some a) :
    Placed [⟨name, some i⟩] (values.flatMap (fun a => node name (f a))) (f a) := by
  refine placed_of_select name ?_
  have hnamed : named name (values.map (fun a => Node.node name (f a)))
      = values.map (fun a => Node.node name (f a)) :=
    List.filter_eq_self.mpr (by simp)
  simp [Step.select, flatMap_node, hnamed, ha]

/-- The texts of a table, each with its place below `path`. -/
def Table.under (path : List Step) (t : Table) : List (List Step × Option String) :=
  t.map (fun f => (path ++ [⟨f.1, none⟩], f.2))

/-- **Each text of a table stands once at its place** – or not at all, if the
request has none. -/
theorem textsAt_under {path : List Step} {ns : List Node} {rows : Rows}
    (hplace : Placed path ns rows.write) (h : rows.Named) (hnodup : (rows.map Prod.fst).Nodup)
    {t : Table} (ht : ∀ row ∈ t.rows, row ∈ rows) :
    ∀ f ∈ t.under path, textsAt f.1 ns = f.2.toList := by
  intro f hf
  obtain ⟨⟨name, value⟩, hmem, rfl⟩ := List.mem_map.mp hf
  have hrow : (name, textOpt name value) ∈ rows := ht _ (List.mem_map.mpr ⟨_, hmem, rfl⟩)
  show textsAt (path ++ [⟨name, none⟩]) ns = value.toList
  rw [hplace ⟨name, none⟩ []]
  show (named name rows.write).filterMap Node.text? = value.toList
  rw [Rows.named_write h hnodup hrow]
  cases value <;> rfl

/-- The same for a container that is nothing but its table. -/
theorem textsAt_table {path : List Step} {ns : List Node} {t : Table}
    (hplace : Placed path ns t.rows.write) (hnodup : (t.rows.map Prod.fst).Nodup) :
    ∀ f ∈ t.under path, textsAt f.1 ns = f.2.toList :=
  textsAt_under hplace t.rows_named hnodup (fun _ hrow => hrow)

end Xsd

end Szamlazz
