import Szamlazz.Lib.Shelf
import Szamlazz.Push.Versions

/-!
# Sources under an overwriting archiver

An archiver that overwrites keeps one source under each name. An invoice or a bank
transaction is named by its id, so only a redelivery replaces it. A receipt batch is
named by its least and its greatest id, and a batch with other receipts between the
two has the same name: the delivery of one removes the only source of the others'
receipts (`overwritten_batch`).

The names are slots of a shelf, on which every delivery takes the place of what stood
in its slot; the store holds exactly the sources that stand (`stored_of_stands`), and
the shelf says when nothing is lost (`sources_kept_iff`).
-/

namespace Szamlazz.Archive

open Adatkapcsolat ObjectStore

/-! ## Records and slots -/

/-- An invoice, a bank transaction or a receipt, by its kind and its id. -/
abbrev Record : Type := RootKind × Int64

section Slots

variable {D : Type}

/-- The records a document contains. -/
def Document.records : Document D → List Record
  | .outgoingInvoice invoice => [(.outgoingInvoice, invoice.id)]
  | .incomingInvoice invoice => [(.incomingInvoice, invoice.id)]
  | .bankTransaction transaction => [(.bankTransaction, transaction.id)]
  | .receipts batch => batch.receipts.map (fun receipt => (.receipts, receipt.id))

def Document.rawXml : Document D → Option Bytes
  | .outgoingInvoice invoice | .incomingInvoice invoice => invoice.rawXml
  | .bankTransaction transaction => transaction.rawXml
  | .receipts batch => batch.rawXml

/-- **What a source is named by**: a record, or the least and the greatest id of a batch,
and the month. -/
inductive Slot where
  | record (kind : RootKind) (m : Month) (id : Int64)
  | batch (m : Month) (firstId lastId : Int64)
  deriving DecidableEq

def Slot.kind : Slot → RootKind
  | record kind _ _ => kind
  | batch _ _ _ => .receipts

def Slot.month : Slot → Month
  | record _ m _ => m
  | batch m _ _ => m

def Slot.name : Slot → String
  | record _ _ id => toString id.toInt
  | batch _ firstId lastId => Archiver.batchName firstId lastId

/-- Where the source of a slot is. -/
def Slot.path (slot : Slot) : String :=
  Archiver.latestPath (objectPath slot.kind slot.month slot.name) "xml"

/-- The slot of a document under a layout; a batch without receipts has none. -/
def Document.slot (layout : Layout) : Document D → Option Slot
  | .outgoingInvoice invoice =>
    some (.record .outgoingInvoice (layout.month invoice.issueDate) invoice.id)
  | .incomingInvoice invoice =>
    some (.record .incomingInvoice (layout.month invoice.issueDate) invoice.id)
  | .bankTransaction transaction =>
    some (.record .bankTransaction (layout.month transaction.valueDate) transaction.id)
  | .receipts batch =>
    let ids := batch.receipts.map ReceiptDocument.id
    match ids.min?, ids.max? with
    | some firstId, some lastId =>
      some (.batch (layout.month (batch.receipts.findSome? ReceiptDocument.issueDate))
        firstId lastId)
    | _, _ => none

theorem Slot.plain_name (slot : Slot) : Plain slot.name := by
  cases slot with
  | record _ _ id => exact plain_toString _
  | batch _ firstId lastId => exact Archiver.plain_batchName _ _

theorem toString_int64_inj {id id' : Int64} (h : toString id.toInt = toString id'.toInt) :
    id = id' := by
  have hlist := congrArg String.toList h
  rw [Digits.toList_toString_int, Digits.toList_toString_int] at hlist
  exact Int64.toInt_inj.mp (Digits.signed_injective hlist)

theorem toList_batchName (firstId lastId : Int64) : (Archiver.batchName firstId lastId).toList
    = "batch-".toList ++ (Digits.signed 0 firstId.toInt ++ '-' :: Digits.signed 0 lastId.toInt) := by
  rw [Archiver.batchName, String.toList_append, String.toList_append, String.toList_append,
    Digits.toList_toString_int, Digits.toList_toString_int, List.append_assoc, List.append_assoc]
  rfl

/-- A batch is not named like a record. -/
theorem batchName_ne (firstId lastId id : Int64) :
    Archiver.batchName firstId lastId ≠ toString id.toInt := by
  intro h
  have hmem : 'b' ∈ (Archiver.batchName firstId lastId).toList := by
    rw [toList_batchName]
    exact List.mem_append_left _ (by decide)
  rw [h, Digits.toList_toString_int] at hmem
  exact absurd (Digits.mem_signed hmem) (by decide)

theorem batchName_inj {firstId lastId firstId' lastId' : Int64}
    (h : Archiver.batchName firstId lastId = Archiver.batchName firstId' lastId') :
    firstId = firstId' ∧ lastId = lastId' := by
  have hlist := congrArg String.toList h
  rw [toList_batchName, toList_batchName] at hlist
  obtain ⟨hfirst, hlast⟩ := Digits.signed_append_inj rfl (List.append_cancel_left hlist)
  exact ⟨Int64.toInt_inj.mp hfirst, Int64.toInt_inj.mp (Digits.signed_injective hlast)⟩

/-- **Different slots have different paths.** -/
theorem Slot.path_injective {slot slot' : Slot} (h : slot.path = slot'.path) : slot = slot' := by
  have hdot : ∀ slot : Slot, '.' ∉ (objectPath slot.kind slot.month slot.name).toList :=
    fun slot => notMem_objectPath _ _ slot.plain_name
  obtain ⟨hkind, hmonth, hname⟩ := objectPath_inj slot.plain_name slot'.plain_name
    (Archiver.latestPath_inj (hdot _) (hdot _) h).1
  cases slot with
  | record kind m id =>
    cases slot' with
    | record kind' m' id' =>
      obtain rfl : kind = kind' := hkind
      obtain rfl : m = m' := hmonth
      rw [toString_int64_inj hname]
    | batch m' firstId lastId => exact absurd hname.symm (batchName_ne _ _ _)
  | batch m firstId lastId =>
    cases slot' with
    | record kind' m' id' => exact absurd hname (batchName_ne _ _ _)
    | batch m' firstId' lastId' =>
      obtain rfl : m = m' := hmonth
      obtain ⟨rfl, rfl⟩ := batchName_inj hname
      rfl

end Slots

/-! ## What an overwriting delivery does -/

section Delivery

variable {D S J : Type} {toVecPretty : D → Except J Bytes} {a : Archiver}

/-- The source of a slot, as an artifact. -/
def Slot.source (slot : Slot) (xml : Bytes) : Archiver.Artifact J :=
  ⟨objectPath slot.kind slot.month slot.name, "xml", .ok xml⟩

theorem mem_part {kind : RootKind} {name : String} {date : Option Date} {extension : String}
    {save : Bool} {bytes : Option Bytes} {artifact : Archiver.Artifact J} :
    artifact ∈ a.part kind name date extension save bytes ↔ save = true
      ∧ ∃ b, bytes = some b
        ∧ artifact = ⟨objectPath kind (a.layout.month date) name, extension, .ok b⟩ := by
  unfold Archiver.part
  rw [Archiver.path_eq]
  cases bytes with
  | none => simp
  | some b => cases save <;> simp

theorem mem_dataPart {kind : RootKind} {name : String} {date : Option Date} {data : D}
    {artifact : Archiver.Artifact J} (h : artifact ∈ a.dataPart toVecPretty kind name date data) :
    artifact.extension = "json" := by
  unfold Archiver.dataPart at h
  split_ifs at h
  · rw [List.mem_singleton.mp h]
  · exact absurd h List.not_mem_nil

/-- The XML part is the source of the slot, and nothing else is XML. -/
theorem mem_part_xml (hsave : a.saveXml = true) (slot : Slot) {date : Option Date}
    (hmonth : a.layout.month date = slot.month) {rawXml : Option Bytes}
    {rest : List (Archiver.Artifact J)} (hrest : ∀ artifact ∈ rest, artifact.extension ≠ "xml")
    {artifact : Archiver.Artifact J} :
    artifact ∈ a.part slot.kind slot.name date "xml" a.saveXml rawXml ++ rest
        ∧ artifact.extension = "xml"
      ↔ ∃ slot' xml, some slot = some slot' ∧ rawXml = some xml ∧ artifact = slot'.source xml := by
  rw [List.mem_append, mem_part, hmonth]
  constructor
  · rintro ⟨⟨-, xml, hxml, rfl⟩ | hmem, hextension⟩
    · exact ⟨slot, xml, rfl, hxml, rfl⟩
    · exact absurd hextension (hrest _ hmem)
  · rintro ⟨slot', xml, heq, hxml, rfl⟩
    obtain rfl := Option.some.inj heq
    exact ⟨Or.inl ⟨hsave, xml, hxml, rfl⟩, rfl⟩

variable (toVecPretty) in
/-- **The XML among the artifacts of a document is its source**, in its slot. -/
theorem mem_artifacts_xml (hsave : a.saveXml = true) {document : Document D}
    {artifact : Archiver.Artifact J} :
    artifact ∈ a.artifacts toVecPretty document ∧ artifact.extension = "xml" ↔
      ∃ slot xml, document.slot a.layout = some slot ∧ document.rawXml = some xml
        ∧ artifact = slot.source xml := by
  have hdata : ∀ {kind name date} {data : D}, ∀ artifact ∈ a.dataPart toVecPretty kind name date data,
      artifact.extension ≠ "xml" := by
    intro kind name date data artifact h heq
    rw [mem_dataPart h] at heq
    exact absurd heq (by decide)
  have hrest : ∀ {kind name date} {pdf : Option Bytes} {data : D},
      ∀ artifact ∈ a.part kind name date "pdf" a.savePdf pdf
        ++ a.dataPart toVecPretty kind name date data, artifact.extension ≠ "xml" := by
    intro kind name date pdf data artifact h
    rcases List.mem_append.mp h with h | h
    · obtain ⟨-, b, -, rfl⟩ := mem_part.mp h
      exact show "pdf" ≠ "xml" by decide
    · exact hdata artifact h
  cases document with
  | outgoingInvoice invoice =>
    exact mem_part_xml hsave (.record .outgoingInvoice _ invoice.id) rfl hrest
  | incomingInvoice invoice =>
    exact mem_part_xml hsave (.record .incomingInvoice _ invoice.id) rfl hrest
  | bankTransaction transaction =>
    exact mem_part_xml hsave (.record .bankTransaction _ transaction.id) rfl hdata
  | receipts batch =>
    have hreceipts : ∀ artifact ∈ batch.receipts.flatMap (a.receiptArtifacts toVecPretty),
        artifact.extension ≠ "xml" := by
      intro artifact h
      obtain ⟨receipt, -, h⟩ := List.mem_flatMap.mp h
      exact hdata artifact h
    have hnone : artifact ∈ batch.receipts.flatMap (a.receiptArtifacts toVecPretty)
        ∧ artifact.extension = "xml" ↔ ∃ slot xml, none = some slot ∧ batch.rawXml = some xml
          ∧ artifact = (slot : Slot).source xml :=
      ⟨fun h => absurd h.2 (hreceipts artifact h.1), fun ⟨_, _, h, _⟩ => by cases h⟩
    unfold Archiver.artifacts Archiver.batchArtifacts Document.slot Document.rawXml
    dsimp only
    generalize (batch.receipts.map ReceiptDocument.id).min? = least
    generalize (batch.receipts.map ReceiptDocument.id).max? = greatest
    rcases least with - | firstId
    · exact hnone
    · rcases greatest with - | lastId
      · exact hnone
      · exact mem_part_xml hsave (.batch _ firstId lastId) rfl hreceipts

/-- The delivery of a document is accepted, and this is the store before and after. -/
def Accepted (S : Type) (toVecPretty : D → Except J Bytes) (a : Archiver)
    (store : String → Option Bytes) (document : Document D) (store' : String → Option Bytes) : Prop :=
  ∃ (tr : List (Written Unit S)) (w : Archives Unit S J) (answer : InvoiceAck ⊕ Ack),
    Run (deliveries toVecPretty (fun _ => a) (fun _ => document) store) tr w
      ∧ w.running () = .ret (.ok answer) ∧ w.store = store'

theorem requests_overwrite (hmode : a.redelivery = .overwrite) (artifact : Archiver.Artifact J) :
    (artifact.requests a : List (Except (ArchiveError S J) _))
      = match artifact.bytes with
        | .ok bytes => [.ok (Archiver.latest artifact.base artifact.extension bytes)]
        | .error error => [.error (.serialize error)] := by
  unfold Archiver.Artifact.requests Archiver.requests
  rw [hmode]
  cases artifact.bytes <;> rfl

/-- The writes of an accepted delivery under an overwriting archiver: one put of each
artifact. -/
theorem accepted_writes (hmode : a.redelivery = .overwrite) {store : String → Option Bytes}
    {document : Document D} {tr : List (Written Unit S)} {w : Archives Unit S J}
    {answer : InvoiceAck ⊕ Ack}
    (h : Run (deliveries toVecPretty (fun _ => a) (fun _ => document) store) tr w)
    (hret : w.running () = .ret (.ok answer)) :
    tr.map (fun e => (Except.ok e.request : Except (ArchiveError S J) _))
        = a.documentRequests toVecPretty S document
      ∧ ∀ e ∈ tr, e.written = true ∧ ∃ artifact ∈ a.artifacts toVecPretty document,
        artifact.bytes = .ok e.request.value
          ∧ e.key = Archiver.latestPath artifact.base artifact.extension := by
  have hruns : Prog.Runs (a.deliver toVecPretty document : Archiver.Archiving S J _)
      (transcript () tr) (.ok answer) := by
    have hsteps := h.steps ()
    rwa [hret] at hsteps
  obtain ⟨-, -, hall⟩ := a.ensures_deliver toVecPretty document _ _ hruns
  obtain ⟨-, hmap, hok⟩ := hall answer rfl
  have htranscript : transcript () tr = tr.map (fun e => ⟨e.request, e.answer⟩) := by
    rw [transcript, List.filter_eq_self.mpr fun e _ => decide_eq_true (Subsingleton.elim _ _)]
  rw [htranscript, List.map_map] at hmap
  refine ⟨hmap, fun e he => ⟨h.written e he (hok _ (mem_transcript he rfl)), ?_⟩⟩
  have hmem : (Except.ok e.request : Except (ArchiveError S J) _)
      ∈ a.documentRequests toVecPretty S document := by
    rw [← hmap]
    exact List.mem_map.mpr ⟨e, he, rfl⟩
  obtain ⟨artifact, hartifact, hrequest⟩ := List.mem_flatMap.mp hmem
  have htargets := h.targets e he
  rw [requests_overwrite hmode] at hrequest
  cases hbytes : artifact.bytes with
  | error error =>
    rw [hbytes] at hrequest
    cases List.mem_singleton.mp hrequest
  | ok bytes =>
    rw [hbytes] at hrequest
    rw [Except.ok.inj (List.mem_singleton.mp hrequest)] at htargets ⊢
    exact ⟨artifact, hartifact, hbytes, htargets⟩

/-- **An accepted delivery puts its source into its slot** and leaves every other slot
as it was. -/
theorem Accepted.store_eq (hsave : a.saveXml = true) (hmode : a.redelivery = .overwrite)
    {store store' : String → Option Bytes} {document : Document D}
    (h : Accepted S toVecPretty a store document store') :
    (∀ slot xml, document.slot a.layout = some slot → document.rawXml = some xml →
        store' slot.path = some xml)
      ∧ ∀ slot, document.slot a.layout ≠ some slot → store' slot.path = store slot.path := by
  obtain ⟨tr, w, answer, hrun, hret, rfl⟩ := h
  obtain ⟨hmap, hwrites⟩ := accepted_writes hmode hrun hret
  rw [hrun.store_eq]
  -- What is written under the path of a slot is the source of the document.
  have hpath : ∀ e ∈ tr, ∀ slot : Slot, e.key = slot.path → document.slot a.layout = some slot
      ∧ document.rawXml = some e.request.value := by
    intro e he slot hkey
    obtain ⟨-, artifact, hartifact, hbytes, hkey'⟩ := hwrites e he
    have hnamed := a.wellNamed_artifacts toVecPretty document artifact hartifact
    rw [hkey', Slot.path] at hkey
    obtain ⟨-, hextension⟩ := Archiver.latestPath_inj hnamed.1
      (notMem_objectPath _ _ slot.plain_name) hkey
    obtain ⟨slot', xml, hslot', hxml, rfl⟩ := (mem_artifacts_xml toVecPretty hsave).mp ⟨hartifact, hextension⟩
    obtain rfl : slot' = slot := Slot.path_injective hkey
    rw [hslot', hxml, Except.ok.inj hbytes]
    exact ⟨rfl, rfl⟩
  constructor
  · intro slot xml hslot hxml
    refine after_of_exists (fun e he _ hkey => ?_) ?_
    · have hvalue := (hpath e he slot hkey).2
      rw [hxml] at hvalue
      exact (Option.some.inj hvalue).symm
    · obtain ⟨hmem, -⟩ := (mem_artifacts_xml toVecPretty hsave).mpr
        ⟨slot, xml, hslot, hxml, rfl⟩
      have hrequest : (Except.ok (Archiver.latest (objectPath slot.kind slot.month slot.name) "xml"
          xml) : Except (ArchiveError S J) _) ∈ a.documentRequests toVecPretty S document := by
        refine List.mem_flatMap.mpr ⟨_, hmem, ?_⟩
        rw [requests_overwrite hmode]
        exact List.mem_singleton_self _
      rw [← hmap] at hrequest
      obtain ⟨e, he, hlatest⟩ := List.mem_map.mp hrequest
      have htargets := hrun.targets e he
      rw [Except.ok.inj hlatest] at htargets
      exact ⟨e, he, (hwrites e he).1, htargets⟩
  · intro slot hslot
    refine after_of_notMem fun e he _ hkey => ?_
    exact hslot (hpath e he slot hkey).1

/-- **Deliveries accepted one after the other.** -/
inductive Delivered (S : Type) (toVecPretty : D → Except J Bytes) (a : Archiver)
    (store : String → Option Bytes) : List (Document D) → (String → Option Bytes) → Prop where
  | nil : Delivered S toVecPretty a store [] store
  | snoc {documents : List (Document D)} {document : Document D}
      {store' store'' : String → Option Bytes}
      (h : Delivered S toVecPretty a store documents store')
      (haccepted : Accepted S toVecPretty a store' document store'') :
      Delivered S toVecPretty a store (documents ++ [document]) store''

/-! ## What is kept -/

/-- `r` is a record of the document. -/
def Contains (document : Document D) (r : Record) : Prop := r ∈ document.records

/-- **Every record delivered has a source**: the store holds, in its slot, the XML of a
delivery that contains the record. -/
def SourcesKept (layout : Layout) (documents : List (Document D))
    (store : String → Option Bytes) : Prop :=
  ∀ document ∈ documents, ∀ r ∈ document.records, ∃ document' ∈ documents,
    r ∈ document'.records ∧ ∃ slot xml, document'.slot layout = some slot
      ∧ document'.rawXml = some xml ∧ store slot.path = some xml

/-- The document is what its raw XML is parsed to. -/
def Parsed (parse : Bytes → Option (Document D)) (document : Document D) : Prop :=
  ∃ xml, document.rawXml = some xml ∧ parse xml = some document

theorem records_eq_of_slot {layout : Layout} {document : Document D} {kind : RootKind} {m : Month}
    {id : Int64} (h : document.slot layout = some (.record kind m id)) :
    document.records = [(kind, id)] := by
  cases document with
  | outgoingInvoice invoice => cases h; rfl
  | incomingInvoice invoice => cases h; rfl
  | bankTransaction transaction => cases h; rfl
  | receipts batch =>
    unfold Document.slot at h
    dsimp only at h
    split at h
    · cases Option.some.inj h
    · cases h

/-- A document without a slot contains nothing. -/
theorem not_contains_of_slot {layout : Layout} {document : Document D}
    (h : document.slot layout = none) (r : Record) : ¬ Contains document r := by
  cases document with
  | outgoingInvoice invoice => cases h
  | incomingInvoice invoice => cases h
  | bankTransaction transaction => cases h
  | receipts batch =>
    intro hr
    obtain ⟨receipt, hreceipt, -⟩ := List.mem_map.mp hr
    have hne : batch.receipts.map ReceiptDocument.id ≠ [] := fun hnil =>
      List.ne_nil_of_mem hreceipt (List.map_eq_nil_iff.mp hnil)
    obtain ⟨least, hleast⟩ := Option.isSome_iff_exists.mp (List.isSome_min?_of_ne_nil hne)
    obtain ⟨greatest, hgreatest⟩ := Option.isSome_iff_exists.mp (List.isSome_max?_of_ne_nil hne)
    unfold Document.slot at h
    dsimp only at h
    rw [hleast, hgreatest] at h
    cases h

/-- **An invoice or a transaction takes the place of the same record** only. -/
theorem spares_of_record {layout : Layout} {documents : List (Document D)} {document : Document D}
    (h : ∀ batch, document ≠ .receipts batch) :
    Shelf.Spares (Document.slot layout) Contains documents document := by
  have hslot : ∃ kind m id, document.slot layout = some (.record kind m id) := by
    cases document with
    | outgoingInvoice invoice => exact ⟨_, _, _, rfl⟩
    | incomingInvoice invoice => exact ⟨_, _, _, rfl⟩
    | bankTransaction transaction => exact ⟨_, _, _, rfl⟩
    | receipts batch => exact absurd rfl (h batch)
  obtain ⟨kind, m, id, hslot⟩ := hslot
  intro document' _ heq r hr
  rw [Contains, records_eq_of_slot (heq.trans hslot)] at hr
  rw [Contains, records_eq_of_slot hslot]
  exact Or.inl hr

variable {store store' : String → Option Bytes} {documents : List (Document D)}

/-- **The store holds the sources that stand.** -/
theorem stored_of_stands (hsave : a.saveXml = true) (hmode : a.redelivery = .overwrite)
    (h : Delivered S toVecPretty a store documents store') {document : Document D}
    (hstands : Shelf.Stands (Document.slot a.layout) documents document) {slot : Slot} {xml : Bytes}
    (hslot : document.slot a.layout = some slot) (hxml : document.rawXml = some xml) :
    store' slot.path = some xml := by
  induction h with
  | nil => exact absurd hstands.mem List.not_mem_nil
  | snoc _ haccepted ih =>
    obtain ⟨hput, hleft⟩ := haccepted.store_eq hsave hmode
    rcases Shelf.stands_snoc.mp hstands with ⟨rfl, -⟩ | ⟨hstands, hne⟩
    · exact hput slot xml hslot hxml
    · rw [hleft slot (fun heq => hne (hslot.trans heq.symm))]
      exact ih hstands

/-- **The sources are kept exactly when the shelf covers the records.** -/
theorem sourcesKept_iff (hsave : a.saveXml = true) (hmode : a.redelivery = .overwrite)
    {parse : Bytes → Option (Document D)} (hparse : ∀ document ∈ documents, Parsed parse document)
    (h : Delivered S toVecPretty a store documents store') :
    SourcesKept a.layout documents store'
      ↔ Shelf.Covered (Document.slot a.layout) Contains documents := by
  constructor
  · intro hkept document hdocument r hr
    obtain ⟨document', hdocument', hr', slot, xml, hslot, hxml, hstored⟩ :=
      hkept document hdocument r hr
    have hsome : (document'.slot a.layout).isSome = true := Option.isSome_of_mem hslot
    obtain ⟨stands, hstands, heq⟩ := Shelf.exists_stands hdocument' hsome
    obtain ⟨xml', hxml', hparse'⟩ := hparse stands hstands.mem
    -- What stands in the slot is what is stored there, and it is parsed to the same.
    have hsame := stored_of_stands hsave hmode h hstands (heq.trans hslot) hxml'
    rw [hstored] at hsame
    obtain ⟨xml'', hxml'', hparse''⟩ := hparse document' hdocument'
    rw [hxml] at hxml''
    rw [← Option.some.inj hsame, Option.some.inj hxml'', hparse''] at hparse'
    exact ⟨stands, hstands, Option.some.inj hparse' ▸ hr'⟩
  · intro hcovered document hdocument r hr
    obtain ⟨document', hstands, hr'⟩ := hcovered document hdocument r hr
    obtain ⟨slot, hslot⟩ := Option.isSome_iff_exists.mp hstands.1
    obtain ⟨xml, hxml, -⟩ := hparse document' hstands.mem
    exact ⟨document', hstands.mem, hr', slot, xml, hslot, hxml,
      stored_of_stands hsave hmode h hstands hslot hxml⟩

/-- What was delivered was delivered from the start on. -/
theorem Delivered.of_prefix (h : Delivered S toVecPretty a store documents store')
    {l : List (Document D)} (hl : l <+: documents) :
    ∃ store'', Delivered S toVecPretty a store l store'' := by
  induction h with
  | nil =>
    obtain rfl := List.prefix_nil.mp hl
    exact ⟨store, .nil⟩
  | @snoc documents document s s' h haccepted ih =>
    rcases List.prefix_concat_iff.mp hl with rfl | hl
    · exact ⟨s', h.snoc haccepted⟩
    · exact ih hl

/-- **When an overwriting archiver keeps a source of every record.** Over any accepted
deliveries of parsed documents, every record delivered so far has its source in every
store reached, exactly when no receipt batch takes the place of a batch of the same
month, least id and greatest id with a receipt that neither it nor a source standing
elsewhere contains. -/
theorem sources_kept_iff (hsave : a.saveXml = true) (hmode : a.redelivery = .overwrite)
    {parse : Bytes → Option (Document D)} (hparse : ∀ document ∈ documents, Parsed parse document)
    (h : Delivered S toVecPretty a store documents store') :
    (∀ l s, l <+: documents → Delivered S toVecPretty a store l s → SourcesKept a.layout l s)
      ↔ ∀ l batch, l ++ [.receipts batch] <+: documents →
        Shelf.Spares (Document.slot a.layout) Contains l (.receipts batch) := by
  have hparsed : ∀ l, l <+: documents → ∀ document ∈ l, Parsed parse document :=
    fun l hl document hdocument => hparse document (hl.subset hdocument)
  have hslots : ∀ document ∈ documents, document.slot a.layout = none →
      ∀ r, ¬ Contains document r := fun document _ hslot => not_contains_of_slot hslot
  have hcovered := Shelf.covered_iff hslots
  constructor
  · intro hkept l batch hl
    refine hcovered.mp (fun l' hl' => ?_) l _ hl
    obtain ⟨s, hs⟩ := h.of_prefix hl'
    exact (sourcesKept_iff hsave hmode (hparsed l' hl') hs).mp (hkept l' s hl' hs)
  · intro hspares l s hl hs
    refine (sourcesKept_iff hsave hmode (hparsed l hl) hs).mpr (hcovered.mpr ?_ l hl)
    intro l' document hl'
    by_cases hbatch : ∃ batch, document = .receipts batch
    · obtain ⟨batch, rfl⟩ := hbatch
      exact hspares l' batch hl'
    · exact spares_of_record fun batch heq => hbatch ⟨batch, heq⟩

/-- A store that takes every write accepts every document that can be rendered. -/
theorem exists_accepted (S : Type) (hmode : a.redelivery = .overwrite)
    (hrender : ∀ data, ∃ json, toVecPretty data = .ok json) (document : Document D)
    (store : String → Option Bytes) : ∃ store', Accepted S toVecPretty a store document store' := by
  have hbytes : ∀ artifact ∈ a.artifacts toVecPretty document, ∃ bytes, artifact.bytes = .ok bytes :=
    a.artifacts_cases toVecPretty (fun _ _ _ _ bytes _ _ => ⟨bytes, rfl⟩)
      (fun _ _ _ data _ => hrender data) document
  have hputs : ∀ r ∈ a.documentRequests toVecPretty S document, ∃ key value,
      r = .ok (.put key value) := by
    intro r hr
    obtain ⟨artifact, hartifact, hr⟩ := List.mem_flatMap.mp hr
    obtain ⟨bytes, hb⟩ := hbytes artifact hartifact
    rw [requests_overwrite hmode, hb] at hr
    exact ⟨_, _, List.mem_singleton.mp hr⟩
  obtain ⟨tr, store', hrun⟩ := exists_run_writeAll ArchiveError.storage hputs
    (ExceptT.bindCont fun _ => pure (Archiver.ack document)) store
  refine ⟨store', tr, ⟨store', fun _ => .ret (.ok (Archiver.ack document))⟩,
    Archiver.ack document, ?_, rfl, rfl⟩
  rw [deliveries, Archiver.deliver_eq]
  exact hrun

theorem exists_delivered (S : Type) (hmode : a.redelivery = .overwrite)
    (hrender : ∀ data, ∃ json, toVecPretty data = .ok json) (documents : List (Document D))
    (store : String → Option Bytes) :
    ∃ store', Delivered S toVecPretty a store documents store' := by
  induction documents using List.reverseRecOn with
  | nil => exact ⟨store, .nil⟩
  | append_singleton documents document ih =>
    obtain ⟨store', h⟩ := ih
    obtain ⟨store'', haccepted⟩ := exists_accepted S hmode hrender document store'
    exact ⟨store'', h.snoc haccepted⟩

end Delivery

/-! ## Two batches of one name -/

/-- The batch of the receipts with these ids, undated. -/
def undatedBatch (ids : List Int64) (xml : Bytes) : Document Unit :=
  .receipts ⟨ids.map (fun id => ⟨id, none, ()⟩), some xml⟩

/-- A transaction delivered twice keeps its source. -/
theorem sources_kept_iff_sample :
    let first : Document Unit := .bankTransaction ⟨7, none, some [60, 49, 62], ()⟩
    let second : Document Unit := .bankTransaction ⟨7, none, some [60, 50, 62], ()⟩
    ∃ store, Delivered Unit (fun _ : Unit => (.ok [] : Except Unit Bytes)) Archiver.new
        (fun _ => none) [first, second] store
      ∧ SourcesKept .monthly [first, second] store := by
  intro first second
  obtain ⟨store, h⟩ : ∃ store, Delivered Unit (fun _ : Unit => (.ok [] : Except Unit Bytes))
      Archiver.new (fun _ => none) [first, second] store :=
    exists_delivered Unit rfl (fun _ => ⟨[], rfl⟩) [first, second] (fun _ => none)
  refine ⟨store, h, ?_⟩
  let parse : Bytes → Option (Document Unit) := fun xml =>
    some (.bankTransaction ⟨7, none, some xml, ()⟩)
  have hparsed : ∀ document ∈ [first, second], Parsed parse document := by
    intro document hdocument
    rcases List.mem_pair.mp hdocument with rfl | rfl
    · exact ⟨_, rfl, rfl⟩
    · exact ⟨_, rfl, rfl⟩
  refine (sources_kept_iff rfl rfl hparsed h).mpr ?_ _ store (List.prefix_refl _) h
  intro l batch hl
  have hmem := hl.subset (List.mem_append_right l List.mem_cons_self)
  have hnot : ∀ transaction : BankTransaction Unit,
      Document.receipts batch ≠ .bankTransaction transaction := fun _ h => by cases h
  rcases List.mem_pair.mp hmem with h | h
  · exact absurd h (hnot _)
  · exact absurd h (hnot _)

/-- **Receipt 2 is lost.** The batch of the receipts 1, 2 and 3 and then that of 1 and 3:
both are named by 1 and 3, and the source of the second replaces that of the first. -/
theorem overwritten_batch :
    let first := undatedBatch [1, 2, 3] [60, 49, 62]
    let second := undatedBatch [1, 3] [60, 50, 62]
    (∃ parse, Parsed parse first ∧ Parsed parse second)
      ∧ ∃ store, Delivered Unit (fun _ : Unit => (.ok [] : Except Unit Bytes)) Archiver.new
        (fun _ => none) [first, second] store
      ∧ ¬ SourcesKept .monthly [first, second] store := by
  intro first second
  refine ⟨⟨fun xml => if xml = [60, 49, 62] then some first else some second,
    ⟨_, rfl, rfl⟩, ⟨_, rfl, rfl⟩⟩, ?_⟩
  obtain ⟨store, h⟩ : ∃ store, Delivered Unit (fun _ : Unit => (.ok [] : Except Unit Bytes))
      Archiver.new (fun _ => none) [first, second] store :=
    exists_delivered Unit rfl (fun _ => ⟨[], rfl⟩) [first, second] (fun _ => none)
  refine ⟨store, h, fun hkept => ?_⟩
  have hfirst : first.slot .monthly = some (.batch .undated 1 3) := by decide
  have hsecond : second.slot .monthly = some (.batch .undated 1 3) := by decide
  have hstands : Shelf.Stands (Document.slot Archiver.new.layout) [first, second] second :=
    ⟨rfl, [first], [], rfl, fun e he => absurd he List.not_mem_nil⟩
  have hstored := stored_of_stands rfl rfl h hstands hsecond rfl
  obtain ⟨document, hdocument, hr, slot, xml, hslot, hxml, hstore⟩ :=
    hkept first List.mem_cons_self (.receipts, 2) (by decide)
  rcases List.mem_pair.mp hdocument with rfl | rfl
  · rw [hfirst] at hslot
    rw [← Option.some.inj hslot, hstored] at hstore
    exact absurd (hxml.trans hstore.symm) (by decide)
  · exact absurd hr (by decide)

end Szamlazz.Archive
