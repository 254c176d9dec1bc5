import Szamlazz.Agent.Types
import Szamlazz.Lib.Digits
import Szamlazz.Lib.ObjectStore
import Szamlazz.Push.Fanout

/-!
# The archiver

A handler that writes every pushed document to an object store: the exact XML, the
embedded PDF and the data as JSON, each of them only where it is switched on. An
object is named by its kind, the month of the document's own date and the record's id,
a receipt batch by its least and greatest id. On a redelivery the archiver overwrites,
keeps a version under a name of its own, or does both.

What the store answers is open, and so are the clock and the rendering of the data; a
version is created by drawing names until one is free, which is the store's `create`.

The archiver writes its artifacts one after the other and stops at the first failure
(`deliver_eq`). Latest copies and versions never share a path, since no base has a dot
(`dots_latestPath`, `dots_versionPath`).
-/

namespace Szamlazz.Archive

open Adatkapcsolat ObjectStore

abbrev Bytes := List UInt8

/-! ## Documents -/

/-- What the archiver reads of a pushed invoice. Its JSON is rendered from `data`,
which is the rest of the document without the embedded PDF. -/
structure InvoiceDocument (D : Type) where
  id : Int64
  issueDate : Option Date
  pdf : Option Bytes
  rawXml : Option Bytes
  data : D

/-- A bank transaction, as far as it is archived. -/
structure BankTransaction (D : Type) where
  id : Int64
  valueDate : Option Date
  rawXml : Option Bytes
  data : D

/-- A receipt, as far as it is archived. -/
structure ReceiptDocument (D : Type) where
  id : Int64
  issueDate : Option Date
  data : D

/-- Receipts that came together, with their source. -/
structure ReceiptBatch (D : Type) where
  receipts : List (ReceiptDocument D)
  rawXml : Option Bytes

/-- A pushed document. -/
inductive Document (D : Type) where
  | outgoingInvoice (invoice : InvoiceDocument D)
  | incomingInvoice (invoice : InvoiceDocument D)
  | bankTransaction (transaction : BankTransaction D)
  | receipts (batch : ReceiptBatch D)

/-! ## The configuration -/

/-- The directory an archived object of a kind lands in. -/
def directory : RootKind → String
  | .outgoingInvoice => "outgoing-invoices"
  | .incomingInvoice => "incoming-invoices"
  | .bankTransaction => "bank-transactions"
  | .receipts => "receipts"

/-- Whether files are put under the year and the month. -/
inductive Layout where
  | monthly
  | flat
  deriving DecidableEq

/-- Which versions of a file are kept: the latest, each under its time, or both. -/
inductive Redelivery where
  | overwrite
  | timestamped
  | both
  deriving DecidableEq

/-- A storage or serialization failure while archiving. -/
inductive ArchiveError (S J : Type) where
  | storage (error : S)
  | serialize (error : J)

/-- What is saved, where, and how. -/
structure Archiver where
  layout : Layout
  redelivery : Redelivery
  saveXml : Bool
  savePdf : Bool
  saveData : Bool

/-! ## Names and months -/

/-- **The name of a record or a batch**: neither a dot nor a slash is in it. -/
def Plain (name : String) : Prop := '.' ∉ name.toList ∧ '/' ∉ name.toList

/-- The directory of a kind is one plain segment. -/
theorem plain_directory (kind : RootKind) : Plain (directory kind) := by
  cases kind <;> exact ⟨by decide, by decide⟩

/-- A padded number has neither a slash nor a dot. -/
theorem plain_signed (width : ℕ) (n : ℤ) : Plain (String.ofList (Digits.signed width n)) := by
  have hmem : ∀ c ∈ Digits.signed width n, c ≠ '.' ∧ c ≠ '/' := by
    intro c hc
    rcases Digits.mem_signed hc with rfl | hdigit
    · exact ⟨by decide, by decide⟩
    · exact ⟨Lexical.isDigit_ne hdigit rfl, Lexical.isDigit_ne hdigit rfl⟩
  unfold Plain
  rw [String.toList_ofList]
  exact ⟨fun h => (hmem _ h).1 rfl, fun h => (hmem _ h).2 rfl⟩

/-- Two plain texts together are plain. -/
theorem Plain.append {x y : String} (hx : Plain x) (hy : Plain y) : Plain (x ++ y) := by
  unfold Plain
  rw [String.toList_append, List.mem_append, List.mem_append]
  exact ⟨not_or.mpr ⟨hx.1, hy.1⟩, not_or.mpr ⟨hx.2, hy.2⟩⟩

/-- The name of a record. -/
theorem plain_toString (n : ℤ) : Plain (toString n) := by
  have hofList : toString n = String.ofList (Digits.signed 0 n) := by
    rw [← Digits.toList_toString_int, String.ofList_toList]
  rw [hofList]
  exact plain_signed 0 n

/-- The months objects are laid out by. -/
inductive Month where
  | flat
  | undated
  | of (year : Int) (month : Nat)
  deriving DecidableEq

/-- The month a document is filed under. -/
def Layout.month : Layout → Option Date → Month
  | .monthly, some date => .of date.year date.month
  | .monthly, none => .undated
  | .flat, _ => .flat

/-- The directories of a month. -/
def Month.segments : Month → List String
  | flat => []
  | undated => ["undated"]
  | of year month =>
    [String.ofList (Digits.signed 4 year), String.ofList (Digits.signed 2 month)]

/-- A month is of plain segments. -/
theorem Month.plain (m : Month) : ∀ segment ∈ m.segments, Plain segment := by
  cases m with
  | flat => exact fun _ h => absurd h List.not_mem_nil
  | undated => exact List.forall_mem_singleton.mpr ⟨by decide, by decide⟩
  | of year month =>
    exact List.forall_mem_cons.mpr ⟨plain_signed _ _,
      List.forall_mem_singleton.mpr (plain_signed _ _)⟩

/-- Its segments tell the month. -/
theorem Month.segments_injective {m m' : Month} (h : m.segments = m'.segments) : m = m' := by
  cases m <;> cases m'
  case of.of year month year' month' =>
    obtain ⟨hyear, hmonth⟩ := List.cons.inj h
    have hy := Digits.signed_injective (String.ofList_injective hyear)
    have hm := Digits.signed_injective (String.ofList_injective (List.cons.inj hmonth).1)
    rw [hy, Int.ofNat.inj hm]
  all_goals first | rfl | (simp [Month.segments] at h)

/-- The path of an object of a kind, a month and a name. -/
def objectPath (kind : RootKind) (m : Month) (name : String) : String :=
  Text.join '/' (directory kind :: (m.segments ++ [name]))

/-- A path is of plain segments. -/
theorem plain_segments (kind : RootKind) (m : Month) {name : String} (hname : Plain name) :
    ∀ segment ∈ directory kind :: (m.segments ++ [name]), Plain segment := by
  intro segment hmem
  rcases List.mem_cons.mp hmem with rfl | hmem
  · exact plain_directory kind
  · rcases List.mem_append.mp hmem with hmem | hmem
    · exact m.plain segment hmem
    · rwa [List.mem_singleton.mp hmem]

/-- **Different objects have different paths.** -/
theorem objectPath_inj {kind kind' : RootKind} {m m' : Month} {name name' : String}
    (hname : Plain name) (hname' : Plain name') (h : objectPath kind m name
      = objectPath kind' m' name') : kind = kind' ∧ m = m' ∧ name = name' := by
  obtain ⟨hkind, hrest⟩ := List.cons.inj (Text.join_inj
    (fun x hx => (plain_segments _ _ hname x hx).2) (fun x hx => (plain_segments _ _ hname' x hx).2)
    (List.cons_ne_nil _ _) (List.cons_ne_nil _ _) h)
  obtain ⟨hmonth, hlast⟩ := List.append_inj' hrest rfl
  refine ⟨?_, Month.segments_injective hmonth, (List.cons.inj hlast).1⟩
  cases kind <;> cases kind' <;> first | rfl | exact absurd hkind (by decide)

/-- No dot is in a path without its extension. -/
theorem notMem_objectPath (kind : RootKind) (m : Month) {name : String} (hname : Plain name) :
    '.' ∉ (objectPath kind m name).toList := by
  intro h
  obtain heq | ⟨segment, hmem, hdot⟩ := Text.mem_join h
  · exact absurd heq (by decide)
  · exact (plain_segments kind m hname segment hmem).1 hdot

namespace Archiver

/-- Monthly, overwriting, and everything saved. -/
def new : Archiver := ⟨.monthly, .overwrite, true, true, true⟩

/-! ## Names -/

/-- What is read when a version is named: the wall clock, as civil time and in
nanoseconds, and the counter of the process. -/
structure Reading where
  year : Int
  month : Nat
  day : Nat
  hour : Nat
  minute : Nat
  second : Nat
  nanosecond : Int
  sequence : UInt64

/-- The time as a part of a name. -/
def timestamp (now : Reading) : String :=
  let sequence := Nat.toDigits 16 now.sequence.toNat
  String.ofList (Digits.signed 4 now.year ++ Digits.signed 2 now.month ++ Digits.signed 2 now.day
      ++ 'T' :: Digits.signed 2 now.hour ++ Digits.signed 2 now.minute ++ Digits.signed 2 now.second)
    ++ "Z-" ++ toString now.nanosecond ++ "-"
    ++ String.ofList (List.replicate (16 - sequence.length) '0' ++ sequence)

/-- The path of a file without its version and extension. -/
def path (a : Archiver) (kind : RootKind) (name : String) (date : Option Date) : String :=
  directory kind ++ "/"
    ++ (match a.layout, date with
      | .monthly, some date =>
        String.ofList (Digits.signed 4 date.year ++ '/' :: Digits.signed 2 date.month) ++ "/"
      | .monthly, none => "undated/"
      | .flat, _ => "")
    ++ name

/-- What a batch is named by: the least and the greatest id. -/
def batchName (firstId lastId : Int64) : String :=
  "batch-" ++ toString firstId.toInt ++ "-" ++ toString lastId.toInt

/-- Where the latest state of an artifact is. -/
def latestPath (base extension : String) : String := base ++ "." ++ extension

/-- Where a version of an artifact is. -/
def versionPath (base version extension : String) : String :=
  base ++ "." ++ version ++ "." ++ extension

/-- **A path is its segments**: the directory, the month and the name. -/
theorem path_eq (a : Archiver) (kind : RootKind) (name : String) (date : Option Date) :
    a.path kind name date = objectPath kind (a.layout.month date) name := by
  apply String.toList_inj.mp
  unfold path
  rw [objectPath, Text.join, String.toList_ofList]
  cases a.layout with
  | flat => simp [Layout.month, Month.segments, Text.joinChars]
  | monthly =>
    cases date with
    | none => simp [Layout.month, Month.segments, Text.joinChars]
    | some date => simp [Layout.month, Month.segments, Text.joinChars]

/-- A path has no dot before its extension. -/
theorem notMem_path (a : Archiver) (kind : RootKind) {name : String} (date : Option Date)
    (hname : Plain name) : '.' ∉ (a.path kind name date).toList := by
  rw [path_eq]
  exact notMem_objectPath kind _ hname

/-- **A latest copy is told from a version** by its dots. -/
theorem latestPath_ne_versionPath {base extension : String} (hbase : '.' ∉ base.toList)
    (hextension : '.' ∉ extension.toList) (base' version extension' : String) :
    latestPath base extension ≠ versionPath base' version extension' := by
  intro h
  have hcount := congrArg (fun path => path.toList.count '.') h
  have hdot : (".").toList.count '.' = 1 := by decide
  simp only [latestPath, versionPath, String.toList_append, List.count_append, hdot,
    List.count_eq_zero.mpr hbase, List.count_eq_zero.mpr hextension] at hcount
  omega

/-- The path of the latest version tells the base and the extension. -/
theorem latestPath_inj {base base' extension extension' : String} (hbase : '.' ∉ base.toList)
    (hbase' : '.' ∉ base'.toList)
    (h : latestPath base extension = latestPath base' extension') :
    base = base' ∧ extension = extension' := by
  have hlist := congrArg String.toList h
  rw [latestPath, latestPath, String.append_assoc, String.append_assoc, String.toList_append,
    String.toList_append] at hlist
  have hsplit : base.toList ++ '.' :: extension.toList = base'.toList ++ '.' :: extension'.toList := by
    simpa using hlist
  obtain ⟨hb, he⟩ := Text.append_sep_inj hbase hbase' hsplit
  exact ⟨String.toList_inj.mp hb, String.toList_inj.mp he⟩

/-- The name of a batch is plain. -/
theorem plain_batchName (firstId lastId : Int64) : Plain (batchName firstId lastId) :=
  (((show Plain "batch-" from ⟨by decide, by decide⟩).append (plain_toString _)).append
    (show Plain "-" from ⟨by decide, by decide⟩)).append (plain_toString _)

/-! ## Writing -/

/-- What the archiver asks of the store. -/
abbrev StoreRequest := Request String Bytes Reading

section Write

variable {D S J : Type}

/-- A program of the archiver: it writes to the store and may fail. -/
abbrev Archiving (S J : Type) : Type → Type :=
  ExceptT (ArchiveError S J) (Prog (Answer String Bytes Reading S))

/-- One write; its failure is a failure of the archiver. -/
def ask (request : StoreRequest) : Archiving S J Unit :=
  ExceptT.mk (Prog.call request fun
    | .ok () => .ret (.ok ())
    | .error error => .ret (.error (.storage error)))

/-- A version under the first name drawn that is free. -/
def writeVersion (base extension : String) (bytes : Bytes) : Archiving S J Unit :=
  ask (.create (fun reading => versionPath base (timestamp reading) extension) bytes)

/-- Writes one file. -/
def write (a : Archiver) (kind : RootKind) (name : String) (date : Option Date)
    (extension : String) (bytes : Bytes) : Archiving S J Unit :=
  let base := a.path kind name date
  match a.redelivery with
  | .overwrite => ask (.put (latestPath base extension) bytes)
  | .timestamped => writeVersion base extension bytes
  | .both => do
    writeVersion base extension bytes
    ask (.put (latestPath base extension) bytes)

/-- A rendering, or the failure of it. -/
def serialized (json : Except J Bytes) : Archiving S J Bytes :=
  ExceptT.mk (.ret (json.mapError ArchiveError.serialize))

variable (toVecPretty : D → Except J Bytes)

/-- The artifact of a part that is there. -/
def writePart (a : Archiver) (kind : RootKind) (name : String) (date : Option Date)
    (extension : String) (save : Bool) : Option Bytes → Archiving S J Unit
  | some bytes => if save then a.write kind name date extension bytes else pure ()
  | none => pure ()

/-- What an invoice leaves in the archive. -/
def archiveInvoice (a : Archiver) (direction : InvoiceDirection) (invoice : InvoiceDocument D) :
    Archiving S J Unit := do
  let kind := direction.rootKind
  let name := toString invoice.id.toInt
  let date := invoice.issueDate
  a.writePart kind name date "xml" a.saveXml invoice.rawXml
  a.writePart kind name date "pdf" a.savePdf invoice.pdf
  if a.saveData then
    let json ← serialized (toVecPretty invoice.data)
    a.write kind name date "json" json

/-- What a bank transaction leaves. -/
def archiveBankTransaction (a : Archiver) (transaction : BankTransaction D) :
    Archiving S J Unit := do
  let kind := RootKind.bankTransaction
  let name := toString transaction.id.toInt
  let date := transaction.valueDate
  a.writePart kind name date "xml" a.saveXml transaction.rawXml
  if a.saveData then
    let json ← serialized (toVecPretty transaction.data)
    a.write kind name date "json" json

/-- What a receipt leaves. -/
def archiveReceipt (a : Archiver) (receipt : ReceiptDocument D) : Archiving S J Unit := do
  if a.saveData then
    let json ← serialized (toVecPretty receipt.data)
    a.write .receipts (toString receipt.id.toInt) receipt.issueDate "json" json

/-- What a batch leaves: its source and its receipts. -/
def archiveReceiptBatch (a : Archiver) (batch : ReceiptBatch D) : Archiving S J Unit :=
  let ids := batch.receipts.map ReceiptDocument.id
  match ids.min?, ids.max? with
  | some firstId, some lastId =>
    a.writePart .receipts (batchName firstId lastId)
      (batch.receipts.findSome? ReceiptDocument.issueDate) "xml" a.saveXml batch.rawXml
  | _, _ => pure ()

/-- The handler: archives the document and accepts it. -/
def deliver (a : Archiver) : Document D → Archiving S J (InvoiceAck ⊕ Ack)
  | .outgoingInvoice invoice => do
    a.archiveInvoice toVecPretty .outgoing invoice
    return .inl (InvoiceAck.accept invoice.id)
  | .incomingInvoice invoice => do
    a.archiveInvoice toVecPretty .incoming invoice
    return .inl (InvoiceAck.accept invoice.id)
  | .bankTransaction transaction => do
    a.archiveBankTransaction toVecPretty transaction
    return .inr Ack.accept
  | .receipts batch => do
    a.archiveReceiptBatch batch
    batch.receipts.forM (a.archiveReceipt toVecPretty)
    return .inr Ack.accept

end Write

/-! ## Artifacts -/

section Artifacts

variable {D S J : Type} (toVecPretty : D → Except J Bytes)

/-- **An artifact**: the path it is named by, its extension, and its bytes or why there
are none. -/
structure Artifact (J : Type) where
  base : String
  extension : String
  bytes : Except J Bytes

/-- The artifact of a part that is there. -/
def part (a : Archiver) (kind : RootKind) (name : String) (date : Option Date)
    (extension : String) (save : Bool) : Option Bytes → List (Artifact J)
  | some bytes => if save then [⟨a.path kind name date, extension, .ok bytes⟩] else []
  | none => []

/-- The JSON artifact. -/
def dataPart (a : Archiver) (kind : RootKind) (name : String) (date : Option Date) (data : D) :
    List (Artifact J) :=
  if a.saveData then [⟨a.path kind name date, "json", toVecPretty data⟩] else []

/-- The files of an invoice. -/
def invoiceArtifacts (a : Archiver) (kind : RootKind) (invoice : InvoiceDocument D) :
    List (Artifact J) :=
  let name := toString invoice.id.toInt
  a.part kind name invoice.issueDate "xml" a.saveXml invoice.rawXml
    ++ (a.part kind name invoice.issueDate "pdf" a.savePdf invoice.pdf
      ++ a.dataPart toVecPretty kind name invoice.issueDate invoice.data)

/-- The files of a bank transaction. -/
def transactionArtifacts (a : Archiver) (transaction : BankTransaction D) : List (Artifact J) :=
  let name := toString transaction.id.toInt
  a.part .bankTransaction name transaction.valueDate "xml" a.saveXml transaction.rawXml
    ++ a.dataPart toVecPretty .bankTransaction name transaction.valueDate transaction.data

/-- The files of a receipt. -/
def receiptArtifacts (a : Archiver) (receipt : ReceiptDocument D) : List (Artifact J) :=
  a.dataPart toVecPretty .receipts (toString receipt.id.toInt) receipt.issueDate receipt.data

/-- The files of a batch. -/
def batchArtifacts (a : Archiver) (batch : ReceiptBatch D) : List (Artifact J) :=
  let ids := batch.receipts.map ReceiptDocument.id
  match ids.min?, ids.max? with
  | some firstId, some lastId =>
    a.part .receipts (batchName firstId lastId)
      (batch.receipts.findSome? ReceiptDocument.issueDate) "xml" a.saveXml batch.rawXml
  | _, _ => []

/-- **What is to be written of a document**, in order. -/
def artifacts (a : Archiver) : Document D → List (Artifact J)
  | .outgoingInvoice invoice => a.invoiceArtifacts toVecPretty .outgoingInvoice invoice
  | .incomingInvoice invoice => a.invoiceArtifacts toVecPretty .incomingInvoice invoice
  | .bankTransaction transaction => a.transactionArtifacts toVecPretty transaction
  | .receipts batch =>
    a.batchArtifacts batch ++ batch.receipts.flatMap (a.receiptArtifacts toVecPretty)

/-- **An artifact is a part that is there, or rendered data**, under the name of a record
or a batch. -/
theorem artifacts_cases (a : Archiver) {P : Artifact J → Prop}
    (hpart : ∀ kind name date extension bytes, Plain name → '.' ∉ extension.toList →
      P ⟨a.path kind name date, extension, .ok bytes⟩)
    (hdata : ∀ kind name date data, Plain name →
      P ⟨a.path kind name date, "json", toVecPretty data⟩) (document : Document D) :
    ∀ artifact ∈ a.artifacts toVecPretty document, P artifact := by
  have hpart' : ∀ {kind name date extension save bytes}, Plain name → '.' ∉ extension.toList →
      ∀ artifact ∈ a.part kind name date extension save bytes, P artifact := by
    intro kind name date extension save bytes hname hextension artifact h
    unfold part at h
    split at h
    · split_ifs at h
      · rw [List.mem_singleton.mp h]
        exact hpart _ _ _ _ _ hname hextension
      · exact absurd h List.not_mem_nil
    · exact absurd h List.not_mem_nil
  have hdata' : ∀ {kind name date data}, Plain name →
      ∀ artifact ∈ a.dataPart toVecPretty kind name date data, P artifact := by
    intro kind name date data hname artifact h
    unfold dataPart at h
    split_ifs at h
    · rw [List.mem_singleton.mp h]
      exact hdata _ _ _ _ hname
    · exact absurd h List.not_mem_nil
  have hinvoice : ∀ kind invoice, ∀ artifact ∈ a.invoiceArtifacts toVecPretty kind invoice,
      P artifact := by
    intro kind invoice artifact h
    rcases List.mem_append.mp h with h | h
    · exact hpart' (plain_toString _) (by decide) artifact h
    rcases List.mem_append.mp h with h | h
    · exact hpart' (plain_toString _) (by decide) artifact h
    · exact hdata' (plain_toString _) artifact h
  intro artifact h
  cases document with
  | outgoingInvoice invoice => exact hinvoice _ _ artifact h
  | incomingInvoice invoice => exact hinvoice _ _ artifact h
  | bankTransaction transaction =>
    rcases List.mem_append.mp h with h | h
    · exact hpart' (plain_toString _) (by decide) artifact h
    · exact hdata' (plain_toString _) artifact h
  | receipts batch =>
    rcases List.mem_append.mp h with h | h
    · unfold batchArtifacts at h
      dsimp only at h
      split at h
      · exact hpart' (plain_batchName _ _) (by decide) artifact h
      · exact absurd h List.not_mem_nil
    · obtain ⟨receipt, -, h⟩ := List.mem_flatMap.mp h
      exact hdata' (plain_toString _) artifact h

/-- The path of an artifact and its extension are without dots. -/
def Artifact.WellNamed (artifact : Artifact J) : Prop :=
  '.' ∉ artifact.base.toList ∧ '.' ∉ artifact.extension.toList

/-- **No artifact has a dot in its name**: ids are numbers. -/
theorem wellNamed_artifacts (a : Archiver) (document : Document D) :
    ∀ artifact ∈ a.artifacts toVecPretty document, artifact.WellNamed :=
  a.artifacts_cases toVecPretty
    (fun kind _ date _ _ hname hextension => ⟨a.notMem_path kind date hname, hextension⟩)
    (fun kind _ date _ hname => ⟨a.notMem_path kind date hname,
      show '.' ∉ ("json").toList by decide⟩) document

/-- The acknowledgement of a document. -/
def ack : Document D → InvoiceAck ⊕ Ack
  | .outgoingInvoice invoice | .incomingInvoice invoice => .inl (InvoiceAck.accept invoice.id)
  | .bankTransaction _ | .receipts _ => .inr Ack.accept

/-- The write of a version. -/
def version (base extension : String) (bytes : Bytes) : StoreRequest :=
  .create (fun reading => versionPath base (timestamp reading) extension) bytes

/-- The write of the latest copy. -/
def latest (base extension : String) (bytes : Bytes) : StoreRequest :=
  .put (latestPath base extension) bytes

/-- What is asked of the store for the bytes of an artifact. -/
def requests (a : Archiver) (base extension : String) (bytes : Bytes) : List StoreRequest :=
  match a.redelivery with
  | .overwrite => [latest base extension bytes]
  | .timestamped => [version base extension bytes]
  | .both => [version base extension bytes, latest base extension bytes]

/-- The requests by which a file is written. -/
def Artifact.requests (a : Archiver) (artifact : Artifact J) :
    List (Except (ArchiveError S J) StoreRequest) :=
  match artifact.bytes with
  | .ok bytes => (a.requests artifact.base artifact.extension bytes).map .ok
  | .error error => [.error (.serialize error)]

/-- A request writes the bytes of the file under one of its paths. -/
theorem Artifact.mem_requests {a : Archiver} {artifact : Artifact J} {request : StoreRequest}
    (h : (.ok request : Except (ArchiveError S J) StoreRequest) ∈ artifact.requests a) :
    ∃ bytes, artifact.bytes = .ok bytes
      ∧ (request = latest artifact.base artifact.extension bytes
        ∨ request = version artifact.base artifact.extension bytes) := by
  unfold Artifact.requests at h
  split at h
  · next bytes hbytes =>
    obtain ⟨request', hmem, heq⟩ := List.mem_map.mp h
    cases heq
    refine ⟨bytes, hbytes, ?_⟩
    unfold Archiver.requests at hmem
    cases ha : a.redelivery with
    | overwrite =>
      rw [ha] at hmem
      exact Or.inl (List.mem_singleton.mp hmem)
    | timestamped =>
      rw [ha] at hmem
      exact Or.inr (List.mem_singleton.mp hmem)
    | both =>
      rw [ha] at hmem
      exact (List.mem_pair.mp hmem).symm
  · cases List.mem_singleton.mp h

/-- Asks for writes in order. -/
def askAll (requests : List (Except (ArchiveError S J) StoreRequest)) : Archiving S J Unit :=
  ExceptT.mk (writeAll ArchiveError.storage requests)

/-- Writes artifacts in order. -/
def writeArtifacts (a : Archiver) (artifacts : List (Artifact J)) : Archiving S J Unit :=
  askAll (artifacts.flatMap (Artifact.requests a))

/-- Requests are asked in their order. -/
theorem askAll_append (requests rest : List (Except (ArchiveError S J) StoreRequest)) :
    askAll (requests ++ rest) = (do
      askAll requests
      askAll rest) := by
  rw [askAll, writeAll_append]
  refine congrArg (Prog.bind (writeAll _ _)) (funext fun x => ?_)
  cases x <;> rfl

/-- One request is a list of one. -/
theorem ask_eq (request : StoreRequest) :
    (ask request : Archiving S J Unit) = askAll [.ok request] :=
  congrArg (fun k => ExceptT.mk (Prog.call request k)) (funext fun x => by cases x <;> rfl)

/-- Files are written in their order. -/
theorem writeArtifacts_append (a : Archiver) (xs ys : List (Artifact J)) :
    (a.writeArtifacts (xs ++ ys) : Archiving S J Unit) = (do
      a.writeArtifacts xs
      a.writeArtifacts ys) := by
  rw [writeArtifacts, List.flatMap_append, askAll_append]
  rfl

/-- Writing one file. -/
theorem write_eq (a : Archiver) (kind : RootKind) (name : String) (date : Option Date)
    (extension : String) (bytes : Bytes) :
    (a.write kind name date extension bytes : Archiving S J Unit)
      = a.writeArtifacts [⟨a.path kind name date, extension, .ok bytes⟩] := by
  unfold write writeArtifacts
  rw [List.flatMap_singleton]
  unfold Artifact.requests Archiver.requests
  cases a.redelivery with
  | overwrite => exact ask_eq _
  | timestamped => exact ask_eq _
  | both =>
    refine Eq.trans ?_ (askAll_append [_] [_]).symm
    rw [← ask_eq, ← ask_eq]
    rfl

/-- Writing a file if it is wanted and there. -/
theorem writePart_eq (a : Archiver) (kind : RootKind) (name : String) (date : Option Date)
    (extension : String) (save : Bool) (bytes : Option Bytes) :
    (a.writePart kind name date extension save bytes : Archiving S J Unit)
      = a.writeArtifacts (a.part kind name date extension save bytes) := by
  cases bytes with
  | none => rfl
  | some bytes =>
    cases save with
    | false => rfl
    | true => exact a.write_eq kind name date extension bytes

/-- Writing the data if they are wanted. -/
theorem writeData_eq (a : Archiver) (kind : RootKind) (name : String) (date : Option Date)
    (data : D) :
    ((if a.saveData = true then do
        let json ← serialized (toVecPretty data)
        a.write kind name date "json" json
      else pure ()) : Archiving S J Unit)
      = a.writeArtifacts (a.dataPart toVecPretty kind name date data) := by
  unfold dataPart
  split_ifs
  · cases hjson : toVecPretty data with
    | error error => rfl
    | ok json => exact a.write_eq kind name date "json" json
  · rfl

/-- **The handler writes the artifacts of the document in order**, and accepts it when
all of them are written. -/
theorem deliver_eq (a : Archiver) (document : Document D) :
    (a.deliver toVecPretty document : Archiving S J _) = (do
      a.writeArtifacts (a.artifacts toVecPretty document)
      return ack document) := by
  have hinvoice : ∀ direction invoice, (a.archiveInvoice toVecPretty direction invoice
      : Archiving S J Unit)
      = a.writeArtifacts (a.invoiceArtifacts toVecPretty direction.rootKind invoice) := by
    intro direction invoice
    rw [invoiceArtifacts, writeArtifacts_append, writeArtifacts_append, ← writePart_eq,
      ← writePart_eq, ← writeData_eq]
    rfl
  have htransaction : ∀ transaction, (a.archiveBankTransaction toVecPretty transaction
      : Archiving S J Unit) = a.writeArtifacts (a.transactionArtifacts toVecPretty transaction) := by
    intro transaction
    rw [transactionArtifacts, writeArtifacts_append, ← writePart_eq, ← writeData_eq]
    rfl
  have hreceipts : ∀ receipts : List (ReceiptDocument D),
      (receipts.forM (a.archiveReceipt toVecPretty) : Archiving S J Unit)
        = a.writeArtifacts (receipts.flatMap (a.receiptArtifacts toVecPretty)) := by
    intro receipts
    induction receipts with
    | nil => rfl
    | cons receipt receipts ih =>
      rw [List.flatMap_cons, writeArtifacts_append, ← ih, receiptArtifacts,
        ← writeData_eq]
      rfl
  have hbatch : ∀ batch, (a.archiveReceiptBatch batch : Archiving S J Unit)
      = a.writeArtifacts (a.batchArtifacts (D := D) batch) := by
    intro batch
    unfold archiveReceiptBatch batchArtifacts
    dsimp only
    split
    · exact writePart_eq a _ _ _ _ _ _
    · rfl
  cases document with
  | outgoingInvoice invoice => rw [deliver, hinvoice]; rfl
  | incomingInvoice invoice => rw [deliver, hinvoice]; rfl
  | bankTransaction transaction => rw [deliver, htransaction]; rfl
  | receipts batch =>
    rw [deliver, hbatch, hreceipts, artifacts, writeArtifacts_append, bind_assoc]
    rfl

/-- What is asked of the store for a document, in order. -/
def documentRequests (S : Type) (a : Archiver) (document : Document D) :
    List (Except (ArchiveError S J) StoreRequest) :=
  (a.artifacts toVecPretty document).flatMap (Artifact.requests a)

/-- **A delivery** asks for the writes of its artifacts in order, all but the last were
acknowledged, and if it is accepted all were. -/
theorem ensures_deliver (a : Archiver) (document : Document D) :
    Prog.Ensures (a.deliver toVecPretty document : Archiving S J _) (fun tr result =>
      tr.map (fun x => Except.ok x.1) <+: a.documentRequests toVecPretty S document
        ∧ (∀ x ∈ tr.dropLast, x.2 = .ok ())
        ∧ ∀ answer, result = .ok answer → answer = ack document
          ∧ tr.map (fun x => Except.ok x.1) = a.documentRequests toVecPretty S document
          ∧ ∀ x ∈ tr, x.2 = .ok ()) := by
  rw [deliver_eq]
  refine Prog.Ensures.bind (ensures_writeAll ArchiveError.storage _) fun tr result h => ?_
  obtain ⟨hbegins, hlast, hall⟩ := h
  cases result with
  | ok =>
    refine Prog.ensures_ret.mpr ?_
    rw [List.append_nil]
    refine ⟨hbegins, hlast, fun answer hanswer => ?_⟩
    cases hanswer
    exact ⟨rfl, hall rfl⟩
  | error e =>
    refine Prog.ensures_ret.mpr ?_
    rw [List.append_nil]
    exact ⟨hbegins, hlast, (fun _ hanswer => by cases hanswer)⟩

end Artifacts

end Archiver

end Szamlazz.Archive
