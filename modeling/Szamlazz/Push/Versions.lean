import Szamlazz.Push.Archiver

/-!
# Versions are never lost

Any number of archivers write to one store, each delivery its own program; their
writes interleave in any order, clocks may read anything, and any write may fail. A
version is created, never put, and a latest copy has one dot in its path where a
version has more, so nothing is put where a version is: every version that was written
has a path of its own and stays (`versions_kept`).
-/

namespace Szamlazz.Archive

open Adatkapcsolat ObjectStore

open Archiver (Archiving)

variable {ι D S J : Type} [DecidableEq ι] (toVecPretty : D → Except J Bytes)
  (archiver : ι → Archiver) (document : ι → Document D)

/-- A write of a delivery. -/
abbrev Written (ι S : Type) : Type := Event ι String Bytes Archiver.Reading S

/-- The store and what is left of every delivery. -/
abbrev Archives (ι S J : Type) : Type :=
  World ι String Bytes Archiver.Reading S (Except (ArchiveError S J) (InvoiceAck ⊕ Ack))

/-- Every delivery with its archiver, before its first write. -/
def deliveries (store : String → Option Bytes) : Archives ι S J :=
  ⟨store, fun i => (archiver i).deliver toVecPretty (document i)⟩

variable {toVecPretty archiver document} {store : String → Option Bytes}
  {tr tr' : List (Written ι S)} {w w' : Archives ι S J}

/-! ## What a delivery writes -/

/-- The writes of a delivery so far. -/
theorem asked (h : Run (deliveries toVecPretty archiver document store) tr w) (i : ι) :
    (transcript i tr).map (fun x => Except.ok x.1)
        <+: (archiver i).documentRequests toVecPretty S (document i)
      ∧ ∀ x ∈ (transcript i tr).dropLast, x.2 = .ok () := by
  have hspec := (archiver i).ensures_deliver (S := S) toVecPretty (document i)
  have hanswer : ∀ request, Nonempty (Answer String Bytes Archiver.Reading S request) :=
    fun _ => ⟨.ok ()⟩
  refine (hspec.mono (fun _ _ h => (⟨h.1, h.2.1⟩ : _ ∧ _))).steps ?_ (h.steps i)
  rintro t t' ⟨hbegins, hlast⟩
  rw [List.map_append] at hbegins
  refine ⟨(List.prefix_append _ _).trans hbegins, fun x hx => hlast x ?_⟩
  rcases List.eq_nil_or_concat t' with rfl | ⟨t'', y, rfl⟩
  · rwa [List.append_nil]
  · rw [List.concat_eq_append, ← List.append_assoc, List.dropLast_concat]
    exact List.mem_append_left _ (List.dropLast_subset t hx)

/-- What an event asks for is a request of its delivery. -/
theorem mem_documentRequests (h : Run (deliveries toVecPretty archiver document store) tr w)
    {e : Written ι S} (he : e ∈ tr) :
    Except.ok e.request ∈ (archiver e.who).documentRequests toVecPretty S (document e.who) := by
  refine (asked h e.who).1.subset (List.mem_map.mpr ⟨_, mem_transcript he rfl, rfl⟩)

/-- **The key of an event** is the latest path or a version path of an artifact. -/
theorem event_cases (h : Run (deliveries toVecPretty archiver document store) tr w)
    {e : Written ι S} (he : e ∈ tr) :
    ∃ base extension : String, ('.' ∉ base.toList ∧ '.' ∉ extension.toList)
      ∧ ((e.request.isCreate = false ∧ e.key = Archiver.latestPath base extension)
        ∨ (e.request.isCreate = true ∧ ∃ reading, e.key
            = Archiver.versionPath base (Archiver.timestamp reading) extension)) := by
  obtain ⟨artifact, hartifact, hrequest⟩ := List.mem_flatMap.mp (mem_documentRequests h he)
  have hnamed := (archiver e.who).wellNamed_artifacts toVecPretty (document e.who) artifact hartifact
  refine ⟨artifact.base, artifact.extension, hnamed, ?_⟩
  have htargets := h.targets e he
  obtain ⟨bytes, -, hlatest | hversion⟩ := Archiver.Artifact.mem_requests hrequest
  · rw [hlatest] at htargets ⊢
    exact Or.inl ⟨rfl, htargets⟩
  · rw [hversion] at htargets ⊢
    exact Or.inr ⟨rfl, htargets⟩

/-- **Nothing is put where a version is.** -/
theorem apart (h : Run (deliveries toVecPretty archiver document store) tr w) : Apart tr := by
  intro e he e' he' hcreate hput heq
  obtain ⟨base, extension, -, ⟨hno, -⟩ | ⟨-, reading, hkey⟩⟩ := event_cases h he
  · rw [hno] at hcreate
    cases hcreate
  obtain ⟨base', extension', ⟨hbase', hextension'⟩, ⟨-, hkey'⟩ | ⟨hyes, -⟩⟩ := event_cases h he'
  · rw [hkey, hkey'] at heq
    exact Archiver.latestPath_ne_versionPath hbase' hextension' _ _ _ heq.symm
  · rw [hput] at hyes
    cases hyes

/-! ## Acknowledged deliveries -/

/-- The versions of a delivery. -/
def versions (i : ι) (tr : List (Written ι S)) : List (Written ι S) :=
  (creations tr).filter (fun e => e.who = i)

/-- The write stores a version of the artifact: its exact bytes, under a version path. -/
def StoresVersion (artifact : Archiver.Artifact J) (e : Written ι S) : Prop :=
  artifact.bytes = .ok e.request.value ∧ ∃ reading, e.key
    = Archiver.versionPath artifact.base (Archiver.timestamp reading) artifact.extension

/-- Is it the write of a version? -/
def isVersion : Except (ArchiveError S J) Archiver.StoreRequest → Bool
  | .ok request => request.isCreate
  | .error _ => false

/-- An archiver that keeps versions writes one of every artifact. -/
theorem filter_isVersion {a : Archiver} (ha : a.redelivery ≠ .overwrite)
    (artifact : Archiver.Artifact J) :
    (artifact.requests a : List (Except (ArchiveError S J) _)).filter isVersion
      = match artifact.bytes with
        | .ok bytes => [.ok (Archiver.version artifact.base artifact.extension bytes)]
        | .error _ => [] := by
  unfold Archiver.Artifact.requests Archiver.requests
  cases hbytes : artifact.bytes with
  | error error => rfl
  | ok bytes =>
    cases hmode : a.redelivery with
    | overwrite => exact absurd hmode ha
    | timestamped => rfl
    | both => rfl

omit [DecidableEq ι] in
/-- Events that ask for the versions of artifacts in order store them. -/
theorem forall₂_storesVersion {a : Archiver} (ha : a.redelivery ≠ .overwrite)
    {artifacts : List (Archiver.Artifact J)} (hbytes : ∀ artifact ∈ artifacts,
      ∃ bytes, artifact.bytes = .ok bytes) {es : List (Written ι S)}
    (hkey : ∀ e ∈ es, e.request.Targets e.key)
    (hes : es.map (fun e => (Except.ok e.request : Except (ArchiveError S J) _))
      = (artifacts.flatMap (Archiver.Artifact.requests a)).filter isVersion) :
    List.Forall₂ StoresVersion artifacts es := by
  rw [List.filter_flatMap] at hes
  induction artifacts generalizing es with
  | nil =>
    obtain rfl := List.map_eq_nil_iff.mp hes
    exact List.Forall₂.nil
  | cons artifact artifacts ih =>
    obtain ⟨bytes, hb⟩ := hbytes artifact List.mem_cons_self
    rw [List.flatMap_cons, filter_isVersion ha, hb] at hes
    cases es with
    | nil => cases hes
    | cons e es =>
      obtain ⟨hfirst, hrest⟩ := List.cons.inj hes
      refine List.Forall₂.cons ?_ (ih (fun x hx => hbytes x (List.mem_cons_of_mem _ hx))
        (fun x hx => hkey x (List.mem_cons_of_mem _ hx)) hrest)
      have htargets := hkey e List.mem_cons_self
      have hrequest := Except.ok.inj hfirst
      rw [hrequest] at htargets
      rw [StoresVersion, hrequest]
      exact ⟨hb, htargets⟩

/-- **An acknowledged delivery has stored a version of each of its artifacts.** -/
theorem acknowledged_versions (h : Run (deliveries toVecPretty archiver document store) tr w)
    {i : ι} (ha : (archiver i).redelivery ≠ .overwrite) {answer : InvoiceAck ⊕ Ack}
    (hret : w.running i = .ret (.ok answer)) :
    List.Forall₂ StoresVersion ((archiver i).artifacts toVecPretty (document i))
      (versions i tr) := by
  have hruns : Prog.Runs ((archiver i).deliver toVecPretty (document i) : Archiving S J _)
      (transcript i tr) (.ok answer) := by
    have hsteps := h.steps i
    rwa [hret] at hsteps
  obtain ⟨-, -, hall⟩ := (archiver i).ensures_deliver toVecPretty (document i) _ _ hruns
  obtain ⟨-, hmap, hok⟩ := hall answer rfl
  -- All its writes were acknowledged, so its versions are the creations among them.
  have hversions : versions i tr
      = (tr.filter (fun e => e.who = i)).filter (fun e => e.request.isCreate) := by
    rw [versions, creations, List.filter_filter, List.filter_filter]
    refine List.filter_congr fun e he => ?_
    by_cases hwho : e.who = i
    · have hwritten := h.written e he (hok _ (mem_transcript he hwho))
      simp [hwho, hwritten]
    · simp [hwho]
  refine forall₂_storesVersion ha ?_ ?_ ?_
  · intro artifact hartifact
    cases hbytes : artifact.bytes with
    | ok bytes => exact ⟨bytes, rfl⟩
    | error error =>
      have hmem : (Except.error (ArchiveError.serialize error) : Except (ArchiveError S J) _)
          ∈ (archiver i).documentRequests toVecPretty S (document i) := by
        refine List.mem_flatMap.mpr ⟨artifact, hartifact, ?_⟩
        rw [Archiver.Artifact.requests, hbytes]
        exact List.mem_singleton_self _
      rw [← hmap] at hmem
      obtain ⟨x, -, hx⟩ := List.mem_map.mp hmem
      cases hx
  · intro e he
    rw [hversions] at he
    exact h.targets e (List.mem_filter.mp (List.mem_filter.mp he).1).1
  · have hfilter := congrArg (List.filter isVersion) hmap
    rw [Archiver.documentRequests, transcript, List.map_map, List.filter_map] at hfilter
    rw [hversions]
    exact hfilter

/-! ## Latest copies -/

/-- In the list of what an archiver of both kinds asks for, a latest copy comes right
after its version. -/
theorem version_before_latest {a : Archiver} (ha : a.redelivery = .both)
    {artifacts : List (Archiver.Artifact J)}
    {l l' : List (Except (ArchiveError S J) Archiver.StoreRequest)} {key : String} {bytes : Bytes}
    (h : artifacts.flatMap (Archiver.Artifact.requests a) = l ++ .ok (.put key bytes) :: l') :
    ∃ base extension, key = Archiver.latestPath base extension
      ∧ .ok (Archiver.version base extension bytes) ∈ l := by
  induction artifacts generalizing l with
  | nil => exact absurd h.symm (List.append_ne_nil_of_right_ne_nil _ (List.cons_ne_nil _ _))
  | cons artifact artifacts ih =>
    have hrequests : (artifact.requests a : List (Except (ArchiveError S J) _))
        = match artifact.bytes with
          | .ok bytes => [.ok (Archiver.version artifact.base artifact.extension bytes),
              .ok (Archiver.latest artifact.base artifact.extension bytes)]
          | .error error => [.error (.serialize error)] := by
      unfold Archiver.Artifact.requests Archiver.requests
      rw [ha]
      cases artifact.bytes <;> rfl
    rw [List.flatMap_cons, hrequests] at h
    cases hbytes : artifact.bytes with
    | error error =>
      rw [hbytes] at h
      cases l with
      | nil => cases (List.cons.inj h).1
      | cons x l =>
        obtain ⟨base, extension, hkey, hmem⟩ := ih (List.cons.inj h).2
        exact ⟨base, extension, hkey, List.mem_cons_of_mem _ hmem⟩
    | ok bytes' =>
      rw [hbytes] at h
      match l with
      | [] => cases (List.cons.inj h).1
      | [x] =>
        obtain ⟨rfl, hrest⟩ := List.cons.inj h
        have hput := Except.ok.inj (List.cons.inj hrest).1
        rw [Archiver.latest] at hput
        obtain ⟨hkey, hvalue⟩ := Request.put.inj hput
        exact ⟨artifact.base, artifact.extension, hkey.symm, by
          rw [hvalue]; exact List.mem_singleton_self _⟩
      | x :: y :: l =>
        obtain ⟨base, extension, hkey, hmem⟩ := ih (List.cons.inj (List.cons.inj h).2).2
        exact ⟨base, extension, hkey, List.mem_cons_of_mem _ (List.mem_cons_of_mem _ hmem)⟩

/-- **A latest copy beside versions is the copy of one stored before it.** -/
theorem latest_after_version (h : Run (deliveries toVecPretty archiver document store) tr w)
    {l l' : List (Written ι S)} {e : Written ι S} (htr : tr = l ++ e :: l')
    (ha : (archiver e.who).redelivery = .both) (hput : e.request.isCreate = false) :
    ∃ e' ∈ creations l, e'.who = e.who ∧ e'.request.value = e.request.value
      ∧ ∃ base extension reading, e.key = Archiver.latestPath base extension
        ∧ e'.key = Archiver.versionPath base (Archiver.timestamp reading) extension := by
  obtain ⟨hbegins, hlast⟩ := asked h e.who
  have htranscript : transcript e.who tr = transcript e.who l ++ ⟨e.request, e.answer⟩
      :: transcript e.who l' := by
    rw [htr, transcript_append]
    refine congrArg _ ?_
    simp [transcript]
  have hmem : e ∈ tr := by
    rw [htr]
    exact List.mem_append_right _ List.mem_cons_self
  have htargets := h.targets e hmem
  cases hrequest : e.request with
  | create key value =>
    rw [hrequest] at hput
    cases hput
  | put key value =>
    rw [hrequest] at htargets htranscript
    -- What was asked before the put was acknowledged, its version among it.
    obtain ⟨rest, hrest⟩ := hbegins
    rw [htranscript, List.map_append, List.append_assoc] at hrest
    obtain ⟨base, extension, hkey, hversion⟩ := version_before_latest ha hrest.symm
    obtain ⟨x, hx, hxrequest⟩ := List.mem_map.mp hversion
    obtain ⟨e', he', rfl⟩ := List.mem_map.mp hx
    obtain ⟨he', hwho⟩ := List.mem_filter.mp he'
    have hask := Except.ok.inj hxrequest
    dsimp only at hask
    have he'tr : e' ∈ tr := by
      rw [htr]
      exact List.mem_append_left _ he'
    have hanswer : e'.answer = .ok () := by
      refine hlast ⟨e'.request, e'.answer⟩ ?_
      rw [htranscript, List.dropLast_append_cons]
      exact List.mem_append_left _ hx
    have htargets' := h.targets e' he'tr
    rw [hask] at htargets'
    obtain ⟨reading, hkey'⟩ := htargets'
    refine ⟨e', List.mem_filter.mpr ⟨he', ?_⟩, of_decide_eq_true hwho, ?_, base, extension,
      reading, ?_, hkey'⟩
    · rw [hask, h.written e' he'tr hanswer]
      rfl
    · rw [hask]
      rfl
    · rw [← hkey]
      exact htargets

/-- **No acknowledged version is lost.** An acknowledged delivery that keeps versions has
stored one of each of its artifacts; no two versions ever written share a path, and each
stays as it was written whatever is written afterwards; and beside versions a latest copy
is the copy of one stored before it. -/
theorem versions_kept (h : Run (deliveries toVecPretty archiver document store) tr w) :
    (∀ i answer, (archiver i).redelivery ≠ .overwrite → w.running i = .ret (.ok answer) →
        List.Forall₂ StoresVersion ((archiver i).artifacts toVecPretty (document i))
          (versions i tr))
      ∧ ((creations tr).map Event.key).Nodup
      ∧ (∀ tr' w', Run w tr' w' → ∀ e ∈ creations tr, w'.store e.key = some e.request.value)
      ∧ ∀ l e l', tr = l ++ e :: l' → (archiver e.who).redelivery = .both →
        e.request.isCreate = false → ∃ e' ∈ creations l, e'.who = e.who
          ∧ e'.request.value = e.request.value
          ∧ ∃ base extension reading, e.key = Archiver.latestPath base extension
            ∧ e'.key = Archiver.versionPath base (Archiver.timestamp reading) extension := by
  refine ⟨fun i answer ha hret => acknowledged_versions h ha hret, (h.created (apart h)).2, ?_,
    fun l e l' htr ha hput => latest_after_version h htr ha hput⟩
  intro tr' w' h' e he
  have hrun := h.append h'
  refine (hrun.created (apart hrun)).1 e ?_
  rw [creations, List.filter_append]
  exact List.mem_append_left _ he

/-- Two processes archive a transaction under the same clock reading; the second finds
the name taken and draws another. -/
theorem versions_kept_sample :
    let xml : Bytes := [60, 47, 62]
    let transaction : Document Unit := .bankTransaction ⟨7, none, some xml, ()⟩
    let archiver : Archiver := ⟨.flat, .timestamped, true, false, false⟩
    let base : String := archiver.path .bankTransaction (toString (7 : Int64).toInt) none
    let key (sequence : UInt64) : String := Archiver.versionPath base
      (Archiver.timestamp ⟨2026, 7, 1, 12, 0, 0, 0, sequence⟩) "xml"
    ∃ (tr : List (Written Bool Unit)) (w : Archives Bool Unit Unit),
      Run (deliveries (fun _ => .ok []) (fun _ => archiver) (fun _ => transaction)
          (fun _ => none)) tr w
        ∧ (∀ i, w.running i = .ret (.ok (.inr Ack.accept)))
        ∧ (creations tr).map Event.key = [key 0, key 1] ∧ ((creations tr).map Event.key).Nodup
        ∧ w.store (key 0) = some xml ∧ w.store (key 1) = some xml := by
  intro xml transaction archiver base key
  let done : Prog (Answer String Bytes Archiver.Reading Unit)
    (Except (ArchiveError Unit Unit) (InvoiceAck ⊕ Ack)) := .ret (.ok (.inr Ack.accept))
  let w₀ : Archives Bool Unit Unit :=
    deliveries (fun _ => .ok []) (fun _ => archiver) (fun _ => transaction) (fun _ => none)
  let version := Archiver.version base "xml" xml
  let w₁ : Archives Bool Unit Unit :=
    ⟨Function.update w₀.store (key 0) (some xml), Function.update w₀.running false done⟩
  let w₂ : Archives Bool Unit Unit :=
    ⟨Function.update w₁.store (key 1) (some xml), Function.update w₁.running true done⟩
  have hkeys : key 0 ≠ key 1 := by decide
  have htargets : ∀ sequence, version.Targets (key sequence) := fun _ => ⟨_, rfl⟩
  have h₁ : Step w₀ ⟨false, version, key 0, true, .ok ()⟩ w₁ :=
    Step.write (rfl : w₀.running false = .call version _) (htargets 0) (fun _ _ => rfl)
      (fun _ => rfl)
  have hfree : w₁.store (key 1) = none := Function.update_of_ne hkeys.symm (some xml) w₀.store
  have h₂ : Step w₁ ⟨true, version, key 1, true, .ok ()⟩ w₂ :=
    Step.write (rfl : w₁.running true = .call version _) (htargets 1)
      (fun _ _ => hfree) (fun _ => rfl)
  have htaken : (w₁.store (key 0)).isSome = true := by
    have hself : w₁.store (key 0) = some xml := Function.update_self (key 0) _ w₀.store
    rw [hself]
    rfl
  have hrun := ((Run.start.step h₁).taken (i := true) rfl htaken).step h₂
  obtain ⟨-, hnodup, hstays, -⟩ := versions_kept hrun
  refine ⟨_, w₂, hrun, fun i => by cases i <;> rfl, rfl, hnodup, ?_, ?_⟩
  · exact hstays [] w₂ Run.start ⟨false, version, key 0, true, .ok ()⟩ List.mem_cons_self
  · exact hstays [] w₂ Run.start ⟨true, version, key 1, true, .ok ()⟩
      (List.mem_cons_of_mem _ List.mem_cons_self)

end Szamlazz.Archive
