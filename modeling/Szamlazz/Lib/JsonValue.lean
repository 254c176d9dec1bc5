import Szamlazz.Lib.Json
import Mathlib.Data.List.Perm.Basic
import Mathlib.Data.String.Basic

/-!
# JSON trees and their values

One JSON value has many trees: its members stand in any order, and a text may
repeat a name, of which the value keeps the last. Two predicates say which trees
carry no more than their value. A tree is *distinct* if no object in it repeats a
name, and *sorted* if every object lists its members in increasing order;
`canonical` sorts, and leaves what is sorted alone.

A reader is *stable* if it reads a tree and its value alike and accepts nothing
but distinct trees. A record of stable readers is stable, so a decoder made of
`record`, `required` and `optional` cannot tell two distinct trees of one value
apart (`Stable.eq_of_sameValue`).
-/

namespace Json

/-! ## Distinct and sorted trees -/

mutual

/-- No object of the tree repeats a name. -/
def Distinct : Json → Prop
  | arr items => DistinctItems items
  | obj members => (members.map Prod.fst).Nodup ∧ DistinctMembers members
  | _ => True

/-- Every item of a list is distinct. -/
def DistinctItems : List Json → Prop
  | [] => True
  | item :: items => item.Distinct ∧ DistinctItems items

/-- Every value of a list of members is distinct. -/
def DistinctMembers : List (String × Json) → Prop
  | [] => True
  | (_, value) :: members => value.Distinct ∧ DistinctMembers members

end

mutual

/-- Every object of the tree lists its members in increasing order of their names. -/
def Sorted : Json → Prop
  | arr items => SortedItems items
  | obj members => (members.map Prod.fst).Pairwise (· < ·) ∧ SortedMembers members
  | _ => True

/-- Every item of a list is sorted. -/
def SortedItems : List Json → Prop
  | [] => True
  | item :: items => item.Sorted ∧ SortedItems items

/-- Every value of a list of members is sorted. -/
def SortedMembers : List (String × Json) → Prop
  | [] => True
  | (_, value) :: members => value.Sorted ∧ SortedMembers members

end

section Values

variable {name : String} {value : Json} {members : List (String × Json)}

/-- The recursion over members says it of each of them. -/
theorem distinctMembers_iff :
    DistinctMembers members ↔ ∀ m ∈ members, m.2.Distinct := by
  induction members with
  | nil => simp [DistinctMembers]
  | cons m members ih => simp [DistinctMembers, ih]

/-- The same of sorted values. -/
theorem sortedMembers_iff : SortedMembers members ↔ ∀ m ∈ members, m.2.Sorted := by
  induction members with
  | nil => simp [SortedMembers]
  | cons m members ih => simp [SortedMembers, ih]

mutual

/-- An increasing order repeats nothing. -/
theorem Sorted.distinct {json : Json} (h : json.Sorted) : json.Distinct := by
  cases json with
  | arr items =>
    rw [Sorted] at h
    rw [Distinct]
    exact Sorted.distinctItems h
  | obj members =>
    rw [Sorted] at h
    rw [Distinct]
    exact ⟨h.1.imp (fun hlt => ne_of_lt hlt), Sorted.distinctMembers h.2⟩
  | _ => simp [Distinct]

/-- Sorted items are distinct. -/
theorem Sorted.distinctItems {items : List Json} (h : SortedItems items) :
    DistinctItems items := by
  cases items with
  | nil => simp [DistinctItems]
  | cons item items =>
    rw [SortedItems] at h
    rw [DistinctItems]
    exact ⟨Sorted.distinct h.1, Sorted.distinctItems h.2⟩

/-- Sorted values are distinct. -/
theorem Sorted.distinctMembers {members : List (String × Json)} (h : SortedMembers members) :
    DistinctMembers members := by
  cases members with
  | nil => simp [DistinctMembers]
  | cons m members =>
    obtain ⟨name, value⟩ := m
    rw [SortedMembers] at h
    rw [DistinctMembers]
    exact ⟨Sorted.distinct h.1, Sorted.distinctMembers h.2⟩

end

/-! ## The value of a tree -/

/-- An insertion brings in no name but its own. -/
theorem map_fst_insertMember_subset :
    ∀ n ∈ (insertMember name value members).map Prod.fst,
      n = name ∨ n ∈ members.map Prod.fst := by
  induction members with
  | nil => simp [insertMember]
  | cons m members ih =>
    obtain ⟨other, v⟩ := m
    intro n hn
    unfold insertMember at hn
    split_ifs at hn with heq hlt
    · exact Or.inr hn
    · simpa using hn
    · rw [List.map_cons, List.mem_cons] at hn
      rcases hn with rfl | hn
      · exact Or.inr (by simp)
      · exact (ih n hn).imp_right (fun h => by simp [h])

/-- An insertion keeps the names sorted, and without repetition. -/
theorem pairwise_insertMember (h : (members.map Prod.fst).Pairwise (· < ·)) :
    ((insertMember name value members).map Prod.fst).Pairwise (· < ·) := by
  induction members with
  | nil => simp [insertMember]
  | cons m members ih =>
    obtain ⟨other, v⟩ := m
    rw [List.map_cons, List.pairwise_cons] at h
    unfold insertMember
    split_ifs with heq hlt
    · exact List.pairwise_cons.mpr h
    · rw [List.map_cons, List.pairwise_cons]
      refine ⟨fun n hn => ?_, List.pairwise_cons.mpr h⟩
      rcases List.mem_cons.mp hn with rfl | hn
      · exact hlt
      · exact hlt.trans (h.1 n hn)
    · rw [List.map_cons, List.pairwise_cons]
      refine ⟨fun n hn => ?_, ih h.2⟩
      -- the inserted name is neither the head's nor below it
      have hgt : other < name := lt_of_le_of_ne (not_lt.mp hlt) (fun h => heq h.symm)
      rcases map_fst_insertMember_subset n hn with rfl | hn
      · exact hgt
      · exact h.1 n hn

/-- It keeps the values sorted, too. -/
theorem sortedMembers_insertMember (hvalue : value.Sorted) (h : SortedMembers members) :
    SortedMembers (insertMember name value members) := by
  induction members with
  | nil => simp [insertMember, SortedMembers, hvalue]
  | cons m members ih =>
    obtain ⟨other, v⟩ := m
    have h' := h
    rw [SortedMembers] at h'
    unfold insertMember
    split_ifs
    · exact h
    · rw [SortedMembers]
      exact ⟨hvalue, h⟩
    · rw [SortedMembers]
      exact ⟨h'.1, ih h'.2⟩

/-- The canonical members come in the order of their names. -/
theorem pairwise_canonicalMembers :
    ((canonicalMembers members).map Prod.fst).Pairwise (· < ·) := by
  induction members with
  | nil => simp [canonicalMembers]
  | cons m members ih =>
    rw [canonicalMembers]
    exact pairwise_insertMember ih

mutual

/-- **The canonical tree is sorted**, at every depth. -/
theorem sorted_canonical (json : Json) : json.canonical.Sorted := by
  cases json with
  | arr items =>
    rw [canonical, Sorted]
    exact sortedItems_canonical items
  | obj members =>
    rw [canonical, Sorted]
    exact ⟨pairwise_canonicalMembers, sortedMembers_canonical members⟩
  | _ => simp [canonical, Sorted]

/-- Item by item. -/
theorem sortedItems_canonical (items : List Json) : SortedItems (canonicalItems items) := by
  cases items with
  | nil => simp [canonicalItems, SortedItems]
  | cons item items =>
    rw [canonicalItems, SortedItems]
    exact ⟨sorted_canonical item, sortedItems_canonical items⟩

/-- Member by member. -/
theorem sortedMembers_canonical (members : List (String × Json)) :
    SortedMembers (canonicalMembers members) := by
  cases members with
  | nil => simp [canonicalMembers, SortedMembers]
  | cons m members =>
    obtain ⟨name, value⟩ := m
    rw [canonicalMembers]
    exact sortedMembers_insertMember (sorted_canonical value) (sortedMembers_canonical members)

end

/-- A member that comes before all others is put in front. -/
theorem insertMember_of_lt (h : ∀ n ∈ members.map Prod.fst, name < n) :
    insertMember name value members = (name, value) :: members := by
  cases members with
  | nil => rfl
  | cons m members =>
    obtain ⟨other, v⟩ := m
    have hlt : name < other := h other (by simp)
    unfold insertMember
    rw [if_neg (ne_of_lt hlt), if_pos hlt]

mutual

/-- **A sorted tree is the value itself.** -/
theorem Sorted.canonical_eq {json : Json} (h : json.Sorted) : json.canonical = json := by
  cases json with
  | arr items =>
    rw [Sorted] at h
    rw [canonical, Sorted.canonicalItems_eq h]
  | obj members =>
    rw [Sorted] at h
    rw [canonical, Sorted.canonicalMembers_eq h.1 h.2]
  | _ => simp [canonical]

/-- Nothing is changed in sorted items. -/
theorem Sorted.canonicalItems_eq {items : List Json} (h : SortedItems items) :
    canonicalItems items = items := by
  cases items with
  | nil => rw [canonicalItems]
  | cons item items =>
    rw [SortedItems] at h
    rw [canonicalItems, Sorted.canonical_eq h.1, Sorted.canonicalItems_eq h.2]

/-- Nor in sorted members. -/
theorem Sorted.canonicalMembers_eq {members : List (String × Json)}
    (hnames : (members.map Prod.fst).Pairwise (· < ·)) (h : SortedMembers members) :
    canonicalMembers members = members := by
  cases members with
  | nil => rw [canonicalMembers]
  | cons m members =>
    obtain ⟨name, value⟩ := m
    rw [SortedMembers] at h
    rw [List.map_cons, List.pairwise_cons] at hnames
    rw [canonicalMembers, Sorted.canonical_eq h.1, Sorted.canonicalMembers_eq hnames.2 h.2,
      insertMember_of_lt hnames.1]

end

/-- So a second time changes nothing. -/
@[simp] theorem canonical_canonical (json : Json) : json.canonical.canonical = json.canonical :=
  (sorted_canonical json).canonical_eq

/-- **Two trees have the same value** if their canonical trees are one. -/
theorem sameValue_iff {a b : Json} : sameValue a b = true ↔ a.canonical = b.canonical := by
  simp [sameValue]

/-- A tree has the value of its canonical tree. -/
@[simp] theorem sameValue_canonical_right (a b : Json) :
    sameValue a b.canonical = sameValue a b := by
  simp [sameValue]

/-- The order of the two does not matter. -/
theorem sameValue_comm (a b : Json) : sameValue a b = sameValue b a := by
  simp [sameValue, eq_comm]

/-! ## Members of distinct objects -/

/-- The first member of a name is the one that is read. -/
theorem member_cons_self : member name ((name, value) :: members) = some value := if_pos rfl

/-- A member of another name is passed over. -/
theorem member_cons_of_ne {other : String} (h : other ≠ name) :
    member name ((other, value) :: members) = member name members := if_neg h

/-- Without a repetition an insertion only adds. -/
theorem perm_insertMember (h : name ∉ members.map Prod.fst) :
    (insertMember name value members).Perm ((name, value) :: members) := by
  induction members with
  | nil => exact List.Perm.refl _
  | cons m members ih =>
    obtain ⟨other, v⟩ := m
    rw [List.map_cons, List.mem_cons, not_or] at h
    unfold insertMember
    rw [if_neg h.1]
    split_ifs
    · exact List.Perm.refl _
    · exact ((ih h.2).cons _).trans (List.Perm.swap _ _ _)

/-- Sorting an object whose names are distinct loses no member. -/
theorem perm_canonicalMembers (h : (members.map Prod.fst).Nodup) :
    (canonicalMembers members).Perm (members.map (fun m => (m.1, m.2.canonical))) := by
  induction members with
  | nil => simp [canonicalMembers]
  | cons m members ih =>
    obtain ⟨name, value⟩ := m
    rw [List.map_cons, List.nodup_cons] at h
    have hperm := ih h.2
    have hfresh : name ∉ (canonicalMembers members).map Prod.fst := by
      intro hmem
      have := (hperm.map Prod.fst).subset hmem
      rw [List.map_map] at this
      exact h.1 this
    rw [canonicalMembers]
    exact (perm_insertMember hfresh).trans (hperm.cons _)

/-- No name is lost where none is repeated. -/
theorem perm_names_canonicalMembers (h : (members.map Prod.fst).Nodup) :
    ((canonicalMembers members).map Prod.fst).Perm (members.map Prod.fst) := by
  have hperm := (perm_canonicalMembers h).map Prod.fst
  rwa [List.map_map] at hperm

/-- Where no name is repeated, to read a member is to have it. -/
theorem member_eq_some_iff (h : (members.map Prod.fst).Nodup) :
    member name members = some value ↔ (name, value) ∈ members := by
  induction members with
  | nil => simp
  | cons m members ih =>
    obtain ⟨other, v⟩ := m
    rw [List.map_cons, List.nodup_cons] at h
    rw [member_cons, List.mem_cons, Prod.mk.injEq]
    by_cases heq : other = name
    · subst heq
      rw [if_pos rfl, Option.some.injEq]
      -- the name stands nowhere else
      have hnot : (other, value) ∉ members := by
        intro hmem
        have := List.mem_map_of_mem (f := Prod.fst) hmem
        exact h.1 this
      constructor
      · rintro rfl
        exact Or.inl ⟨rfl, rfl⟩
      · rintro (⟨-, rfl⟩ | hmem)
        · rfl
        · exact absurd hmem hnot
    · rw [if_neg heq, ih h.2]
      constructor
      · exact Or.inr
      · rintro (⟨rfl, -⟩ | hmem)
        · exact absurd rfl heq
        · exact hmem

/-- The value of an object has the values of its members. -/
theorem member_canonicalMembers (h : (members.map Prod.fst).Nodup) (name : String) :
    member name (canonicalMembers members) = (member name members).map canonical := by
  have hperm := perm_canonicalMembers h
  have hnodup : ((canonicalMembers members).map Prod.fst).Nodup :=
    (perm_names_canonicalMembers h).nodup_iff.mpr h
  ext value
  rw [member_eq_some_iff hnodup, hperm.mem_iff, Option.map_eq_some_iff, List.mem_map]
  constructor
  · rintro ⟨⟨n, v⟩, hmem, heq⟩
    obtain ⟨rfl, rfl⟩ := Prod.mk.inj heq
    exact ⟨v, (member_eq_some_iff h).mpr hmem, rfl⟩
  · rintro ⟨v, hmem, rfl⟩
    exact ⟨(name, v), (member_eq_some_iff h).mp hmem, rfl⟩

end Values

/-! ## Stable readers -/

section Readers

variable {α β : Type}

/-- A reader that reads a tree and its value alike, and only distinct trees. -/
structure Stable (read : Json → Option α) : Prop where
  canonical : ∀ json, json.Distinct → read json.canonical = read json
  distinct : ∀ json a, read json = some a → json.Distinct

/-- **A stable reader cannot tell two distinct trees of one value apart.** -/
theorem Stable.eq_of_sameValue {read : Json → Option α} (h : Stable read) {a b : Json}
    (ha : a.Distinct) (hb : b.Distinct) (hsame : sameValue a b = true) : read a = read b := by
  rw [← h.canonical a ha, sameValue_iff.mp hsame, h.canonical b hb]

/-- Texts are read stably. -/
theorem stable_asStr (parse : String → Option α) : Stable (asStr parse) where
  canonical json _ := by cases json <;> simp [canonical, asStr]
  distinct json a h := by cases json <;> simp_all [Distinct, asStr]

/-- Truth values are, too. -/
theorem stable_asBool : Stable asBool where
  canonical json _ := by cases json <;> simp [canonical, asBool]
  distinct json a h := by cases json <;> simp_all [Distinct, asBool]

/-- And integers. -/
theorem stable_asInt64 : Stable asInt64 where
  canonical json _ := by cases json <;> simp [canonical, asInt64]
  distinct json a h := by cases json <;> simp_all [Distinct, asInt64]

variable {names : List String} {name : String} {json : Json} {read : Json → Option α}
  {members : List (String × Json)}

/-- A record is an object with known names, each at most once. -/
theorem record_eq_some : record names json = some members
    ↔ json = obj members ∧ (∀ m ∈ members, m.1 ∈ names) ∧ (members.map Prod.fst).Nodup := by
  cases json with
  | obj ms =>
    unfold record
    simp only [List.all_eq_true, List.contains_iff_mem, Option.ite_none_right_eq_some,
      Option.some.injEq, obj.injEq]
    constructor
    · rintro ⟨⟨hall, hnodup⟩, rfl⟩
      exact ⟨rfl, hall, hnodup⟩
    · rintro ⟨rfl, hall, hnodup⟩
      exact ⟨⟨hall, hnodup⟩, rfl⟩
  | _ => simp [record]

/-- The value of a distinct object is a record of the same names. -/
theorem record_canonical (h : json.Distinct) :
    record names json.canonical = (record names json).map canonicalMembers := by
  cases json with
  | obj ms =>
    rw [Distinct] at h
    have hperm := perm_names_canonicalMembers h.1
    have hall : (∀ m ∈ canonicalMembers ms, m.1 ∈ names) ↔ ∀ m ∈ ms, m.1 ∈ names := by
      have hforall : ∀ l : List (String × Json),
          (∀ m ∈ l, m.1 ∈ names) ↔ ∀ n ∈ l.map Prod.fst, n ∈ names := by
        intro l
        rw [List.forall_mem_map]
      rw [hforall, hforall]
      exact ⟨fun h n hn => h n (hperm.mem_iff.mpr hn), fun h n hn => h n (hperm.mem_iff.mp hn)⟩
    ext value
    rw [canonical, record_eq_some, Option.map_eq_some_iff]
    constructor
    · rintro ⟨heq, hnames, hnodup⟩
      obtain rfl := obj.inj heq
      exact ⟨ms, record_eq_some.mpr ⟨rfl, hall.mp hnames, h.1⟩, rfl⟩
    · rintro ⟨ms', hrecord, rfl⟩
      obtain ⟨heq, hnames, hnodup⟩ := record_eq_some.mp hrecord
      obtain rfl := obj.inj heq
      exact ⟨rfl, hall.mpr hnames, hperm.nodup_iff.mpr hnodup⟩
  | _ => rfl

/-- Only `null` has the value of `null`. -/
theorem canonical_eq_null_iff : json.canonical = null ↔ json = null := by
  cases json <;> simp [canonical]

/-- An optional member that is there, and is not `null`, is read. -/
theorem optional_of_member {value : Json} (h : member name members = some value)
    (hne : value ≠ null) : optional members name read = (read value).map some := by
  unfold optional
  rw [h]
  split
  · rename_i heq
    cases heq
  · rename_i heq
    exact absurd (Option.some.inj heq) hne
  · rename_i heq
    rw [Option.some.inj heq]

/-- A record is distinct if its members are. -/
theorem distinct_of_record (h : record names json = some members)
    (hvalues : ∀ n ∈ names, ∀ value, member n members = some value → value.Distinct) :
    json.Distinct := by
  obtain ⟨rfl, hnames, hnodup⟩ := record_eq_some.mp h
  rw [Distinct]
  refine ⟨hnodup, distinctMembers_iff.mpr fun m hm => ?_⟩
  exact hvalues m.1 (hnames m hm) m.2 ((member_eq_some_iff hnodup).mpr hm)

namespace Stable

/-- A required member that a stable reader accepts is distinct. -/
theorem distinct_of_required (h : Stable read) {a : α}
    (hread : required members name read = some a) :
    ∀ value, member name members = some value → value.Distinct := by
  intro value hvalue
  unfold required at hread
  rw [hvalue, Option.bind_some] at hread
  exact h.distinct value a hread

/-- And an optional one, or it is `null`. -/
theorem distinct_of_optional (h : Stable read) {a : Option α}
    (hread : optional members name read = some a) :
    ∀ value, member name members = some value → value.Distinct := by
  intro value hvalue
  by_cases hnull : value = null
  · subst hnull
    simp [Distinct]
  · rw [optional_of_member hvalue hnull] at hread
    obtain ⟨b, hb, -⟩ := Option.map_eq_some_iff.mp hread
    exact h.distinct value b hb

variable (hnodup : (members.map Prod.fst).Nodup) (hvalues : DistinctMembers members)

include hnodup hvalues

/-- A value of a distinct object is distinct. -/
theorem distinct_member {value : Json} (h : member name members = some value) :
    value.Distinct :=
  distinctMembers_iff.mp hvalues (name, value) ((member_eq_some_iff hnodup).mp h)

/-- A required member reads the same from the canonical object. -/
theorem required_canonicalMembers (h : Stable read) (name : String) :
    required (canonicalMembers members) name read = required members name read := by
  unfold required
  rw [member_canonicalMembers hnodup]
  cases hmember : member name members with
  | none => rfl
  | some value => exact h.canonical value (distinct_member hnodup hvalues hmember)

/-- And an optional one. -/
theorem optional_canonicalMembers (h : Stable read) (name : String) :
    optional (canonicalMembers members) name read = optional members name read := by
  have hmap := member_canonicalMembers hnodup name
  cases hmember : member name members with
  | none =>
    rw [hmember, Option.map_none] at hmap
    unfold optional
    rw [hmap, hmember]
  | some value =>
    rw [hmember, Option.map_some] at hmap
    by_cases hnull : value = null
    · subst hnull
      unfold optional
      rw [hmap, hmember]
      rfl
    · rw [optional_of_member hmember hnull,
        optional_of_member hmap (canonical_eq_null_iff.not.mpr hnull),
        h.canonical value (distinct_member hnodup hvalues hmember)]

end Stable

/-- A reading of records that reads the members of a value alike reads the value alike. -/
theorem record_bind_canonical {body : List (String × Json) → Option α}
    (hbody : ∀ members, (members.map Prod.fst).Nodup → DistinctMembers members →
      body (canonicalMembers members) = body members) (h : json.Distinct) :
    (record names json.canonical).bind body = (record names json).bind body := by
  rw [record_canonical h]
  cases hrecord : record names json with
  | none => rfl
  | some ms =>
    obtain ⟨rfl, -, hnodup⟩ := record_eq_some.mp hrecord
    rw [Distinct] at h
    exact hbody ms hnodup h.2

/-- **A record of stable readers is stable.** -/
theorem Stable.ofRecord {body : List (String × Json) → Option α}
    (hcanonical : ∀ members, (members.map Prod.fst).Nodup → DistinctMembers members →
      body (canonicalMembers members) = body members)
    (hdistinct : ∀ members a, body members = some a →
      ∀ n ∈ names, ∀ value, member n members = some value → value.Distinct) :
    Stable (fun json => (record names json).bind body) where
  canonical _ hjson := record_bind_canonical hcanonical hjson
  distinct json a hread := by
    obtain ⟨ms, hrecord, hbody⟩ := Option.bind_eq_some_iff.mp hread
    exact distinct_of_record hrecord (hdistinct ms a hbody)

end Readers

/-! ## Maps -/

/-- The members of an object as a value has them: distinct names in increasing
order, and values. -/
structure Map where
  members : List (String × Json)
  sorted : (obj members).Sorted
deriving DecidableEq

namespace Map

/-- The members of a text, read into a map: of one name the last stays. -/
def ofMembers (members : List (String × Json)) : Map where
  members := canonicalMembers members
  sorted := by
    have h := sorted_canonical (obj members)
    rwa [canonical] at h

/-- The value kept under a name. -/
def get (map : Map) (name : String) : Option Json := member name map.members

/-- The map without a member. -/
def remove (map : Map) (name : String) : Map where
  members := map.members.filter (fun m => m.1 ≠ name)
  sorted := by
    have h := map.sorted
    rw [Sorted] at h ⊢
    refine ⟨h.1.sublist (List.filter_sublist.map _), sortedMembers_iff.mpr fun m hm => ?_⟩
    exact sortedMembers_iff.mp h.2 m (List.mem_filter.mp hm).1

/-- The map of one member. -/
def single (name : String) (value : Json) : Map where
  members := [(name, value.canonical)]
  sorted := by simp [Sorted, SortedMembers, sorted_canonical]

/-- The one member of a map is its canonical value. -/
@[simp] theorem get_single (name : String) (value : Json) :
    (single name value).get name = some value.canonical := by
  simp [get, single]

end Map

end Json
