import Mathlib.Tactic.Common
import Mathlib.Data.List.Basic

/-!
# JSON values and records

A JSON document as the tree a parser makes of its text, with the members of an
object in the order of the text. Reading a *record* off an object is strict:
every member must be a known one and occur once. `Record` collects the members
under that rule, and `required` and `optional` read single members from it; an
optional member may be absent or `null`.
-/

/-- A JSON value. -/
inductive Json : Type where
  | null
  | bool (b : Bool)
  | int (n : Int)
  /-- A number with a fraction or an exponent, as written. -/
  | float (literal : String)
  | str (s : String)
  | arr (items : List Json)
  | obj (members : List (String × Json))

namespace Json

/-! ## Equality -/

mutual

/-- Whether two values are the same tree. -/
def beq : Json → Json → Bool
  | null, null => true
  | bool a, bool b => a == b
  | int a, int b => a == b
  | float a, float b => a == b
  | str a, str b => a == b
  | arr as, arr bs => beqItems as bs
  | obj as, obj bs => beqMembers as bs
  | _, _ => false

def beqItems : List Json → List Json → Bool
  | [], [] => true
  | a :: as, b :: bs => beq a b && beqItems as bs
  | _, _ => false

def beqMembers : List (String × Json) → List (String × Json) → Bool
  | [], [] => true
  | (n, a) :: as, (m, b) :: bs => n == m && beq a b && beqMembers as bs
  | _, _ => false

end

mutual

theorem beq_iff (a b : Json) : beq a b = true ↔ a = b := by
  cases a <;> cases b <;> simp [beq, beqItems_iff, beqMembers_iff]

theorem beqItems_iff (as bs : List Json) : beqItems as bs = true ↔ as = bs := by
  cases as with
  | nil => cases bs <;> simp [beqItems]
  | cons a as =>
    cases bs with
    | nil => simp [beqItems]
    | cons b bs => simp [beqItems, beq_iff a b, beqItems_iff as bs]

theorem beqMembers_iff (as bs : List (String × Json)) : beqMembers as bs = true ↔ as = bs := by
  cases as with
  | nil => cases bs <;> simp [beqMembers]
  | cons a as =>
    obtain ⟨n, a⟩ := a
    cases bs with
    | nil => simp [beqMembers]
    | cons b bs =>
      obtain ⟨m, b⟩ := b
      simp [beqMembers, beq_iff a b, beqMembers_iff as bs, and_assoc]

end

instance : DecidableEq Json := fun a b => decidable_of_iff _ (beq_iff a b)

/-! ## Values

As a value, an object is a map: its members in the order of their names, and of
members with one name the last. -/

/-- Adds a member that stands before those already read. -/
def insertMember (name : String) (value : Json) : List (String × Json) → List (String × Json)
  | [] => [(name, value)]
  | (other, v) :: members =>
    if name = other then (other, v) :: members
    else if name < other then (name, value) :: (other, v) :: members
    else (other, v) :: insertMember name value members

mutual

/-- The value of a tree. -/
def canonical : Json → Json
  | arr items => arr (canonicalItems items)
  | obj members => obj (canonicalMembers members)
  | json => json

def canonicalItems : List Json → List Json
  | [] => []
  | item :: items => item.canonical :: canonicalItems items

def canonicalMembers : List (String × Json) → List (String × Json)
  | [] => []
  | (name, value) :: members => insertMember name value.canonical (canonicalMembers members)

end

/-- Whether two trees are one value. -/
def sameValue (a b : Json) : Bool := a.canonical = b.canonical

/-! ## Scalars -/

/-- A string, read by a parser of its text. -/
def asStr {α : Type} (parse : String → Option α) : Json → Option α
  | str s => parse s
  | _ => none

def asBool : Json → Option Bool
  | bool b => some b
  | _ => none

/-- A number of 64 bits. -/
def asInt64 : Json → Option Int64
  | int n => if (Int64.ofInt n).toInt = n then some (Int64.ofInt n) else none
  | _ => none

@[simp] theorem asInt64_int (n : Int64) : asInt64 (int n.toInt) = some n := by
  simp [asInt64]

/-! ## Records -/

/-- The members of an object with one of the names each, and each once. -/
def record (names : List String) : Json → Option (List (String × Json))
  | obj members =>
    if members.all (fun m => names.contains m.1) ∧ (members.map Prod.fst).Nodup then some members
    else none
  | _ => none

/-- The first member of a name. -/
def member (name : String) : List (String × Json) → Option Json
  | [] => none
  | (other, value) :: members => if other = name then some value else member name members

/-- Reads a member that must be there. -/
def required {α : Type} (members : List (String × Json)) (name : String)
    (read : Json → Option α) : Option α :=
  (member name members).bind read

/-- Reads a member that may be absent or `null`. -/
def optional {α : Type} (members : List (String × Json)) (name : String)
    (read : Json → Option α) : Option (Option α) :=
  match member name members with
  | none | some null => some none
  | some value => (read value).map some

/-- The member of a present value. -/
def present (name : String) (value : Option Json) : List (String × Json) :=
  value.toList.map (fun v => (name, v))

section Members

variable {name other : String} {value : Json} {members members' : List (String × Json)}

@[simp] theorem member_cons : member name ((other, value) :: members)
    = if other = name then some value else member name members := rfl

@[simp] theorem member_nil : member name [] = none := rfl

@[simp] theorem member_append : member name (members ++ members')
    = (member name members).or (member name members') := by
  induction members with
  | nil => simp
  | cons m members ih =>
    obtain ⟨other, value⟩ := m
    by_cases h : other = name <;> simp [h, ih]

@[simp] theorem member_present (v : Option Json) :
    member name (present other v) = if other = name then v else none := by
  cases v <;> simp [present]

/-- An optional value is read from the member it was written to, if it was. -/
theorem optional_present {α : Type} {read : Json → Option α} {v : Option Json} {a : Option α}
    (h : member name members = v) (hnull : ∀ j ∈ v, j ≠ null)
    (hread : v.map read = a.map some) : optional members name read = some a := by
  unfold optional
  rw [h]
  cases v with
  | none =>
    cases a with
    | none => rfl
    | some a => simp at hread
  | some j =>
    cases a with
    | none => simp at hread
    | some a =>
      have hj : read j = some a := by simpa using hread
      have hne : j ≠ null := hnull j rfl
      split
      · rename_i heq
        cases heq
      · rename_i heq
        exact absurd (Option.some.inj heq) hne
      · rename_i heq
        rw [← Option.some.inj heq, hj]
        rfl

theorem present_sublist (v : Option Json) :
    ((present name v).map Prod.fst).Sublist [name] := by
  cases v <;> simp [present]

/-- Members written in the order of the names, some left out, are a record. -/
theorem record_obj {names : List String} (h : (members.map Prod.fst).Sublist names)
    (hnames : names.Nodup) : record names (obj members) = some members := by
  have hall : members.all (fun m => names.contains m.1) = true := by
    rw [List.all_eq_true]
    intro m hm
    simpa using h.subset (List.mem_map_of_mem hm)
  exact if_pos ⟨hall, hnames.sublist h⟩

end Members

end Json
