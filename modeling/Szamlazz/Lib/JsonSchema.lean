import Szamlazz.Lib.Json
import Szamlazz.Lib.Regex

/-!
# Schemas of JSON values

The keywords a schema describes a string with, and which values it admits. A keyword about
strings admits everything that is no string, so that a type has to be asked for by itself.
Lengths are numbers of code points.
-/

/-- **A schema**: a keyword, or the keywords of an object, which all have to hold. -/
inductive JsonSchema where
  | type (names : List String)
  | minLength (n : ℕ)
  | maxLength (n : ℕ)
  | pattern (text : String)
  | not (schema : JsonSchema)
  | allOf (schemas : List JsonSchema)
  | object (keywords : List JsonSchema)

namespace JsonSchema

/-- The names of the types a value is of. -/
def typeNames : Json → List String
  | .null => ["null"]
  | .bool _ => ["boolean"]
  | .int _ => ["integer", "number"]
  | .float _ => ["number"]
  | .str _ => ["string"]
  | .arr _ => ["array"]
  | .obj _ => ["object"]

/-- A condition on strings. -/
def onString (P : String → Prop) : Json → Prop
  | .str s => P s
  | _ => True

mutual

/-- **The values a schema admits.** -/
def Admits : JsonSchema → Json → Prop
  | type names, v => ∃ name ∈ typeNames v, name ∈ names
  | minLength n, v => onString (fun s => n ≤ s.length) v
  | maxLength n, v => onString (fun s => s.length ≤ n) v
  | pattern text, v => onString (fun s => ∃ r, Regex.parse text = some r ∧ r.Found s.toList) v
  | not schema, v => ¬ schema.Admits v
  | allOf schemas, v => AdmitsAll schemas v
  | object keywords, v => AdmitsAll keywords v

def AdmitsAll : List JsonSchema → Json → Prop
  | [], _ => True
  | schema :: schemas, v => schema.Admits v ∧ AdmitsAll schemas v

end

section Strings

variable {s : String} {schemas : List JsonSchema} {text : String} {r : Regex} {n : ℕ}

theorem admits_object {v : Json} : (object schemas).Admits v ↔ AdmitsAll schemas v := Iff.rfl

theorem admits_allOf {v : Json} : (allOf schemas).Admits v ↔ AdmitsAll schemas v := Iff.rfl

theorem admits_type_str {names : List String} :
    (type names).Admits (.str s) ↔ "string" ∈ names := by
  show (∃ name ∈ ["string"], name ∈ names) ↔ "string" ∈ names
  simp

theorem admits_minLength_str : (minLength n).Admits (.str s) ↔ n ≤ s.length := Iff.rfl

theorem admits_maxLength_str : (maxLength n).Admits (.str s) ↔ s.length ≤ n := Iff.rfl

/-- **A pattern admits the strings it is found in.** -/
theorem admits_pattern_str (h : Regex.parse text = some r) :
    (pattern text).Admits (.str s) ↔ r.Found s.toList := by
  show (∃ r', Regex.parse text = some r' ∧ r'.Found s.toList) ↔ r.Found s.toList
  constructor
  · rintro ⟨r', hr', hfound⟩
    obtain rfl := Option.some.inj (h.symm.trans hr')
    exact hfound
  · exact fun hfound => ⟨r, h, hfound⟩

/-- A pattern that is a set admits the strings with one of its characters in them. -/
theorem admits_pattern_set {cs : CharSet} (h : Regex.parse text = some (.set cs)) :
    (pattern text).Admits (.str s) ↔ ∃ c ∈ s.toList, cs.mem c = true := by
  rw [admits_pattern_str h, Regex.found_set]

theorem admits_not {schema : JsonSchema} {v : Json} : (not schema).Admits v ↔ ¬ schema.Admits v :=
  Iff.rfl

end Strings

end JsonSchema
