import Mathlib.Data.List.Basic
import Mathlib.Tactic.Common

/-!
# Markup with namespaces

A reader of markup reports start tags, empty tags, end tags and leaves – text and
whatever else stands between tags. A stream of such events is well nested when it is
the event stream of some content (`Content.events`), and a function of well-nested
streams is verified by recursion on the content.

A tag may declare prefixes, the default namespace among them. A declaration holds for
the tag and for what it encloses and hides the same declaration further out, so names
are resolved against the scopes of the enclosing tags, innermost first
(`Content.annotate`). `NamespaceResolver` is what a stateful resolver has to provide:
operations on some state, and the scopes that state stands for.
-/

namespace Markup

/-! ## Events and content -/

/-- What a reader of markup reports: `T` are the tags, `N` what an end tag tells, and `L`
the leaves. -/
inductive Event (T N L : Type) where
  | start (tag : T)
  | empty (tag : T)
  | close (name : N)
  | leaf (l : L)

/-- What stands between two tags, or in a whole document. -/
inductive Content (T L : Type) where
  | nil
  | leaf (l : L) (rest : Content T L)
  | empty (tag : T) (rest : Content T L)
  | element (tag : T) (children rest : Content T L)

namespace Content

variable {T T' N L : Type}

/-- **The events of content**, every element closed by what its tag says. -/
def events (close : T → N) : Content T L → List (Event T N L)
  | nil => []
  | leaf l rest => .leaf l :: rest.events close
  | empty tag rest => .empty tag :: rest.events close
  | element tag children rest =>
    .start tag :: (children.events close ++ .close (close tag) :: rest.events close)

end Content

/-! ## Names -/

/-- A name as it is written, with or without a prefix. -/
structure QName where
  pfx : Option String
  localName : String
  deriving DecidableEq

/-- The prefix an attribute of this name declares, `none` for the default namespace. -/
def QName.asNamespaceBinding (name : QName) : Option (Option String) :=
  match name.pfx with
  | none => if name.localName = "xmlns" then some none else none
  | some pfx => if pfx = "xmlns" then some (some name.localName) else none

/-- An attribute, its value as it is written. -/
structure Attribute where
  key : QName
  value : String
  deriving DecidableEq

/-- A start tag or an empty tag. An attribute that could not be read is an error. -/
structure Tag where
  name : QName
  attributes : List (Except String Attribute)

/-- What a prefix stands for. -/
inductive ResolveResult where
  | unbound
  | bound («namespace» : String)
  | unknown (pfx : String)
  deriving DecidableEq

/-! ## Scopes -/

/-- The declarations of one tag. -/
abbrev Scope : Type := List (Option String × String)

/-- The scopes of the enclosing tags, innermost first. -/
abbrev Scopes : Type := List Scope

namespace Scopes

/-- One more declaration in the innermost scope. -/
def declare (pfx : Option String) (uri : String) : Scopes → Scopes
  | [] => [[(pfx, uri)]]
  | scope :: scopes => ((pfx, uri) :: scope) :: scopes

/-- The innermost declaration of a prefix. -/
def find (scopes : Scopes) (pfx : Option String) : Option String := scopes.flatten.lookup pfx

/-- What a prefix stands for; two are bound from the start, and a declaration without a
value undeclares. -/
def resolvePrefix (scopes : Scopes) (pfx : String) : ResolveResult :=
  match scopes.find (some pfx) with
  | some "" => .unknown pfx
  | some uri => .bound uri
  | none =>
    if pfx = "xml" then .bound "http://www.w3.org/XML/1998/namespace"
    else if pfx = "xmlns" then .bound "http://www.w3.org/2000/xmlns/"
    else .unknown pfx

/-- The namespace of an element: without a prefix, the default one. -/
def resolveElement (scopes : Scopes) (name : QName) : ResolveResult :=
  match name.pfx with
  | some pfx => scopes.resolvePrefix pfx
  | none =>
    match scopes.find none with
    | some "" | none => .unbound
    | some uri => .bound uri

/-- The namespace of an attribute: without a prefix, none. -/
def resolveAttribute (scopes : Scopes) (name : QName) : ResolveResult :=
  match name.pfx with
  | some pfx => scopes.resolvePrefix pfx
  | none => .unbound

end Scopes

section Scoped

variable {T L : Type} (name : T → QName) (declared : T → Scope)

/-- **Every tag with the namespace of its name**, resolved where the tag stands: its own
declarations come first, then those of the enclosing tags. -/
def Content.annotate (scopes : Scopes) : Content T L → Content (ResolveResult × T) L
  | nil => nil
  | leaf l rest => leaf l (rest.annotate scopes)
  | empty tag rest =>
    empty (Scopes.resolveElement (declared tag :: scopes) (name tag), tag) (rest.annotate scopes)
  | element tag children rest =>
    element (Scopes.resolveElement (declared tag :: scopes) (name tag), tag)
      (children.annotate (declared tag :: scopes)) (rest.annotate scopes)

/-- Every tag is as `P` says, given the scopes of the tags that enclose it. -/
def Content.EveryTag (P : Scopes → T → Prop) (scopes : Scopes) : Content T L → Prop
  | nil => True
  | leaf _ rest => rest.EveryTag P scopes
  | empty tag rest => P scopes tag ∧ rest.EveryTag P scopes
  | element tag children rest =>
    P scopes tag ∧ children.EveryTag P (declared tag :: scopes) ∧ rest.EveryTag P scopes

end Scoped

/-- **A resolver of namespaces**: operations on a state, and the scopes the state stands
for. What it refuses to declare depends on the declaration alone. -/
structure NamespaceResolver where
  State : Type
  new : State
  push : State → State
  add : State → Option String → String → Except String State
  pop : State → State
  resolveElement : State → QName → ResolveResult
  resolveAttribute : State → QName → ResolveResult
  refused : Option String → String → Option String
  scopes : State → Scopes
  scopes_new : scopes new = []
  scopes_push (s : State) : scopes (push s) = [] :: scopes s
  scopes_pop (s : State) : scopes (pop s) = (scopes s).tail
  scopes_add (s : State) (pfx : Option String) (uri : String) :
    (add s pfx uri).map scopes = match refused pfx uri with
      | some error => .error error
      | none => .ok ((scopes s).declare pfx uri)
  resolveElement_eq (s : State) (name : QName) :
    resolveElement s name = (scopes s).resolveElement name
  resolveAttribute_eq (s : State) (name : QName) :
    resolveAttribute s name = (scopes s).resolveAttribute name

/-- The scopes themselves, as a resolver. -/
def Scopes.resolver (refused : Option String → String → Option String) : NamespaceResolver where
  State := Scopes
  new := []
  push s := [] :: s
  add s pfx uri := match refused pfx uri with
    | some error => .error error
    | none => .ok (s.declare pfx uri)
  pop s := s.tail
  resolveElement := Scopes.resolveElement
  resolveAttribute := Scopes.resolveAttribute
  refused := refused
  scopes s := s
  scopes_new := rfl
  scopes_push _ := rfl
  scopes_pop _ := rfl
  scopes_add s pfx uri := by cases refused pfx uri <;> rfl
  resolveElement_eq _ _ := rfl
  resolveAttribute_eq _ _ := rfl

end Markup
