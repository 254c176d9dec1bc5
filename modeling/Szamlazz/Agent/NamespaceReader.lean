import Szamlazz.Agent.Types
import Szamlazz.Lib.Markup

/-!
# The namespace reader

Every response is read as a stream of events with the namespaces of its elements
resolved. The reader keeps a scope for every open element; the scope of an end tag or
an empty tag is dropped only when the next event is read, because that tag itself is
still resolved in it. A start tag is refused when it declares what must not be
declared, when a prefix is undeclared, or when two attributes have one expanded name.

The tokenizer, the normalization of attribute values and the resolver are libraries:
the events are given, and the other two are parameters.

On the events of well-nested content the reader resolves every name where it stands,
at any depth and whatever is declared again further in (`readAll_events`).
-/

namespace Szamlazz

open Markup

/-! ## The reader -/

section Reader

variable (N : NamespaceResolver) (normalizedValue : String → Except String String) {L : Type}

/-- The reader between two events. -/
structure NamespaceReader where
  resolver : N.State
  pendingPop : Bool

def NamespaceReader.new : NamespaceReader N := ⟨N.new, false⟩

def xmlNamespace : String := "http://www.w3.org/XML/1998/namespace"

def xmlnsNamespace : String := "http://www.w3.org/2000/xmlns/"

/-- The bindings the reader refuses to install. -/
def invalidBinding (pfx : Option String) (value : String) : Bool :=
  (pfx.isNone && (value == xmlNamespace || value == xmlnsNamespace))
    || (pfx.isSome && value.isEmpty)

/-- The first pass over the attributes: installs the declarations. -/
def installBindings (resolver : N.State) :
    List (Except String Attribute) → Except ParseError N.State
  | [] => .ok resolver
  | .error error :: _ => .error (.xml error)
  | .ok attr :: rest =>
    match attr.key.asNamespaceBinding with
    | none => installBindings resolver rest
    | some pfx =>
      match normalizedValue attr.value with
      | .error error => .error (.xml error)
      | .ok value =>
        if invalidBinding pfx value then .error (.unexpectedBody "invalid XML namespace binding")
        else match N.add resolver pfx value with
          | .error error => .error (.xml error)
          | .ok resolver => installBindings resolver rest

/-- The second pass: the other attributes have different expanded names. -/
def checkAttributes (resolver : N.State) (attributes : List (Option String × String)) :
    List (Except String Attribute) → Except ParseError Unit
  | [] => .ok ()
  | .error error :: _ => .error (.xml error)
  | .ok attr :: rest =>
    if attr.key.asNamespaceBinding.isSome then checkAttributes resolver attributes rest
    else
      match N.resolveAttribute resolver attr.key with
      | .unknown _ => .error (.unexpectedBody "undeclared XML attribute prefix")
      | .bound uri =>
        if (some uri, attr.key.localName) ∈ attributes then
          .error (.unexpectedBody "duplicate expanded XML attribute name")
        else checkAttributes resolver ((some uri, attr.key.localName) :: attributes) rest
      | .unbound =>
        if (none, attr.key.localName) ∈ attributes then
          .error (.unexpectedBody "duplicate expanded XML attribute name")
        else checkAttributes resolver ((none, attr.key.localName) :: attributes) rest

/-- Opens the scope of a tag. -/
def push (resolver : N.State) (start : Tag) : Except ParseError N.State := do
  if start.name.pfx = some "xmlns" then
    throw (.unexpectedBody "reserved xmlns prefix on XML element")
  let resolver ← installBindings N normalizedValue (N.push resolver) start.attributes
  checkAttributes N resolver [] start.attributes
  return resolver

/-- The namespace of an element, unless its prefix is undeclared. -/
def declaredElement (resolver : N.State) (name : QName) : Except ParseError ResolveResult :=
  match N.resolveElement resolver name with
  | .unknown _ => .error (.unexpectedBody "undeclared XML element prefix")
  | result => .ok result

/-- The scope of a tag and the namespace of its element in it. -/
def openElement (resolver : N.State) (tag : Tag) : Except ParseError (ResolveResult × N.State) := do
  let resolver ← push N normalizedValue resolver tag
  let result ← declaredElement N resolver tag.name
  return (result, resolver)

/-- The resolver without the scope of an end or empty tag that was read last. -/
def NamespaceReader.current (reader : NamespaceReader N) : N.State :=
  if reader.pendingPop then N.pop reader.resolver else reader.resolver

/-- The next event, its names resolved. -/
def NamespaceReader.readResolvedEvent (reader : NamespaceReader N) :
    Event Tag QName L →
      Except ParseError (Event (ResolveResult × Tag) (ResolveResult × QName) L × NamespaceReader N)
  | .start tag => do
    let (result, resolver) ← openElement N normalizedValue reader.current tag
    return (.start (result, tag), ⟨resolver, false⟩)
  | .empty tag => do
    let (result, resolver) ← openElement N normalizedValue reader.current tag
    return (.empty (result, tag), ⟨resolver, true⟩)
  | .close name => do
    let result ← declaredElement N reader.current name
    return (.close (result, name), ⟨reader.current, true⟩)
  | .leaf l => .ok (.leaf l, ⟨reader.current, false⟩)

/-- The whole stream. -/
def NamespaceReader.readAll (reader : NamespaceReader N) : List (Event Tag QName L) →
    Except ParseError (List (Event (ResolveResult × Tag) (ResolveResult × QName) L))
  | [] => .ok []
  | event :: events => do
    let (resolved, reader) ← NamespaceReader.readResolvedEvent N normalizedValue reader event
    return resolved :: (← NamespaceReader.readAll reader events)

end Reader

/-! ## The resolver by its scopes -/

section Scoped

variable {N : NamespaceResolver} {normalizedValue : String → Except String String} {L : Type}

/-- The scopes that are open for the next event. -/
def NamespaceReader.view (reader : NamespaceReader N) : Scopes :=
  N.scopes reader.current

/-- The reader whose resolver is its scopes. -/
abbrev ScopeReader (N : NamespaceResolver) : Type := NamespaceReader (Scopes.resolver N.refused)

/-- Between two events, with these scopes open. -/
def ScopeReader.at (N : NamespaceResolver) (scopes : Scopes) : ScopeReader N := ⟨scopes, false⟩

variable (normalizedValue) in
theorem installBindings_scopes (resolver : N.State)
    (attributes : List (Except String Attribute)) :
    (installBindings N normalizedValue resolver attributes).map N.scopes
      = installBindings (Scopes.resolver N.refused) normalizedValue (N.scopes resolver)
        attributes := by
  induction attributes generalizing resolver with
  | nil => rfl
  | cons a rest ih =>
    cases a with
    | error error => rfl
    | ok attr =>
      simp only [installBindings]
      cases attr.key.asNamespaceBinding with
      | none => exact ih resolver
      | some pfx =>
        dsimp only
        cases normalizedValue attr.value with
        | error error => rfl
        | ok value =>
          dsimp only
          have hadd : (Scopes.resolver N.refused).add (N.scopes resolver) pfx value
              = (N.add resolver pfx value).map N.scopes := (N.scopes_add resolver pfx value).symm
          rw [hadd]
          split_ifs
          · rfl
          · cases N.add resolver pfx value with
            | error error => rfl
            | ok resolver' => exact ih resolver'

theorem checkAttributes_scopes (resolver : N.State) (seen : List (Option String × String))
    (attributes : List (Except String Attribute)) :
    checkAttributes N resolver seen attributes
      = checkAttributes (Scopes.resolver N.refused) (N.scopes resolver) seen attributes := by
  induction attributes generalizing seen with
  | nil => rfl
  | cons a rest ih =>
    cases a with
    | error error => rfl
    | ok attr =>
      have hresolve : (Scopes.resolver N.refused).resolveAttribute (N.scopes resolver) attr.key
          = N.resolveAttribute resolver attr.key := (N.resolveAttribute_eq resolver attr.key).symm
      simp only [checkAttributes, hresolve, ih]

theorem push_scopes (resolver : N.State) (start : Tag) :
    (push N normalizedValue resolver start).map N.scopes
      = push (Scopes.resolver N.refused) normalizedValue (N.scopes resolver) start := by
  have hinstall := installBindings_scopes normalizedValue (N.push resolver)
    start.attributes
  rw [N.scopes_push] at hinstall
  unfold push
  split_ifs
  · rfl
  · have hpush : (Scopes.resolver N.refused).push (N.scopes resolver) = [] :: N.scopes resolver := rfl
    rw [hpush, ← hinstall]
    cases installBindings N normalizedValue (N.push resolver) start.attributes with
    | error error => rfl
    | ok resolver' =>
      show Except.map N.scopes (checkAttributes N resolver' [] start.attributes >>= fun _ =>
        pure resolver') = (checkAttributes (Scopes.resolver N.refused) (N.scopes resolver') []
          start.attributes >>= fun _ => pure (N.scopes resolver'))
      rw [checkAttributes_scopes]
      cases checkAttributes (Scopes.resolver N.refused) (N.scopes resolver') []
        start.attributes <;> rfl

theorem declaredElement_scopes (resolver : N.State) (name : QName) :
    declaredElement (Scopes.resolver N.refused) (N.scopes resolver) name
      = declaredElement N resolver name := by
  have hresolve : (Scopes.resolver N.refused).resolveElement (N.scopes resolver) name
      = N.resolveElement resolver name := (N.resolveElement_eq resolver name).symm
  unfold declaredElement
  rw [hresolve]

theorem openElement_scopes (resolver : N.State) (tag : Tag) :
    (openElement N normalizedValue resolver tag).map (fun p => (p.1, N.scopes p.2))
      = openElement (Scopes.resolver N.refused) normalizedValue (N.scopes resolver) tag := by
  unfold openElement
  rw [← push_scopes]
  cases push N normalizedValue resolver tag with
  | error error => rfl
  | ok resolver' =>
    show Except.map _ (declaredElement N resolver' tag.name >>= _)
      = (declaredElement (Scopes.resolver N.refused) (N.scopes resolver') tag.name >>= _)
    rw [declaredElement_scopes]
    cases declaredElement N resolver' tag.name <;> rfl

variable (normalizedValue) in
theorem readResolvedEvent_scopes (reader : NamespaceReader N) (event : Event Tag QName L) :
    (NamespaceReader.readResolvedEvent N normalizedValue reader event).map
        (fun p => (p.1, p.2.view))
      = (NamespaceReader.readResolvedEvent (Scopes.resolver N.refused) normalizedValue
        (ScopeReader.at N reader.view) event).map (fun p => (p.1, p.2.view)) := by
  have htail : ∀ resolver : N.State, (⟨resolver, true⟩ : NamespaceReader N).view
      = (N.scopes resolver).tail := fun resolver => N.scopes_pop resolver
  cases event with
  | leaf l => rfl
  | close name =>
    show Except.map _ (declaredElement N reader.current name >>= _) = Except.map _
      (declaredElement (Scopes.resolver N.refused) (N.scopes reader.current) name >>= _)
    rw [declaredElement_scopes]
    cases declaredElement N reader.current name with
    | error error => rfl
    | ok result => exact congrArg (fun view => Except.ok (_, view)) (htail _)
  | start tag =>
    show Except.map _ (openElement N normalizedValue reader.current tag >>= _) = Except.map _
      (openElement (Scopes.resolver N.refused) normalizedValue (N.scopes reader.current) tag >>= _)
    rw [← openElement_scopes]
    cases openElement N normalizedValue reader.current tag <;> rfl
  | empty tag =>
    show Except.map _ (openElement N normalizedValue reader.current tag >>= _) = Except.map _
      (openElement (Scopes.resolver N.refused) normalizedValue (N.scopes reader.current) tag >>= _)
    rw [← openElement_scopes]
    cases openElement N normalizedValue reader.current tag with
    | error error => rfl
    | ok p => exact congrArg (fun view => Except.ok (_, view)) (htail _)

/-- **The reader sees its resolver only through the scopes.** -/
theorem readAll_scopes (reader : NamespaceReader N) (events : List (Event Tag QName L)) :
    NamespaceReader.readAll N normalizedValue reader events
      = NamespaceReader.readAll (Scopes.resolver N.refused) normalizedValue
        (ScopeReader.at N reader.view) events := by
  induction events generalizing N with
  | nil => rfl
  | cons event events ih =>
    have hnext := readResolvedEvent_scopes normalizedValue reader event
    unfold NamespaceReader.readAll
    generalize NamespaceReader.readResolvedEvent N normalizedValue reader event = x at hnext ⊢
    generalize NamespaceReader.readResolvedEvent (Scopes.resolver N.refused) normalizedValue
      (ScopeReader.at N reader.view) event = y at hnext ⊢
    cases x with
    | error error =>
      cases y with
      | error error' => exact congrArg Except.error (Except.error.inj hnext)
      | ok q => cases hnext
    | ok p =>
      cases y with
      | error error' => cases hnext
      | ok q =>
        obtain ⟨resolved, reader'⟩ := p
        obtain ⟨resolved', scopeReader⟩ := q
        obtain ⟨rfl, hview⟩ := Prod.mk.inj (Except.ok.inj hnext)
        -- Both readers go on as the one with these scopes open.
        have hleft := ih reader'
        have hright := ih scopeReader
        dsimp only at hview
        rw [hview] at hleft
        show (NamespaceReader.readAll N normalizedValue reader' events >>= _)
          = (NamespaceReader.readAll (Scopes.resolver N.refused) normalizedValue scopeReader
            events >>= _)
        rw [hleft, hright]
        rfl

/-! ## Tags in their scopes -/

/-- The declaration of an attribute, its value normalized. -/
def declaration (normalizedValue : String → Except String String) :
    Except String Attribute → Option (Option String × String)
  | .error _ => none
  | .ok attr =>
    match attr.key.asNamespaceBinding, normalizedValue attr.value with
    | some pfx, .ok value => some (pfx, value)
    | _, _ => none

/-- The declarations of a tag. -/
def declared (normalizedValue : String → Except String String) (tag : Tag) : Scope :=
  (tag.attributes.filterMap (declaration normalizedValue)).reverse

/-- The expanded name of an attribute that declares nothing. -/
def expandedName (scopes : Scopes) : Except String Attribute → Option (Option String × String)
  | .error _ => none
  | .ok attr =>
    if attr.key.asNamespaceBinding.isSome then none
    else
      match scopes.resolveAttribute attr.key with
      | .bound uri => some (some uri, attr.key.localName)
      | .unbound => some (none, attr.key.localName)
      | .unknown _ => none

/-- An attribute that can be read and declares nothing forbidden. -/
def Declares (N : NamespaceResolver) (normalizedValue : String → Except String String)
    (a : Except String Attribute) : Prop :=
  ∃ attr, a = .ok attr ∧ ∀ pfx, attr.key.asNamespaceBinding = some pfx →
    ∃ value, normalizedValue attr.value = .ok value ∧ invalidBinding pfx value = false
      ∧ N.refused pfx value = none

/-- **A tag that may stand in these scopes**: its attributes can be read and declare
nothing forbidden, every prefix is declared here or further out, and no two attributes
have one expanded name. -/
structure Admissible (N : NamespaceResolver) (normalizedValue : String → Except String String)
    (scopes : Scopes) (tag : Tag) : Prop where
  notReserved : tag.name.pfx ≠ some "xmlns"
  declares : ∀ a ∈ tag.attributes, Declares N normalizedValue a
  resolves : ∀ attr, Except.ok attr ∈ tag.attributes → attr.key.asNamespaceBinding = none →
    ∀ pfx, Scopes.resolveAttribute (declared normalizedValue tag :: scopes) attr.key ≠ .unknown pfx
  distinct : (tag.attributes.filterMap
    (expandedName (declared normalizedValue tag :: scopes))).Nodup
  element : ∀ pfx, Scopes.resolveElement (declared normalizedValue tag :: scopes) tag.name
    ≠ .unknown pfx

theorem declares_of_none {attr : Attribute} (h : attr.key.asNamespaceBinding = none) :
    Declares N normalizedValue (.ok attr) := by
  refine ⟨attr, rfl, fun pfx hpfx => ?_⟩
  rw [h] at hpfx
  cases hpfx

theorem declares_of_some {attr : Attribute} {pfx : Option String}
    (h : attr.key.asNamespaceBinding = some pfx) :
    Declares N normalizedValue (.ok attr) ↔ ∃ value, normalizedValue attr.value = .ok value
      ∧ invalidBinding pfx value = false ∧ N.refused pfx value = none := by
  constructor
  · rintro ⟨attr', hattr, hdeclares⟩
    cases hattr
    exact hdeclares pfx h
  · intro hvalue
    refine ⟨attr, rfl, fun pfx' hpfx' => ?_⟩
    rw [h] at hpfx'
    exact Option.some.inj hpfx' ▸ hvalue

theorem installBindings_eq_ok {refused : Option String → String → Option String}
    {attributes : List (Except String Attribute)} {scope : Scope} {scopes result : Scopes} :
    installBindings (Scopes.resolver refused) normalizedValue (scope :: scopes) attributes
        = .ok result
      ↔ (∀ a ∈ attributes, Declares (Scopes.resolver refused) normalizedValue a)
        ∧ result = ((attributes.filterMap (declaration normalizedValue)).reverse ++ scope)
          :: scopes := by
  -- the scope that is being filled stays free; a declaration goes in front of it
  induction attributes generalizing scope with
  | nil =>
    constructor
    · intro h
      exact ⟨fun a ha => absurd ha List.not_mem_nil, (Except.ok.inj h).symm⟩
    · rintro ⟨-, rfl⟩
      rfl
  | cons a rest ih =>
    rw [List.forall_mem_cons]
    cases a with
    | error error =>
      constructor
      · intro h
        cases h
      · rintro ⟨⟨⟨attr, h, -⟩, -⟩, -⟩
        cases h
    | ok attr =>
      simp only [installBindings, List.filterMap_cons, declaration]
      cases hbinding : attr.key.asNamespaceBinding with
      | none =>
        exact ih.trans (and_congr_left' ⟨fun h => ⟨declares_of_none hbinding, h⟩, And.right⟩)
      | some pfx =>
        rw [declares_of_some hbinding]
        cases hvalue : normalizedValue attr.value with
        | error error =>
          refine ⟨(fun h => by cases h), ?_⟩
          rintro ⟨⟨⟨value, hok, -⟩, -⟩, -⟩
          cases hok
        | ok value =>
          have hadd : (Scopes.resolver refused).add (scope :: scopes) pfx value
              = (refused pfx value).elim (.ok (((pfx, value) :: scope) :: scopes)) .error := by
            dsimp only [Scopes.resolver]
            cases refused pfx value <;> rfl
          dsimp only
          rw [hadd]
          by_cases hinvalid : invalidBinding pfx value = true
          · rw [if_pos hinvalid]
            refine ⟨(fun h => by cases h), ?_⟩
            rintro ⟨⟨⟨value', hok, hvalid, -⟩, -⟩, -⟩
            rw [Except.ok.inj hok, hvalid] at hinvalid
            cases hinvalid
          · rw [if_neg hinvalid]
            cases hrefused : refused pfx value with
            | some error =>
              refine ⟨(fun h => by cases h), ?_⟩
              rintro ⟨⟨⟨value', hok, -, hnone⟩, -⟩, -⟩
              have hnone' : refused pfx value' = none := hnone
              rw [← Except.ok.inj hok, hrefused] at hnone'
              cases hnone'
            | none =>
              refine ih.trans ?_
              rw [List.reverse_cons, List.append_assoc, List.singleton_append]
              refine and_congr_left' ⟨fun h => ⟨⟨value, rfl, ?_, hrefused⟩, h⟩, And.right⟩
              exact Bool.eq_false_iff.mpr hinvalid

/-- What the second pass asks of attributes whose names are expanded in these scopes. -/
def Distinct (scopes : Scopes) (seen : List (Option String × String))
    (attributes : List (Except String Attribute)) : Prop :=
  (∀ attr, Except.ok attr ∈ attributes → attr.key.asNamespaceBinding = none →
      ∀ pfx, scopes.resolveAttribute attr.key ≠ .unknown pfx)
    ∧ (attributes.filterMap (expandedName scopes)).Nodup
    ∧ ∀ n ∈ attributes.filterMap (expandedName scopes), n ∉ seen

theorem distinct_cons_some {scopes : Scopes} {seen : List (Option String × String)}
    {attr : Attribute} {rest : List (Except String Attribute)} {n : Option String × String}
    (h : expandedName scopes (.ok attr) = some n)
    (hresolves : ∀ pfx, scopes.resolveAttribute attr.key ≠ .unknown pfx) :
    Distinct scopes seen (.ok attr :: rest) ↔ n ∉ seen ∧ Distinct scopes (n :: seen) rest := by
  unfold Distinct
  rw [List.filterMap_cons, h]
  dsimp only
  rw [List.nodup_cons, List.forall_mem_cons]
  constructor
  · rintro ⟨hall, ⟨hn, hnodup⟩, hseen, hrest⟩
    refine ⟨hseen, fun attr' hattr' => hall attr' (List.mem_cons_of_mem _ hattr'), hnodup,
      fun m hm hmem => ?_⟩
    rcases List.mem_cons.mp hmem with rfl | hmem
    · exact hn hm
    · exact hrest m hm hmem
  · rintro ⟨hseen, hall, hnodup, hrest⟩
    refine ⟨fun attr' hattr' hbinding => ?_, ⟨fun hn => hrest n hn List.mem_cons_self, hnodup⟩,
      hseen, fun m hm hmem => hrest m hm (List.mem_cons_of_mem _ hmem)⟩
    rcases List.mem_cons.mp hattr' with heq | hattr'
    · cases heq
      exact hresolves
    · exact hall attr' hattr' hbinding

theorem checkAttributes_eq_ok {refused : Option String → String → Option String} {scopes : Scopes}
    {attributes : List (Except String Attribute)} {seen : List (Option String × String)}
    (hok : ∀ a ∈ attributes, ∃ attr, a = .ok attr) :
    checkAttributes (Scopes.resolver refused) scopes seen attributes = .ok ()
      ↔ Distinct scopes seen attributes := by
  induction attributes generalizing seen with
  | nil =>
    exact ⟨fun _ => ⟨fun _ h => absurd h List.not_mem_nil, List.nodup_nil,
      fun _ h => absurd h List.not_mem_nil⟩, fun _ => rfl⟩
  | cons a rest ih =>
    obtain ⟨attr, rfl⟩ := hok a List.mem_cons_self
    have ih' := fun seen => @ih seen fun a ha => hok a (List.mem_cons_of_mem _ ha)
    have hresolve : (Scopes.resolver refused).resolveAttribute scopes attr.key
        = scopes.resolveAttribute attr.key := rfl
    simp only [checkAttributes, hresolve]
    by_cases hbinding : attr.key.asNamespaceBinding.isSome = true
    · rw [if_pos hbinding, ih']
      have hname : expandedName scopes (.ok attr) = none := if_pos hbinding
      unfold Distinct
      rw [List.filterMap_cons, hname]
      refine and_congr_left' ⟨fun h attr' hattr' => ?_, fun h attr' hattr' =>
        h attr' (List.mem_cons_of_mem _ hattr')⟩
      rcases List.mem_cons.mp hattr' with heq | hattr'
      · cases heq
        intro hnone
        rw [hnone] at hbinding
        cases hbinding
      · exact h attr' hattr'
    · rw [if_neg hbinding]
      have hnone := Option.not_isSome_iff_eq_none.mp hbinding
      have hname : ∀ n, (match scopes.resolveAttribute attr.key with
          | .bound uri => some (some uri, attr.key.localName)
          | .unbound => some (none, attr.key.localName)
          | .unknown _ => none) = some n → expandedName scopes (.ok attr) = some n :=
        fun n h => (if_neg hbinding).trans h
      cases hresult : scopes.resolveAttribute attr.key with
      | unknown pfx =>
        refine ⟨(fun h => by cases h), fun h => ?_⟩
        exact absurd hresult (h.1 attr List.mem_cons_self hnone pfx)
      | bound uri =>
        rw [hresult] at hname
        rw [distinct_cons_some (hname _ rfl) (by rw [hresult]; exact fun _ h => by cases h), ← ih']
        dsimp only
        split_ifs with hmem
        · exact ⟨(fun h => by cases h), fun h => absurd hmem h.1⟩
        · exact ⟨fun h => ⟨hmem, h⟩, And.right⟩
      | unbound =>
        rw [hresult] at hname
        rw [distinct_cons_some (hname _ rfl) (by rw [hresult]; exact fun _ h => by cases h), ← ih']
        dsimp only
        split_ifs with hmem
        · exact ⟨(fun h => by cases h), fun h => absurd hmem h.1⟩
        · exact ⟨fun h => ⟨hmem, h⟩, And.right⟩

theorem declaredElement_eq_ok {scopes : Scopes} {name : QName} {result : ResolveResult} :
    declaredElement (Scopes.resolver N.refused) scopes name = .ok result
      ↔ (∀ pfx, scopes.resolveElement name ≠ .unknown pfx) ∧ result = scopes.resolveElement name := by
  have hresolve : (Scopes.resolver N.refused).resolveElement scopes name
      = scopes.resolveElement name := rfl
  unfold declaredElement
  rw [hresolve]
  cases scopes.resolveElement name with
  | unknown pfx => exact ⟨(fun h => by cases h), fun h => absurd rfl (h.1 pfx)⟩
  | bound uri => exact ⟨fun h => ⟨(fun _ h => by cases h), (Except.ok.inj h).symm⟩, fun h => by rw [h.2]⟩
  | unbound => exact ⟨fun h => ⟨(fun _ h => by cases h), (Except.ok.inj h).symm⟩, fun h => by rw [h.2]⟩

theorem push_eq_ok {scopes result : Scopes} {tag : Tag} :
    push (Scopes.resolver N.refused) normalizedValue scopes tag = .ok result
      ↔ tag.name.pfx ≠ some "xmlns" ∧ (∀ a ∈ tag.attributes, Declares N normalizedValue a)
        ∧ Distinct (declared normalizedValue tag :: scopes) [] tag.attributes
        ∧ result = declared normalizedValue tag :: scopes := by
  unfold push
  by_cases hname : tag.name.pfx = some "xmlns"
  · rw [if_pos hname]
    exact ⟨(fun h => by cases h), fun h => absurd hname h.1⟩
  · rw [if_neg hname]
    have hopen : (Scopes.resolver N.refused).push scopes = [] :: scopes := rfl
    rw [hopen]
    constructor
    · intro h
      obtain ⟨opened, hinstall, h⟩ := Except.bind_eq_ok.mp h
      obtain ⟨_, hcheck, h⟩ := Except.bind_eq_ok.mp h
      obtain ⟨hdeclares, rfl⟩ := installBindings_eq_ok.mp hinstall
      rw [List.append_nil] at hcheck h
      refine ⟨hname, hdeclares, ?_, (Except.ok.inj h).symm⟩
      exact (checkAttributes_eq_ok fun a ha => (hdeclares a ha).imp fun _ h => h.1).mp hcheck
    · rintro ⟨-, hdeclares, hdistinct, rfl⟩
      have hinstall : installBindings (Scopes.resolver N.refused) normalizedValue ([] :: scopes)
          tag.attributes = .ok (declared normalizedValue tag :: scopes) :=
        installBindings_eq_ok.mpr ⟨hdeclares, by rw [List.append_nil]; rfl⟩
      have hcheck : checkAttributes (Scopes.resolver N.refused)
          (declared normalizedValue tag :: scopes) [] tag.attributes = .ok () :=
        (checkAttributes_eq_ok fun a ha => (hdeclares a ha).imp fun _ h => h.1).mpr hdistinct
      exact Except.bind_eq_ok.mpr ⟨_, hinstall, Except.bind_eq_ok.mpr ⟨_, hcheck, rfl⟩⟩

/-- **A tag opens its scope** exactly when it may stand there; the scope is its
declarations over those of the tags that enclose it. -/
theorem openElement_eq_ok {scopes : Scopes} {tag : Tag} {p : ResolveResult × Scopes} :
    openElement (Scopes.resolver N.refused) normalizedValue scopes tag = .ok p
      ↔ Admissible N normalizedValue scopes tag
        ∧ p = (Scopes.resolveElement (declared normalizedValue tag :: scopes) tag.name,
          declared normalizedValue tag :: scopes) := by
  constructor
  · intro h
    obtain ⟨opened, hpush, h⟩ := Except.bind_eq_ok.mp h
    obtain ⟨result, hresult, h⟩ := Except.bind_eq_ok.mp h
    obtain ⟨hname, hdeclares, ⟨hresolves, hnodup, -⟩, rfl⟩ := push_eq_ok.mp hpush
    obtain ⟨helement, rfl⟩ := declaredElement_eq_ok.mp hresult
    exact ⟨⟨hname, hdeclares, hresolves, hnodup, helement⟩, (Except.ok.inj h).symm⟩
  · rintro ⟨hadmissible, rfl⟩
    have hpush := push_eq_ok.mpr ⟨hadmissible.notReserved, hadmissible.declares,
      ⟨hadmissible.resolves, hadmissible.distinct, fun _ _ h => absurd h List.not_mem_nil⟩, rfl⟩
    have hresult := (declaredElement_eq_ok (N := N)).mpr ⟨hadmissible.element, rfl⟩
    exact Except.bind_eq_ok.mpr ⟨_, hpush, Except.bind_eq_ok.mpr ⟨_, hresult, rfl⟩⟩

/-! ## Streams of content -/

/-- What reading a stream from these scopes comes to. -/
def ReadsTo (N : NamespaceResolver) (normalizedValue : String → Except String String)
    (scopes : Scopes) (events : List (Event Tag QName L))
    (resolved : List (Event (ResolveResult × Tag) (ResolveResult × QName) L)) : Prop :=
  NamespaceReader.readAll (Scopes.resolver N.refused) normalizedValue (ScopeReader.at N scopes)
    events = .ok resolved

variable {scopes : Scopes} {events : List (Event Tag QName L)}
  {resolved : List (Event (ResolveResult × Tag) (ResolveResult × QName) L)}

theorem readsTo_cons {event : Event Tag QName L} :
    ReadsTo N normalizedValue scopes (event :: events) resolved
      ↔ ∃ first reader rest, NamespaceReader.readResolvedEvent (Scopes.resolver N.refused)
          normalizedValue (ScopeReader.at N scopes) event = .ok (first, reader)
        ∧ ReadsTo N normalizedValue reader.view events rest ∧ resolved = first :: rest := by
  constructor
  · intro h
    obtain ⟨⟨first, reader⟩, hfirst, h⟩ := Except.bind_eq_ok.mp h
    obtain ⟨rest, hrest, h⟩ := Except.bind_eq_ok.mp h
    exact ⟨first, reader, rest, hfirst, (readAll_scopes reader events).symm.trans hrest,
      (Except.ok.inj h).symm⟩
  · rintro ⟨first, reader, rest, hfirst, hrest, rfl⟩
    exact Except.bind_eq_ok.mpr ⟨_, hfirst, Except.bind_eq_ok.mpr
      ⟨rest, (readAll_scopes reader events).trans hrest, rfl⟩⟩

theorem readsTo_leaf {l : L} : ReadsTo N normalizedValue scopes (.leaf l :: events) resolved
    ↔ ∃ rest, ReadsTo N normalizedValue scopes events rest ∧ resolved = .leaf l :: rest := by
  rw [readsTo_cons]
  constructor
  · rintro ⟨first, reader, rest, hfirst, hrest, rfl⟩
    cases hfirst
    exact ⟨rest, hrest, rfl⟩
  · rintro ⟨rest, hrest, rfl⟩
    exact ⟨_, _, rest, rfl, hrest, rfl⟩

theorem readsTo_start {tag : Tag} : ReadsTo N normalizedValue scopes (.start tag :: events) resolved
    ↔ Admissible N normalizedValue scopes tag
      ∧ ∃ rest, ReadsTo N normalizedValue (declared normalizedValue tag :: scopes) events rest
        ∧ resolved = .start (Scopes.resolveElement (declared normalizedValue tag :: scopes) tag.name,
          tag) :: rest := by
  rw [readsTo_cons]
  constructor
  · rintro ⟨first, reader, rest, hfirst, hrest, rfl⟩
    obtain ⟨p, hopen, hp⟩ := Except.bind_eq_ok.mp hfirst
    obtain ⟨hadmissible, rfl⟩ := openElement_eq_ok.mp hopen
    cases hp
    exact ⟨hadmissible, rest, hrest, rfl⟩
  · rintro ⟨hadmissible, rest, hrest, rfl⟩
    exact ⟨_, _, rest, Except.bind_eq_ok.mpr ⟨_, openElement_eq_ok.mpr ⟨hadmissible, rfl⟩, rfl⟩,
      hrest, rfl⟩

theorem readsTo_empty {tag : Tag} : ReadsTo N normalizedValue scopes (.empty tag :: events) resolved
    ↔ Admissible N normalizedValue scopes tag
      ∧ ∃ rest, ReadsTo N normalizedValue scopes events rest
        ∧ resolved = .empty (Scopes.resolveElement (declared normalizedValue tag :: scopes) tag.name,
          tag) :: rest := by
  rw [readsTo_cons]
  constructor
  · rintro ⟨first, reader, rest, hfirst, hrest, rfl⟩
    obtain ⟨p, hopen, hp⟩ := Except.bind_eq_ok.mp hfirst
    obtain ⟨hadmissible, rfl⟩ := openElement_eq_ok.mp hopen
    cases hp
    exact ⟨hadmissible, rest, hrest, rfl⟩
  · rintro ⟨hadmissible, rest, hrest, rfl⟩
    exact ⟨_, _, rest, Except.bind_eq_ok.mpr ⟨_, openElement_eq_ok.mpr ⟨hadmissible, rfl⟩, rfl⟩,
      hrest, rfl⟩

theorem readsTo_close {scope : Scope} {name : QName} :
    ReadsTo N normalizedValue (scope :: scopes) (.close name :: events) resolved
      ↔ (∀ pfx, Scopes.resolveElement (scope :: scopes) name ≠ .unknown pfx)
        ∧ ∃ rest, ReadsTo N normalizedValue scopes events rest
          ∧ resolved = .close (Scopes.resolveElement (scope :: scopes) name, name) :: rest := by
  rw [readsTo_cons]
  constructor
  · rintro ⟨first, reader, rest, hfirst, hrest, rfl⟩
    obtain ⟨result, hresult, hp⟩ := Except.bind_eq_ok.mp hfirst
    obtain ⟨hknown, rfl⟩ := declaredElement_eq_ok.mp hresult
    cases hp
    exact ⟨hknown, rest, hrest, rfl⟩
  · rintro ⟨hknown, rest, hrest, rfl⟩
    exact ⟨_, _, rest, Except.bind_eq_ok.mpr ⟨_, declaredElement_eq_ok.mpr ⟨hknown, rfl⟩, rfl⟩,
      hrest, rfl⟩

/-- **Names are resolved where they stand.** The events of content are read exactly when
every tag may stand in its scopes, each name is resolved against the declarations of its
own tag and of those that enclose it, and after the content the scopes are as before. -/
theorem readsTo_events (c : Content Tag L) :
    ReadsTo N normalizedValue scopes (c.events Tag.name ++ events) resolved
      ↔ c.EveryTag (declared normalizedValue) (Admissible N normalizedValue) scopes
        ∧ ∃ rest, ReadsTo N normalizedValue scopes events rest
          ∧ resolved = (c.annotate Tag.name (declared normalizedValue) scopes).events
            (fun p => (p.1, p.2.name)) ++ rest := by
  induction c generalizing scopes events resolved with
  | nil =>
    constructor
    · intro h
      exact ⟨trivial, resolved, h, rfl⟩
    · rintro ⟨-, rest, h, rfl⟩
      exact h
  | leaf l more ih =>
    refine readsTo_leaf.trans ?_
    constructor
    · rintro ⟨rest, hrest, rfl⟩
      obtain ⟨hevery, rest', hrest', rfl⟩ := ih.mp hrest
      exact ⟨hevery, rest', hrest', rfl⟩
    · rintro ⟨hevery, rest, hrest, rfl⟩
      exact ⟨_, ih.mpr ⟨hevery, rest, hrest, rfl⟩, rfl⟩
  | empty tag more ih =>
    refine readsTo_empty.trans ?_
    constructor
    · rintro ⟨hadmissible, rest, hrest, rfl⟩
      obtain ⟨hevery, rest', hrest', rfl⟩ := ih.mp hrest
      exact ⟨⟨hadmissible, hevery⟩, rest', hrest', rfl⟩
    · rintro ⟨⟨hadmissible, hevery⟩, rest, hrest, rfl⟩
      exact ⟨hadmissible, _, ih.mpr ⟨hevery, rest, hrest, rfl⟩, rfl⟩
  | element tag children more ihchildren ihmore =>
    have hevents : (Content.element tag children more).events Tag.name ++ events
        = .start tag :: (children.events Tag.name
          ++ .close tag.name :: (more.events Tag.name ++ events)) := by
      rw [Content.events, List.cons_append, List.append_assoc, List.cons_append]
    rw [hevents, readsTo_start]
    constructor
    · rintro ⟨hadmissible, rest, hrest, rfl⟩
      obtain ⟨hchildren, rest', hrest', rfl⟩ := ihchildren.mp hrest
      obtain ⟨-, rest'', hrest'', rfl⟩ := readsTo_close.mp hrest'
      obtain ⟨hmore, rest''', hrest''', rfl⟩ := ihmore.mp hrest''
      refine ⟨⟨hadmissible, hchildren, hmore⟩, rest''', hrest''', ?_⟩
      rw [Content.annotate, Content.events, List.cons_append, List.append_assoc, List.cons_append]
    · rintro ⟨⟨hadmissible, hchildren, hmore⟩, rest, hrest, rfl⟩
      refine ⟨hadmissible, _, ihchildren.mpr ⟨hchildren, _, readsTo_close.mpr
        ⟨hadmissible.element, _, ihmore.mpr ⟨hmore, rest, hrest, rfl⟩, rfl⟩, rfl⟩, ?_⟩
      rw [Content.annotate, Content.events, List.cons_append, List.append_assoc, List.cons_append]

/-- **A document is read** exactly when every tag may stand where it stands, and then
every name is resolved there. -/
theorem readAll_events (c : Content Tag L) :
    NamespaceReader.readAll N normalizedValue (.new N) (c.events Tag.name) = .ok resolved
      ↔ c.EveryTag (declared normalizedValue) (Admissible N normalizedValue) []
        ∧ resolved = (c.annotate Tag.name (declared normalizedValue) []).events
          (fun p => (p.1, p.2.name)) := by
  have hview : (NamespaceReader.new N).view = [] := N.scopes_new
  rw [readAll_scopes, hview]
  have hevents : ReadsTo N normalizedValue [] (c.events Tag.name ++ []) resolved ↔ _ :=
    readsTo_events c
  rw [List.append_nil] at hevents
  refine hevents.trans (and_congr_right' ⟨?_, ?_⟩)
  · rintro ⟨rest, hrest, rfl⟩
    rw [← Except.ok.inj hrest, List.append_nil]
  · rintro rfl
    exact ⟨[], rfl, (List.append_nil _).symm⟩

end Scoped

/-! ## Loops over the stream -/

section Loop

variable (N : NamespaceResolver) (normalizedValue : String → Except String String) {L S : Type}
  (step : S → Event (ResolveResult × Tag) (ResolveResult × QName) L → Except ParseError S)

/-- A loop that takes a step for every event it reads. -/
def NamespaceReader.foldEvents (reader : NamespaceReader N) (s : S) :
    List (Event Tag QName L) → Except ParseError S
  | [] => .ok s
  | event :: events => do
    let (resolved, reader) ← NamespaceReader.readResolvedEvent N normalizedValue reader event
    let s ← step s resolved
    NamespaceReader.foldEvents reader s events

variable {N normalizedValue step}

/-- **The loop** reads the whole stream and takes its steps on what it read. -/
theorem foldEvents_eq_ok {reader : NamespaceReader N} {s s' : S} {events : List (Event Tag QName L)} :
    NamespaceReader.foldEvents N normalizedValue step reader s events = .ok s'
      ↔ ∃ resolved, NamespaceReader.readAll N normalizedValue reader events = .ok resolved
        ∧ resolved.foldlM step s = .ok s' := by
  induction events generalizing reader s with
  | nil =>
    constructor
    · intro h
      exact ⟨[], rfl, h⟩
    · rintro ⟨_, hread, hfold⟩
      cases hread
      exact hfold
  | cons event events ih =>
    constructor
    · intro h
      obtain ⟨⟨resolved, reader'⟩, hread, h⟩ := Except.bind_eq_ok.mp h
      obtain ⟨t, hstep, h⟩ := Except.bind_eq_ok.mp h
      obtain ⟨rest, hrest, hfold⟩ := ih.mp h
      exact ⟨resolved :: rest, Except.bind_eq_ok.mpr ⟨_, hread, Except.bind_eq_ok.mpr
        ⟨rest, hrest, rfl⟩⟩, Except.bind_eq_ok.mpr ⟨t, hstep, hfold⟩⟩
    · rintro ⟨_, hread, hfold⟩
      obtain ⟨⟨resolved, reader'⟩, hfirst, hread⟩ := Except.bind_eq_ok.mp hread
      obtain ⟨rest, hrest, hread⟩ := Except.bind_eq_ok.mp hread
      cases hread
      obtain ⟨t, hstep, hfold⟩ := Except.bind_eq_ok.mp hfold
      exact Except.bind_eq_ok.mpr ⟨_, hfirst, Except.bind_eq_ok.mpr
        ⟨t, hstep, ih.mpr ⟨rest, hrest, hfold⟩⟩⟩

end Loop

end Szamlazz
