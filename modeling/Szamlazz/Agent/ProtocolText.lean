import Szamlazz.Agent.NamespaceReader

/-!
# The protocol's own XML

Replies are deserialized by local names, so before that everything foreign is projected
away. One pass over the events keeps a counter: zero where the protocol's elements are,
and inside a foreign element the number of elements open in it. A foreign element leaves
an empty placeholder, what is inside it leaves nothing, and an element that is kept is
renamed to its local name.

On well-nested content that is a projection of the tree (`protocolText_eq_ok`): whether
an element is kept is decided where it stands, by its own namespace and those of the
elements that enclose it (`protocolContent`).
-/

namespace Szamlazz

open Markup

/-- A tag as it is written: a local name and the attributes that declare nothing. -/
structure CanonicalTag where
  localName : String
  attributes : List Attribute

/-- Left where a foreign element stood. -/
def foreignPlaceholder : CanonicalTag := ⟨"__szamlazz_foreign", []⟩

/-- The writer puts values in double quotes. -/
def escapeQuotes (value : String) : String :=
  if value.toList.contains '"' then
    String.ofList (value.toList.flatMap fun c => if c = '"' then "&quot;".toList else [c])
  else value

def canonicalAttributes : List (Except String Attribute) → Except ParseError (List Attribute)
  | [] => .ok []
  | .error error :: _ => .error (.xml error)
  | .ok attr :: rest =>
    if attr.key.asNamespaceBinding.isNone then
      (canonicalAttributes rest).map (⟨attr.key, escapeQuotes attr.value⟩ :: ·)
    else canonicalAttributes rest

def canonical (start : Tag) : Except ParseError CanonicalTag :=
  (canonicalAttributes start.attributes).map (⟨start.name.localName, ·⟩)

def namespaceUri : ResolveResult → Except ParseError (Option String)
  | .bound uri => .ok (some uri)
  | .unbound => .ok none
  | .unknown _ => .error (.unexpectedBody "undeclared XML prefix")

section Project

variable {L : Type}

/-- What is written for a start tag or an empty tag, and the counter after it. -/
def projectTag (skippedDepth : Nat) (foreign empty : Bool) (start : Tag) :
    Except ParseError (Nat × List (Event CanonicalTag String L)) :=
  if skippedDepth = 0 ∧ foreign = true then
    .ok (if empty then 0 else 1, [.empty foreignPlaceholder])
  else if skippedDepth > 0 ∧ empty = false then .ok (skippedDepth + 1, [])
  else if skippedDepth = 0 then
    (canonical start).map fun tag => (0, [if empty then .empty tag else .start tag])
  else .ok (skippedDepth, [])

/-- What is written for an event, and the counter after it. -/
def projectEvent («namespace» : String) (skippedDepth : Nat) :
    Event (ResolveResult × Tag) (ResolveResult × QName) L →
      Except ParseError (Nat × List (Event CanonicalTag String L))
  | .start (resolved, start) => do
    let foreign := (← namespaceUri resolved) != some «namespace»
    projectTag skippedDepth foreign false start
  | .empty (resolved, start) => do
    let foreign := (← namespaceUri resolved) != some «namespace»
    projectTag skippedDepth foreign true start
  | .close (resolved, name) => do
    let _ ← namespaceUri resolved
    if skippedDepth > 0 then .ok (skippedDepth - 1, [])
    else .ok (0, [.close name.localName])
  | .leaf l => .ok (skippedDepth, if skippedDepth = 0 then [.leaf l] else [])

variable (N : NamespaceResolver) (normalizedValue : String → Except String String)
  (writeEvent : Event CanonicalTag String L → String)

/-- What a writer makes of events. -/
def written (events : List (Event CanonicalTag String L)) : String :=
  String.join (events.map writeEvent)

omit N normalizedValue in
theorem written_append (events events' : List (Event CanonicalTag String L)) :
    written writeEvent (events ++ events')
      = written writeEvent events ++ written writeEvent events' := by
  rw [written, List.map_append, String.join_append]
  rfl

/-- The loop of `protocolText`. -/
def protocolLoop («namespace» : String) (reader : NamespaceReader N) (skippedDepth : Nat)
    (output : String) : List (Event Tag QName L) → Except ParseError String
  | [] => .ok output
  | event :: events => do
    let (resolved, reader) ← NamespaceReader.readResolvedEvent N normalizedValue reader event
    let (skippedDepth, out) ← projectEvent «namespace» skippedDepth resolved
    protocolLoop «namespace» reader skippedDepth (output ++ written writeEvent out) events

/-- The protocol's own XML of a stream. -/
def protocolText («namespace» : String) (events : List (Event Tag QName L)) :
    Except ParseError String :=
  protocolLoop N normalizedValue writeEvent «namespace» (.new N) 0 "" events

end Project

/-! ## The projection of the tree -/

/-- The tag an element is kept with. -/
def keptTag (start : Tag) : CanonicalTag where
  localName := start.name.localName
  attributes := start.attributes.filterMap fun
    | .ok attr =>
      if attr.key.asNamespaceBinding.isNone then some ⟨attr.key, escapeQuotes attr.value⟩ else none
    | .error _ => none

section Tree

variable {L : Type} («namespace» : String)

/-- **The protocol's part of a tree**: an outermost foreign element is a placeholder
without content, and every other element stands under its local name around what is
kept of its content. -/
def protocolContent : Content (ResolveResult × Tag) L → Content CanonicalTag L
  | .nil => .nil
  | .leaf l rest => .leaf l (protocolContent rest)
  | .empty (resolved, start) rest =>
    if resolved = .bound «namespace» then .empty (keptTag start) (protocolContent rest)
    else .empty foreignPlaceholder (protocolContent rest)
  | .element (resolved, start) children rest =>
    if resolved = .bound «namespace» then
      .element (keptTag start) (protocolContent children) (protocolContent rest)
    else .empty foreignPlaceholder (protocolContent rest)

/-- What is written for resolved events from a counter on. -/
def projectEvents (skippedDepth : Nat) : List (Event (ResolveResult × Tag) (ResolveResult × QName) L) →
    Except ParseError (List (Event CanonicalTag String L))
  | [] => .ok []
  | event :: events => do
    let (skippedDepth, out) ← projectEvent «namespace» skippedDepth event
    return out ++ (← projectEvents skippedDepth events)

variable {«namespace»} {N : NamespaceResolver}
  {normalizedValue : String → Except String String}
  {writeEvent : Event CanonicalTag String L → String}

/-- **The loop** writes what the resolved events are projected to. -/
theorem protocolLoop_eq_ok {reader : NamespaceReader N} {skippedDepth : Nat} {output text : String}
    {events : List (Event Tag QName L)} :
    protocolLoop N normalizedValue writeEvent «namespace» reader skippedDepth output events = .ok text
      ↔ ∃ resolved out, NamespaceReader.readAll N normalizedValue reader events = .ok resolved
        ∧ projectEvents «namespace» skippedDepth resolved = .ok out
        ∧ text = output ++ written writeEvent out := by
  induction events generalizing reader skippedDepth output with
  | nil =>
    constructor
    · intro h
      exact ⟨[], [], rfl, rfl, (Except.ok.inj h).symm.trans (String.append_empty).symm⟩
    · rintro ⟨_, out, hread, hproject, rfl⟩
      cases hread
      cases hproject
      exact congrArg Except.ok (String.append_empty).symm
  | cons event events ih =>
    constructor
    · intro h
      obtain ⟨⟨resolved, reader'⟩, hread, h⟩ := Except.bind_eq_ok.mp h
      obtain ⟨⟨depth, out⟩, hproject, h⟩ := Except.bind_eq_ok.mp h
      obtain ⟨rest, outs, hrest, houts, rfl⟩ := ih.mp h
      refine ⟨resolved :: rest, out ++ outs, Except.bind_eq_ok.mpr ⟨_, hread,
        Except.bind_eq_ok.mpr ⟨rest, hrest, rfl⟩⟩, Except.bind_eq_ok.mpr ⟨_, hproject,
        Except.bind_eq_ok.mpr ⟨outs, houts, rfl⟩⟩, ?_⟩
      rw [written_append, String.append_assoc]
    · rintro ⟨_, _, hread, hproject, rfl⟩
      obtain ⟨⟨resolved, reader'⟩, hfirst, hread⟩ := Except.bind_eq_ok.mp hread
      obtain ⟨rest, hrest, hread⟩ := Except.bind_eq_ok.mp hread
      cases hread
      obtain ⟨⟨depth, out⟩, hout, hproject⟩ := Except.bind_eq_ok.mp hproject
      obtain ⟨outs, houts, hproject⟩ := Except.bind_eq_ok.mp hproject
      cases hproject
      refine Except.bind_eq_ok.mpr ⟨_, hfirst, Except.bind_eq_ok.mpr ⟨_, hout, ih.mpr
        ⟨rest, outs, hrest, houts, ?_⟩⟩⟩
      rw [written_append, String.append_assoc]

theorem canonical_eq {start : Tag} (h : ∀ a ∈ start.attributes, ∃ attr, a = .ok attr) :
    canonical start = .ok (keptTag start) := by
  have hattributes : ∀ attributes : List (Except String Attribute),
      (∀ a ∈ attributes, ∃ attr, a = .ok attr) → canonicalAttributes attributes
        = .ok (attributes.filterMap fun
          | .ok attr => if attr.key.asNamespaceBinding.isNone then
              some ⟨attr.key, escapeQuotes attr.value⟩ else none
          | .error _ => none) := by
    intro attributes hok
    induction attributes with
    | nil => rfl
    | cons a rest ih =>
      obtain ⟨attr, rfl⟩ := hok a List.mem_cons_self
      rw [canonicalAttributes, ih fun a ha => hok a (List.mem_cons_of_mem _ ha),
        List.filterMap_cons]
      dsimp only
      split_ifs <;> rfl
  rw [canonical, hattributes _ h]
  rfl

variable («namespace») in
theorem namespaceUri_eq {resolved : ResolveResult} (h : ∀ pfx, resolved ≠ .unknown pfx) :
    ∃ uri, namespaceUri resolved = .ok uri
      ∧ ((uri != some «namespace») = true ↔ resolved ≠ .bound «namespace») := by
  cases resolved with
  | unknown pfx => exact absurd rfl (h pfx)
  | unbound => exact ⟨none, rfl, by simp⟩
  | bound uri => exact ⟨some uri, rfl, by simp⟩

/-- What follows the events of content. -/
abbrev ResolvedEvents (L : Type) : Type := List (Event (ResolveResult × Tag) (ResolveResult × QName) L)

/-- **Inside a foreign element nothing is written**, and the counter is at its end as at
its beginning. -/
theorem projectEvents_skipped {scopes : Scopes} {c : Content Tag L}
    (h : c.EveryTag (declared normalizedValue) (Admissible N normalizedValue) scopes)
    (depth : Nat) (rest : ResolvedEvents L) :
    projectEvents «namespace» (depth + 1) ((c.annotate Tag.name (declared normalizedValue)
        scopes).events (fun p => (p.1, p.2.name)) ++ rest)
      = projectEvents «namespace» (depth + 1) rest := by
  have hdone : ∀ x : Except ParseError (List (Event CanonicalTag String L)),
      (x >>= fun out => pure ([] ++ out)) = x := fun x => by cases x <;> rfl
  induction c generalizing scopes depth rest with
  | nil => rfl
  | leaf l more ih => exact (hdone _).trans (ih h depth rest)
  | empty tag more ih =>
    obtain ⟨uri, huri, -⟩ := namespaceUri_eq «namespace» h.1.element
    rw [Content.annotate, Content.events, List.cons_append, projectEvents, projectEvent, huri]
    exact (hdone _).trans (ih h.2 depth rest)
  | element tag children more ihchildren ihmore =>
    obtain ⟨hadmissible, hchildren, hmore⟩ := h
    obtain ⟨uri, huri, -⟩ := namespaceUri_eq «namespace» hadmissible.element
    rw [Content.annotate, Content.events, List.cons_append, projectEvents, projectEvent, huri,
      List.append_assoc]
    refine (hdone _).trans ((ihchildren hchildren (depth + 1) _).trans ?_)
    rw [List.cons_append, projectEvents, projectEvent, huri]
    exact (hdone _).trans (ihmore hmore depth rest)

/-- An element of the protocol outside of foreign ones is kept. -/
theorem projectTag_protocol {scopes : Scopes} {tag : Tag} (empty : Bool)
    (h : Admissible N normalizedValue scopes tag) {resolved : ResolveResult}
    (hbound : resolved = .bound «namespace») :
    (do projectTag (L := L) 0 ((← namespaceUri resolved) != some «namespace») empty tag)
      = .ok (0, [if empty then .empty (keptTag tag) else .start (keptTag tag)]) := by
  have hcanonical := canonical_eq fun a ha => (h.declares a ha).imp fun _ hattr => hattr.1
  rw [hbound]
  show projectTag 0 (some «namespace» != some «namespace») empty tag = _
  rw [bne_self_eq_false, projectTag, hcanonical]
  rfl

/-- A foreign element is a placeholder. -/
theorem projectTag_foreign {tag : Tag} (empty : Bool) {resolved : ResolveResult}
    (hknown : ∀ pfx, resolved ≠ .unknown pfx) (hbound : resolved ≠ .bound «namespace») :
    (do projectTag (L := L) 0 ((← namespaceUri resolved) != some «namespace») empty tag)
      = .ok (if empty then 0 else 1, [.empty foreignPlaceholder]) := by
  obtain ⟨uri, huri, hforeign⟩ := namespaceUri_eq «namespace» hknown
  rw [huri]
  show projectTag 0 (uri != some «namespace») empty tag = _
  rw [hforeign.mpr hbound]
  rfl

variable («namespace») in
/-- **Outside of foreign elements** what is written for the events of content are the
events of its projection. -/
theorem projectEvents_kept {scopes : Scopes} {c : Content Tag L}
    (h : c.EveryTag (declared normalizedValue) (Admissible N normalizedValue) scopes)
    (rest : ResolvedEvents L) :
    projectEvents «namespace» 0 ((c.annotate Tag.name (declared normalizedValue)
        scopes).events (fun p => (p.1, p.2.name)) ++ rest)
      = (projectEvents «namespace» 0 rest).map ((protocolContent «namespace»
        (c.annotate Tag.name (declared normalizedValue) scopes)).events CanonicalTag.localName
          ++ ·) := by
  induction c generalizing scopes rest with
  | nil =>
    rw [Content.annotate, Content.events, protocolContent, List.nil_append]
    cases projectEvents «namespace» 0 rest <;> rfl
  | leaf l more ih =>
    rw [Content.annotate, Content.events, List.cons_append, projectEvents, projectEvent]
    show (projectEvents «namespace» 0 _ >>= _) = _
    rw [ih h]
    cases projectEvents «namespace» 0 rest <;> rfl
  | empty tag more ih =>
    obtain ⟨hadmissible, hmore⟩ := h
    rw [Content.annotate, Content.events, List.cons_append, projectEvents, projectEvent,
      protocolContent]
    by_cases hbound : Scopes.resolveElement (declared normalizedValue tag :: scopes) tag.name
        = .bound «namespace»
    · rw [projectTag_protocol true hadmissible hbound, if_pos hbound]
      show (projectEvents «namespace» 0 _ >>= _) = _
      rw [ih hmore]
      cases projectEvents «namespace» 0 rest <;> rfl
    · rw [projectTag_foreign true hadmissible.element hbound, if_neg hbound]
      show (projectEvents «namespace» 0 _ >>= _) = _
      rw [ih hmore]
      cases projectEvents «namespace» 0 rest <;> rfl
  | element tag children more ihchildren ihmore =>
    obtain ⟨hadmissible, hchildren, hmore⟩ := h
    -- The end tag resolves as the start tag did, in the same scopes.
    obtain ⟨uri, huri, -⟩ := namespaceUri_eq «namespace» hadmissible.element
    rw [Content.annotate, Content.events, List.cons_append, projectEvents, projectEvent,
      protocolContent, List.append_assoc, List.cons_append]
    by_cases hbound : Scopes.resolveElement (declared normalizedValue tag :: scopes) tag.name
        = .bound «namespace»
    · rw [projectTag_protocol false hadmissible hbound, if_pos hbound]
      show (projectEvents «namespace» 0 _ >>= _) = _
      rw [ihchildren hchildren, projectEvents, projectEvent, huri]
      show ((projectEvents «namespace» 0 _ >>= _).map _ >>= _) = _
      rw [ihmore hmore, Content.events]
      cases projectEvents «namespace» 0 rest with
      | error error => rfl
      | ok out => exact congrArg Except.ok (List.append_assoc (_ :: _) (_ :: _) out).symm
    · -- The counter stands at one until the element is closed.
      rw [projectTag_foreign false hadmissible.element hbound, if_neg hbound]
      show (projectEvents «namespace» 1 _ >>= _) = _
      rw [projectEvents_skipped hchildren 0, projectEvents, projectEvent, huri]
      show ((projectEvents «namespace» 0 _ >>= _) >>= _) = _
      rw [ihmore hmore]
      cases projectEvents «namespace» 0 rest <;> rfl

/-- The text of content. -/
def serialize (writeEvent : Event CanonicalTag String L → String) (c : Content CanonicalTag L) :
    String :=
  written writeEvent (c.events CanonicalTag.localName)

/-- **Foreign XML is projected away.** On the events of content the reader resolves every
name where it stands, and the protocol's text is the text of the protocol's part of that
tree; the text exists exactly when every tag may stand where it stands. -/
theorem protocolText_eq_ok (N : NamespaceResolver)
    (normalizedValue : String → Except String String)
    (writeEvent : Event CanonicalTag String L → String) («namespace» : String)
    (c : Content Tag L) :
    (∀ resolved, NamespaceReader.readAll N normalizedValue (.new N) (c.events Tag.name) = .ok resolved
        ↔ c.EveryTag (declared normalizedValue) (Admissible N normalizedValue) []
          ∧ resolved = (c.annotate Tag.name (declared normalizedValue) []).events
            (fun p => (p.1, p.2.name)))
      ∧ ∀ text, protocolText N normalizedValue writeEvent «namespace» (c.events Tag.name) = .ok text
        ↔ c.EveryTag (declared normalizedValue) (Admissible N normalizedValue) []
          ∧ text = serialize writeEvent (protocolContent «namespace»
            (c.annotate Tag.name (declared normalizedValue) [])) := by
  have hkept : c.EveryTag (declared normalizedValue) (Admissible N normalizedValue) [] →
      projectEvents «namespace» 0 ((c.annotate Tag.name (declared normalizedValue) []).events
          (fun p => (p.1, p.2.name)))
        = .ok ((protocolContent «namespace» (c.annotate Tag.name (declared normalizedValue)
          [])).events CanonicalTag.localName) := by
    intro hevery
    have hrest := projectEvents_kept «namespace» hevery []
    rw [List.append_nil] at hrest
    exact hrest.trans (congrArg Except.ok (List.append_nil _))
  refine ⟨fun resolved => readAll_events c, fun text => protocolLoop_eq_ok.trans ?_⟩
  constructor
  · rintro ⟨resolved, out, hread, hproject, rfl⟩
    obtain ⟨hevery, rfl⟩ := (readAll_events c).mp hread
    rw [hkept hevery] at hproject
    rw [← Except.ok.inj hproject, String.empty_append]
    exact ⟨hevery, rfl⟩
  · rintro ⟨hevery, rfl⟩
    exact ⟨_, _, (readAll_events c).mpr ⟨hevery, rfl⟩, hkept hevery, String.empty_append.symm⟩

/-- A protocol name inside a foreign element does not surface, and a default namespace
that is undeclared makes an element foreign: `<p:a xmlns:p="u" xmlns="u">` around
`<b xmlns=""><a xmlns="u"/></b>` and `<a/>`. -/
example :
    let tag (pfx : Option String) (name : String) (attributes : List (QName × String)) : Tag :=
      ⟨⟨pfx, name⟩, attributes.map fun a => .ok ⟨a.1, a.2⟩⟩
    protocolContent "u" (Content.annotate Tag.name (declared .ok) []
        (.element (tag (some "p") "a" [(⟨some "xmlns", "p"⟩, "u"), (⟨none, "xmlns"⟩, "u")])
          (.element (tag none "b" [(⟨none, "xmlns"⟩, "")])
            (.empty (tag none "a" [(⟨none, "xmlns"⟩, "u")]) .nil)
            (.empty (tag none "a" []) .nil))
          (.nil : Content Tag String)))
      = .element ⟨"a", []⟩ (.empty foreignPlaceholder (.empty ⟨"a", []⟩ .nil)) .nil := rfl

end Tree

end Szamlazz
