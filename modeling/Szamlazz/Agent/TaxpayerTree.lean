import Szamlazz.Agent.Taxpayer

/-!
# The pass over the tree of a taxpayer reply

The events of well-nested content are those of a tree, and where an element stands in it is
told by the expanded names of the elements around it. A *place*, what the pass knows of an
open element, is a function of that path alone (`Layout.place`), and what a frame holds
besides, the children it has seen and the text it has read, is a function of what was read
of the element's content (`Frame.after`).

So the pass over a document comes to two things about the elements of its root, in the
order of their start tags: each of them is sound, and the record is the fold of what each
of them brings (`bodyEvents_document`).
-/

namespace Szamlazz

open Markup

/-! ## The tree of a reply -/

/-- A name with the namespace it stands for. -/
abbrev Expanded : Type := Option String × String

/-- The expanded name of an element. -/
def expandedElement (p : ResolveResult × Tag) : Expanded :=
  match p.1 with
  | .bound uri => (some uri, p.2.name.localName)
  | .unbound | .unknown _ => (none, p.2.name.localName)

/-- What the pass reads: content whose names are resolved. -/
abbrev Tree : Type := Content (ResolveResult × Tag) Leaf

/-- The text of a leaf, if it can be decoded. -/
def Leaf.decoded (lib : TextLibrary) (l : Leaf) : String :=
  match leafText lib l with
  | .ok decoded => decoded
  | .error _ => ""

/-- **The text directly in an element**: texts, sections and references in their order. -/
def Tree.text (lib : TextLibrary) : Tree → String
  | .nil => ""
  | .leaf l rest => l.decoded lib ++ Tree.text lib rest
  | .empty _ rest | .element _ _ rest => Tree.text lib rest

/-- Every leaf can be decoded, and every name has a namespace or is in none. -/
def Tree.Readable (lib : TextLibrary) : Tree → Prop
  | .nil => True
  | .leaf l rest => leafText lib l = .ok (l.decoded lib) ∧ Tree.Readable lib rest
  | .empty tag rest => (∀ pfx, tag.1 ≠ .unknown pfx) ∧ Tree.Readable lib rest
  | .element tag children rest =>
    (∀ pfx, tag.1 ≠ .unknown pfx) ∧ Tree.Readable lib children ∧ Tree.Readable lib rest

/-! ## Places -/

namespace Layout

variable (layout : Layout)

/-- The place that a path leads to. -/
def placeFrom (place : Place) (path : List Expanded) : Place :=
  path.foldl (fun place name => layout.childPlace place name.1 name.2) place

/-- The place of a path from the root. -/
abbrev place (path : List Expanded) : Place := layout.placeFrom rootPlace path

/-- The place of an element in its parent's. -/
def placeOf (parent : Place) (p : ResolveResult × Tag) : Place :=
  layout.placeFrom parent [expandedElement p]

/-- The names of the children that may occur only once, as they occur. -/
def singletons (place : Place) (tree : Tree) : List String :=
  (tree.elements.map fun e => (layout.placeOf place e.1).name).filter isSingleton

/-- The children that a frame lets in, some having been seen before. -/
def LetsIn (place : Place) (seen : List String) (tree : Tree) : Prop :=
  (place.scalar = true → tree.elements = []) ∧ (layout.singletons place tree).Nodup
    ∧ ∀ name ∈ layout.singletons place tree, name ∉ seen

end Layout

/-- A scalar that can be stored: the validity has to be a boolean. -/
def Place.Storable (place : Place) (text : String) : Prop :=
  place.scalar = true → place.address = false → place.name = "taxpayerValidity" →
    xmlBoolean (place.value text) ≠ none

namespace TaxpayerResponse

/-- The record with a scalar stored. -/
def store (response : TaxpayerResponse) (place : Place) (text : String) : TaxpayerResponse :=
  match response.finish place text with
  | .ok response => response
  | .error _ => response

/-- The validity alone can fail to be stored. -/
theorem set_eq_ok {response : TaxpayerResponse} {element value : String} {inAddress : Bool}
    (h : inAddress = false → element = "taxpayerValidity" → xmlBoolean value ≠ none) :
    ∃ response', response.set element value inAddress = .ok response' := by
  unfold set
  split_ifs with haddress
  · exact ⟨_, rfl⟩
  · split
    case h_18 =>
      split
      · exact ⟨_, rfl⟩
      · rename_i hnone
        exact absurd hnone (h (by simpa using haddress) rfl)
    all_goals exact ⟨_, rfl⟩

/-- **The end of an element** stores its text, where it can be stored. -/
theorem finish_eq_ok {response response' : TaxpayerResponse} {place : Place} {text : String} :
    response.finish place text = .ok response'
      ↔ place.Storable text ∧ response' = response.store place text := by
  by_cases hstorable : place.Storable text
  · have hok : ∃ r, response.finish place text = .ok r := by
      unfold finish
      split_ifs with hscalar
      · dsimp only
        split_ifs
        · exact set_eq_ok fun haddress hname => hstorable hscalar haddress hname
        · exact ⟨_, rfl⟩
      · exact ⟨_, rfl⟩
    obtain ⟨r, hr⟩ := hok
    have hstore : response.store place text = r := by rw [store, hr]
    rw [hr, hstore]
    exact ⟨fun h => ⟨hstorable, (Except.ok.inj h).symm⟩, fun h => congrArg Except.ok h.2.symm⟩
  · refine ⟨fun h => ?_, fun h => absurd h.1 hstorable⟩
    simp only [Place.Storable, Classical.not_imp, not_not] at hstorable
    obtain ⟨hscalar, haddress, hname, hnone⟩ := hstorable
    rw [finish, if_pos hscalar, if_pos (Or.inl hname), hname, set, haddress] at h
    rw [hnone] at h
    cases h

end TaxpayerResponse

/-! ## The pass over a tree -/

section Pass

variable {lib : TextLibrary} {layout : Layout}

/-- What one element brings into the record. -/
def Layout.step (layout : Layout) (lib : TextLibrary) (place : Place) (response : TaxpayerResponse)
    (p : List Expanded × Tree) : TaxpayerResponse :=
  let here := layout.placeFrom place p.1
  (response.opened here.name).store here (Tree.text lib p.2)

/-- An element that the pass reads to its end. -/
def Layout.Sound (layout : Layout) (lib : TextLibrary) (place : Place) (tree : Tree) : Prop :=
  layout.LetsIn place [] tree ∧ place.Storable (Tree.text lib tree)

/-- The frame with a child that may occur only once. -/
def Frame.letIn (frame : Frame) (name : String) : Frame :=
  if isSingleton name then { frame with seen := name :: frame.seen } else frame

/-- The frame behind content. -/
def Frame.after (frame : Frame) (layout : Layout) (lib : TextLibrary) (tree : Tree) : Frame where
  toPlace := frame.toPlace
  seen := (layout.singletons frame.toPlace tree).reverse ++ frame.seen
  text := if frame.scalar then frame.text ++ Tree.text lib tree else frame.text

/-- A name that is resolved has the namespace of its expanded name. -/
theorem namespaceUri_expanded {p : ResolveResult × Tag} (h : ∀ pfx, p.1 ≠ .unknown pfx) :
    namespaceUri p.1 = .ok (expandedElement p).1 := by
  obtain ⟨resolved, tag⟩ := p
  cases resolved with
  | unknown pfx => exact absurd rfl (h pfx)
  | unbound | bound => rfl

/-- The place of an element is that of a child, as a start tag tells it. -/
theorem Layout.placeOf_eq (parent : Place) {p : ResolveResult × Tag} :
    layout.placeOf parent p
      = layout.childPlace parent (expandedElement p).1 p.2.name.localName := by
  obtain ⟨resolved, tag⟩ := p
  cases resolved <;> rfl

/-- A frame stays where it is when a child is let in. -/
@[simp] theorem Frame.letIn_toPlace (frame : Frame) (name : String) :
    (frame.letIn name).toPlace = frame.toPlace := by
  unfold letIn
  split_ifs <;> rfl

/-- A start tag is let in where its parent is no scalar, and has not seen it if it may be
seen only once. -/
theorem Layout.enter_eq_ok {parent : Frame} {p : ResolveResult × Tag} {q : Frame × Frame} :
    layout.enter parent (expandedElement p).1 p.2.name.localName = .ok q
      ↔ parent.scalar = false
        ∧ (isSingleton (layout.placeOf parent.toPlace p).name = true →
          (layout.placeOf parent.toPlace p).name ∉ parent.seen)
        ∧ q = (parent.letIn (layout.placeOf parent.toPlace p).name,
          ⟨layout.placeOf parent.toPlace p, [], ""⟩) := by
  unfold Layout.enter Frame.letIn
  rw [← Layout.placeOf_eq]
  by_cases hscalar : parent.scalar = true
  · rw [if_pos hscalar, hscalar]
    exact ⟨fun h => (by cases h), fun h => (by cases h.1)⟩
  · rw [if_neg hscalar]
    rw [Bool.not_eq_true] at hscalar
    rw [hscalar]
    dsimp only
    split_ifs with hsingle hseen
    · exact ⟨fun h => (by cases h), fun h => absurd hseen (h.2.1 hsingle)⟩
    · exact ⟨fun h => ⟨rfl, fun _ => hseen, (Except.ok.inj h).symm⟩,
        fun h => congrArg Except.ok h.2.2.symm⟩
    · exact ⟨fun h => ⟨rfl, fun h => absurd h hsingle, (Except.ok.inj h).symm⟩,
        fun h => congrArg Except.ok h.2.2.symm⟩

/-- **A start tag.** -/
theorem Layout.start_eq_ok {parent : Frame} {stack : List Frame} {response : TaxpayerResponse}
    {p : ResolveResult × Tag} (h : ∀ pfx, p.1 ≠ .unknown pfx)
    {q : List Frame × Frame × TaxpayerResponse} :
    layout.start (parent :: stack) response p.1 p.2 = .ok q
      ↔ parent.scalar = false
        ∧ (isSingleton (layout.placeOf parent.toPlace p).name = true →
          (layout.placeOf parent.toPlace p).name ∉ parent.seen)
        ∧ q = (parent.letIn (layout.placeOf parent.toPlace p).name :: stack,
          ⟨layout.placeOf parent.toPlace p, [], ""⟩,
          response.opened (layout.placeOf parent.toPlace p).name) := by
  have hstart : layout.start (parent :: stack) response p.1 p.2
      = (layout.enter parent (expandedElement p).1 p.2.name.localName >>= fun q =>
        .ok (q.1 :: stack, q.2, response.opened q.2.name)) := by
    rw [Layout.start, namespaceUri_expanded h]
    rfl
  rw [hstart, Except.bind_eq_ok]
  constructor
  · rintro ⟨r, hr, hq⟩
    obtain ⟨hscalar, hseen, rfl⟩ := Layout.enter_eq_ok.mp hr
    exact ⟨hscalar, hseen, (Except.ok.inj hq).symm⟩
  · rintro ⟨hscalar, hseen, rfl⟩
    exact ⟨_, Layout.enter_eq_ok.mpr ⟨hscalar, hseen, rfl⟩, rfl⟩

/-- What a frame lets in, child by child. -/
theorem Layout.letsIn_cons {place : Place} {seen : List String} {tree rest : Tree}
    {p : ResolveResult × Tag} {children : Tree}
    (helements : tree.elements = (p, children) :: rest.elements) :
    layout.LetsIn place seen tree ↔ place.scalar = false
      ∧ (isSingleton (layout.placeOf place p).name = true → (layout.placeOf place p).name ∉ seen)
      ∧ layout.LetsIn place (if isSingleton (layout.placeOf place p).name
          then (layout.placeOf place p).name :: seen else seen) rest := by
  unfold Layout.LetsIn Layout.singletons
  rw [helements, List.map_cons]
  by_cases hsingle : isSingleton (layout.placeOf place p).name = true
  · rw [List.filter_cons_of_pos hsingle, if_pos hsingle]
    simp only [List.nodup_cons, List.mem_cons, not_or]
    cases place.scalar
    · simp [hsingle]
      grind
    · simp
  · rw [List.filter_cons_of_neg hsingle, if_neg hsingle]
    cases place.scalar <;> simp [hsingle]

/-- The frame behind content, child by child. -/
theorem Frame.after_cons {frame : Frame} {tree rest : Tree} {p : ResolveResult × Tag}
    {children : Tree} (helements : tree.elements = (p, children) :: rest.elements)
    (htext : Tree.text lib tree = Tree.text lib rest) :
    frame.after layout lib tree
      = (frame.letIn (layout.placeOf frame.toPlace p).name).after layout lib rest := by
  unfold Frame.after Frame.letIn Layout.singletons
  rw [helements, List.map_cons, htext]
  by_cases hsingle : isSingleton (layout.placeOf frame.toPlace p).name = true
  · rw [List.filter_cons_of_pos hsingle, if_pos hsingle]
    simp
  · rw [List.filter_cons_of_neg hsingle, if_neg hsingle]

/-- Only the text of a scalar is looked at. -/
theorem TaxpayerResponse.finish_after {response : TaxpayerResponse} {place : Place} {tree : Tree} :
    response.finish place (Frame.after ⟨place, [], ""⟩ layout lib tree).text
      = response.finish place (Tree.text lib tree) := by
  unfold TaxpayerResponse.finish Frame.after
  by_cases hscalar : place.scalar = true
  · simp only [if_pos hscalar, String.empty_append]
  · rw [if_neg hscalar, if_neg hscalar]

/-- Only scalars are stored. -/
theorem TaxpayerResponse.store_of_not_scalar {response : TaxpayerResponse} {place : Place}
    {text : String} (h : place.scalar = false) : response.store place text = response := by
  rw [store, finish, if_neg (by simp [h])]

/-- Content without elements is let in anywhere. -/
theorem Layout.letsIn_nil {place : Place} {seen : List String} {tree : Tree}
    (h : tree.elements = []) : layout.LetsIn place seen tree := by
  unfold Layout.LetsIn Layout.singletons
  rw [h]
  exact ⟨fun _ => rfl, List.nodup_nil, fun _ hmem => by cases hmem⟩

/-- What is met inside of a child is met from the child's place. -/
theorem Layout.foldl_step_child {place : Place} {p : ResolveResult × Tag}
    {response : TaxpayerResponse} (l : List (List Expanded × Tree)) :
    (l.map fun q => (expandedElement p :: q.1, q.2)).foldl (layout.step lib place) response
      = l.foldl (layout.step lib (layout.placeOf place p)) response := by
  rw [List.foldl_map]
  rfl

/-- What a frame has seen when a child is let in. -/
theorem Frame.letIn_seen (frame : Frame) (name : String) : (frame.letIn name).seen
    = if isSingleton name then name :: frame.seen else frame.seen := by
  unfold letIn
  split_ifs <;> rfl

/-- **A start tag**, read as an event. -/
theorem bodyEvent_start {frame : Frame} {stack : List Frame} {response : TaxpayerResponse}
    {p : ResolveResult × Tag} (h : ∀ pfx, p.1 ≠ .unknown pfx) {state : List Frame × TaxpayerResponse} :
    bodyEvent lib layout (frame :: stack, response) (.start p) = .ok state
      ↔ frame.scalar = false
        ∧ (isSingleton (layout.placeOf frame.toPlace p).name = true →
          (layout.placeOf frame.toPlace p).name ∉ frame.seen)
        ∧ state = (⟨layout.placeOf frame.toPlace p, [], ""⟩
            :: frame.letIn (layout.placeOf frame.toPlace p).name :: stack,
          response.opened (layout.placeOf frame.toPlace p).name) := by
  have hevent : bodyEvent lib layout (frame :: stack, response) (.start p)
      = (layout.start (frame :: stack) response p.1 p.2 >>= fun q => .ok (q.2.1 :: q.1, q.2.2)) := rfl
  rw [hevent, Except.bind_eq_ok]
  constructor
  · rintro ⟨q, hq, hstate⟩
    obtain ⟨hscalar, hseen, rfl⟩ := (Layout.start_eq_ok h).mp hq
    exact ⟨hscalar, hseen, (Except.ok.inj hstate).symm⟩
  · rintro ⟨hscalar, hseen, rfl⟩
    exact ⟨_, (Layout.start_eq_ok h).mpr ⟨hscalar, hseen, rfl⟩, rfl⟩

/-- **An empty tag** is an element without content. -/
theorem bodyEvent_empty {frame : Frame} {stack : List Frame} {response : TaxpayerResponse}
    {p : ResolveResult × Tag} (h : ∀ pfx, p.1 ≠ .unknown pfx) {state : List Frame × TaxpayerResponse} :
    bodyEvent lib layout (frame :: stack, response) (.empty p) = .ok state
      ↔ frame.scalar = false
        ∧ (isSingleton (layout.placeOf frame.toPlace p).name = true →
          (layout.placeOf frame.toPlace p).name ∉ frame.seen)
        ∧ layout.Sound lib (layout.placeOf frame.toPlace p) .nil
        ∧ state = (frame.letIn (layout.placeOf frame.toPlace p).name :: stack,
          layout.step lib frame.toPlace response ([expandedElement p], .nil)) := by
  have hevent : bodyEvent lib layout (frame :: stack, response) (.empty p)
      = (layout.start (frame :: stack) response p.1 p.2 >>= fun q =>
        q.2.2.finish q.2.1.toPlace q.2.1.text >>= fun response => .ok (q.1, response)) := rfl
  rw [hevent, Except.bind_eq_ok]
  constructor
  · rintro ⟨q, hq, hstate⟩
    obtain ⟨hscalar, hseen, rfl⟩ := (Layout.start_eq_ok h).mp hq
    obtain ⟨_, hfinish, hstate⟩ := Except.bind_eq_ok.mp hstate
    obtain ⟨hstorable, rfl⟩ := TaxpayerResponse.finish_eq_ok.mp hfinish
    exact ⟨hscalar, hseen, ⟨Layout.letsIn_nil rfl, hstorable⟩, (Except.ok.inj hstate).symm⟩
  · rintro ⟨hscalar, hseen, ⟨-, hstorable⟩, rfl⟩
    exact ⟨_, (Layout.start_eq_ok h).mpr ⟨hscalar, hseen, rfl⟩,
      Except.bind_eq_ok.mpr ⟨_, TaxpayerResponse.finish_eq_ok.mpr ⟨hstorable, rfl⟩, rfl⟩⟩

/-- **An end tag** closes the frame of content that was read. -/
theorem bodyEvent_close {place : Place} {stack : List Frame} {response : TaxpayerResponse}
    {tree : Tree} {p : ResolveResult × Tag} (h : ∀ pfx, p.1 ≠ .unknown pfx) {name : QName}
    {state : List Frame × TaxpayerResponse} :
    bodyEvent lib layout (Frame.after ⟨place, [], ""⟩ layout lib tree :: stack, response)
        (.close (p.1, name)) = .ok state
      ↔ place.Storable (Tree.text lib tree)
        ∧ state = (stack, response.store place (Tree.text lib tree)) := by
  have hevent : bodyEvent lib layout
      (Frame.after ⟨place, [], ""⟩ layout lib tree :: stack, response) (.close (p.1, name))
      = (response.finish place (Tree.text lib tree) >>= fun response => .ok (stack, response)) := by
    rw [bodyEvent, namespaceUri_expanded h, ← TaxpayerResponse.finish_after]
    rfl
  rw [hevent, Except.bind_eq_ok]
  constructor
  · rintro ⟨_, hfinish, hstate⟩
    obtain ⟨hstorable, rfl⟩ := TaxpayerResponse.finish_eq_ok.mp hfinish
    exact ⟨hstorable, (Except.ok.inj hstate).symm⟩
  · rintro ⟨hstorable, rfl⟩
    exact ⟨_, TaxpayerResponse.finish_eq_ok.mpr ⟨hstorable, rfl⟩, rfl⟩

/-- A scalar has nothing in it, so its text may as well be stored when it is opened. -/
theorem Layout.store_foldl {place : Place} {seen : List String} {tree : Tree}
    (h : layout.LetsIn place seen tree) {response : TaxpayerResponse} {text : String} :
    ((tree.inner expandedElement).foldl (layout.step lib place) response).store place text
      = (tree.inner expandedElement).foldl (layout.step lib place) (response.store place text) := by
  cases hscalar : place.scalar with
  | true => rw [Content.inner_of_elements_nil (h.1 hscalar), List.foldl_nil, List.foldl_nil]
  | false =>
    rw [TaxpayerResponse.store_of_not_scalar hscalar, TaxpayerResponse.store_of_not_scalar hscalar]

/-- **The pass over content**, inside of a frame. -/
theorem bodyEvents_inside {tree : Tree} (hread : Tree.Readable lib tree) (frame : Frame)
    (stack : List Frame) (response : TaxpayerResponse) (state : List Frame × TaxpayerResponse) :
    (resolvedEvents tree).foldlM (bodyEvent lib layout) (frame :: stack, response) = .ok state
      ↔ layout.LetsIn frame.toPlace frame.seen tree
        ∧ (∀ q ∈ tree.inner expandedElement,
          layout.Sound lib (layout.placeFrom frame.toPlace q.1) q.2)
        ∧ state = (frame.after layout lib tree :: stack,
          (tree.inner expandedElement).foldl (layout.step lib frame.toPlace) response) := by
  -- the induction is on the content; the frames below, and what this one has seen, stay free
  induction tree generalizing frame stack response state with
  | nil =>
    have hafter : frame.after layout lib .nil = frame := by
      unfold Frame.after Layout.singletons
      simp [Content.elements, Tree.text]
    rw [hafter]
    exact ⟨fun h => ⟨Layout.letsIn_nil rfl, fun _ hq => (by cases hq), (Except.ok.inj h).symm⟩,
      fun h => congrArg Except.ok h.2.2.symm⟩
  -- a leaf adds to the text of the frame, if it is a scalar, and to nothing else
  | leaf l rest ih =>
    obtain ⟨hdecoded, hread⟩ := hread
    have hevent : bodyEvent lib layout (frame :: stack, response) (.leaf l)
        = .ok (frame.append (l.decoded lib) :: stack, response) := by
      rw [bodyEvent, hdecoded]
      rfl
    have hplace : (frame.append (l.decoded lib)).toPlace = frame.toPlace := by
      unfold Frame.append
      split_ifs <;> rfl
    have hseen : (frame.append (l.decoded lib)).seen = frame.seen := by
      unfold Frame.append
      split_ifs <;> rfl
    have hafter : (frame.append (l.decoded lib)).after layout lib rest
        = frame.after layout lib (.leaf l rest) := by
      unfold Frame.after Frame.append Layout.singletons
      split_ifs with hscalar
      · simp [Content.elements, Tree.text, String.append_assoc]
      · simp [Content.elements]
    rw [resolvedEvents, Content.events, List.foldlM_cons, hevent]
    refine (ih hread _ _ _ _).trans ?_
    rw [hplace, hseen, hafter]
    rfl
  | empty p rest ih =>
    obtain ⟨hknown, hread⟩ := hread
    have helements : (Content.empty p rest).elements = (p, .nil) :: rest.elements := rfl
    rw [resolvedEvents, Content.events, List.foldlM_cons, Except.bind_eq_ok,
      Layout.letsIn_cons helements, Frame.after_cons helements rfl, Content.inner,
      List.forall_mem_cons, List.foldl_cons]
    constructor
    · rintro ⟨_, hevent, h⟩
      obtain ⟨hscalar, hseen, hsound, rfl⟩ := (bodyEvent_empty hknown).mp hevent
      obtain ⟨hletsIn, hinner, rfl⟩ := (ih hread _ _ _ _).mp h
      rw [Frame.letIn_toPlace] at hletsIn hinner ⊢
      exact ⟨⟨hscalar, hseen, Frame.letIn_seen _ _ ▸ hletsIn⟩, ⟨hsound, hinner⟩, rfl⟩
    · rintro ⟨⟨hscalar, hseen, hletsIn⟩, ⟨hsound, hinner⟩, rfl⟩
      refine ⟨_, (bodyEvent_empty hknown).mpr ⟨hscalar, hseen, hsound, rfl⟩, ?_⟩
      refine (ih hread _ _ _ _).mpr ?_
      rw [Frame.letIn_toPlace, Frame.letIn_seen]
      exact ⟨hletsIn, hinner, rfl⟩
  -- the children are read in a frame of their own, which the end tag closes
  | element p children rest ihchildren ih =>
    obtain ⟨hknown, hchildren, hread⟩ := hread
    have helements : (Content.element p children rest).elements
        = (p, children) :: rest.elements := rfl
    rw [resolvedEvents, Content.events, List.foldlM_cons, Except.bind_eq_ok,
      Layout.letsIn_cons helements, Frame.after_cons helements rfl, Content.inner,
      List.forall_mem_cons, List.forall_mem_append, List.forall_mem_map, List.foldl_cons,
      List.foldl_append, Layout.foldl_step_child]
    constructor
    · rintro ⟨_, hstart, h⟩
      obtain ⟨hscalar, hseen, rfl⟩ := (bodyEvent_start hknown).mp hstart
      rw [List.foldlM_append, Except.bind_eq_ok] at h
      obtain ⟨_, hcontent, h⟩ := h
      obtain ⟨hletsInside, hinside, rfl⟩ := (ihchildren hchildren _ _ _ _).mp hcontent
      rw [List.foldlM_cons, Except.bind_eq_ok] at h
      obtain ⟨_, hclose, h⟩ := h
      obtain ⟨hstorable, rfl⟩ := (bodyEvent_close hknown).mp hclose
      obtain ⟨hletsIn, hinner, rfl⟩ := (ih hread _ _ _ _).mp h
      rw [Frame.letIn_toPlace] at hletsIn hinner ⊢
      refine ⟨⟨hscalar, hseen, Frame.letIn_seen _ _ ▸ hletsIn⟩,
        ⟨⟨hletsInside, hstorable⟩, hinside, hinner⟩, ?_⟩
      dsimp only
      rw [Layout.store_foldl hletsInside]
      rfl
    · rintro ⟨⟨hscalar, hseen, hletsIn⟩, ⟨⟨hlets, hstorable⟩, hinside, hinner⟩, rfl⟩
      have hletsInside : layout.LetsIn (layout.placeOf frame.toPlace p) [] children := hlets
      refine ⟨_, (bodyEvent_start hknown).mpr ⟨hscalar, hseen, rfl⟩, ?_⟩
      rw [List.foldlM_append, Except.bind_eq_ok]
      refine ⟨_, (ihchildren hchildren _ _ _ _).mpr ⟨hletsInside, hinside, rfl⟩, ?_⟩
      rw [List.foldlM_cons, Except.bind_eq_ok]
      refine ⟨_, (bodyEvent_close hknown).mpr ⟨hstorable, rfl⟩, ?_⟩
      refine (ih hread _ _ _ _).mpr ?_
      rw [Frame.letIn_toPlace, Frame.letIn_seen]
      dsimp only
      rw [Layout.store_foldl hletsInside]
      exact ⟨hletsIn, hinner, rfl⟩

/-- Around the root nothing is kept. -/
theorem bodyEvents_around {tree : Tree} (hread : Tree.Readable lib tree)
    (h : tree.elements = []) (response : TaxpayerResponse) :
    (resolvedEvents tree).foldlM (bodyEvent lib layout) ([], response) = .ok ([], response) := by
  induction tree with
  | nil => rfl
  | leaf l rest ih =>
    have hevent : bodyEvent lib layout ([], response) (.leaf l) = .ok ([], response) := by
      rw [bodyEvent, hread.1]
      rfl
    rw [resolvedEvents, Content.events, List.foldlM_cons, hevent]
    exact ih hread.2 h
  | empty p rest ih => cases h
  | element p children rest => cases h

/-- **The pass over a document** with one root. -/
theorem bodyEvents_document {tree root : Tree} {p : ResolveResult × Tag}
    (hread : Tree.Readable lib tree) (h : tree.elements = [(p, root)])
    {response parsed : TaxpayerResponse} :
    (∃ stack, (resolvedEvents tree).foldlM (bodyEvent lib layout) ([], response)
        = .ok (stack, parsed))
      ↔ (∀ q ∈ root.walk expandedElement, layout.Sound lib (layout.place q.1) q.2)
        ∧ parsed = (root.walk expandedElement).foldl (layout.step lib rootPlace) response := by
  have hstore : ∀ response : TaxpayerResponse, ∀ text, response.store rootPlace text = response :=
    fun _ _ => TaxpayerResponse.store_of_not_scalar rfl
  have hstep : layout.step lib rootPlace response ([], root) = response :=
    hstore _ (Tree.text lib root)
  rw [Content.walk, List.forall_mem_cons, List.foldl_cons, hstep]
  induction tree with
  | nil => cases h
  | leaf l rest ih =>
    have hevent : bodyEvent lib layout ([], response) (.leaf l) = .ok ([], response) := by
      rw [bodyEvent, hread.1]
      rfl
    rw [resolvedEvents, Content.events, List.foldlM_cons, hevent]
    exact ih hread.2 h
  | empty q rest ih =>
    obtain ⟨hq, hrest⟩ := List.cons.inj h
    obtain ⟨rfl, rfl⟩ := Prod.mk.inj hq
    have hevent : bodyEvent lib layout ([], response) (.empty q) = .ok ([], response) := by
      rw [bodyEvent, Layout.start, namespaceUri_expanded hread.1]
      rfl
    have hall : (resolvedEvents (Content.empty q rest)).foldlM (bodyEvent lib layout) ([], response)
        = .ok ([], response) := by
      rw [resolvedEvents, Content.events, List.foldlM_cons, hevent]
      exact bodyEvents_around hread.2 hrest response
    rw [hall]
    constructor
    · rintro ⟨_, h⟩
      exact ⟨⟨⟨Layout.letsIn_nil rfl, fun hscalar => by cases hscalar⟩, fun _ hq => (by cases hq)⟩,
        (Prod.mk.inj (Except.ok.inj h)).2.symm⟩
    · rintro ⟨-, rfl⟩
      exact ⟨[], rfl⟩
  -- the root is known by its place alone, whatever it is called
  | element q children rest _ ih =>
    obtain ⟨hq, hrest⟩ := List.cons.inj h
    obtain ⟨rfl, rfl⟩ := Prod.mk.inj hq
    obtain ⟨hknown, hchildren, hread⟩ := hread
    have hstart : bodyEvent lib layout ([], response) (.start q)
        = .ok ([⟨rootPlace, [], ""⟩], response) := by
      rw [bodyEvent, Layout.start, namespaceUri_expanded hknown]
      rfl
    rw [resolvedEvents, Content.events, List.foldlM_cons, hstart]
    show (∃ stack, List.foldlM _ _ _ = _) ↔ _
    rw [List.foldlM_append]
    constructor
    · rintro ⟨stack, h⟩
      obtain ⟨_, hinside, h⟩ := Except.bind_eq_ok.mp h
      obtain ⟨hlets, hinner, rfl⟩ := (bodyEvents_inside hchildren _ _ _ _).mp hinside
      rw [List.foldlM_cons] at h
      obtain ⟨_, hclose, h⟩ := Except.bind_eq_ok.mp h
      obtain ⟨hstorable, rfl⟩ := (bodyEvent_close hknown).mp hclose
      have hdone := (bodyEvents_around hread hrest _).symm.trans h
      refine ⟨⟨⟨hlets, hstorable⟩, hinner⟩, ?_⟩
      rw [← (Prod.mk.inj (Except.ok.inj hdone)).2, hstore]
    · rintro ⟨⟨⟨hlets, hstorable⟩, hinner⟩, rfl⟩
      refine ⟨[], Except.bind_eq_ok.mpr ⟨_,
        (bodyEvents_inside hchildren _ _ _ _).mpr ⟨hlets, hinner, rfl⟩, ?_⟩⟩
      rw [List.foldlM_cons]
      refine Except.bind_eq_ok.mpr ⟨_, (bodyEvent_close hknown).mpr ⟨hstorable, rfl⟩, ?_⟩
      rw [hstore]
      exact bodyEvents_around hread hrest _

/-- What is read of a document can be decoded, if its leaves can. -/
theorem readable_annotate {N : NamespaceResolver} {scopes : Scopes} {c : Content Tag Leaf}
    (h : c.EveryTag (declared lib.normalizedValue) (Admissible N lib.normalizedValue) scopes)
    (hleaf : ∀ l, Event.leaf l ∈ c.events Tag.name → leafText lib l = .ok (l.decoded lib)) :
    Tree.Readable lib (c.annotate Tag.name (declared lib.normalizedValue) scopes) := by
  induction c generalizing scopes with
  | nil => trivial
  | leaf l rest ih =>
    exact ⟨hleaf l List.mem_cons_self, ih h fun l hl => hleaf l (List.mem_cons_of_mem _ hl)⟩
  | empty tag rest ih =>
    exact ⟨h.1.element, ih h.2 fun l hl => hleaf l (List.mem_cons_of_mem _ hl)⟩
  | element tag children rest ihchildren ih =>
    obtain ⟨hadmissible, hchildren, hrest⟩ := h
    refine ⟨hadmissible.element, ihchildren hchildren fun l hl => hleaf l ?_,
      ih hrest fun l hl => hleaf l ?_⟩
    · exact List.mem_cons_of_mem _ (List.mem_append_left _ hl)
    · exact List.mem_cons_of_mem _ (List.mem_append_right _ (List.mem_cons_of_mem _ hl))

end Pass

end Szamlazz
