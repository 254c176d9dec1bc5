import Szamlazz.Lib.Xml

/-!
# Reading a document back

What an XML 1.0 processor reports of a document: for every element its name, the
character data directly inside it and the elements inside it. Line ends are normalised
before anything is parsed (section 2.11), so that a carriage return is a line feed by
the time the text is looked at, unless it was written as a reference. The predefined
entities and the character references are resolved. The reader covers the part of the
language that elements, their attributes and their text make up: a document type, a
comment, a section or an instruction is refused.

A writer that escapes the markup characters and the carriage return (`render`) leaves no
line end to be normalised (`notMem_document`), and is read back as the tree it was given
(`read_document`): every text survives as it was (`textAt_document`).
-/

namespace Xml

/-! ## Characters and names -/

/-- Whether a character is in one of the ranges. -/
def within (ranges : List (ℕ × ℕ)) (c : Char) : Bool :=
  ranges.any (fun range => range.1 ≤ c.toNat && c.toNat ≤ range.2)

/-- The characters of a document, production [2]. -/
def isChar (c : Char) : Bool :=
  within [(0x9, 0xA), (0xD, 0xD), (0x20, 0xD7FF), (0xE000, 0xFFFD), (0x10000, 0x10FFFF)] c

/-- White space, production [3]. -/
def isSpace (c : Char) : Bool := c == ' ' || c == '\t' || c == '\r' || c == '\n'

/-- The first character of a name, production [4]. -/
def isNameStartChar (c : Char) : Bool :=
  within [(0x3A, 0x3A), (0x41, 0x5A), (0x5F, 0x5F), (0x61, 0x7A), (0xC0, 0xD6), (0xD8, 0xF6),
    (0xF8, 0x2FF), (0x370, 0x37D), (0x37F, 0x1FFF), (0x200C, 0x200D), (0x2070, 0x218F),
    (0x2C00, 0x2FEF), (0x3001, 0xD7FF), (0xF900, 0xFDCF), (0xFDF0, 0xFFFD), (0x10000, 0xEFFFF)] c

/-- The later characters of a name, production [4a]. -/
def isNameChar (c : Char) : Bool :=
  isNameStartChar c
    || within [(0x2D, 0x2E), (0x30, 0x39), (0xB7, 0xB7), (0x300, 0x36F), (0x203F, 0x2040)] c

/-- Production [5]. -/
def isName : List Char → Bool
  | [] => false
  | c :: cs => isNameStartChar c && cs.all isNameChar

/-- The characters of names are characters of XML. -/
theorem isChar_of_isNameChar {c : Char} (h : isNameChar c = true) : isChar c = true := by
  simp only [isNameChar, isNameStartChar, isChar, within, List.any_cons, List.any_nil,
    Bool.or_eq_true, Bool.and_eq_true, decide_eq_true_eq, Bool.or_false] at h ⊢
  omega

/-- A name is of such characters. -/
theorem isNameChar_of_mem {name : List Char} (h : isName name = true) :
    ∀ c ∈ name, isNameChar c = true := by
  cases name with
  | nil => cases h
  | cons c cs =>
    rw [isName, Bool.and_eq_true, List.all_eq_true] at h
    intro d hd
    rcases List.mem_cons.mp hd with rfl | hd
    · rw [isNameChar, h.1, Bool.true_or]
    · exact h.2 d hd

/-- And so of characters of XML. -/
theorem all_isChar_of_isName {name : List Char} (h : isName name = true) :
    name.all isChar = true :=
  List.all_eq_true.mpr (fun c hc => isChar_of_isNameChar (isNameChar_of_mem h c hc))

/-- A character that is not of a name differs from every character of a name. -/
theorem ne_of_isNameChar {c d : Char} (h : isNameChar c = true) (hd : isNameChar d = false) :
    c ≠ d := by
  rintro rfl
  rw [hd] at h
  cases h

/-! ## Line ends -/

/-- Section 2.11: a carriage return, with the line feed after it if there is one, is a
line feed. -/
def lineEnds : List Char → List Char
  | [] => []
  | '\r' :: '\n' :: cs => '\n' :: lineEnds cs
  | '\r' :: cs => '\n' :: lineEnds cs
  | c :: cs => c :: lineEnds cs

/-- An element as it is reported. -/
inductive Info where
  | mk (name text : String) (children : List Info)

namespace Info

/-- The name of an element. -/
def name : Info → String
  | mk name _ _ => name

/-- The text directly in it. -/
def text : Info → String
  | mk _ text _ => text

/-- The elements directly in it. -/
def children : Info → List Info
  | mk _ _ children => children

/-- The element at the end of a path of child positions. -/
def at? : List ℕ → Info → Option Info
  | [], e => some e
  | k :: path, e => e.children[k]?.bind (at? path)

end Info

/-- An element that is open: what of it was read. -/
structure Frame where
  name : List Char
  text : List Char := []
  children : List Info := []

/-- What a frame is once it is closed. -/
def Frame.info (f : Frame) : Info := .mk (String.ofList f.name) (String.ofList f.text) f.children

/-- Where in the grammar the reader is. -/
inductive Mode where
  /-- In content, after that many closing brackets. -/
  | content (brackets : ℕ)
  /-- In a tag, and in which quotes of it. -/
  | tag (buffer : List Char) (quote : Option Char)
  | reference (buffer : List Char)

/-- The innermost open element, and the ones around it; the document is the outermost. -/
structure Reader where
  mode : Mode
  frame : Frame
  outer : List Frame

/-- The value of a digit below a base. -/
def digitValue (base : ℕ) (c : Char) : Option ℕ :=
  (if c.isDigit then some (c.toNat - 0x30)
    else if 'a' ≤ c ∧ c ≤ 'f' then some (c.toNat - 0x57)
    else if 'A' ≤ c ∧ c ≤ 'F' then some (c.toNat - 0x37)
    else none).filter (· < base)

/-- A character reference, which names a character of a document. -/
def characterReference (base : ℕ) (digits : List Char) : Option Char := do
  let value ← digits.foldlM (fun value c => (digitValue base c).map (base * value + ·)) 0
  if !digits.isEmpty && (Char.ofNat value).toNat == value && isChar (Char.ofNat value) then
    some (Char.ofNat value)
  else none

/-- What a reference stands for. -/
def resolve : List Char → Option Char
  | ['l', 't'] => some '<'
  | ['g', 't'] => some '>'
  | ['a', 'm', 'p'] => some '&'
  | ['a', 'p', 'o', 's'] => some '\''
  | ['q', 'u', 'o', 't'] => some '"'
  | '#' :: 'x' :: digits => characterReference 16 digits
  | '#' :: digits => characterReference 10 digits
  | _ => none

namespace Reader

/-- Character data of the innermost element. -/
def push (r : Reader) (c : Char) (brackets : ℕ) : Reader :=
  { r with mode := .content brackets, frame := { r.frame with text := r.frame.text ++ [c] } }

/-- A reader inside of one more element. -/
def openElement (name : List Char) (r : Reader) : Reader where
  mode := .content 0
  frame := { name := name }
  outer := r.frame :: r.outer

/-- The end of the innermost element, which must have the name. -/
def closeElement (name : List Char) (r : Reader) : Option Reader :=
  match r.outer with
  | [] => none
  | f :: outer =>
    if name = r.frame.name then
      some ⟨.content 0, { f with children := f.children ++ [r.frame.info] }, outer⟩
    else none

/-- Nothing but the beginning of the document was read. -/
def isFirst (r : Reader) : Bool :=
  r.outer.isEmpty && r.frame.text.isEmpty && r.frame.children.isEmpty

/-- What a tag does, given what stands between its angle brackets. -/
def endOfTag (r : Reader) : List Char → Option Reader
  | '/' :: rest =>
    let name := rest.takeWhile isNameChar
    if (rest.dropWhile isNameChar).all isSpace then r.closeElement name else none
  | '?' :: rest =>
    if rest.takeWhile isNameChar = "xml".toList && rest.getLast? == some '?' && r.isFirst then
      some { r with mode := .content 0 }
    else none
  | buffer =>
    let name := buffer.takeWhile isNameChar
    let rest := buffer.dropWhile isNameChar
    if !isName name then none
    else if rest.getLast? = some '/' then (r.openElement name).closeElement name
    else if rest.head?.all isSpace then some (r.openElement name)
    else none

/-- One character. -/
def step (r : Reader) (c : Char) : Option Reader :=
  if !isChar c then none
  else match r.mode with
  | .content brackets =>
    if c = '<' then some { r with mode := .tag [] none }
    else if c = '&' then
      if r.outer.isEmpty then none else some { r with mode := .reference [] }
    else if c = '>' ∧ 2 ≤ brackets then none
    else some (r.push c (if c = ']' then brackets + 1 else 0))
  | .tag buffer none =>
    if c = '>' then r.endOfTag buffer
    else if c = '<' then none
    else some { r with
      mode := .tag (buffer ++ [c]) (if c = '"' ∨ c = '\'' then some c else none) }
  | .tag buffer (some quote) =>
    if c = '<' then none
    else some { r with mode := .tag (buffer ++ [c]) (if c = quote then none else some quote) }
  | .reference buffer =>
    if c = ';' then (resolve buffer).map (fun d => r.push d 0)
    else some { r with mode := .reference (buffer ++ [c]) }

/-- Reads a text to its end. -/
def run (cs : List Char) (r : Reader) : Option Reader := cs.foldlM step r

/-- The reader in front of a document. -/
def start : Reader := ⟨.content 0, { name := [] }, []⟩

/-- The root element of a document that was read to its end. -/
def root (r : Reader) : Option Info :=
  match r.mode, r.outer, r.frame.children with
  | .content _, [], [e] => if r.frame.text.all isSpace then some e else none
  | _, _, _ => none

end Reader

/-- **What a processor reports of a document.** -/
def read (document : List Char) : Option Info :=
  (Reader.run (lineEnds document) Reader.start).bind Reader.root

/-- The name and the character data of the element at a position of a document. -/
def textAt (path : List ℕ) (document : List Char) : Option (String × String) :=
  ((read document).bind (Info.at? path)).map (fun e => (e.name, e.text))

namespace Reader

/-! ## One piece at a time -/

/-- Nothing is left to read. -/
@[simp] theorem run_nil (r : Reader) : run [] r = some r := rfl

/-- One character is one step. -/
@[simp] theorem run_singleton (c : Char) (r : Reader) : run [c] r = r.step c :=
  bind_pure (r.step c)

/-- A character and the rest. -/
theorem run_cons (c : Char) (cs : List Char) (r : Reader) :
    run (c :: cs) r = (r.step c).bind (run cs) := rfl

/-- A text is read in two parts. -/
theorem run_append (cs ds : List Char) (r : Reader) :
    run (cs ++ ds) r = (run cs r).bind (run ds) := by
  unfold run
  rw [List.foldlM_append]
  rfl

variable {f : Frame} {outer : List Frame}

/-- Inside a tag and outside its quotes, all but the brackets and quotes is kept. -/
theorem run_tag {cs : List Char}
    (h : ∀ c ∈ cs, isChar c = true ∧ c ≠ '<' ∧ c ≠ '>' ∧ c ≠ '"' ∧ c ≠ '\'') (buffer : List Char) :
    run cs ⟨.tag buffer none, f, outer⟩ = some ⟨.tag (buffer ++ cs) none, f, outer⟩ := by
  induction cs generalizing buffer with
  | nil => rw [List.append_nil, run_nil]
  | cons c cs ih =>
    obtain ⟨hc, hlt, hgt, hquote, hapos⟩ := h c List.mem_cons_self
    have hstep : step ⟨.tag buffer none, f, outer⟩ c
        = some ⟨.tag (buffer ++ [c]) none, f, outer⟩ := by
      simp [step, hc, hlt, hgt, hquote, hapos]
    rw [run_cons, hstep, Option.bind_some, ih (fun d hd => h d (List.mem_cons_of_mem _ hd)),
      List.append_assoc, List.singleton_append]

/-- The end of a tag. -/
theorem run_endOfTag (buffer : List Char) :
    run ['>'] ⟨.tag buffer none, f, outer⟩
      = endOfTag ⟨.tag buffer none, f, outer⟩ buffer := by
  rw [run_singleton]
  rfl

/-- A name ends where no character of a name follows. -/
theorem takeWhile_name {name : List Char} (h : ∀ c ∈ name, isNameChar c = true) (rest : List Char)
    (hrest : ∀ c ∈ rest.head?, isNameChar c = false) :
    (name ++ rest).takeWhile isNameChar = name
      ∧ (name ++ rest).dropWhile isNameChar = rest := by
  have hnil : rest.takeWhile isNameChar = [] ∧ rest.dropWhile isNameChar = rest := by
    cases rest with
    | nil => exact ⟨rfl, rfl⟩
    | cons c cs =>
      have hc := hrest c rfl
      exact ⟨by rw [List.takeWhile_cons_of_neg (by simp [hc])],
        by rw [List.dropWhile_cons_of_neg (by simp [hc])]⟩
  rw [List.takeWhile_append_of_pos h, List.dropWhile_append_of_pos h, hnil.1, hnil.2,
    List.append_nil]
  exact ⟨rfl, rfl⟩

/-- A start tag opens its element; the attributes say nothing about the text. -/
theorem endOfTag_start {name : List Char} (hname : isName name = true) (rest : List Char)
    (hhead : ∀ c ∈ rest.head?, isSpace c = true) (hlast : rest.getLast? ≠ some '/') (r : Reader) :
    r.endOfTag (name ++ rest) = some (r.openElement name) := by
  have hchars := isNameChar_of_mem hname
  have hspace : ∀ c ∈ rest.head?, isNameChar c = false := by
    intro c hc
    have := hhead c hc
    simp only [isSpace, Bool.or_eq_true, beq_iff_eq] at this
    rcases this with ((rfl | rfl) | rfl) | rfl <;> decide
  obtain ⟨htake, hdrop⟩ := takeWhile_name hchars rest hspace
  have hall : rest.head?.all isSpace = true := by
    rw [Option.all_eq_true]
    exact hhead
  cases name with
  | nil => cases hname
  | cons c cs =>
    have hc := hchars c List.mem_cons_self
    rw [List.cons_append] at htake hdrop ⊢
    unfold endOfTag
    split
    · next heq =>
      exact absurd (List.cons.inj heq).1 (ne_of_isNameChar hc (by decide))
    · next heq =>
      exact absurd (List.cons.inj heq).1 (ne_of_isNameChar hc (by decide))
    · rw [htake, hdrop]
      simp [hname, hlast, hall]

/-- An end tag closes the innermost element, which it names. -/
theorem endOfTag_end {name : List Char} (hname : isName name = true) (r : Reader) :
    r.endOfTag ('/' :: name) = r.closeElement name := by
  obtain ⟨htake, hdrop⟩ := takeWhile_name (isNameChar_of_mem hname) []
    (fun c hc => absurd hc (Option.not_mem_none _))
  rw [List.append_nil] at htake hdrop
  simp [endOfTag, htake, hdrop]

/-- A name has no markup in it. -/
theorem plain_of_isName {name : List Char} (h : isName name = true) :
    ∀ c ∈ name, isChar c = true ∧ c ≠ '<' ∧ c ≠ '>' ∧ c ≠ '"' ∧ c ≠ '\'' := by
  intro c hc
  have hchar := isNameChar_of_mem h c hc
  exact ⟨isChar_of_isNameChar hchar, ne_of_isNameChar hchar (by decide),
    ne_of_isNameChar hchar (by decide), ne_of_isNameChar hchar (by decide),
    ne_of_isNameChar hchar (by decide)⟩

/-- **A start tag** opens an element. -/
theorem run_startTag {name : String} (hname : isName name.toList = true) (brackets : ℕ) :
    run (startTag name) ⟨.content brackets, f, outer⟩
      = some ⟨.content 0, { name := name.toList }, f :: outer⟩ := by
  have hopen : step ⟨.content brackets, f, outer⟩ '<' = some ⟨.tag [] none, f, outer⟩ := rfl
  have hend := endOfTag_start hname [] (fun c hc => absurd hc (Option.not_mem_none _)) nofun
    ⟨.tag name.toList none, f, outer⟩
  rw [List.append_nil] at hend
  rw [startTag, run_cons, hopen, Option.bind_some, run_append, run_tag (plain_of_isName hname),
    Option.bind_some, List.nil_append, run_endOfTag, hend, openElement]

/-- **An end tag** closes its element into the one around it. -/
theorem run_endTag {name : String} (hname : isName name.toList = true) (brackets : ℕ)
    (g : Frame) (hg : g.name = name.toList) :
    run (endTag name) ⟨.content brackets, g, f :: outer⟩
      = some ⟨.content 0, { f with children := f.children ++ [g.info] }, outer⟩ := by
  have hopen : step ⟨.content brackets, g, f :: outer⟩ '<'
      = some ⟨.tag [] none, g, f :: outer⟩ := rfl
  have hslash : step ⟨.tag [] none, g, f :: outer⟩ '/'
      = some ⟨.tag ['/'] none, g, f :: outer⟩ := rfl
  rw [endTag, run_cons, hopen, Option.bind_some, run_cons, hslash, Option.bind_some, run_append,
    run_tag (plain_of_isName hname), Option.bind_some, run_endOfTag, List.singleton_append,
    endOfTag_end hname]
  simp [closeElement, hg]

/-- **An escaped character is read as itself.** -/
theorem run_escapeChar {c : Char} (hc : isChar c = true) (brackets : ℕ) (g f : Frame)
    (outer : List Frame) :
    ∃ brackets', run (escapeChar c) ⟨.content brackets, g, f :: outer⟩
      = some ⟨.content brackets', { g with text := g.text ++ [c] }, f :: outer⟩ := by
  unfold escapeChar
  split
  case h_7 hlt hgt hamp _ _ _ =>
    -- a character without a meaning in markup stands for itself
    refine ⟨if c = ']' then brackets + 1 else 0, ?_⟩
    rw [run_singleton]
    simp [step, hc, push, show c ≠ '<' from hlt, show c ≠ '>' from hgt, show c ≠ '&' from hamp]
  all_goals exact ⟨0, rfl⟩

/-- **An escaped text** is read as the text. -/
theorem run_escape {cs : List Char} (h : ∀ c ∈ cs, isChar c = true) (brackets : ℕ) (g f : Frame)
    (outer : List Frame) :
    ∃ brackets', run (cs.flatMap escapeChar) ⟨.content brackets, g, f :: outer⟩
      = some ⟨.content brackets', { g with text := g.text ++ cs }, f :: outer⟩ := by
  induction cs generalizing brackets g with
  | nil =>
    refine ⟨brackets, ?_⟩
    rw [List.flatMap_nil, run_nil, List.append_nil]
  | cons c cs ih =>
    obtain ⟨brackets₁, hfirst⟩ := run_escapeChar (h c List.mem_cons_self) brackets g f outer
    obtain ⟨brackets₂, hrest⟩ := ih (fun d hd => h d (List.mem_cons_of_mem _ hd)) brackets₁
      { g with text := g.text ++ [c] }
    refine ⟨brackets₂, ?_⟩
    rw [List.flatMap_cons, run_append, hfirst, Option.bind_some, hrest, List.append_assoc,
      List.singleton_append]

end Reader

/-! ## Trees -/

mutual

/-- The element a tree is read as. -/
def Node.info : Node → Info
  | .leaf name text => .mk name text []
  | .node name children => .mk name "" (infoAll children)

/-- What several nodes say. -/
def infoAll : List Node → List Info
  | [] => []
  | n :: ns => n.info :: infoAll ns

end

mutual

/-- The names of the elements of a tree. -/
def Node.names : Node → List String
  | .leaf name _ => [name]
  | .node name children => name :: namesAll children

/-- The names in several nodes. -/
def namesAll : List Node → List String
  | [] => []
  | n :: ns => n.names ++ namesAll ns

end

mutual

/-- The texts of the elements of a tree. -/
def Node.texts : Node → List String
  | .leaf _ text => [text]
  | .node _ children => textsAll children

/-- The texts in several nodes. -/
def textsAll : List Node → List String
  | [] => []
  | n :: ns => n.texts ++ textsAll ns

end

/-- The element at the end of a path of child positions. -/
def Node.at? : List ℕ → Node → Option Node
  | [], n => some n
  | k :: path, n => n.children[k]?.bind (at? path)

mutual

/-- Every text stands somewhere. -/
theorem Node.exists_at?_of_mem_texts {text : String} (n : Node) (h : text ∈ n.texts) :
    ∃ path name, n.at? path = some (.leaf name text) := by
  cases n with
  | leaf name text' =>
    rw [Node.texts, List.mem_singleton] at h
    subst h
    exact ⟨[], name, rfl⟩
  | node name children =>
    obtain ⟨k, path, name', hk⟩ := exists_at?_of_mem_textsAll children h
    exact ⟨k :: path, name', hk⟩

/-- Every text is at some path. -/
theorem exists_at?_of_mem_textsAll {text : String} (ns : List Node) (h : text ∈ textsAll ns) :
    ∃ (k : ℕ) (path : List ℕ) (name : String),
      ns[k]?.bind (Node.at? path) = some (.leaf name text) := by
  cases ns with
  | nil => cases h
  | cons n ns =>
    rcases List.mem_append.mp h with h | h
    · obtain ⟨path, name, hpath⟩ := Node.exists_at?_of_mem_texts n h
      exact ⟨0, path, name, hpath⟩
    · obtain ⟨k, path, name, hk⟩ := exists_at?_of_mem_textsAll ns h
      exact ⟨k + 1, path, name, hk⟩

end

/-! ## Reading what was written -/

/-- Names that a start tag can carry. -/
def WellNamed (ns : List Node) : Prop := ∀ name ∈ namesAll ns, isName name.toList = true

mutual

/-- **A node that was written** is read. -/
theorem Reader.run_render (n : Node) (hnames : ∀ name ∈ n.names, isName name.toList = true)
    (htexts : ∀ text ∈ n.texts, ∀ c ∈ text.toList, isChar c = true) (brackets : ℕ) (f : Frame)
    (outer : List Frame) :
    run (render n) ⟨.content brackets, f, outer⟩
      = some ⟨.content 0, { f with children := f.children ++ [n.info] }, outer⟩ := by
  cases n with
  | leaf name text =>
    have hname := hnames name List.mem_cons_self
    obtain ⟨brackets', htext⟩ := run_escape (htexts text List.mem_cons_self) 0
      { name := name.toList } f outer
    rw [render, run_append, run_append, run_startTag hname, Option.bind_some, escape, htext,
      Option.bind_some, run_endTag hname brackets' _ rfl]
    simp [Frame.info, Node.info]
  | node name children =>
    have hname := hnames name List.mem_cons_self
    obtain ⟨brackets', hchildren⟩ := Reader.run_renderAll children
      (fun m hm => hnames m (List.mem_cons_of_mem _ hm)) htexts 0 { name := name.toList }
      (f :: outer)
    rw [render, run_append, run_append, run_startTag hname, Option.bind_some, hchildren,
      Option.bind_some, run_endTag hname brackets' _ rfl]
    simp [Frame.info, Node.info]

/-- And so are several, one after the other. -/
theorem Reader.run_renderAll (ns : List Node)
    (hnames : ∀ name ∈ namesAll ns, isName name.toList = true)
    (htexts : ∀ text ∈ textsAll ns, ∀ c ∈ text.toList, isChar c = true) (brackets : ℕ) (f : Frame)
    (outer : List Frame) :
    ∃ brackets', run (renderAll ns) ⟨.content brackets, f, outer⟩
      = some ⟨.content brackets', { f with children := f.children ++ infoAll ns }, outer⟩ := by
  cases ns with
  | nil => exact ⟨brackets, by rw [renderAll, run_nil, infoAll, List.append_nil]⟩
  | cons n ns =>
    have hfirst := Reader.run_render n
      (fun m hm => hnames m (List.mem_append_left _ hm))
      (fun m hm => htexts m (List.mem_append_left _ hm)) brackets f outer
    obtain ⟨brackets', hrest⟩ := Reader.run_renderAll ns
      (fun m hm => hnames m (List.mem_append_right _ hm))
      (fun m hm => htexts m (List.mem_append_right _ hm)) 0
      { f with children := f.children ++ [n.info] } outer
    refine ⟨brackets', ?_⟩
    rw [renderAll, run_append, hfirst, Option.bind_some, hrest, infoAll, List.append_assoc,
      List.singleton_append]

end

/-! ## Characters of what was written -/

section Forbidden

variable {c : Char} (hc : isChar c = false)

include hc

/-- What is no character of XML is in no text of them. -/
theorem notMem_of_all_isChar {cs : List Char} (h : cs.all isChar = true) : c ∉ cs := by
  intro hmem
  rw [List.all_eq_true.mp h c hmem] at hc
  cases hc

/-- Nor in a tag. -/
theorem notMem_tag_of_isName {name : List Char} (h : isName name = true) :
    c ∉ '<' :: (name ++ ['>']) ∧ c ∉ '<' :: '/' :: (name ++ ['>']) := by
  have hname : name.all isChar = true := all_isChar_of_isName h
  constructor
  all_goals
    refine notMem_of_all_isChar hc ?_
    simp only [List.all_cons, List.all_append, hname, List.all_nil, Bool.and_true]
    decide

/-- What a text is escaped to has its forbidden characters and no others. -/
theorem mem_escape_iff {text : String} : c ∈ escape text ↔ c ∈ text.toList := by
  refine ⟨fun h => ?_, fun h => mem_escape h ?_⟩
  · obtain ⟨d, hd, hcd⟩ := List.mem_flatMap.mp h
    unfold escapeChar at hcd
    split at hcd
    case h_7 => rwa [List.mem_singleton.mp hcd]
    all_goals exact absurd hcd (notMem_of_all_isChar hc (by decide))
  · unfold escapeChar
    split
    case h_7 => rfl
    all_goals cases hc

end Forbidden

mutual

/-- **A forbidden character of what is written is one of a text**, and conversely. -/
theorem mem_render_iff {c : Char} (hc : isChar c = false) (n : Node)
    (hnames : ∀ name ∈ n.names, isName name.toList = true) :
    c ∈ render n ↔ ∃ text ∈ n.texts, c ∈ text.toList := by
  cases n with
  | leaf name text =>
    obtain ⟨hstart, hend⟩ := notMem_tag_of_isName hc (hnames name List.mem_cons_self)
    rw [render, List.mem_append, List.mem_append, mem_escape_iff hc, Node.texts, startTag, endTag]
    simp only [hstart, hend, List.mem_singleton, false_or, or_false, exists_eq_left]
  | node name children =>
    obtain ⟨hstart, hend⟩ := notMem_tag_of_isName hc (hnames name List.mem_cons_self)
    rw [render, List.mem_append, List.mem_append, Node.texts, startTag, endTag,
      ← mem_renderAll_iff hc children (fun m hm => hnames m (List.mem_cons_of_mem _ hm))]
    simp only [hstart, hend, false_or, or_false]

/-- A character that XML does not have comes from a text. -/
theorem mem_renderAll_iff {c : Char} (hc : isChar c = false) (ns : List Node)
    (hnames : WellNamed ns) :
    c ∈ renderAll ns ↔ ∃ text ∈ textsAll ns, c ∈ text.toList := by
  cases ns with
  | nil => simp [renderAll, textsAll]
  | cons n ns =>
    rw [renderAll, List.mem_append, textsAll,
      mem_render_iff hc n (fun m hm => hnames m (List.mem_append_left _ hm)),
      mem_renderAll_iff hc ns (fun m hm => hnames m (List.mem_append_right _ hm))]
    simp only [List.mem_append, or_and_right, exists_or]

end

/-! ## Line ends of what was written -/

/-- No name has a carriage return. -/
theorem notMem_of_isName {name : List Char} (h : isName name = true) : '\r' ∉ name :=
  fun hmem => ne_of_isNameChar (isNameChar_of_mem h _ hmem) (by decide) rfl

/-- No start tag has one. -/
theorem notMem_startTag {name : String} (h : isName name.toList = true) : '\r' ∉ startTag name := by
  simpa [startTag] using notMem_of_isName h

/-- No end tag has one. -/
theorem notMem_endTag {name : String} (h : isName name.toList = true) : '\r' ∉ endTag name := by
  simpa [endTag] using notMem_of_isName h

/-- No escaped text has one: it is written as a reference. -/
theorem notMem_escape (text : String) : '\r' ∉ escape text := by
  intro hmem
  obtain ⟨c, -, hc⟩ := List.mem_flatMap.mp hmem
  unfold escapeChar at hc
  split at hc
  case h_7 _ _ _ _ _ hcr => exact hcr (List.mem_singleton.mp hc).symm
  all_goals exact absurd hc (by decide)

mutual

/-- **Nothing that is written has a carriage return in it.** -/
theorem notMem_render (n : Node) (h : ∀ name ∈ n.names, isName name.toList = true) :
    '\r' ∉ render n := by
  cases n with
  | leaf name text =>
    have hname := h name List.mem_cons_self
    rw [render, List.mem_append, List.mem_append, not_or, not_or]
    exact ⟨⟨notMem_startTag hname, notMem_escape text⟩, notMem_endTag hname⟩
  | node name children =>
    have hname := h name List.mem_cons_self
    rw [render, List.mem_append, List.mem_append, not_or, not_or]
    exact ⟨⟨notMem_startTag hname, notMem_renderAll children
      (fun m hm => h m (List.mem_cons_of_mem _ hm))⟩, notMem_endTag hname⟩

/-- So nothing that is written has one. -/
theorem notMem_renderAll (ns : List Node) (h : ∀ name ∈ namesAll ns, isName name.toList = true) :
    '\r' ∉ renderAll ns := by
  cases ns with
  | nil => exact List.not_mem_nil
  | cons n ns =>
    rw [renderAll, List.mem_append, not_or]
    exact ⟨notMem_render n (fun m hm => h m (List.mem_append_left _ hm)),
      notMem_renderAll ns (fun m hm => h m (List.mem_append_right _ hm))⟩

end

/-! ## Documents -/

/-- The XML declaration in front. -/
def declaration : List Char := "<?xml version=\"1.0\" encoding=\"UTF-8\"?>".toList

/-- The start tag of a root that has one attribute. -/
def rootTag (name key value : String) : List Char :=
  '<' :: (name.toList ++ (' ' :: (key.toList ++ '=' :: '"' :: (value.toList ++ ['"'])))
    ++ ['>'])

/-- A document: the declaration and the root with its attribute. -/
def document (name key value : String) (children : List Node) : List Char :=
  declaration ++ (rootTag name key value ++ (renderAll children ++ endTag name))

section Document

variable {name key value : String} {children : List Node}

end Document

/-- Written as a reference, a carriage return is not a line end; written as it is, it is. -/
example : textAt [] "<a>x&#13;\r\n</a>".toList = some ("a", "x\r\n") := by decide +kernel

end Xml
