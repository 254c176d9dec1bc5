import Szamlazz.Lib.Doctype
import Szamlazz.Push.Receiver

/-!
# The document type declaration of a push

`declaration` checks the document type declaration of a pushed document before anything
else reads it: the XML reader behind the typed parse skips most of it, and checking the
delimiters alone neither validates the declarations nor copes with quotes. Nothing is
expanded and nothing is looked up; the declaration is then taken out of the text, with
blanks in its place.

The recogniser works on the rest of the text. A name is what `xmlparser` consumes as one
(`XmlStream`), and so are the tokens that say where the declaration begins. The groups of
a content model are kept on a stack, with the separator each has committed itself to: a
deep model must not overflow the stack of the receiver.
-/

namespace Szamlazz.Adatkapcsolat

/-- `xmlparser::Stream::consume_name`: the name at the front of a text, and the rest. -/
class XmlStream where
  consumeName : List Char → Option (List Char × List Char)

namespace Dtd

open Scan (take need require refuse skip)

/-! ## Characters and names -/

/-- The characters of XML 1.0. -/
def isXmlCharacter (ch : Char) : Bool :=
  ch == '\t' || ch == '\n' || ch == '\r'
    || Xml.within [(0x20, 0xD7FF), (0xE000, 0xFFFD), (0x10000, 0x10FFFF)] ch

/-- The white space of XML. -/
def isXmlSpace (ch : Char) : Bool := ch == ' ' || ch == '\t' || ch == '\r' || ch == '\n'

/-- The characters a name without a colon may start with. -/
def xmlNcnameStart (ch : Char) : Bool :=
  ch == '_' || Xml.within [(0x41, 0x5A), (0x61, 0x7A), (0xC0, 0xD6), (0xD8, 0xF6),
    (0xF8, 0x2FF), (0x370, 0x37D), (0x37F, 0x1FFF), (0x200C, 0x200D), (0x2070, 0x218F),
    (0x2C00, 0x2FEF), (0x3001, 0xD7FF), (0xF900, 0xFDCF), (0xFDF0, 0xFFFD),
    (0x10000, 0xEFFFF)] ch

/-- The characters of a name. -/
def nameChar (c : Char) : Bool :=
  xmlNcnameStart c || c == ':' || c == '-' || c == '.'
    || Xml.within [(0x30, 0x39), (0xB7, 0xB7), (0x300, 0x36F), (0x203F, 0x2040)] c

/-- A name without a colon. -/
def isNcname : List Char → Bool
  | [] => false
  | c :: cs => xmlNcnameStart c && cs.all (fun c => c != ':' && nameChar c)

/-- `eq_ignore_ascii_case("xml")`. -/
def isXmlTarget (value : List Char) : Bool := value.map Char.toLower == ['x', 'm', 'l']

/-- The target of a processing instruction. -/
def validPiTarget (value : List Char) : Bool :=
  !isXmlTarget value
    && match value with
      | [] => false
      | c :: cs => xmlNcnameStart c && cs.all (fun ch => xmlNcnameStart ch || ch == '-' || ch == '.'
          || Xml.within [(0x30, 0x39), (0xB7, 0xB7), (0x300, 0x36F), (0x203F, 0x2040)] ch)

/-- The characters of a public identifier. -/
def isPubidCharacter (c : Char) : Bool :=
  c.isAlphanum || " \r\n-'()+,./:=?;!*#@$_%".toList.contains c

/-- The error of a declaration that is not well formed. -/
def invalid (message : String) : ParseError := .xml message

/-! ## Pieces -/

/-- A token that has to come. -/
def token (text : String) : Scan ParseError Unit :=
  need text.toList (invalid "invalid DTD declaration syntax")

/-- White space, and whether there was any. -/
def space : Scan ParseError Bool := do
  let blanks ← Scan.takeWhile isXmlSpace
  return !blanks.isEmpty

/-- White space, at least one character. -/
def separator : Scan ParseError Unit := do
  let found ← space
  require found (invalid "missing DTD whitespace")

/-- Whether a quote comes next. -/
def atQuote : Scan ParseError Bool :=
  Scan.peek (fun rest => rest.head?.any (fun c => c == '\'' || c == '"'))

section Names

variable [XmlStream]

/-- A name, as far as it goes. -/
def name : Scan ParseError (List Char) := fun rest =>
  match XmlStream.consumeName rest with
  | some read => .ok read
  | none => .error (.refused (invalid "invalid DTD name"))

/-- Whether a name has a prefix and a local part, or no colon at all. -/
def isQname (name : List Char) : Bool :=
  match name.dropWhile (fun c => c != ':') with
  | [] => isNcname name
  | _ :: localName => isNcname (name.takeWhile (fun c => c != ':')) && isNcname localName

/-- A name with at most one colon, in between. -/
def qname : Scan ParseError (List Char) := do
  let read ← name
  require (isQname read) (invalid "invalid DTD qualified name")
  return read

/-- A name without a colon. -/
def ncname : Scan ParseError (List Char) := do
  let read ← name
  require (isNcname read) (invalid "invalid DTD unqualified name")
  return read

end Names

/-- The text up to the quote that opened it. -/
def literalAfter (quote : Char) : Scan ParseError (List Char) := do
  let value ← Scan.past [quote] (invalid "unclosed DTD literal")
  require (value.all isXmlCharacter) (invalid "forbidden XML character in DTD")
  return value

/-- A text in quotes. -/
def literal : Scan ParseError (List Char) := do
  if ← take ['\''] then literalAfter '\''
  else
    token "\""
    literalAfter '"'

/-- The end of a declaration, with space in front. -/
def declEnd : Scan ParseError Unit := do
  skip space
  token ">"

/-! ## References in values -/

/-- `u32::from_str_radix` of digits. -/
def fromStrRadix (digits : List Char) (radix : ℕ) : Option ℕ :=
  let n := Xml.Doctype.number radix Xml.Doctype.digitValue digits
  if n < 2 ^ 32 then some n else none

/-- `char::from_u32`. -/
def charFromU32 (n : ℕ) : Option Char := if n.isValidChar then some (Char.ofNat n) else none

/-- The digits of a number system. -/
def isDigitOf (radix : ℕ) (c : Char) : Bool :=
  if radix = 16 then Xml.Doctype.isHexDigit c else c.isDigit

/-- The number of a character reference, in digits of the radix. -/
def characterReference (digits : List Char) (radix : ℕ) : Except (Scan.Fault ParseError) Unit :=
  if digits.isEmpty || !digits.all (isDigitOf radix) then
    .error (.refused (invalid "invalid DTD character reference"))
  else if !((fromStrRadix digits radix).bind charFromU32).any isXmlCharacter then
    .error (.refused (invalid "forbidden DTD character reference"))
  else .ok ()

section Names

variable [XmlStream]

/-- What is between an ampersand and a semicolon. -/
def entityReference (text : List Char) : Except (Scan.Fault ParseError) Unit :=
  ncname text >>= fun read =>
    if read.2.isEmpty then .ok ()
    else .error (.refused (invalid "invalid DTD entity reference"))

/-- What stands between an ampersand and the next semicolon. -/
def reference : List Char → Except (Scan.Fault ParseError) Unit
  | '#' :: 'x' :: digits => characterReference digits 16
  | '#' :: digits => characterReference digits 10
  | text => entityReference text

/-- What follows an ampersand. -/
def referenceTurn : Scan ParseError (Unit ⊕ Unit) := do
  let text ← Scan.past [';'] (invalid "unclosed DTD reference")
  Scan.lift (reference text)
  return .inl ()

/-- A character that begins no reference. -/
def characterTurn (inAttribute : Bool) (ch : Char) : Scan ParseError (Unit ⊕ Unit) := do
  require (!(inAttribute && ch == '<' || !inAttribute && ch == '%'))
    (invalid "forbidden character in DTD value")
  return .inl ()

/-- Looks for the next reference in a value. -/
def referencesTurn (inAttribute : Bool) (_ : Unit) : Scan ParseError (Unit ⊕ Unit)
  | [] => .ok (.inr (), [])
  | ch :: rest => if ch = '&' then referenceTurn rest else characterTurn inAttribute ch rest

/-- The value of an attribute forbids `<`, that of an entity a parameter reference. -/
def references (text : List Char) (inAttribute : Bool) : Except (Scan.Fault ParseError) Unit :=
  (Scan.loop (referencesTurn inAttribute) () text).map Prod.fst

/-- A literal whose references are in order. -/
def valueLiteral (inAttribute : Bool) : Scan ParseError Unit := do
  let value ← literal
  Scan.lift (references value inAttribute)

/-! ## External identifiers -/

/-- A public identifier, in quotes. -/
def publicLiteral : Scan ParseError Unit := do
  let identifier ← literal
  require (identifier.all isPubidCharacter) (invalid "invalid DTD public identifier")

/-- What follows a public identifier: a system identifier, which a notation may lack. -/
def publicSystem (ofNotation : Bool) : Scan ParseError Unit := do
  let blank ← space
  let quoted ← atQuote
  if !ofNotation || quoted then
    require blank (invalid "missing DTD external identifier whitespace")
    skip literal
  else pure ()

/-- A public identifier, with a system identifier behind it unless it is of a notation. -/
def publicId (ofNotation : Bool) : Scan ParseError Unit := do
  token "PUBLIC"
  separator
  publicLiteral
  publicSystem ofNotation

/-- An external identifier. -/
def externalId (ofNotation : Bool) : Scan ParseError Unit := do
  if ← take "SYSTEM".toList then
    separator
    skip literal
  else publicId ofNotation

/-! ## Declarations -/

/-- What an entity without a literal value may name in the end. -/
def unparsed (parameter : Bool) : Scan ParseError Unit := do
  if ← space then
    if ← take "NDATA".toList then
      require (!parameter) (invalid "NDATA on parameter entity")
      separator
      skip ncname
    else pure ()
  else pure ()

/-- What an entity stands for. -/
def entityDefinition (parameter : Bool) : Scan ParseError Unit := do
  skip ncname
  separator
  if ← atQuote then valueLiteral false
  else
    externalId false
    unparsed parameter

/-- The entity is a general one, or a parameter entity. -/
def entityBody : Scan ParseError Unit := do
  if ← take ['%'] then
    separator
    entityDefinition true
  else entityDefinition false

/-- The declaration of an entity. -/
def entity : Scan ParseError Unit := do
  separator
  entityBody
  declEnd

/-- The declaration of a notation. -/
def notationDecl : Scan ParseError Unit := do
  separator
  skip ncname
  separator
  externalId true
  declEnd

/-- A name, or a token of the characters of names. -/
def enumerationToken (names : Bool) : Scan ParseError Unit := do
  if names then skip ncname
  else
    let text ← Scan.takeWhile nameChar
    require (!text.isEmpty) (invalid "empty DTD enumeration token")

/-- A token of an enumerated type, and whether another one follows. -/
def enumerationTurn (names : Bool) (_ : Unit) : Scan ParseError (Unit ⊕ Unit) := do
  skip space
  enumerationToken names
  skip space
  if ← take [')'] then return .inr ()
  else
    token "|"
    return .inl ()

/-- Names or tokens in parentheses. -/
def enumeration (names : Bool) : Scan ParseError Unit := Scan.loop (enumerationTurn names) ()

/-- The types that a single word names. -/
def attributeTypes : List String :=
  ["CDATA", "ID", "IDREF", "IDREFS", "ENTITY", "ENTITIES", "NMTOKEN", "NMTOKENS"]

/-- The type of an attribute. -/
def attributeType : Scan ParseError Unit := do
  if ← take ['('] then enumeration false
  else
    let word ← name
    if word = "NOTATION".toList then
      separator
      token "("
      enumeration true
    else
      require (attributeTypes.any (fun type => type.toList == word))
        (invalid "invalid DTD attribute type")

/-- What an attribute is if it is left out. -/
def attributeDefault : Scan ParseError Unit := do
  if ← take "#REQUIRED".toList then pure ()
  else if ← take "#IMPLIED".toList then pure ()
  else if ← take "#FIXED".toList then
    separator
    valueLiteral true
  else valueLiteral true

/-- One attribute, or the end. -/
def attlistTurn (_ : Unit) : Scan ParseError (Unit ⊕ Unit) := do
  let blank ← space
  if ← take ['>'] then return .inr ()
  else
    require blank (invalid "missing DTD attribute separator")
    skip qname
    separator
    attributeType
    separator
    attributeDefault
    return .inl ()

/-- The declaration of an element's attributes. -/
def attlist : Scan ParseError Unit := do
  separator
  skip qname
  Scan.loop attlistTurn ()

/-! ## Content models -/

/-- The groups that are open, the innermost first, each with the separator it has
committed itself to. -/
abbrev Groups : Type := List (Option Char)

/-- How often a particle may occur. -/
def occurrence : Scan ParseError Unit := do
  if ← take ['?'] then pure ()
  else if ← take ['*'] then pure ()
  else skip (take ['+'])

/-- After a particle: the group is closed, or a separator brings the next one. -/
def afterParticle (groups : Groups) : Scan ParseError (Groups ⊕ Groups) := do
  occurrence
  skip space
  if ← take [')'] then
    if groups.tail.isEmpty then return .inr [] else return .inl groups.tail
  else
    let separator ← separatorChar
    match groups with
    | [] => Scan.unreachable
    | group :: rest =>
      require (group.all (fun previous => previous == separator))
        (invalid "mixed DTD content separators")
      return .inr (some separator :: rest)
where
  separatorChar : Scan ParseError Char := do
    if ← take ['|'] then return '|'
    else
      token ","
      return ','

/-- Before a particle: a group is opened, or a name and what comes after it is read. -/
def beforeParticle (groups : Groups) : Scan ParseError (Groups ⊕ Unit) := do
  skip space
  if ← take ['('] then return .inl (none :: groups)
  else
    skip qname
    let groups ← Scan.loop afterParticle groups
    if groups.isEmpty then return .inr () else return .inl groups

/-- A content model of elements. -/
def children : Scan ParseError Unit := do
  Scan.loop beforeParticle [none]
  occurrence

/-- A name of mixed content, and whether there was one. -/
def mixedTurn (names : Bool) : Scan ParseError (Bool ⊕ Bool) := do
  if ← take ['|'] then
    skip space
    skip qname
    skip space
    return .inl true
  else return .inr names

/-- A content model with text. -/
def mixed : Scan ParseError Unit := do
  skip space
  let names ← Scan.loop mixedTurn false
  token ")"
  if names then token "*" else skip (take ['*'])

/-- What an element may contain. -/
def contentSpec : Scan ParseError Unit := do
  if ← take "EMPTY".toList then pure ()
  else if ← take "ANY".toList then pure ()
  else
    token "("
    skip space
    if ← take "#PCDATA".toList then mixed else children

/-- The declaration of an element. -/
def element : Scan ParseError Unit := do
  separator
  skip qname
  separator
  contentSpec
  declEnd

/-! ## The internal subset -/

/-- A comment. -/
def comment : Scan ParseError Unit := do
  let text ← Scan.upTo "--".toList (invalid "unclosed DTD comment")
  require (text.all isXmlCharacter) (invalid "forbidden DTD comment character")
  token "-->"

/-- A processing instruction. -/
def instruction : Scan ParseError Unit := do
  let target ← ncname
  require (validPiTarget target) (invalid "invalid DTD processing instruction target")
  if ← take "?>".toList then pure ()
  else
    separator
    let text ← Scan.past "?>".toList (invalid "unclosed DTD processing instruction")
    require (text.all isXmlCharacter) (invalid "forbidden DTD instruction character")

/-- A reference between declarations: its spelling is checked and nothing is looked up. -/
def parameterReference : Scan ParseError Unit := do
  skip ncname
  token ";"

/-- One declaration of the subset. -/
def markup : Scan ParseError Unit := do
  if ← take "<!ELEMENT".toList then element
  else if ← take "<!ATTLIST".toList then attlist
  else if ← take "<!ENTITY".toList then entity
  else if ← take "<!NOTATION".toList then notationDecl
  else if ← take "<!--".toList then comment
  else if ← take "<?".toList then instruction
  else if ← take ['%'] then parameterReference
  else refuse (invalid "invalid DTD internal subset")

/-- One piece of the subset, or its end. -/
def subsetTurn (_ : Unit) : Scan ParseError (Unit ⊕ Unit) := do
  skip space
  if ← take [']'] then return .inr ()
  else
    markup
    return .inl ()

/-- The subset in brackets. -/
def internalSubset : Scan ParseError Unit := do
  if ← take ['['] then
    Scan.loop subsetTurn ()
    skip space
  else pure ()

/-- An external identifier, unless the declaration goes on without one. -/
def externalSubset : Scan ParseError Unit := do
  if ← space then
    if ← Scan.peek (fun rest => rest.head?.any (fun c => c == '[' || c == '>')) then pure ()
    else
      externalId false
      skip space
  else pure ()

/-- The document type declaration. -/
def declaration : Scan ParseError Unit := do
  token "<!DOCTYPE"
  separator
  skip qname
  externalSubset
  internalSubset
  token ">"

end Names

end Dtd

end Szamlazz.Adatkapcsolat
