import Mathlib.Algebra.BigOperators.Group.List.Basic
import Mathlib.Data.Finset.Card
import Szamlazz.Lib.Multipart
import Szamlazz.Lib.Text
import Szamlazz.Lib.Utf8
import Szamlazz.Agent.Types

/-!
# The request on the wire

The XML document of an operation and its attachments are the parts of one body. The
boundary between them is looked for: it is the first of a sequence of candidates that
occurs in no content. File names are header text; `dispositionValue` takes out of
them what would end a line or a quoted string.

`multipart_eq_write` says that the body is the body of those parts in the sense of
`Multipart`, and `boundaryIndex_le` that the search ends before the number of bytes
there are.
-/

namespace Szamlazz

namespace Wire

open Multipart (Part cr lf)

/-- The operations of the Számla Agent. -/
inductive Operation where
  | queryTaxpayer
  | createInvoice
  | queryInvoiceXml
  | queryInvoicePdf
  | deleteProforma
  | createReceipt
  | stornoReceipt
  | queryReceipt
  | sendReceipt
  | clearCreditEntries
  | registerCreditEntry
  | stornoInvoice
deriving DecidableEq

/-- The form field that selects the operation. -/
def Operation.action : Operation → String
  | queryTaxpayer => "action-szamla_agent_taxpayer"
  | createInvoice => "action-xmlagentxmlfile"
  | queryInvoiceXml => "action-szamla_agent_xml"
  | queryInvoicePdf => "action-szamla_agent_pdf"
  | deleteProforma => "action-szamla_agent_dijbekero_torlese"
  | createReceipt => "action-szamla_agent_nyugta_create"
  | stornoReceipt => "action-szamla_agent_nyugta_storno"
  | queryReceipt => "action-szamla_agent_nyugta_get"
  | sendReceipt => "action-szamla_agent_nyugta_send"
  | clearCreditEntries | registerCreditEntry => "action-szamla_agent_kifiz"
  | stornoInvoice => "action-szamla_agent_st"

/-- An additional file part of an operation. -/
structure MultipartFile where
  name : String
  filename : String
  contentType : String
  content : List UInt8
deriving DecidableEq

/-- The boundary that is tried first. -/
def baseBoundary : String := "----szamlazz-agent-4f7d1a2b9c3e"

/-! ## The boundary -/

/-- The windows of a size, which is positive. -/
def windows (size : ℕ) (bs : List UInt8) : List (List UInt8) :=
  (List.range (bs.length + 1 - size)).map (fun i => (bs.drop i).take size)

/-- Whether some bytes contain others. -/
def containsBytes (haystack needle : List UInt8) : Bool :=
  (windows needle.length haystack).any (fun window => window == needle)

/-- The candidates in the order in which they are tried. -/
def boundaryText (candidate : ℕ) : String :=
  if candidate = 0 then baseBoundary else baseBoundary ++ "-" ++ toString candidate

/-- What is sent: the document, and the files. -/
def contents (xml : List UInt8) (files : List MultipartFile) : List (List UInt8) :=
  xml :: files.map MultipartFile.content

/-- Whether a candidate occurs in a content. -/
def collides (xml : List UInt8) (files : List MultipartFile) (candidate : ℕ) : Bool :=
  containsBytes xml (Utf8.bytes (boundaryText candidate))
    || files.any (fun file => containsBytes file.content (Utf8.bytes (boundaryText candidate)))

/-- That is, as a part without a gap. -/
theorem containsBytes_iff {haystack needle : List UInt8} (hne : needle ≠ []) :
    containsBytes haystack needle = true ↔ needle <:+: haystack := by
  have hpos : 0 < needle.length := List.length_pos_of_ne_nil hne
  rw [containsBytes, windows, List.any_map, List.any_eq_true]
  constructor
  · rintro ⟨i, -, hi⟩
    rw [Function.comp_apply, beq_iff_eq] at hi
    rw [← hi]
    exact (List.take_prefix _ _).isInfix.trans (List.drop_suffix _ _).isInfix
  · rintro ⟨before, after, rfl⟩
    refine ⟨before.length, ?_, ?_⟩
    · rw [List.mem_range]
      simp only [List.length_append]
      omega
    · rw [Function.comp_apply, beq_iff_eq, List.append_assoc, List.drop_left, List.take_left]

/-- The first candidate has no number. -/
theorem bytes_boundaryText_zero : Utf8.bytes (boundaryText 0) = Utf8.bytes baseBoundary := rfl

/-- The others have theirs behind a hyphen. -/
theorem bytes_boundaryText {candidate : ℕ} (h : candidate ≠ 0) :
    Utf8.bytes (boundaryText candidate)
      = Utf8.bytes baseBoundary ++ 0x2D :: Utf8.bytes (toString candidate) := by
  rw [boundaryText, if_neg h, Utf8.bytes_append, Utf8.bytes_append, List.append_assoc]
  rfl

/-- No candidate is empty. -/
theorem bytes_boundaryText_ne_nil (candidate : ℕ) : Utf8.bytes (boundaryText candidate) ≠ [] := by
  have hbase : Utf8.bytes baseBoundary ≠ [] := by decide
  by_cases h : candidate = 0
  · rw [h]
    exact hbase
  · rw [bytes_boundaryText h]
    exact fun h => hbase (List.append_eq_nil_iff.mp h).1

/-- A candidate collides when it is in one of the contents. -/
theorem collides_iff {xml : List UInt8} {files : List MultipartFile} {candidate : ℕ} :
    collides xml files candidate = true
      ↔ ∃ content ∈ contents xml files, Utf8.bytes (boundaryText candidate) <:+: content := by
  have hne := bytes_boundaryText_ne_nil candidate
  rw [collides, Bool.or_eq_true, List.any_eq_true, contents, List.exists_mem_cons_iff]
  simp only [List.mem_map, exists_exists_and_eq_and, containsBytes_iff hne]

/-- How many bytes there are. -/
def size (xml : List UInt8) (files : List MultipartFile) : ℕ := (contents xml files).flatten.length

/-- Every content counts. -/
theorem length_le_size {xml : List UInt8} {files : List MultipartFile} {content : List UInt8}
    (h : content ∈ contents xml files) : content.length ≤ size xml files :=
  (List.sublist_flatten_of_mem h).length_le

/-- A candidate that occurs in a content is no longer than the content. -/
theorem lt_of_collides {xml : List UInt8} {files : List MultipartFile} {candidate : ℕ}
    (h : collides xml files candidate = true) : candidate < 10 ^ (size xml files + 1) := by
  by_cases hzero : candidate = 0
  · rw [hzero]
    exact Nat.pow_pos (by decide)
  · obtain ⟨content, hcontent, hinside⟩ := collides_iff.mp h
    rw [bytes_boundaryText hzero] at hinside
    have hlength := hinside.length_le.trans (length_le_size hcontent)
    have hdigits : (Nat.toDigits 10 candidate).length ≤ (Utf8.bytes (toString candidate)).length := by
      have htext : (toString candidate).toList = Nat.toDigits 10 candidate := Nat.toList_repr
      rw [Utf8.bytes, htext]
      exact Utf8.length_le_encode _
    rw [List.length_append, List.length_cons] at hlength
    exact (Nat.length_toDigits_le_iff (by decide) (Nat.succ_pos _)).mp (by omega)

/-- The loop: the first candidate from `candidate` on that occurs in no content. -/
def boundaryIndex (xml : List UInt8) (files : List MultipartFile) (candidate : ℕ) : ℕ :=
  if h : collides xml files candidate = true then boundaryIndex xml files (candidate + 1)
  else candidate
termination_by 10 ^ (size xml files + 1) - candidate
decreasing_by
  have := lt_of_collides h
  omega

/-- The first candidate that does not collide. -/
def multipartBoundary (xml : List UInt8) (files : List MultipartFile) : String :=
  boundaryText (boundaryIndex xml files 0)

/-- **The search ends at a candidate that occurs nowhere**, and every candidate before
it occurs somewhere. -/
theorem boundaryIndex_spec (xml : List UInt8) (files : List MultipartFile) (candidate : ℕ) :
    collides xml files (boundaryIndex xml files candidate) = false
      ∧ ∀ c, candidate ≤ c → c < boundaryIndex xml files candidate →
        collides xml files c = true := by
  induction candidate using boundaryIndex.induct xml files with
  | case1 candidate hcollides ih =>
    rw [boundaryIndex, dif_pos hcollides]
    refine ⟨ih.1, fun c hle hlt => ?_⟩
    rcases Nat.eq_or_lt_of_le hle with rfl | hlt'
    · exact hcollides
    · exact ih.2 c hlt' hlt
  | case2 candidate hcollides =>
    rw [boundaryIndex, dif_neg hcollides]
    exact ⟨Bool.eq_false_iff.mpr hcollides, fun c hle hlt => absurd hlt (Nat.not_lt.mpr hle)⟩

/-! ## How long the search takes -/

/-- The bytes of a number are digits. -/
theorem notMem_bytes_toString {b : UInt8} (hb : b.toNat < 0x80)
    (hdigit : (Char.ofNat b.toNat).isDigit = false) (n : ℕ) : b ∉ Utf8.bytes (toString n) := by
  intro h
  have htext : (toString n).toList = Nat.toDigits 10 n := Nat.toList_repr
  have hmem := Utf8.mem_encode hb h
  rw [htext] at hmem
  rw [Nat.isDigit_of_mem_toDigits (by decide) (by decide) hmem] at hdigit
  cases hdigit

/-- A number is written with a digit at least. -/
theorem bytes_toString_ne_nil (n : ℕ) : Utf8.bytes (toString n) ≠ [] := by
  intro h
  have htext : (toString n).toList = Nat.toDigits 10 n := Nat.toList_repr
  have hlength := Utf8.length_le_encode (toString n).toList
  rw [← Utf8.bytes, h, htext] at hlength
  exact absurd hlength (Nat.not_le.mpr Nat.length_toDigits_pos)

/-- **Where a candidate ends, no other ends.** -/
theorem eq_of_suffix {c c' : ℕ}
    (h : Utf8.bytes (boundaryText c) <:+ Utf8.bytes (boundaryText c')) : c = c' := by
  have hdash : ∀ n, (0x2D : UInt8) ∉ Utf8.bytes (toString n) :=
    notMem_bytes_toString (by decide) (by decide)
  by_cases hc : c = 0
  · by_cases hc' : c' = 0
    · rw [hc, hc']
    · -- The base ends with a letter, the other candidates with a digit.
      rw [hc, bytes_boundaryText_zero, bytes_boundaryText hc'] at h
      have hletter : [0x65] <:+ Utf8.bytes baseBoundary :=
        ⟨Utf8.bytes "----szamlazz-agent-4f7d1a2b9c3", by decide⟩
      obtain ⟨front, hfront⟩ := hletter.trans h
      rcases List.eq_nil_or_concat (Utf8.bytes (toString c')) with hnil | ⟨digits, last, hdigits⟩
      · exact absurd hnil (bytes_toString_ne_nil c')
      · have hlast : last ∈ Utf8.bytes (toString c') := by
          rw [hdigits, List.concat_eq_append]
          exact List.mem_append_right digits List.mem_cons_self
        rw [hdigits, List.concat_eq_append, ← List.cons_append, ← List.append_assoc] at hfront
        obtain ⟨-, heq⟩ := List.append_inj' hfront rfl
        rw [← (List.cons.inj heq).1] at hlast
        exact absurd hlast (notMem_bytes_toString (by decide) (by decide) c')
  · by_cases hc' : c' = 0
    · rw [hc', bytes_boundaryText_zero, bytes_boundaryText hc] at h
      have hlength := h.length_le
      rw [List.length_append, List.length_cons] at hlength
      omega
    · -- Behind the last dash is the number.
      rw [bytes_boundaryText hc, bytes_boundaryText hc', ← List.reverse_prefix,
        List.reverse_append, List.reverse_append, List.reverse_cons, List.reverse_cons,
        List.append_assoc, List.append_assoc] at h
      obtain ⟨rest, hrest⟩ := h
      rw [List.append_assoc, List.append_assoc] at hrest
      obtain ⟨hdigits, -⟩ := Text.append_sep_inj
        (fun hm => hdash c (List.mem_reverse.mp hm)) (fun hm => hdash c' (List.mem_reverse.mp hm))
        hrest
      have htext : Nat.toDigits 10 c = Nat.toDigits 10 c' := by
        rw [← Nat.toList_repr, ← Nat.toList_repr]
        exact congrArg String.toList (Utf8.bytes_injective (List.reverse_injective hdigits))
      rw [← Nat.ofDigitChars_ten_toDigits (n := c), htext, Nat.ofDigitChars_ten_toDigits]

/-- The prefixes of the contents that are not empty. -/
def prefixes (xml : List UInt8) (files : List MultipartFile) : List (List UInt8) :=
  (contents xml files).flatMap (fun content => content.inits.tail)

/-- There are as many places as bytes. -/
theorem length_prefixes (xml : List UInt8) (files : List MultipartFile) :
    (prefixes xml files).length = size xml files := by
  rw [prefixes, List.length_flatMap, size, List.length_flatten]
  simp

/-- **The search tries no more candidates than there are bytes.** -/
theorem boundaryIndex_le (xml : List UInt8) (files : List MultipartFile) :
    boundaryIndex xml files 0 ≤ size xml files := by
  have hcollides := (boundaryIndex_spec xml files 0).2
  have hends : ∀ c ∈ Finset.range (boundaryIndex xml files 0),
      ∃ p ∈ (prefixes xml files).toFinset, Utf8.bytes (boundaryText c) <:+ p := by
    intro c hc
    obtain ⟨content, hcontent, before, after, heq⟩ :=
      collides_iff.mp (hcollides c (Nat.zero_le c) (Finset.mem_range.mp hc))
    refine ⟨before ++ Utf8.bytes (boundaryText c), ?_, List.suffix_append _ _⟩
    rw [List.mem_toFinset, prefixes, List.mem_flatMap]
    refine ⟨content, hcontent, ?_⟩
    have hmem : before ++ Utf8.bytes (boundaryText c) ∈ content.inits :=
      (List.mem_inits _ _).mpr ⟨after, heq⟩
    have hinits : content.inits = [] :: content.inits.tail := by
      cases content with
      | nil => rfl
      | cons b content => rw [List.inits_cons, List.tail_cons]
    rw [hinits] at hmem
    refine (List.mem_cons.mp hmem).resolve_left (fun hnil => ?_)
    exact bytes_boundaryText_ne_nil c (List.append_eq_nil_iff.mp hnil).2
  choose! p hp hsuffix using hends
  rw [← length_prefixes, ← Finset.card_range (boundaryIndex xml files 0)]
  refine (Finset.card_le_card_of_injOn p hp ?_).trans (List.toFinset_card_le _)
  intro c hc c' hc' heq
  have hleft := hsuffix c hc
  have hright := hsuffix c' hc'
  rw [heq] at hleft
  rcases List.suffix_or_suffix_of_suffix hleft hright with h | h
  · exact eq_of_suffix h
  · exact (eq_of_suffix h).symm

/-! ## The body -/

/-- `str::replace` of the characters `p` selects. -/
def replace (p : Char → Bool) (new : String) (value : String) : String :=
  String.ofList (value.toList.flatMap (fun c => if p c then new.toList else [c]))

/-- The two characters that end a line. -/
def isLineBreak (c : Char) : Bool := c = '\r' || c = '\n'

/-- A value as it may stand in quotes. -/
def dispositionValue (value : String) : String :=
  replace (fun c => c = '\\') "%5C" (replace (fun c => c = '"') "%22" (replace isLineBreak "" value))

/-- The bytes of the document, behind the first delimiter line. -/
def documentBytes (boundary action : String) (xml : List UInt8) : List UInt8 :=
  Utf8.bytes ("--" ++ boundary ++ "\r\n")
    ++ Utf8.bytes ("Content-Disposition: form-data; name=\"" ++ action ++ "\"; filename=\"" ++ action
      ++ "\"\r\n")
    ++ Utf8.bytes "Content-Type: text/xml\r\n\r\n" ++ xml

/-- The bytes of a file, behind a delimiter line. -/
def fileBytes (boundary : String) (file : MultipartFile) : List UInt8 :=
  Utf8.bytes ("\r\n--" ++ boundary ++ "\r\n")
    ++ Utf8.bytes ("Content-Disposition: form-data; name=\"" ++ dispositionValue file.name
      ++ "\"; filename=\"" ++ dispositionValue file.filename ++ "\"\r\n")
    ++ Utf8.bytes ("Content-Type: " ++ replace isLineBreak "" file.contentType ++ "\r\n\r\n")
    ++ file.content

/-- The value of the content type, and the body: the document in a file field named
`action`, and the files. -/
def multipart (action : String) (xml : List UInt8) (files : List MultipartFile) :
    String × List UInt8 :=
  let boundary := multipartBoundary xml files
  let body := documentBytes boundary action xml
  let body := files.foldl (fun body file => body ++ fileBytes boundary file) body
  ("multipart/form-data; boundary=" ++ boundary,
    body ++ Utf8.bytes ("\r\n--" ++ boundary ++ "--\r\n"))

/-! ## The parts of a body -/

/-- The header line that names a part. -/
def dispositionLine (name filename : String) : String :=
  "Content-Disposition: form-data; name=\"" ++ name ++ "\"; filename=\"" ++ filename ++ "\""

/-- The header of a content type. -/
def typeLine (contentType : String) : String := "Content-Type: " ++ contentType

/-- A part under its two header lines. -/
def part (name filename contentType : String) (content : List UInt8) : Part where
  headers := [Utf8.bytes (dispositionLine name filename), Utf8.bytes (typeLine contentType)]
  content := content

/-- The part of a file. -/
def filePart (file : MultipartFile) : Part :=
  part (dispositionValue file.name) (dispositionValue file.filename)
    (replace isLineBreak "" file.contentType) file.content

/-- The parts of a request: the document, and the files. -/
def parts (action : String) (xml : List UInt8) (files : List MultipartFile) : List Part :=
  part action action "text/xml" xml :: files.map filePart

/-- A delimiter, as the receiver knows it. -/
theorem bytes_delimiter (boundary : String) : Utf8.bytes ("\r\n--" ++ boundary ++ "\r\n")
    = Multipart.delimiter (Utf8.bytes boundary) ++ [cr, lf] := by
  rw [Utf8.bytes_append, Utf8.bytes_append]
  rfl

/-- The header of a disposition. -/
theorem bytes_dispositionLine (name filename : String) :
    Utf8.bytes ("Content-Disposition: form-data; name=\"" ++ name ++ "\"; filename=\"" ++ filename
        ++ "\"\r\n")
      = Utf8.bytes (dispositionLine name filename) ++ [cr, lf] := by
  have hbreak : Utf8.bytes "\"\r\n" = Utf8.bytes "\"" ++ [cr, lf] := rfl
  have hline : Utf8.bytes (dispositionLine name filename)
      = Utf8.bytes ("Content-Disposition: form-data; name=\"" ++ name ++ "\"; filename=\"" ++ filename)
        ++ Utf8.bytes "\"" := Utf8.bytes_append _ _
  rw [Utf8.bytes_append, hbreak, hline, List.append_assoc]

/-- The header of a type, and the end of the headers. -/
theorem bytes_typeLine (contentType : String) :
    Utf8.bytes ("Content-Type: " ++ contentType ++ "\r\n\r\n")
      = Utf8.bytes (typeLine contentType) ++ [cr, lf, cr, lf] := by
  rw [typeLine, Utf8.bytes_append]
  rfl

/-- A part, as the bytes behind its delimiter line. -/
theorem text_part (name filename contentType : String) (content : List UInt8) :
    (part name filename contentType content).text
      = Utf8.bytes (dispositionLine name filename) ++ [cr, lf]
        ++ (Utf8.bytes (typeLine contentType) ++ [cr, lf, cr, lf]) ++ content := by
  simp only [part, Part.text, List.flatMap_cons, List.flatMap_nil, List.append_assoc,
    List.cons_append, List.nil_append]

/-- The bytes of a file are those of a part. -/
theorem fileBytes_eq (boundary : String) (file : MultipartFile) : fileBytes boundary file
    = Multipart.delimiter (Utf8.bytes boundary) ++ cr :: lf :: (filePart file).text := by
  rw [fileBytes, bytes_delimiter, bytes_dispositionLine, bytes_typeLine, filePart, text_part]
  simp only [List.append_assoc, List.cons_append, List.nil_append]

/-- So are those of the document. -/
theorem documentBytes_eq (boundary action : String) (xml : List UInt8) :
    cr :: lf :: documentBytes boundary action xml
      = Multipart.delimiter (Utf8.bytes boundary)
        ++ cr :: lf :: (part action action "text/xml" xml).text := by
  have htype : Utf8.bytes "Content-Type: text/xml\r\n\r\n"
      = Utf8.bytes (typeLine "text/xml") ++ [cr, lf, cr, lf] := by
    rw [← bytes_typeLine]
    decide
  have hopen : Utf8.bytes ("--" ++ boundary ++ "\r\n")
      = 0x2D :: 0x2D :: (Utf8.bytes boundary ++ [cr, lf]) := by
    rw [Utf8.bytes_append, Utf8.bytes_append]
    rfl
  rw [documentBytes, hopen, bytes_dispositionLine, htype, text_part]
  simp only [Multipart.delimiter, List.append_assoc, List.cons_append, List.nil_append]

/-- **The body is the body of its parts.** -/
theorem multipart_eq_write (action : String) (xml : List UInt8) (files : List MultipartFile) :
    (multipart action xml files).2
      = Multipart.write (Utf8.bytes (multipartBoundary xml files)) (parts action xml files) := by
  have hclose : Utf8.bytes ("\r\n--" ++ multipartBoundary xml files ++ "--\r\n")
      = Multipart.delimiter (Utf8.bytes (multipartBoundary xml files)) ++ [0x2D, 0x2D, cr, lf] := by
    rw [Utf8.bytes_append, Utf8.bytes_append]
    rfl
  have hbody : (multipart action xml files).2
      = files.foldl (fun body file => body ++ fileBytes (multipartBoundary xml files) file)
          (documentBytes (multipartBoundary xml files) action xml)
        ++ Utf8.bytes ("\r\n--" ++ multipartBoundary xml files ++ "--\r\n") := rfl
  have hcrlf : ∀ bs bs' : List UInt8, cr :: lf :: bs = cr :: lf :: bs' → bs = bs' :=
    fun bs bs' h => (List.cons.inj (List.cons.inj h).2).2
  refine hcrlf _ _ ?_
  rw [Multipart.crlf_write, parts, List.flatMap_cons, List.flatMap_map, ← documentBytes_eq]
  rw [hbody, List.foldl_append_eq_append, hclose, ← List.flatMap_def,
    funext (fileBytes_eq (multipartBoundary xml files))]
  simp only [List.append_assoc, List.cons_append]

/-! ## What the receiver reads -/

/-- What is in a text after a replacement. -/
theorem mem_replace {p : Char → Bool} {new value : String} {c : Char}
    (h : c ∈ (replace p new value).toList) :
    c ∈ new.toList ∨ (c ∈ value.toList ∧ p c = false) := by
  rw [replace, String.toList_ofList, List.mem_flatMap] at h
  obtain ⟨b, hb, hc⟩ := h
  split_ifs at hc with hp
  · exact Or.inl hc
  · obtain rfl := List.mem_singleton.mp hc
    exact Or.inr ⟨hb, Bool.eq_false_iff.mpr hp⟩

/-- Nothing is replaced where there is nothing to replace. -/
theorem replace_eq_self {p : Char → Bool} {new value : String}
    (h : ∀ c ∈ value.toList, p c = false) : replace p new value = value := by
  have hlist : value.toList.flatMap (fun c => if p c then new.toList else [c]) = value.toList := by
    rw [List.flatMap_congr (g := fun c => [c])]
    · exact List.flatMap_singleton' value.toList
    · intro c hc
      rw [h c hc]
      rfl
  rw [replace, hlist, String.ofList_toList]

/-- The characters that would end a header line or a quoted string in it. -/
def isMetacharacter (c : Char) : Bool := isLineBreak c || c = '"' || c = '\\'

/-- A value in quotes has no character that ends it. -/
theorem isMetacharacter_dispositionValue {value : String} {c : Char}
    (h : c ∈ (dispositionValue value).toList) : isMetacharacter c = false := by
  have hescape : ∀ c ∈ "%5C".toList ++ "%22".toList, isMetacharacter c = false := by
    intro c hc
    have hall : ("%5C".toList ++ "%22".toList).all (fun c => !isMetacharacter c) = true := by decide
    exact (Bool.not_eq_true' _).mp (List.all_eq_true.mp hall c hc)
  rcases mem_replace h with h | ⟨h, hbackslash⟩
  · exact hescape c (List.mem_append_left _ h)
  · rcases mem_replace h with h | ⟨h, hquote⟩
    · exact hescape c (List.mem_append_right _ h)
    · rcases mem_replace h with h | ⟨-, hbreak⟩
      · cases h
      · rw [isMetacharacter, hbreak, hquote, hbackslash]
        rfl

/-- **A value that holds none of them is not touched.** -/
theorem dispositionValue_eq_self {value : String}
    (h : ∀ c ∈ value.toList, isMetacharacter c = false) : dispositionValue value = value := by
  have hsplit : ∀ c ∈ value.toList, isLineBreak c = false ∧ decide (c = '"') = false
      ∧ decide (c = '\\') = false := by
    intro c hc
    have := h c hc
    simp only [isMetacharacter, Bool.or_eq_false_iff] at this
    exact ⟨this.1.1, this.1.2, this.2⟩
  rw [dispositionValue, replace_eq_self (fun c hc => (hsplit c hc).1),
    replace_eq_self (fun c hc => (hsplit c hc).2.1), replace_eq_self (fun c hc => (hsplit c hc).2.2)]

/-- The ASCII bytes of a text are among its characters. -/
theorem notMem_bytes {value : String} {c : Char} (hc : c.toNat < 0x80) (h : c ∉ value.toList) :
    UInt8.ofNat c.toNat ∉ Utf8.bytes value := by
  intro hmem
  have hbyte : (UInt8.ofNat c.toNat).toNat = c.toNat := by
    rw [UInt8.toNat_ofNat', Nat.mod_eq_of_lt (by omega)]
  have := Utf8.mem_encode (by rw [hbyte]; exact hc) hmem
  rw [hbyte, Char.ofNat_toNat] at this
  exact h this

/-- Header text: neither the end of a line nor that of a quoted string is in it. -/
def Plain (value : String) : Prop := ∀ c ∈ value.toList, isMetacharacter c = false

instance (value : String) : Decidable (Plain value) := List.decidableBAll _ _

/-- It is plain. -/
theorem plain_dispositionValue (value : String) : Plain (dispositionValue value) :=
  fun _ => isMetacharacter_dispositionValue

/-- The names of the actions are plain. -/
theorem plain_action (o : Operation) : Plain o.action := by
  cases o <;> decide

/-- A part under the two header lines of a form field: each of them is a line, and one
of them, and only one, says how the field and its file are called. -/
structure Headed (name filename : String) (p : Part) : Prop where
  lines : p.headers.length = 2
  line : ∀ line ∈ p.headers, cr ∉ line ∧ lf ∉ line
  disposition : ∃ parameters, p.headers.filter (Multipart.named (Utf8.bytes "content-disposition"))
      = [Utf8.bytes "Content-Disposition: form-data" ++ parameters]
    ∧ Multipart.readParameters parameters
      = some [(Utf8.bytes "name", Utf8.bytes name), (Utf8.bytes "filename", Utf8.bytes filename)]

section Part

variable {name filename contentType : String}

/-- A plain value has no quote and no line end. -/
theorem Plain.notMem_of_isMetacharacter {value : String} (h : Plain value) {c : Char}
    (hc : isMetacharacter c = true) : c ∉ value.toList := by
  intro hmem
  rw [h c hmem] at hc
  cases hc

/-- Text of one line. -/
def OneLine (value : String) : Prop := ∀ c ∈ value.toList, isLineBreak c = false

instance (value : String) : Decidable (OneLine value) := List.decidableBAll _ _

/-- Two texts on one line. -/
theorem OneLine.append {s t : String} (hs : OneLine s) (ht : OneLine t) : OneLine (s ++ t) := by
  intro c hc
  rw [String.toList_append, List.mem_append] at hc
  exact hc.elim (hs c) (ht c)

/-- A plain value is on one line. -/
theorem Plain.oneLine {value : String} (h : Plain value) : OneLine value := by
  intro c hc
  have hmeta := h c hc
  simp only [isMetacharacter, Bool.or_eq_false_iff] at hmeta
  exact hmeta.1.1

/-- A text on one line has no byte that ends it. -/
theorem OneLine.notMem_bytes {value : String} (h : OneLine value) :
    cr ∉ Utf8.bytes value ∧ lf ∉ Utf8.bytes value := by
  constructor
  · exact Wire.notMem_bytes (c := '\r') (by decide) (fun hc => by cases h '\r' hc)
  · exact Wire.notMem_bytes (c := '\n') (by decide) (fun hc => by cases h '\n' hc)

/-- A disposition is on one line. -/
theorem oneLine_dispositionLine (hname : Plain name) (hfilename : Plain filename) :
    OneLine (dispositionLine name filename) := by
  have hopen : OneLine "Content-Disposition: form-data; name=\"" := by decide
  have hmiddle : OneLine "\"; filename=\"" := by decide
  have hclose : OneLine "\"" := by decide
  exact (((hopen.append hname.oneLine).append hmiddle).append hfilename.oneLine).append hclose

/-- And so is a type. -/
theorem oneLine_typeLine (htype : OneLine contentType) : OneLine (typeLine contentType) := by
  have hopen : OneLine "Content-Type: " := by decide
  exact hopen.append htype

/-- The name of the header line that names a part, and its parameters. -/
theorem bytes_dispositionLine_parameters (name filename : String) :
    Utf8.bytes (dispositionLine name filename) = Utf8.bytes "Content-Disposition: form-data"
      ++ (Multipart.parameter (Utf8.bytes "name") (Utf8.bytes name)
        ++ Multipart.parameter (Utf8.bytes "filename") (Utf8.bytes filename)) := by
  have hfront : Utf8.bytes "Content-Disposition: form-data; name=\""
      = Utf8.bytes "Content-Disposition: form-data"
        ++ 0x3B :: 0x20 :: (Utf8.bytes "name" ++ [0x3D, Multipart.quote]) := by decide
  have hmiddle : Utf8.bytes "\"; filename=\"" = Multipart.quote :: 0x3B :: 0x20
      :: (Utf8.bytes "filename" ++ [0x3D, Multipart.quote]) := by decide
  have hlast : Utf8.bytes "\"" = [Multipart.quote] := by decide
  unfold dispositionLine
  rw [Utf8.bytes_append, Utf8.bytes_append, Utf8.bytes_append, Utf8.bytes_append, hfront, hmiddle,
    hlast]
  simp only [Multipart.parameter, List.append_assoc, List.cons_append, List.nil_append]

/-- How a header line is called. -/
theorem named_append {front rest name : List UInt8} (h : Multipart.colon ∉ front) :
    Multipart.named name (front ++ Multipart.colon :: rest)
      = decide (front.map Multipart.lower = name) := by
  have hcut : Multipart.cutAt [Multipart.colon] (front ++ Multipart.colon :: ([] ++ rest))
      = some (front, rest) :=
    Multipart.cutAt_append (by decide) (fun hinside => h (hinside.subset List.mem_cons_self)) rest
  rw [List.nil_append] at hcut
  rw [Multipart.named, hcut]
  simp

/-- A text without its line ends is on one line. -/
theorem oneLine_replace (value : String) : OneLine (replace isLineBreak "" value) := by
  intro c hc
  rcases mem_replace hc with hc | ⟨-, hc⟩
  · cases hc
  · exact hc

/-- **A part** is one the receiver reads the headers of. -/
theorem headed_part (hname : Plain name) (hfilename : Plain filename)
    (htype : OneLine contentType) (content : List UInt8) :
    Headed name filename (part name filename contentType content) where
  lines := rfl
  line := by
    intro line hline
    rcases List.mem_pair.mp hline with rfl | rfl
    · exact (oneLine_dispositionLine hname hfilename).notMem_bytes
    · exact (oneLine_typeLine htype).notMem_bytes
  disposition := by
    have hquoted : ∀ {value : String}, Plain value →
        Multipart.quote ∉ Utf8.bytes value ∧ Multipart.backslash ∉ Utf8.bytes value :=
      fun h => ⟨notMem_bytes (c := '"') (by decide) (h.notMem_of_isMetacharacter rfl),
        notMem_bytes (c := '\\') (by decide) (h.notMem_of_isMetacharacter rfl)⟩
    refine ⟨Multipart.parameter (Utf8.bytes "name") (Utf8.bytes name)
      ++ (Multipart.parameter (Utf8.bytes "filename") (Utf8.bytes filename) ++ []), ?_, ?_⟩
    · rw [part, bytes_dispositionLine_parameters, List.append_nil]
      rw [List.filter_cons_of_pos, List.filter_cons_of_neg, List.filter_nil]
      · have htype : Utf8.bytes (typeLine contentType)
            = Utf8.bytes "Content-Type" ++ Multipart.colon :: (0x20 :: Utf8.bytes contentType) :=
          Utf8.bytes_append "Content-Type: " contentType
        rw [htype, named_append (by decide)]
        decide
      · have hfront : Utf8.bytes "Content-Disposition: form-data"
            = Utf8.bytes "Content-Disposition" ++ Multipart.colon :: Utf8.bytes " form-data" := by
          decide
        rw [hfront, List.append_assoc, List.cons_append, named_append (by decide)]
        decide
    · rw [Multipart.readParameters_parameter (by decide) (hquoted hname).1 (hquoted hname).2,
        Multipart.readParameters_parameter (by decide) (hquoted hfilename).1 (hquoted hfilename).2,
        Multipart.readParameters]
      rfl

/-- **A part fits every boundary that is not in its content.** -/
theorem fits_part (hname : Plain name) (hfilename : Plain filename) (htype : OneLine contentType)
    {content boundary : List UInt8} (hcontent : ¬ boundary <:+: content) :
    (part name filename contentType content).Fits boundary where
  line := fun line hline => ((headed_part hname hfilename htype content).line line hline).1
  head := by
    intro line hline
    have hfront : ∀ (c : UInt8) (front after : List UInt8), c ≠ Multipart.dash →
        ∃ b rest, c :: front ++ after = b :: rest ∧ b ≠ Multipart.dash :=
      fun c front after hc => ⟨c, front ++ after, rfl, hc⟩
    rcases List.mem_pair.mp hline with rfl | rfl
    · rw [bytes_dispositionLine_parameters]
      exact hfront 0x43 (Utf8.bytes "ontent-Disposition: form-data") _ (by decide)
    · rw [typeLine, Utf8.bytes_append]
      exact hfront 0x43 (Utf8.bytes "ontent-Type: ") _ (by decide)
  content := hcontent

end Part

section Multipart

variable (xml : List UInt8) (files : List MultipartFile)

/-- The boundary that was found occurs in no content. -/
theorem not_infix_multipartBoundary {content : List UInt8} (h : content ∈ contents xml files) :
    ¬ Utf8.bytes (multipartBoundary xml files) <:+: content := by
  intro hinside
  have hcollides := collides_iff.mpr ⟨content, h, hinside⟩
  rw [(boundaryIndex_spec xml files 0).1] at hcollides
  cases hcollides

/-- The boundary is on one line. -/
theorem cr_notMem_multipartBoundary : cr ∉ Utf8.bytes (multipartBoundary xml files) := by
  rw [multipartBoundary]
  generalize boundaryIndex xml files 0 = candidate
  have hbase : cr ∉ Utf8.bytes baseBoundary := by decide
  by_cases h : candidate = 0
  · rw [h]
    exact hbase
  · rw [bytes_boundaryText h, List.mem_append, List.mem_cons]
    rintro (hmem | hmem | hmem)
    · exact hbase hmem
    · exact absurd hmem (by decide)
    · exact notMem_bytes_toString (by decide) (by decide) candidate hmem

/-- What fills the header of each part: the document is called as the operation, a file
as the sender called it, less what header text cannot hold. -/
def names (action : String) (files : List MultipartFile) : List (String × String) :=
  (action, action)
    :: files.map (fun file => (dispositionValue file.name, dispositionValue file.filename))

/-- **What a receiver makes of a request**: it is told the boundary, the boundary is in
no content, and cutting the body there gives the contents in order, each under a header
that names it and holds nothing else than it should. -/
structure Received (action : String) : Prop where
  boundary : (multipart action xml files).1
    = "multipart/form-data; boundary=" ++ multipartBoundary xml files
  absent : ∀ content ∈ contents xml files,
    ¬ Utf8.bytes (multipartBoundary xml files) <:+: content
  search : ∃ candidate ≤ size xml files, multipartBoundary xml files = boundaryText candidate
  parts : ∃ parts,
    Multipart.read (Utf8.bytes (multipartBoundary xml files)) (multipart action xml files).2
      = some parts
    ∧ parts.map Part.content = contents xml files
    ∧ List.Forall₂ (fun name part => Headed name.1 name.2 part) (names action files) parts

/-- **A request cannot be broken by what it carries**, whatever the document, the files
and their names are; and of a name only what header text cannot hold is replaced. -/
theorem multipart_received (operation : Operation) (xml : List UInt8) (files : List MultipartFile) :
    Received xml files operation.action
      ∧ (∀ value, Plain (dispositionValue value))
      ∧ ∀ value, Plain value → dispositionValue value = value := by
  refine ⟨?_, plain_dispositionValue, fun value => dispositionValue_eq_self⟩
  have haction := plain_action operation
  have hxml : OneLine "text/xml" := by decide
  have hfits : ∀ p ∈ parts operation.action xml files,
      p.Fits (Utf8.bytes (multipartBoundary xml files)) := by
    intro p hp
    rcases List.mem_cons.mp hp with rfl | hp
    · exact fits_part haction haction hxml
        (not_infix_multipartBoundary xml files List.mem_cons_self)
    · obtain ⟨file, hfile, rfl⟩ := List.mem_map.mp hp
      exact fits_part (plain_dispositionValue _) (plain_dispositionValue _) (oneLine_replace _)
        (not_infix_multipartBoundary xml files
          (List.mem_cons_of_mem _ (List.mem_map_of_mem hfile)))
  have hread := Multipart.read_write (cr_notMem_multipartBoundary xml files)
    (bytes_boundaryText_ne_nil _) hfits
  exact
    { boundary := rfl
      absent := fun content => not_infix_multipartBoundary xml files
      search := ⟨boundaryIndex xml files 0, boundaryIndex_le xml files, rfl⟩
      parts := by
        refine ⟨parts operation.action xml files, ?_, ?_, ?_⟩
        · rw [multipart_eq_write]
          exact hread
        · rw [parts, List.map_cons, List.map_map]
          rfl
        · refine List.Forall₂.cons (headed_part haction haction hxml xml) ?_
          rw [List.forall₂_map_left_iff, List.forall₂_map_right_iff, List.forall₂_same]
          exact fun file _ => headed_part (plain_dispositionValue _) (plain_dispositionValue _)
            (oneLine_replace _) file.content }

end Multipart

end Wire

end Szamlazz
