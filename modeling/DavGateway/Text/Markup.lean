/-
# Text inside markup

Texts from outside are escaped before they stand in a document.  Element
content escapes `<`, `>` and `&`; the names of authors escape the double quote
as well.  `unescape` reads both forms back.

* `unescape_escape`, `unescape_escapeQuoted` : what was escaped is read back exactly.
* `lt_not_mem_escape` : no tag begins in escaped content.
* `escapeQuoted_eq` : the double quotes are escaped last, and no escape is escaped again.
-/
import DavGateway.Text.Utf8

namespace DavGateway.Markup

/-! ## Control characters -/

/-- The control characters of ASCII. -/
def isControl (c : Char) : Bool := c.toNat < 0x20 || c.toNat = 0x7f

/-- A character that a document may hold: no control character but tab, line feed and carriage
return. -/
def isAllowed (c : Char) : Bool := !isControl c || c = '\t' || c = '\n' || c = '\r'

/-- A byte that a document may hold: that of such a character, or of a longer one. -/
def isAllowedByte (b : UInt8) : Bool :=
  !(b < 0x20 || b = 0x7f) || b = 0x09 || b = 0x0a || b = 0x0d

/-- Whether a text may stand in a document, by its bytes. -/
def isSafe (text : String) : Bool := (Utf8.bytes text).all isAllowedByte

/-! ## Escaping -/

/-- A character as element content. -/
def escapeChar (c : Char) : List Char :=
  if c = '<' then "&lt;".toList
  else if c = '>' then "&gt;".toList
  else if c = '&' then "&amp;".toList
  else [c]

/-- A double quote by its entity, and every other character as it is. -/
def escapeQuote (c : Char) : List Char := if c = '"' then "&quot;".toList else [c]

/-- A character as content that may also stand between double quotes. -/
def escapeQuotedChar (c : Char) : List Char :=
  if c = '"' then "&quot;".toList else escapeChar c

/-- Escapes element content. -/
def escape (s : List Char) : List Char := s.flatMap escapeChar

/-- Escapes content that may also stand between double quotes: as element content, and then the
double quotes in that. -/
def escapeQuoted (s : List Char) : List Char := (escape s).flatMap escapeQuote

/-- A text as element content; quotes stay. -/
def quoteText (text : String) : String := String.ofList (escape text.toList)

theorem toList_quoteText (text : String) : (quoteText text).toList = escape text.toList :=
  String.toList_ofList

/-- No tag begins in escaped content. -/
theorem lt_not_mem_escape (s : List Char) : '<' ∉ escape s := by
  intro h
  obtain ⟨c, -, hc⟩ := List.mem_flatMap.1 h
  unfold escapeChar at hc
  split at hc
  · exact absurd hc (by decide)
  split at hc
  · exact absurd hc (by decide)
  split at hc
  · exact absurd hc (by decide)
  · next hlt _ _ => exact hlt (List.mem_singleton.1 hc).symm

/-- Other characters stand for themselves in element content. -/
theorem escapeChar_of_ne {c : Char} (hlt : c ≠ '<') (hgt : c ≠ '>') (hamp : c ≠ '&') :
    escapeChar c = [c] := by
  rw [escapeChar, if_neg hlt, if_neg hgt, if_neg hamp]

/-- The escape of a character has no double quote in it, unless the character is one. -/
theorem flatMap_escapeQuote_escapeChar (c : Char) :
    (escapeChar c).flatMap escapeQuote = escapeQuotedChar c := by
  by_cases hlt : c = '<'
  · subst c; rfl
  by_cases hgt : c = '>'
  · subst c; rfl
  by_cases hamp : c = '&'
  · subst c; rfl
  · rw [escapeQuotedChar, escapeChar_of_ne hlt hgt hamp, List.flatMap_singleton, escapeQuote]

/-- Escaping the double quotes afterwards is escaping every character once. -/
theorem escapeQuoted_eq (s : List Char) : escapeQuoted s = s.flatMap escapeQuotedChar := by
  rw [escapeQuoted, escape, List.flatMap_assoc]
  simp only [flatMap_escapeQuote_escapeChar]

/-! ## Reading back -/

/-- Replaces the four entities by what they stand for and keeps all else. -/
def unescape : List Char → List Char
  | '&' :: 'l' :: 't' :: ';' :: rest => '<' :: unescape rest
  | '&' :: 'g' :: 't' :: ';' :: rest => '>' :: unescape rest
  | '&' :: 'a' :: 'm' :: 'p' :: ';' :: rest => '&' :: unescape rest
  | '&' :: 'q' :: 'u' :: 'o' :: 't' :: ';' :: rest => '"' :: unescape rest
  | c :: rest => c :: unescape rest
  | [] => []

theorem unescape_cons {c : Char} (h : c ≠ '&') (rest : List Char) :
    unescape (c :: rest) = c :: unescape rest := by
  rw [unescape] <;> simp_all

/-- One escaped character is read back, whatever follows it. -/
theorem unescape_escapeChar_append (c : Char) (rest : List Char) :
    unescape (escapeChar c ++ rest) = c :: unescape rest := by
  unfold escapeChar
  split
  · subst c; rfl
  split
  · subst c; rfl
  split
  · subst c; rfl
  exact unescape_cons (by assumption) rest

/-- One character escaped with the double quote is read back, whatever follows it. -/
theorem unescape_escapeQuotedChar_append (c : Char) (rest : List Char) :
    unescape (escapeQuotedChar c ++ rest) = c :: unescape rest := by
  unfold escapeQuotedChar
  split
  · subst c; rfl
  exact unescape_escapeChar_append c rest

/-- Escaped element content is read back exactly. -/
theorem unescape_escape (s : List Char) : unescape (escape s) = s := by
  induction s with
  | nil => rfl
  | cons c s ih =>
    rw [escape, List.flatMap_cons, unescape_escapeChar_append, ← escape, ih]

/-- Content escaped with the double quote is read back exactly. -/
theorem unescape_escapeQuoted (s : List Char) : unescape (escapeQuoted s) = s := by
  rw [escapeQuoted_eq]
  induction s with
  | nil => rfl
  | cons c s ih => rw [List.flatMap_cons, unescape_escapeQuotedChar_append, ih]

/-! ## Authors -/

/-- Who a document is for.  Native clients refuse documents with control characters in them. -/
inductive Client
  | native
  | other
  deriving DecidableEq, Repr

/-- The name of an author as element content.  For a native client a name that is not safe loses
its control characters; every other name keeps all it has. -/
def escapeAuthor (client : Client) (name : String) : String :=
  let kept :=
    if client = .native && !isSafe name then name.toList.filter fun c => !isControl c
    else name.toList
  String.ofList (escapeQuoted kept)

end DavGateway.Markup
