/-
# Absolute URIs

The strict grammar for a request URI that is not a plain path: an optional
scheme, an authority, a path and a query, the fragment having been cut off
before.  Only the path is wanted; every other part is checked and dropped.
-/
import DavGateway.Text.Cut
import DavGateway.Text.Utf8

namespace DavGateway.Uri

/-! ## Character classes -/

/-- A letter or digit of ASCII, or one of the given marks. -/
def isWordOr (marks : String) (c : Char) : Bool := c.isAlphanum || marks.toList.contains c

/-- A character of a scheme. -/
def isSchemeChar (c : Char) : Bool := isWordOr "+-.~" c

/-- A character of an authority. -/
def isAuthorityChar (c : Char) : Bool := isWordOr "!$&'()*+,-.:;=@_~[]%" c

/-- A character of a path: no blank or control, none of `<`, `>`, `?` and the back quote. -/
def isPathChar (c : Char) : Bool :=
  let n := c.toNat
  n = 0x21 || n = 0x22 || (0x24 ≤ n && n ≤ 0x3b) || n = 0x3d || (0x40 ≤ n && n ≤ 0x5f)
    || (0x61 ≤ n && n ≤ 0x7e) || 0x80 ≤ n

/-- A character of a query: no blank or control, no double quote, no `<`. -/
def isQueryChar (c : Char) : Bool :=
  let n := c.toNat
  n = 0x21 || (0x24 ≤ n && n ≤ 0x3b) || n = 0x3d || (0x3f ≤ n && n ≤ 0x7e) || 0x80 ≤ n

/-! ## Authorities -/

/-- What has been seen of an authority: the colons and the escape that may still turn out to
belong to user information or a bracketed address, the brackets, and whether the last
character was `@`. -/
structure AuthorityScan where
  colons : Nat := 0
  opened : Bool := false
  closed : Bool := false
  percent : Bool := false
  atSign : Bool := false

/-- Colons allowed in a row of an authority: those of a full bracketed address, and one more. -/
def maxColons : Nat := 8

/-- Takes in one character, or refuses it. -/
def AuthorityScan.step (s : AuthorityScan) (c : Char) : Option AuthorityScan :=
  let s := { s with atSign := c = '@' }
  if c = ':' then
    if s.colons < maxColons then some { s with colons := s.colons + 1 } else none
  else if c = '[' then
    if s.percent || s.opened then none else some { s with opened := true }
  else if c = ']' then
    if !s.opened || s.closed then none
    else some { s with closed := true, colons := 0, percent := false }
  else if c = '@' then some { s with colons := 0, percent := false }
  else if c = '%' then some { s with percent := true }
  else if isAuthorityChar c then some s
  else none

/-- Whether the authority may end here: brackets closed, at most a port's colon, no escape in
the host, and something after the `@`. -/
def AuthorityScan.mayEnd (s : AuthorityScan) : Bool :=
  s.opened = s.closed && s.colons ≤ 1 && !s.percent && !s.atSign

/-- Whether a text is an authority. -/
def isAuthority (text : List Char) : Bool :=
  match text.foldlM AuthorityScan.step {} with
  | some s => s.mayEnd
  | none => false

/-! ## The whole URI -/

/-- A character that ends an authority. -/
def endsAuthority (c : Char) : Bool := c = '/' || c = '?'

/-- The longest URI that is read, in bytes. -/
def maxBytes : Nat := 65534

/-- The longest scheme that is read. -/
def maxScheme : Nat := 64

/-- Cuts off a scheme and the `://` behind it. -/
def cutScheme? (uri : List Char) : Option (List Char × List Char) :=
  (Cut.after? "://".toList (uri.dropWhile isSchemeChar)).map fun rest =>
    (uri.takeWhile isSchemeChar, rest)

/-- The path of what follows an authority, if path and query are well formed. -/
def pathAndQuery? (tail : List Char) : Option (List Char) :=
  let path := tail.takeWhile (· ≠ '?')
  let query := (tail.dropWhile (· ≠ '?')).drop 1
  if path.all isPathChar && query.all isQueryChar then
    some (if path = [] then ['/'] else path)
  else none

/-- The path of a URI without fragment: that of an absolute URI, `*` of the asterisk form, and
none, written as the empty path, of a bare authority. -/
def path? (uri : List Char) : Option (List Char) :=
  if uri = [] ∨ maxBytes < (Utf8.encode uri).length then none
  else if uri = ['*'] then some uri
  else
    match cutScheme? uri with
    | none => if isAuthority uri then some [] else none
    | some (scheme, rest) =>
      let authority := rest.takeWhile fun c => !endsAuthority c
      if maxScheme < scheme.length ∨ authority = [] ∨ ¬ isAuthority authority then none
      else pathAndQuery? (rest.dropWhile fun c => !endsAuthority c)

end DavGateway.Uri
