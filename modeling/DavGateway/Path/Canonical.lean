/-
# Canonical paths

Clients must send paths in canonical form.  Three shapes count: relative paths
without empty or `.` segments, the same behind one slash, and URLs whose scheme
and host are written in lower case and whose path is canonical.
-/
import DavGateway.Path.Basic

namespace DavGateway.Path

/-- A relative path: empty, or segments that are neither empty nor `.`. -/
def isCanonicalRelative (path : List Char) : Bool :=
  path = [] || (segments path).all fun seg => seg ≠ [] && seg ≠ ['.']

/-- A rooted path: one slash and a canonical relative path. -/
def isCanonicalRooted : List Char → Bool
  | '/' :: path => isCanonicalRelative path
  | _ => false

/-- A character of a canonical scheme. -/
def isSchemeChar (c : Char) : Bool :=
  c.isLower || c.isDigit || c = '+' || c = '-' || c = '.'

/-- A URL with lower-case scheme and host, and a canonical path or none. -/
def isCanonicalUrl (text : List Char) : Bool :=
  match Cut.around? "://".toList text with
  | none => false
  | some (scheme, rest) =>
    let path := rest.dropWhile (· ≠ '/')
    scheme ≠ [] && scheme.all isSchemeChar
      && (rest.takeWhile (· ≠ '/')).all (fun c => !c.isUpper)
      && (path = [] || isCanonicalRooted path)

/-- Whether a text sent by a client is a path in canonical form. -/
def isCanonical (text : List Char) : Bool :=
  text = [] || isCanonicalUrl text || isCanonicalRooted text || isCanonicalRelative text

end DavGateway.Path
