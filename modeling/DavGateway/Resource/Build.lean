/-
# The URI of a resource

Root and special segment are written as they are, paths are percent-encoded
segment by segment.
-/
import DavGateway.Resource.Basic
import DavGateway.Path.Basic
import DavGateway.Text.Decimal

namespace DavGateway

/-- The text before the name of a special resource's kind. -/
def Mount.specialArea (m : Mount) : List Char := m.base ++ '/' :: m.special.toList

/-- A revision as it stands in a URI. -/
def Revision.digits (revision : Revision) : List Char := Decimal.digits revision.toNat

/-- The characters of the URI of a resource. -/
def Mount.uriChars (m : Mount) : Resource → List Char
  | .activities => m.specialArea ++ "/act/".toList
  | .baseline revision => m.specialArea ++ "/bln/".toList ++ revision.digits
  | .baselineCollection revision path =>
    m.specialArea ++ "/bc/".toList ++ revision.digits ++ Path.encode path.toList
  | .item path => m.base ++ Path.encode path.toList
  | .version revision path =>
    m.specialArea ++ "/ver/".toList ++ revision.digits ++ Path.encode path.toList
  | .revisionRoot revision path =>
    m.specialArea ++ "/rvr/".toList ++ revision.digits ++ Path.encode path.toList
  | .configuration => m.specialArea ++ "/vcc/default".toList

/-- The URI of a resource. -/
def Mount.uri (m : Mount) (r : Resource) : String := String.ofList (m.uriChars r)

/-- The element that refers to a resource by its URI. -/
def Mount.href (m : Mount) (r : Resource) : String := "<D:href>" ++ m.uri r ++ "</D:href>"

end DavGateway
