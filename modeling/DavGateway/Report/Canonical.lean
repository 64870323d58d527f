/-
# Paths that are refused

A path that a client sends in any but its canonical form is refused with a
report that names it.
-/
import DavGateway.Path.Canonical
import DavGateway.Report.Basic

namespace DavGateway.Path

/-- The report of a path that is not canonical. -/
def refusal (path : String) : ErrorReport :=
  .single (.condition .badRequest 0
    ("Path '" ++ path ++ "' is not canonicalized; there is a problem with the client."))

/-- Accepts a path in canonical form and refuses every other. -/
def checkCanonical (path : String) : Except ErrorReport Unit :=
  if isCanonical path.toList then .ok () else .error (refusal path)

end DavGateway.Path
