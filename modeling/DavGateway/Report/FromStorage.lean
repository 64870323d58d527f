/-
# From storage errors to reports

A storage error is reported link for link, trace links left out.  The kind of
the outermost link may settle the status of all nodes.  A summary may stand in
front, and a sanitized report shows a replacement text instead of the links;
neither happens to an error that holds a hook failure, whose text the operator
wrote for the client.
-/
import DavGateway.Event
import DavGateway.Report.Basic

namespace DavGateway

namespace StorageError

/-- The status of all nodes of the report of a purged error. -/
def statusOr (e : StorageError) (fallback : Status) : Status :=
  e.outermost.kind.status?.getD fallback

/-- The node that stands for a link. -/
def linkNode (status : Status) (l : Link) : ReportNode := .condition status l.kind.code l.text

/-- The report of an error, with a summary in front if one is given. -/
def report (e : StorageError) (fallback : Status) (summary : Option String) : ErrorReport :=
  let purged := e.purge
  let status := purged.statusOr fallback
  let nodes := purged.map (linkNode status)
  match summary with
  | none => nodes
  | some text =>
    if purged.hasCause .hookFailure then nodes
    else nodes.push (.plain status purged.outermost.kind.code text)

/-- The text that the client is shown instead of the error, if it may be replaced. -/
def replacement? (e : StorageError) (text : Option String) : Option String :=
  text.filter fun text => text ≠ "" && !e.hasCause .hookFailure

/-- The report of an error whose links are replaced by one text, and the events that keep them
for the operator.  Without a replacement the error is reported under its own text. -/
def sanitize (e : StorageError) (text : Option String) (fallback : Status) :
    ErrorReport × List Event :=
  let purged := e.purge
  match purged.replacement? text with
  | some text =>
    let shown : StorageError := .single ⟨purged.outermost.kind, text⟩
    (shown.report fallback (some text), purged.toList.map .linkHidden)
  | none => (purged.report fallback (some purged.text), [])

end StorageError

/-- One event for each node of a report, at the level asked for. -/
def ErrorReport.log (r : ErrorReport) (level : Level) : List Event :=
  r.toList.map fun n => .reported level n.line

end DavGateway
