/-
# Error documents

A report is sent as a document: for each node, outermost first, its condition
element if it is tagged, and an element with its id and its description.
Descriptions are escaped, so that they cannot add to the elements.
-/
import DavGateway.Report.Basic
import DavGateway.Text.Markup

namespace DavGateway

/-- The elements of one node. -/
def ReportNode.elements (n : ReportNode) : String :=
  (if n.tagged then "<C:" ++ conditionName ++ "/>\n" else "")
    ++ "<m:human-readable errcode=\"" ++ Decimal.intText n.id ++ "\">\n"
    ++ Markup.quoteText n.description ++ "\n</m:human-readable>\n"

namespace ErrorReport

/-- The start of a document, up to the first node.  The namespace of the condition element is
declared if there is one. -/
def documentStart (r : ErrorReport) : String :=
  "<?xml version=\"1.0\" encoding=\"utf-8\"?>\n<D:error xmlns:D=\"DAV:\""
    ++ " xmlns:m=\"http://apache.org/dav/xmlns\""
    ++ (if r.toList.any (·.tagged) then
        " xmlns:C=\"" ++ ReportNode.conditionNamespace ++ "\"" else "")
    ++ ">\n"

/-- The document of a report. -/
def document (r : ErrorReport) : String :=
  r.documentStart ++ String.join (r.toList.map ReportNode.elements) ++ "</D:error>\n"

end ErrorReport

/-- A response that carries an error document. -/
structure ErrorResponse where
  status : Status
  contentType : String
  body : String
  deriving DecidableEq, Repr

/-- The response of a report: the status of its outermost node, and its document. -/
def ErrorReport.response (r : ErrorReport) : ErrorResponse :=
  ⟨r.status, "text/xml; charset=\"utf-8\"", r.document⟩

end DavGateway
