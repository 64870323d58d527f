import DavGateway.Body.Read
import DavGateway.Output.Base64Stream
import DavGateway.Output.Recorder
import DavGateway.Output.ScriptedSink
import DavGateway.Proofs.Body.DeclaredLength
import DavGateway.Proofs.Body.Gathering
import DavGateway.Proofs.Body.Limit
import DavGateway.Proofs.Markup.Author
import DavGateway.Proofs.Markup.Content
import DavGateway.Proofs.Markup.Document
import DavGateway.Proofs.Output.Abort
import DavGateway.Proofs.Output.Conservation
import DavGateway.Proofs.Output.Run
import DavGateway.Proofs.Output.Settling
import DavGateway.Proofs.Output.Streaming
import DavGateway.Proofs.Path.Canonical
import DavGateway.Proofs.Path.Decoding
import DavGateway.Proofs.Path.Encoding
import DavGateway.Proofs.Path.Join
import DavGateway.Proofs.Path.Written
import DavGateway.Proofs.Report.Decoding
import DavGateway.Proofs.Report.Links
import DavGateway.Proofs.Report.Redaction
import DavGateway.Proofs.Report.Safety
import DavGateway.Proofs.Repository.Youngest
import DavGateway.Proofs.Resource.DotSegments
import DavGateway.Proofs.Resource.Element
import DavGateway.Proofs.Resource.Grammar
import DavGateway.Proofs.Resource.Injective
import DavGateway.Proofs.Resource.Reachable
import DavGateway.Proofs.Resource.Respelling
import DavGateway.Proofs.Resource.RoundTrip
import DavGateway.Proofs.Resource.Unvalidated
import DavGateway.Proofs.Storage.Purge
import DavGateway.Proofs.Text.Ascii
import DavGateway.Report.Canonical
import DavGateway.Report.Document
import DavGateway.Repository.Scripted
