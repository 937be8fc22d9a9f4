import Courier.Main
import Courier.Computer
import Courier.Proofs.Run
import Courier.Proofs.Store.Fetch
import Courier.Proofs.Files.Access
import Courier.Proofs.Digest.Checksum
import Courier.Proofs.Files.Nodes
import Courier.Proofs.Web.Download
import Courier.Proofs.Service.Course
import Courier.Proofs.Service.Delivery
import Courier.Proofs.Cache.Memory
import Courier.Proofs.Cache.Mirror
import Courier.Proofs.Cache.Refinement
import Courier.Proofs.Service.Keys
import Courier.Proofs.Store.History
import Courier.Proofs.Archive.Transparency
import Courier.Proofs.Service.Attachment
import Courier.Proofs.Cache.Atomic
import Courier.Proofs.Manifest.RoundTrip
import Courier.Proofs.Lockstep
import Courier.Proofs.Service.Reporting
import Courier.Proofs.Service.Failures
import Courier.Proofs.Service.Account
import Courier.Proofs.Command.Download
import Courier.Proofs.Report.RoundTrip
import Courier.Proofs.Clock
import Courier.Proofs.Passage
import Courier.Proofs.Service.Dates
import Courier.Proofs.Command.Session
import Courier.Proofs.Command.Timing
import Courier.Proofs.Json.Form
import Courier.Proofs.Json.Tokens
import Courier.Proofs.Json.Skips
import Courier.Proofs.Json.Meaning
import Courier.Proofs.Json.Relayout
import Courier.Proofs.Manifest.Relayout
import Courier.Proofs.Service.Relayout
import Courier.Proofs.Command.Resolve
import Courier.Proofs.Command.Report
import Courier.Proofs.Web.Submission
import Courier.Proofs.Command.DryRun
import Courier.Proofs.Store.Sharing
import Courier.Proofs.Ini.Written
import Courier.Proofs.Text.LowerCase
import Courier.Proofs.Config.Values
import Courier.Proofs.Files.Below
import Courier.Proofs.Config.Home
import Courier.Proofs.Config.RoundTrip
import Courier.Proofs.Manifest.Selection
import Courier.Proofs.Web.Effect
import Courier.Proofs.Cache.Writers
import Courier.Proofs.Command.ResultFile
import Courier.Proofs.Host.Release
import Courier.Proofs.Command.Identity
import Courier.Proofs.Service.Newest
import Courier.Proofs.Url.Percent
import Courier.Proofs.Url.Parse
import Courier.Proofs.Url.Segments
import Courier.Proofs.Web.Addresses
import Courier.Proofs.Report.Timings
import Courier.Proofs.Web.Destination
import Courier.Proofs.Archive.Canonical
import Courier.Proofs.Config.Initial
import Courier.Proofs.Command.Init
