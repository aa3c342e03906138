import ImageFiling.Command.Arguments
import ImageFiling.Command.Invocation
import ImageFiling.Command.Run
import ImageFiling.Command.Usage
import ImageFiling.Config.Basic
import ImageFiling.Config.Fault
import ImageFiling.Config.File
import ImageFiling.Config.Provider
import ImageFiling.Config.Reading
import ImageFiling.Files.Basic
import ImageFiling.Files.Path
import ImageFiling.Http.Message
import ImageFiling.Image.DataUrl
import ImageFiling.Image.Download
import ImageFiling.Image.Fault
import ImageFiling.Image.Size
import ImageFiling.Image.Source
import ImageFiling.Json.Basic
import ImageFiling.Json.Display
import ImageFiling.Json.Parser
import ImageFiling.Json.Printer
import ImageFiling.Main
import ImageFiling.Mime.Basic
import ImageFiling.Mime.Table
import ImageFiling.Naming.Acceptance
import ImageFiling.Naming.Braces
import ImageFiling.Naming.Destination
import ImageFiling.Naming.Fault
import ImageFiling.Naming.Glob
import ImageFiling.Naming.Parameter
import ImageFiling.Naming.Template
import ImageFiling.Number.Basic
import ImageFiling.Number.Double
import ImageFiling.Number.Shortest
import ImageFiling.Session.Basic
import ImageFiling.Session.Failure
import ImageFiling.Session.Saving
import ImageFiling.Settings.Basic
import ImageFiling.Settings.EnvFile
import ImageFiling.Settings.Logging
import ImageFiling.Signing.Sha256
import ImageFiling.Signing.SignatureV4
import ImageFiling.Storage.Client
import ImageFiling.Storage.Fault
import ImageFiling.Storage.FolderService
import ImageFiling.Storage.ObjectStore
import ImageFiling.Storage.Provider
import ImageFiling.Text.Base64
import ImageFiling.Text.Basic
import ImageFiling.Text.Blank
import ImageFiling.Text.Case
import ImageFiling.Text.CaseTable
import ImageFiling.Text.Entries
import ImageFiling.Text.Numeral
import ImageFiling.Text.Percent
import ImageFiling.Text.PrintableTable
import ImageFiling.Text.Quoted
import ImageFiling.Text.Regex
import ImageFiling.Text.Utf8
import ImageFiling.Time.Moment
import ImageFiling.Time.Pattern
import ImageFiling.Url.Address
import ImageFiling.Url.Host
import ImageFiling.Url.Query
import ImageFiling.Url.Split
import ImageFiling.Xml.Document
import ImageFiling.Xml.Element
import ImageFiling.Xml.Markup
import ImageFiling.Xml.Name
import ImageFiling.Xml.Prolog
import ImageFiling.Proofs.Result
import ImageFiling.Proofs.Session.Run
import ImageFiling.Proofs.Storage.FolderCalls
import ImageFiling.Proofs.Storage.FolderTree
import ImageFiling.Proofs.Storage.Resolution
import ImageFiling.Proofs.Storage.UploadRun
import ImageFiling.Proofs.Text.Order
import ImageFiling.Proofs.Storage.UploadPhases
import ImageFiling.Proofs.Text.Case
import ImageFiling.Proofs.Text.Digits
import ImageFiling.Proofs.Text.Pieces
import ImageFiling.Proofs.Url.Parts
import ImageFiling.Proofs.Url.Host
import ImageFiling.Proofs.Signing.CanonicalRequest
import ImageFiling.Proofs.Text.Percent
import ImageFiling.Proofs.Signing.Verifier
import ImageFiling.Proofs.Time.Moment
import ImageFiling.Proofs.Signing.Verification
import ImageFiling.Proofs.Storage.SignedRequests
import ImageFiling.Proofs.Text.Regex
import ImageFiling.Proofs.Naming.Braces
import ImageFiling.Proofs.Naming.Substitution
import ImageFiling.Proofs.Time.Pattern
import ImageFiling.Proofs.Naming.Language
import ImageFiling.Proofs.Naming.Parameter
import ImageFiling.Proofs.Naming.Resolution
import ImageFiling.Proofs.Naming.DatedNames
import ImageFiling.Proofs.Naming.DirectoryPieces
import ImageFiling.Proofs.Naming.Acceptance
import ImageFiling.Proofs.Naming.Faults
import ImageFiling.Proofs.Storage.UploadFaults
import ImageFiling.Proofs.Image.Size
import ImageFiling.Proofs.Session.Recording
import ImageFiling.Proofs.Session.Saving
import ImageFiling.Proofs.Session.Sealing
import ImageFiling.Proofs.Session.Completion
import ImageFiling.Proofs.Command.Causes
import ImageFiling.Proofs.Command.Reports
import ImageFiling.Proofs.Naming.Glob
import ImageFiling.Proofs.Config.Reading
import ImageFiling.Proofs.Files.Lookup
import ImageFiling.Proofs.Config.Merging
import ImageFiling.Proofs.Config.Writing
import ImageFiling.Proofs.Text.Utf8
import ImageFiling.Proofs.Url.Address
import ImageFiling.Proofs.Url.Site
import ImageFiling.Proofs.Url.Authority
import ImageFiling.Proofs.Url.Query
import ImageFiling.Proofs.Naming.Preview
import ImageFiling.Proofs.Naming.PageUrl
import ImageFiling.Proofs.Time.Runs
import ImageFiling.Proofs.Text.Numerals
import ImageFiling.Proofs.Naming.Timestamps
import ImageFiling.Proofs.Storage.ObjectKeys
import ImageFiling.Proofs.Text.EncodedPieces
import ImageFiling.Proofs.Storage.ObjectUrls
import ImageFiling.Proofs.Url.CanonicalQuery
import ImageFiling.Proofs.Time.Instant
import ImageFiling.Proofs.Signing.Insensitivity
import ImageFiling.Proofs.Storage.ObjectCalls
import ImageFiling.Proofs.Storage.Verdicts
import ImageFiling.Proofs.Session.ObjectTargets
import ImageFiling.Proofs.Storage.ListingOrder
import ImageFiling.Proofs.Xml.Places
import ImageFiling.Proofs.Storage.BucketNames
import ImageFiling.Proofs.Text.Variants
import ImageFiling.Proofs.Text.Base64
import ImageFiling.Proofs.Image.DataUrls
import ImageFiling.Proofs.Image.Dispositions
