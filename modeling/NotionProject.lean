import NotionProject.Answer
import NotionProject.ApiKey
import NotionProject.Binary64.Basic
import NotionProject.Binary64.Shortest
import NotionProject.Block
import NotionProject.Call
import NotionProject.CommandLine.Grammar
import NotionProject.CommandLine.Help
import NotionProject.CommandLine.Parser
import NotionProject.Config
import NotionProject.Database
import NotionProject.Decode.Basic
import NotionProject.Decode.Error
import NotionProject.Decode.Plain
import NotionProject.Decode.Record
import NotionProject.Decode.Tagged
import NotionProject.Endpoint
import NotionProject.Exchange
import NotionProject.Failure
import NotionProject.Finding
import NotionProject.Http.Basic
import NotionProject.Http.Server
import NotionProject.Http.Status
import NotionProject.Identifier
import NotionProject.Json.Basic
import NotionProject.Json.Fault
import NotionProject.Json.Numeral
import NotionProject.Json.Printer
import NotionProject.Json.Source
import NotionProject.Json.Token
import NotionProject.Listing
import NotionProject.Main
import NotionProject.Members
import NotionProject.Page
import NotionProject.Parent
import NotionProject.Program
import NotionProject.Project
import NotionProject.Proofs.Confinement
import NotionProject.Proofs.FailFast
import NotionProject.Proofs.Tokens
import NotionProject.Proofs.LongCursor
import NotionProject.Proofs.Operation
import NotionProject.Proofs.Paging
import NotionProject.Proofs.Resolution
import NotionProject.Proofs.Turn
import NotionProject.Property
import NotionProject.Records
import NotionProject.RichText
import NotionProject.Schema
import NotionProject.Section
import NotionProject.Text.Base64
import NotionProject.Text.Blank
import NotionProject.Text.Case
import NotionProject.Text.CaseTable
import NotionProject.Text.Hex
import NotionProject.Text.PrintTable
import NotionProject.Text.Quoted
import NotionProject.Text.Ranges
import NotionProject.Text.Split
import NotionProject.Text.Utf8
import NotionProject.Timestamp
import NotionProject.Url.Basic
import NotionProject.Url.Domain
import NotionProject.Url.Domain.Composition
import NotionProject.Url.Domain.CompositionTable
import NotionProject.Url.Domain.Image
import NotionProject.Url.Domain.ImageTable
import NotionProject.Url.Domain.Punycode
import NotionProject.Url.Domain.Script
import NotionProject.Url.Domain.ScriptTable
import NotionProject.Url.Error
import NotionProject.Url.Form
import NotionProject.Url.Host
import NotionProject.Url.Parser
import NotionProject.Url.Percent
import NotionProject.Validation
import NotionProject.Walk
import NotionProject.Proofs.Uniqueness
import NotionProject.Proofs.Reading
import NotionProject.Proofs.Writing
import NotionProject.Proofs.Structure
import NotionProject.Proofs.Url.DomainName
import NotionProject.Proofs.Url.Encoding
import NotionProject.Proofs.Url.Address
import NotionProject.Proofs.Url.Hosts
import NotionProject.Proofs.Url.Authority
import NotionProject.Proofs.Url.Path
import NotionProject.Proofs.Url.ReadBack
import NotionProject.Proofs.BaseUrl
import NotionProject.Proofs.Asking
import NotionProject.Proofs.Querying
import NotionProject.Proofs.Creating
import NotionProject.Proofs.Signing
import NotionProject.Proofs.Redaction
import NotionProject.Proofs.CanonicalForm
import NotionProject.Proofs.JsonForm
import NotionProject.Proofs.Decoding
import NotionProject.Proofs.Typing
import NotionProject.Proofs.MemberOrder
import NotionProject.Proofs.WellFormed
import NotionProject.Proofs.RoundTrip
import NotionProject.Proofs.Classification
import NotionProject.Proofs.Updating
import NotionProject.Proofs.Logging
import NotionProject.Proofs.Arguments
import NotionProject.Proofs.Reporting
import NotionProject.Proofs.Recognition
import NotionProject.Proofs.Existence
import NotionProject.Proofs.PageAddress
import NotionProject.Proofs.Sections
import NotionProject.Proofs.Octets
import NotionProject.Proofs.KeyLength
import NotionProject.Proofs.Lowercase
import NotionProject.Proofs.LetterCase
import NotionProject.Proofs.Url.FormText
import NotionProject.Proofs.Cursors
import NotionProject.Proofs.NumberText
import NotionProject.Proofs.TextForm
import NotionProject.Proofs.Titles
import NotionProject.Proofs.Columns
import NotionProject.Proofs.Extent
import NotionProject.Proofs.Tolerance
import NotionProject.Proofs.Wording
import NotionProject.Proofs.Brevity
