import LspGateway.Catalog.Basic
import LspGateway.Catalog.Requests
import LspGateway.Catalog.Types
import LspGateway.Client.Basic
import LspGateway.Client.Calling
import LspGateway.Client.Closing
import LspGateway.Client.Error
import LspGateway.Client.Listening
import LspGateway.Client.Policy
import LspGateway.Client.Process
import LspGateway.Client.Run
import LspGateway.Client.Sending
import LspGateway.Client.Starting
import LspGateway.Client.Unrest
import LspGateway.CommandLine
import LspGateway.Config.Basic
import LspGateway.Config.Comments
import LspGateway.Config.Loading
import LspGateway.Config.Validation
import LspGateway.Fault
import LspGateway.Files
import LspGateway.Forwarding
import LspGateway.Gateway.Call
import LspGateway.Gateway.Conversation
import LspGateway.Gateway.Service
import LspGateway.Gateway.ToolRequest
import LspGateway.Gateway.Toolset
import LspGateway.Json.Basic
import LspGateway.Json.Comparison
import LspGateway.Json.Display
import LspGateway.Json.Misuse
import LspGateway.Json.Parser
import LspGateway.Json.Printer
import LspGateway.Json.Shape
import LspGateway.Language
import LspGateway.Log
import LspGateway.Main
import LspGateway.Number.Binary64
import LspGateway.Path
import LspGateway.Pattern.Basic
import LspGateway.Pattern.Escape
import LspGateway.Pattern.Fault
import LspGateway.Pattern.Matching
import LspGateway.Pattern.Parser
import LspGateway.Pattern.Reader
import LspGateway.Proofs.Catalog.Contents
import LspGateway.Proofs.Catalog.Schemas
import LspGateway.Proofs.Catalog.Shape
import LspGateway.Proofs.Client.Abating
import LspGateway.Proofs.Client.Action
import LspGateway.Proofs.Client.Answers
import LspGateway.Proofs.Client.Attempts
import LspGateway.Proofs.Client.Cancelling
import LspGateway.Proofs.Client.Closures
import LspGateway.Proofs.Client.Conveying
import LspGateway.Proofs.Client.Correlating
import LspGateway.Proofs.Client.Departing
import LspGateway.Proofs.Client.Disposing
import LspGateway.Proofs.Client.Elapsing
import LspGateway.Proofs.Client.Escalating
import LspGateway.Proofs.Client.Exchange
import LspGateway.Proofs.Client.Heeding
import LspGateway.Proofs.Client.Informing
import LspGateway.Proofs.Client.Knowing
import LspGateway.Proofs.Client.Minding
import LspGateway.Proofs.Client.Pieces
import LspGateway.Proofs.Client.Poise
import LspGateway.Proofs.Client.Resigning
import LspGateway.Proofs.Client.Retiring
import LspGateway.Proofs.Client.Saying
import LspGateway.Proofs.Client.Scene
import LspGateway.Proofs.Client.Scripts
import LspGateway.Proofs.Client.Serving
import LspGateway.Proofs.Client.Settling
import LspGateway.Proofs.Client.Sorting
import LspGateway.Proofs.Client.Sparing
import LspGateway.Proofs.Client.Steadying
import LspGateway.Proofs.Client.Telling
import LspGateway.Proofs.Client.Traffic
import LspGateway.Proofs.Client.Watching
import LspGateway.Proofs.Config.Comments
import LspGateway.Proofs.Config.Faults
import LspGateway.Proofs.Config.Loading
import LspGateway.Proofs.Config.Stripping
import LspGateway.Proofs.Gateway.Calls
import LspGateway.Proofs.Gateway.Copying
import LspGateway.Proofs.Gateway.Course
import LspGateway.Proofs.Gateway.Delivering
import LspGateway.Proofs.Gateway.Documents
import LspGateway.Proofs.Gateway.Forwarding
import LspGateway.Proofs.Gateway.Legibility
import LspGateway.Proofs.Gateway.Memory
import LspGateway.Proofs.Gateway.Offering
import LspGateway.Proofs.Gateway.Opening
import LspGateway.Proofs.Gateway.Registration
import LspGateway.Proofs.Gateway.Routing
import LspGateway.Proofs.Gateway.Searching
import LspGateway.Proofs.Gateway.Workspace
import LspGateway.Proofs.Json.Reading
import LspGateway.Proofs.Json.Scalars
import LspGateway.Proofs.Json.Spelling
import LspGateway.Proofs.Json.Tokens
import LspGateway.Proofs.Path.Normal
import LspGateway.Proofs.Schema.Collapsing
import LspGateway.Proofs.Schema.Copying
import LspGateway.Proofs.Schema.Sanitizing
import LspGateway.Proofs.Session.Course
import LspGateway.Proofs.Session.Disposing
import LspGateway.Proofs.Session.Isolation
import LspGateway.Proofs.Text.Digits
import LspGateway.Proofs.Text.Parts
import LspGateway.Proofs.Text.Utf8
import LspGateway.Proofs.Uri.File
import LspGateway.Proofs.Wire.Frames
import LspGateway.Proofs.Wire.Headers
import LspGateway.Proofs.Wire.Pieces
import LspGateway.Proofs.Wire.Scanning
import LspGateway.Roster
import LspGateway.Routing
import LspGateway.Schema.Breakdown
import LspGateway.Schema.Check
import LspGateway.Schema.Context
import LspGateway.Schema.Covered
import LspGateway.Schema.Draft
import LspGateway.Schema.Expansion
import LspGateway.Schema.Graph
import LspGateway.Schema.Keyword.Alternatives
import LspGateway.Schema.Keyword.Items
import LspGateway.Schema.Keyword.Members
import LspGateway.Schema.Place
import LspGateway.Schema.Reference
import LspGateway.Schema.Refusal
import LspGateway.Schema.Registry
import LspGateway.Schema.Resolver
import LspGateway.Schema.Resource
import LspGateway.Schema.Standard.Basic
import LspGateway.Schema.Standard.Draft2019
import LspGateway.Schema.Standard.Draft2020
import LspGateway.Schema.Standard.Earlier
import LspGateway.Schema.Standard.Library
import LspGateway.Schema.Step
import LspGateway.Schema.Unions
import LspGateway.Schema.Violation
import LspGateway.Session.Basic
import LspGateway.Session.Board
import LspGateway.Text.Base64
import LspGateway.Text.Blank
import LspGateway.Text.Case
import LspGateway.Text.CaseTable
import LspGateway.Text.CharacterName
import LspGateway.Text.Digits
import LspGateway.Text.Identifier
import LspGateway.Text.Lines
import LspGateway.Text.NameTable.Alphabets
import LspGateway.Text.NameTable.EastAsian
import LspGateway.Text.NameTable.Others
import LspGateway.Text.NameTable.Supplement
import LspGateway.Text.NameTable.Symbols
import LspGateway.Text.Normal
import LspGateway.Text.NormalTable
import LspGateway.Text.PrintTable
import LspGateway.Text.Quoted
import LspGateway.Text.Ranges
import LspGateway.Text.Utf8
import LspGateway.Text.WordTable
import LspGateway.Tool
import LspGateway.Uri.Absolute
import LspGateway.Uri.Address
import LspGateway.Uri.Domain.Basic
import LspGateway.Uri.Domain.Direction
import LspGateway.Uri.Domain.DirectionTable
import LspGateway.Uri.Domain.Joining
import LspGateway.Uri.Domain.JoiningTable
import LspGateway.Uri.Domain.Mapping
import LspGateway.Uri.Domain.MappingTable
import LspGateway.Uri.Domain.Punycode
import LspGateway.Uri.File
import LspGateway.Uri.Host
import LspGateway.Uri.Join
import LspGateway.Uri.Parts
import LspGateway.Wire.Frame
import LspGateway.Wire.Reader
