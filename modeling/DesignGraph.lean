import DesignGraph.Address.Direction
import DesignGraph.Address.DomainName
import DesignGraph.Address.Host
import DesignGraph.Address.Ipv4
import DesignGraph.Address.Ipv6
import DesignGraph.Address.Joining
import DesignGraph.Address.NameTable
import DesignGraph.Address.Path
import DesignGraph.Address.Percent
import DesignGraph.Address.Punycode
import DesignGraph.Address.Scheme
import DesignGraph.Address.Url
import DesignGraph.Attachment.Client
import DesignGraph.Attachment.Credentials
import DesignGraph.Attachment.HostConfig
import DesignGraph.Attachment.Request
import DesignGraph.Attachment.Upload
import DesignGraph.Command.Line
import DesignGraph.Command.Options
import DesignGraph.Command.Run
import DesignGraph.Decimal.Binary64
import DesignGraph.Decimal.Shortest
import DesignGraph.Diagram.Backend
import DesignGraph.Diagram.Iconic
import DesignGraph.Diagram.Image
import DesignGraph.Diagram.Kind
import DesignGraph.Diagram.Plain
import DesignGraph.Diagram.Render
import DesignGraph.Document.Arrow
import DesignGraph.Document.Dependency
import DesignGraph.Document.Heading
import DesignGraph.Document.Line
import DesignGraph.Document.Scan
import DesignGraph.Document.Table
import DesignGraph.Document.Title
import DesignGraph.Dot.Quote
import DesignGraph.Dot.Statement
import DesignGraph.Failure
import DesignGraph.Files.Fault
import DesignGraph.Files.FileTree
import DesignGraph.Files.PathText
import DesignGraph.Graph.Basic
import DesignGraph.Graph.EntityTable
import DesignGraph.Graph.Extract
import DesignGraph.Graph.RelationSet
import DesignGraph.Json.Number
import DesignGraph.Json.Reader
import DesignGraph.Json.Tree
import DesignGraph.Json.Value
import DesignGraph.Json.Writer
import DesignGraph.Main
import DesignGraph.Outcome
import DesignGraph.Proofs.Address.Below
import DesignGraph.Proofs.Address.Form
import DesignGraph.Proofs.Address.PlainPath
import DesignGraph.Proofs.Attachment.Accepted
import DesignGraph.Proofs.Attachment.Addresses
import DesignGraph.Proofs.Attachment.Authorization
import DesignGraph.Proofs.Attachment.BaseUrl
import DesignGraph.Proofs.Attachment.HostConfig
import DesignGraph.Proofs.Attachment.Upload
import DesignGraph.Proofs.Command.Diagram
import DesignGraph.Proofs.Command.PrintedLine
import DesignGraph.Proofs.Command.Token
import DesignGraph.Proofs.Diagram.Image
import DesignGraph.Proofs.Diagram.Kinds
import DesignGraph.Proofs.Diagram.Leftovers
import DesignGraph.Proofs.Diagram.Views
import DesignGraph.Proofs.Document.ArrowPairs
import DesignGraph.Proofs.Document.ArrowSites
import DesignGraph.Proofs.Document.HeaderRow
import DesignGraph.Proofs.Document.History
import DesignGraph.Proofs.Document.LineEnd
import DesignGraph.Proofs.Document.Mentions
import DesignGraph.Proofs.Document.Names
import DesignGraph.Proofs.Document.Outline
import DesignGraph.Proofs.Document.Ownership
import DesignGraph.Proofs.Document.Parentheticals
import DesignGraph.Proofs.Document.Printed
import DesignGraph.Proofs.Document.Run
import DesignGraph.Proofs.Document.Simulation
import DesignGraph.Proofs.Document.TableRow
import DesignGraph.Proofs.Dot.Escaping
import DesignGraph.Proofs.Dot.Shown
import DesignGraph.Proofs.Dot.Source
import DesignGraph.Proofs.Files.Alike
import DesignGraph.Proofs.Files.Extension
import DesignGraph.Proofs.Files.FileTree
import DesignGraph.Proofs.Files.Operations
import DesignGraph.Proofs.Files.PartialPath
import DesignGraph.Proofs.Files.Walking
import DesignGraph.Proofs.Graph.Appending
import DesignGraph.Proofs.Graph.Attribution
import DesignGraph.Proofs.Graph.BlankLines
import DesignGraph.Proofs.Graph.EntityHistory
import DesignGraph.Proofs.Graph.EntityTable
import DesignGraph.Proofs.Graph.Extract
import DesignGraph.Proofs.Graph.FirstSeen
import DesignGraph.Proofs.Graph.LineEndings
import DesignGraph.Proofs.Graph.Modes
import DesignGraph.Proofs.Graph.RelationHistory
import DesignGraph.Proofs.Graph.RelationSet
import DesignGraph.Proofs.Graph.RoundTrip
import DesignGraph.Proofs.Graph.Sections
import DesignGraph.Proofs.Graph.TrimmedNames
import DesignGraph.Proofs.Graph.WellFormed
import DesignGraph.Proofs.Json.Ends
import DesignGraph.Proofs.Json.Members
import DesignGraph.Proofs.Text.Blanks
import DesignGraph.Proofs.Text.Identifiers
import DesignGraph.Proofs.Text.Lines
import DesignGraph.Proofs.Text.Pieces
import DesignGraph.Text.Blank
import DesignGraph.Text.CodeRuns
import DesignGraph.Text.CodeTable
import DesignGraph.Text.Composite
import DesignGraph.Text.Composition
import DesignGraph.Text.Digits
import DesignGraph.Text.Hidden
import DesignGraph.Text.LetterCase
import DesignGraph.Text.Lines
import DesignGraph.Text.Mark
import DesignGraph.Text.Pieces
import DesignGraph.Text.Quoted
import DesignGraph.Text.Trim
import DesignGraph.Text.Utf8
import DesignGraph.Text.Word
import DesignGraph.Tool.ExitStatus
import DesignGraph.Tool.Program
