import Keywordless.Arena
import Keywordless.Binding.Action
import Keywordless.Binding.Binder
import Keywordless.Binding.Dialect
import Keywordless.Binding.Entry
import Keywordless.Binding.Problem
import Keywordless.Binding.Scope
import Keywordless.Binding.Universe
import Keywordless.Check.Cache
import Keywordless.Check.Payload
import Keywordless.Check.Report
import Keywordless.Check.Sources
import Keywordless.Check.Worker
import Keywordless.Cli.Check
import Keywordless.Cli.Command
import Keywordless.Cli.Completion
import Keywordless.Cli.Flag
import Keywordless.Cli.Host
import Keywordless.Cli.Inspect
import Keywordless.Cli.Output
import Keywordless.Cli.Run
import Keywordless.Cli.Switch
import Keywordless.Cli.Tracing
import Keywordless.Compile.Basic
import Keywordless.Compile.Timed
import Keywordless.Diagnostic.Bag
import Keywordless.Diagnostic.Basic
import Keywordless.Diagnostic.Code
import Keywordless.Diagnostic.Render
import Keywordless.Fault
import Keywordless.Files.Basic
import Keywordless.Files.Change
import Keywordless.Files.Tree
import Keywordless.Graph.Basic
import Keywordless.Graph.Dump
import Keywordless.Graph.Query
import Keywordless.Main
import Keywordless.Path
import Keywordless.Progress.Basic
import Keywordless.Progress.View
import Keywordless.Project.Init
import Keywordless.Project.Manifest
import Keywordless.Proofs.Acyclic
import Keywordless.Proofs.Arena
import Keywordless.Proofs.BindActions
import Keywordless.Proofs.BindCaptures
import Keywordless.Proofs.BindRenamed
import Keywordless.Proofs.BindRun
import Keywordless.Proofs.BindSound
import Keywordless.Proofs.BindTwins
import Keywordless.Proofs.BindYields
import Keywordless.Proofs.CacheEntries
import Keywordless.Proofs.CachedChecks
import Keywordless.Proofs.Captures
import Keywordless.Proofs.CompileOutcome
import Keywordless.Proofs.DiagnosticSpans
import Keywordless.Proofs.Evaluation
import Keywordless.Proofs.FailFast
import Keywordless.Proofs.FilePlaces
import Keywordless.Proofs.Findings
import Keywordless.Proofs.FromText
import Keywordless.Proofs.Grammar
import Keywordless.Proofs.GraphWalk
import Keywordless.Proofs.Greedy
import Keywordless.Proofs.Interning
import Keywordless.Proofs.NestedSpans
import Keywordless.Proofs.Outcome
import Keywordless.Proofs.Ownership
import Keywordless.Proofs.ParallelChecks
import Keywordless.Proofs.ParseFile
import Keywordless.Proofs.ParserComplete
import Keywordless.Proofs.ParserMoves
import Keywordless.Proofs.ParserSound
import Keywordless.Proofs.ParserSpans
import Keywordless.Proofs.RenamedRuns
import Keywordless.Proofs.Renaming
import Keywordless.Proofs.ScopeRefinement
import Keywordless.Proofs.Session
import Keywordless.Proofs.SplitFiles
import Keywordless.Proofs.StreamTokens
import Keywordless.Proofs.Tiling
import Keywordless.Proofs.TreeSpans
import Keywordless.Proofs.TwinRuns
import Keywordless.Proofs.TypeText
import Keywordless.Proofs.WellTyped
import Keywordless.Source.Cursor
import Keywordless.Source.File
import Keywordless.Source.FileSet
import Keywordless.Source.Span
import Keywordless.Syntax.Basic
import Keywordless.Syntax.Outline
import Keywordless.Syntax.Parser
import Keywordless.Syntax.Run
import Keywordless.Syntax.SpanCheck
import Keywordless.Syntax.Stream
import Keywordless.Text.Blank
import Keywordless.Text.Bytes
import Keywordless.Text.CharSet
import Keywordless.Text.Clock
import Keywordless.Text.Cluster
import Keywordless.Text.Decimal
import Keywordless.Text.Digest
import Keywordless.Text.Glyph
import Keywordless.Text.Json
import Keywordless.Text.MessagePack
import Keywordless.Text.Normal
import Keywordless.Text.Numeral
import Keywordless.Text.Quoted
import Keywordless.Text.Style
import Keywordless.Text.Table.Cluster
import Keywordless.Text.Table.Decomposition
import Keywordless.Text.Table.Letter
import Keywordless.Text.Table.Mark
import Keywordless.Text.Table.Printable
import Keywordless.Text.Table.Width
import Keywordless.Text.Terminal
import Keywordless.Text.Utf8
import Keywordless.Text.Width
import Keywordless.Text.Yaml
import Keywordless.Text.Yaml.Implicit
import Keywordless.Token.Basic
import Keywordless.Token.Kind
import Keywordless.Token.Lexeme
import Keywordless.Token.Lexer
import Keywordless.Token.Listing
import Keywordless.Toml.Form
import Keywordless.Toml.Table
import Keywordless.Trace.Event
import Keywordless.Trace.Log
import Keywordless.Trace.Timer
import Keywordless.Ty.Basic
import Keywordless.Ty.Store
import Keywordless.Version.Basic
import Keywordless.Version.Build
import Keywordless.Version.Constraint
import Keywordless.Watch.Basic
import Keywordless.Proofs.NestedTrace
import Keywordless.Proofs.Hints
import Keywordless.Proofs.OwnFrame
import Keywordless.Proofs.MovedStreams
import Keywordless.Proofs.MovedParses
import Keywordless.Proofs.LineLocality
import Keywordless.Proofs.JoinedLines
import Keywordless.Proofs.LineEnds
import Keywordless.Proofs.TypeNotation
import Keywordless.Proofs.ProgressCounts
import Keywordless.Proofs.LookAhead
import Keywordless.Proofs.LineColumns
import Keywordless.Proofs.CanonicalForms
import Keywordless.Proofs.NameCharacters
import Keywordless.Proofs.WordBreaks
import Keywordless.Proofs.EquivalentNames
import Keywordless.Proofs.EntryCheck
import Keywordless.Proofs.WholeTrees
import Keywordless.Proofs.TreePaths
import Keywordless.Proofs.IntegerLiterals
import Keywordless.Proofs.Snippets
import Keywordless.Proofs.SortedBags
import Keywordless.Proofs.ParserProgress
import Keywordless.Proofs.RestoredBags
import Keywordless.Proofs.ArenaHandles
