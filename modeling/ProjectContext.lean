import ProjectContext.Cache
import ProjectContext.CommandLine.Help
import ProjectContext.CommandLine.Invocation
import ProjectContext.CommandLine.Outcome
import ProjectContext.CommandLine.Rendering
import ProjectContext.CommandLine.Words
import ProjectContext.Context.Codec
import ProjectContext.Context.Insights
import ProjectContext.Context.Map
import ProjectContext.Discovery.Ignoring
import ProjectContext.Discovery.Plain
import ProjectContext.Extractor
import ProjectContext.FileKind
import ProjectContext.FileTree.Basic
import ProjectContext.FileTree.Listing
import ProjectContext.FileTree.Update
import ProjectContext.Ignore.Files
import ProjectContext.Ignore.Glob
import ProjectContext.Ignore.Global
import ProjectContext.Ignore.Rules
import ProjectContext.Json.Reader
import ProjectContext.Json.Value
import ProjectContext.Main
import ProjectContext.Matcher
import ProjectContext.Path.Basic
import ProjectContext.Path.Map
import ProjectContext.Pattern.CharClass
import ProjectContext.Pattern.CharSet
import ProjectContext.Pattern.Escape
import ProjectContext.Pattern.Expr
import ProjectContext.Pattern.Match
import ProjectContext.Pattern.Node
import ProjectContext.Pattern.Reader
import ProjectContext.Pattern.Tree
import ProjectContext.Session.Basic
import ProjectContext.Session.Config
import ProjectContext.Session.Log
import ProjectContext.Sha256
import ProjectContext.Source
import ProjectContext.Text.Bytes
import ProjectContext.Text.Unicode.Alphabetic
import ProjectContext.Text.Unicode.CaseFolding
import ProjectContext.Text.Unicode.Classes
import ProjectContext.Text.Unicode.Mark
import ProjectContext.Text.Unicode.Number
import ProjectContext.Text.Unicode.Unshown
import ProjectContext.Text.Utf8
import ProjectContext.Proofs.Cache.Digest
import ProjectContext.Proofs.Cache.History
import ProjectContext.Proofs.Cache.InOrder
import ProjectContext.Proofs.Cache.Reading
import ProjectContext.Proofs.CommandLine.Rendering
import ProjectContext.Proofs.Context.Codec
import ProjectContext.Proofs.Context.Reading
import ProjectContext.Proofs.Discovery.Exclusion
import ProjectContext.Proofs.Discovery.Gitignore
import ProjectContext.Proofs.Discovery.RuleFree
import ProjectContext.Proofs.Discovery.Walk
import ProjectContext.Proofs.Session.Account
import ProjectContext.Proofs.Session.Failure
import ProjectContext.Proofs.Session.Generation
import ProjectContext.Proofs.Session.Interleaving
import ProjectContext.Proofs.Session.Mention
import ProjectContext.Proofs.Session.Outcome
import ProjectContext.Proofs.Session.Runs
import ProjectContext.Proofs.Session.Stability
import ProjectContext.Proofs.Text.Utf8
import ProjectContext.Proofs.FileTree.Spelling
import ProjectContext.Proofs.Session.Readability
import ProjectContext.Proofs.CommandLine.Opening
import ProjectContext.Proofs.CommandLine.Switch
import ProjectContext.Proofs.CommandLine.Verbosity
import ProjectContext.Proofs.Pattern.Attempt
import ProjectContext.Proofs.Pattern.Scanning
import ProjectContext.Proofs.Pattern.Tracking
import ProjectContext.Proofs.Pattern.Keyword
import ProjectContext.Proofs.Matcher.Python
import ProjectContext.Proofs.Matcher.JavaScript
import ProjectContext.Proofs.Matcher.Java
import ProjectContext.Proofs.Matcher.Spans
import ProjectContext.Proofs.Matcher.Names
import ProjectContext.Proofs.Context.Report
import ProjectContext.Proofs.Matcher.Assignment
import ProjectContext.Proofs.Path.Classes
import ProjectContext.Proofs.Session.Totals
import ProjectContext.Proofs.Json.Pieces
import ProjectContext.Proofs.CommandLine.Argument
import ProjectContext.Proofs.CommandLine.Writing
import ProjectContext.Proofs.Context.Insertion
import ProjectContext.Proofs.Path.FileName
