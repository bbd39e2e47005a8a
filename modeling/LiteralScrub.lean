import LiteralScrub.Text.Basic
import LiteralScrub.Limits
import LiteralScrub.Text.Ranges
import LiteralScrub.Text.Alphabetic
import LiteralScrub.Text.Alphanumeric
import LiteralScrub.Text.Printable
import LiteralScrub.Text.IdentifierStart
import LiteralScrub.Text.IdentifierContinue
import LiteralScrub.Text.Space
import LiteralScrub.Text.Case
import LiteralScrub.Text.Digit
import LiteralScrub.Text.Quoted
import LiteralScrub.Regex.Syntax
import LiteralScrub.Regex.Failure
import LiteralScrub.Regex.Cursor
import LiteralScrub.Text.CharacterName
import LiteralScrub.Regex.Escape
import LiteralScrub.Regex.CharacterSet
import LiteralScrub.Regex.GroupHead
import LiteralScrub.Regex.Reader
import LiteralScrub.Regex.Folding
import LiteralScrub.Regex.Program
import LiteralScrub.Regex.Matcher
import LiteralScrub.Json.Basic
import LiteralScrub.Json.Reader
import LiteralScrub.Config.Basic
import LiteralScrub.Config.Document
import LiteralScrub.Pattern.Basic
import LiteralScrub.Pattern.Compile
import LiteralScrub.Pattern.Resolve
import LiteralScrub.Rewrite.Basic
import LiteralScrub.Lua.Kind
import LiteralScrub.Lua.Literal
import LiteralScrub.Python.Literal
import LiteralScrub.Tree.Display
import LiteralScrub.Python.Place
import LiteralScrub.Scrub.Basic
import LiteralScrub.Scrub.Lua
import LiteralScrub.Scrub.Python
import LiteralScrub.Scrub.Transform
import LiteralScrub.Scrub.Transformer
import LiteralScrub.Engine
import LiteralScrub.Number.Read
import LiteralScrub.Plugin
import LiteralScrub.Python.Printer.Basic
import LiteralScrub.Python.Printer.Rules
import LiteralScrub.Lua.Printer
import LiteralScrub.Lua.Escape
import LiteralScrub.Lua.Reader
import LiteralScrub.Source.FrontEnd
import LiteralScrub.Source.Lua
import LiteralScrub.Source.Scrub
import LiteralScrub.Source.Languages
import LiteralScrub.Python.Token.Basic
import LiteralScrub.Python.Token.Lexer
import LiteralScrub.Python.Reader.Basic
import LiteralScrub.Python.StringEscape
import LiteralScrub.Python.Reader.Interpolation
import LiteralScrub.Python.Reader.Parameters
import LiteralScrub.Python.Reader.Blame
import LiteralScrub.Python.Reader.Call
import LiteralScrub.Python.Reader.Atom
import LiteralScrub.Python.Reader.Expression
import LiteralScrub.Python.Reader.Target
import LiteralScrub.Python.Reader.Pattern
import LiteralScrub.Python.Reader
import LiteralScrub.Exports
import LiteralScrub.File.Basic
import LiteralScrub.Json.Writer
import LiteralScrub.Config.File
import LiteralScrub.Source.File
import LiteralScrub.Log.Level
import LiteralScrub.Log.Registry
import LiteralScrub.Log.Setup
import LiteralScrub.Proofs.Mask
import LiteralScrub.Proofs.Resolution
import LiteralScrub.Proofs.Scan
import LiteralScrub.Proofs.Substitution
import LiteralScrub.Proofs.Search
import LiteralScrub.Proofs.ScanLoop
import LiteralScrub.Proofs.Validation
import LiteralScrub.Proofs.LoggerNames
import LiteralScrub.Proofs.Forbidden
import LiteralScrub.Proofs.Exhaustive
import LiteralScrub.Proofs.Scrubbed
import LiteralScrub.Proofs.Walk
import LiteralScrub.Proofs.PythonTrees
import LiteralScrub.Proofs.Places
import LiteralScrub.Proofs.Origins
import LiteralScrub.Proofs.KeptPlaces
import LiteralScrub.Proofs.Utf8
import LiteralScrub.Proofs.LuaText
import LiteralScrub.Proofs.LuaRoundTrip
import LiteralScrub.Proofs.LuaQuoted
import LiteralScrub.Proofs.LuaLongBracket
import LiteralScrub.Proofs.LuaScrubbed
import LiteralScrub.Proofs.LuaWalk
import LiteralScrub.Proofs.LuaTrees
import LiteralScrub.Proofs.LuaForbidden
import LiteralScrub.Proofs.Records
import LiteralScrub.Proofs.Transformers
import LiteralScrub.Proofs.Pipeline
import LiteralScrub.Proofs.Configurations
import LiteralScrub.Proofs.PatternOrder
import LiteralScrub.Proofs.JsonLimits
import LiteralScrub.Proofs.JsonRoundTrip
import LiteralScrub.Proofs.Files
import LiteralScrub.Proofs.EngineLimits
import LiteralScrub.Proofs.ConfigFiles
import LiteralScrub.Proofs.FailedSaves
import LiteralScrub.Proofs.LuaStops
import LiteralScrub.Proofs.LuaFailures
import LiteralScrub.Proofs.PythonFailures
import LiteralScrub.Proofs.NothingFound
import LiteralScrub.Proofs.Destinations
import LiteralScrub.Proofs.Loggers
import LiteralScrub.Proofs.LoggerSetups
import LiteralScrub.Proofs.LoggerRuns
import LiteralScrub.Proofs.ConsoleLevels
