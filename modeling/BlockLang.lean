import BlockLang.Lexer.Drain
import BlockLang.Scopes.Types
import BlockLang.Scopes.Equivalence
import BlockLang.Scopes.Operation
import BlockLang.Session
import BlockLang.Main
import BlockLang.Proofs.Lexeme.Grammar
import BlockLang.Proofs.Lexeme.Longest
import BlockLang.Proofs.Lexer.LongestMatch
import BlockLang.Proofs.Tables
import BlockLang.Proofs.Lexer.Layout
import BlockLang.Proofs.Scopes.Comparison
import BlockLang.Proofs.Scopes.Resolution
import BlockLang.Proofs.Lexer.Tiling
import BlockLang.Proofs.Lexer.Stream
import BlockLang.Proofs.NameTable
import BlockLang.Proofs.Lexer.Entries
import BlockLang.Proofs.Lexer.Lexemes
import BlockLang.Proofs.Session.Walk
import BlockLang.Proofs.Scopes.Size
import BlockLang.Proofs.Scopes.Alike
import BlockLang.Proofs.Scopes.Change
import BlockLang.Proofs.Scopes.Failure
import BlockLang.Proofs.Scopes.Descriptors
import BlockLang.Proofs.Check.Nesting
import BlockLang.Proofs.Check.Verdict
import BlockLang.Proofs.Check.LeftOpen
import BlockLang.Proofs.Lexer.Rendering
import BlockLang.Proofs.Lexer.Renaming
import BlockLang.Proofs.Session.Renaming
import BlockLang.Proofs.Scopes.Growth
import BlockLang.Proofs.Scopes.Surroundings
import BlockLang.Proofs.Scopes.Lifetime
import BlockLang.Proofs.Lexeme.Lookahead
import BlockLang.Proofs.Lexer.Extension
import BlockLang.Proofs.Lexer.Restart
import BlockLang.Proofs.Lexeme.Cause
import BlockLang.Proofs.Lexer.Lines
import BlockLang.Proofs.Lexer.Failure
import BlockLang.Proofs.Json.Number
import BlockLang.Proofs.Json.Text
import BlockLang.Proofs.Json.RoundTrip
import BlockLang.Proofs.Json.Members
import BlockLang.Proofs.Report.Document
import BlockLang.Proofs.Json.Spelling
import BlockLang.Proofs.Json.Grammar
import BlockLang.Proofs.Config.Document
import BlockLang.Proofs.Scopes.Representation
import BlockLang.Proofs.Text.Lines
import BlockLang.Proofs.Text.Quoted
import BlockLang.Proofs.Lexer.Payloads
import BlockLang.Proofs.Listing
