import ConfigLexer.Lexeme
import ConfigLexer.TagSet
import ConfigLexer.Session.Request
import ConfigLexer.Highlight
import ConfigLexer.Fold
import ConfigLexer.Comment
import ConfigLexer.Text.Quoted
import ConfigLexer.Json.Scalar
import ConfigLexer.Json.Record
import ConfigLexer.Settings.Json
import ConfigLexer.Files.Tree
import ConfigLexer.Main
import ConfigLexer.Proofs.Session.Refinement
import ConfigLexer.Proofs.Session.Partition
import ConfigLexer.Proofs.Session.Resumption
import ConfigLexer.Proofs.Session.Editing
import ConfigLexer.Proofs.Session.Joining
import ConfigLexer.Proofs.Session.Requests
import ConfigLexer.Proofs.Matching.Nesting
import ConfigLexer.Proofs.Session.Vocabularies
import ConfigLexer.Proofs.Session.Guarded
import ConfigLexer.Proofs.Settings.Documents
import ConfigLexer.Proofs.Comment.Toggling
import ConfigLexer.Proofs.Lexeme.Trivia
import ConfigLexer.Proofs.Comment.Scanning
import ConfigLexer.Proofs.Fold.Regions
import ConfigLexer.Proofs.Text.Quoting
import ConfigLexer.Proofs.Window.Text
import ConfigLexer.Proofs.Report.Reading
import ConfigLexer.Proofs.Matching.Choosing
import ConfigLexer.Proofs.Session.Truncation
import ConfigLexer.Proofs.Session.Strings
import ConfigLexer.Proofs.CommandLine.Lexing
import ConfigLexer.Proofs.Matching.Inserting
import ConfigLexer.Proofs.Session.Numbers
import ConfigLexer.Proofs.Comment.Recognizing
import ConfigLexer.Proofs.Comment.Wrapping
import ConfigLexer.Proofs.Highlight.Runs
import ConfigLexer.Proofs.Server.Discovery
import ConfigLexer.Proofs.Window.Grammar
import ConfigLexer.Proofs.Vocabulary.Extending
import ConfigLexer.Proofs.TagSet.Members
import ConfigLexer.Proofs.Cursor.Stopping
