import FuzzDict.Text.Span
import FuzzDict.Text.Blank
import FuzzDict.Text.Lines
import FuzzDict.Text.LineCursor
import FuzzDict.Text.Case.Property
import FuzzDict.Text.Case.Mapping
import FuzzDict.Text.Case.Lower
import FuzzDict.Text.Utf8
import FuzzDict.Policy
import FuzzDict.Entry
import FuzzDict.Directive
import FuzzDict.Dictionary
import FuzzDict.Extraction
import FuzzDict.Decimal.Shortest
import FuzzDict.Text.Quoted.Classes
import FuzzDict.Text.Quoted
import FuzzDict.Json.Error
import FuzzDict.Json.Reader
import FuzzDict.Json.Literal
import FuzzDict.Json.Number
import FuzzDict.Json.Skip
import FuzzDict.Policy.Read
import FuzzDict.Failure
import FuzzDict.Files
import FuzzDict.Source
import FuzzDict.Text.Alphanumeric
import FuzzDict.Log.Pattern.Scan
import FuzzDict.Log.Pattern.Class
import FuzzDict.Log.Pattern
import FuzzDict.Log.Filter
import FuzzDict.Log.Record
import FuzzDict.Cli.Similarity
import FuzzDict.Cli.Args
import FuzzDict.Cli.Session
import FuzzDict.Main
import FuzzDict.Proofs.Concatenation
import FuzzDict.Proofs.Declarative
import FuzzDict.Proofs.Lowercase
import FuzzDict.Proofs.EntryText
import FuzzDict.Proofs.Lines
import FuzzDict.Proofs.Output
import FuzzDict.Proofs.Exclusion
import FuzzDict.Proofs.Words
import FuzzDict.Proofs.Command
import FuzzDict.Proofs.Normalize
import FuzzDict.Proofs.Sources
import FuzzDict.Proofs.LineCursor
