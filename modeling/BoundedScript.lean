import BoundedScript.CommandLine.Program
import BoundedScript.Main
import BoundedScript.Proofs.ExpressionRules
import BoundedScript.Proofs.Placeholders
import BoundedScript.Proofs.ProcessBoundary
import BoundedScript.Proofs.WorkerOutcome
import BoundedScript.Executor
import BoundedScript.Proofs.Text.Encoding
import BoundedScript.Proofs.Json.Steps
import BoundedScript.Proofs.Json.Strings
import BoundedScript.Proofs.Json.Numbers
import BoundedScript.Proofs.Json.Regular
import BoundedScript.Proofs.Json.Accepted
import BoundedScript.Proofs.Json.RoundTrip
import BoundedScript.Proofs.Json.Records
import BoundedScript.Proofs.Documents
import BoundedScript.Proofs.WorkerAnswers
import BoundedScript.Proofs.WorkerFailures
import BoundedScript.Proofs.Decimal.Digits
import BoundedScript.Proofs.Json.Sizes
import BoundedScript.Proofs.ResponseSize
import BoundedScript.Proofs.Decimal.Floats
import BoundedScript.Proofs.WorkerEnvironment
import BoundedScript.Proofs.Reencoding
import BoundedScript.Proofs.Rendering
import BoundedScript.Proofs.Script.Outcomes
import BoundedScript.Proofs.Script.Arrows
import BoundedScript.Proofs.Deadlines
import BoundedScript.Proofs.Decimal.Whole
import BoundedScript.Proofs.Script.Strings
import BoundedScript.Proofs.Script.Keys
import BoundedScript.Proofs.Script.Tables
import BoundedScript.Proofs.Json.Arrangement
import BoundedScript.Proofs.Script.Prototypes
import BoundedScript.Proofs.Script.Images
import BoundedScript.Proofs.Script.Writing
import BoundedScript.Proofs.Identity
import BoundedScript.Proofs.SizeCaps
import BoundedScript.Proofs.Config.Durations
import BoundedScript.Proofs.Decimal.Words
import BoundedScript.Proofs.Text.Scanning
import BoundedScript.Proofs.Config.LaidOut
import BoundedScript.Proofs.Config.Toml.Strings
import BoundedScript.Proofs.Config.Toml.Tables
import BoundedScript.Proofs.Config.Saved
import BoundedScript.Proofs.RenderedTrees
import BoundedScript.Proofs.BoundNames
import BoundedScript.Proofs.Config.Partial
import BoundedScript.Proofs.Config.Overrides
import BoundedScript.Proofs.Decimal.Nearest
import BoundedScript.Proofs.Decimal.Shown
import BoundedScript.Proofs.Script.Enclosed.Brackets
import BoundedScript.Proofs.Wrapping
import BoundedScript.Proofs.Trailing
import BoundedScript.Proofs.CommandLine.Bindings
