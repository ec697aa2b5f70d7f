import ScriptEval.Main
import ScriptEval.Proofs.Session.Reports
import ScriptEval.Proofs.Functions.Reading
import ScriptEval.Proofs.Path.Extension
import ScriptEval.Proofs.Options.Environment
import ScriptEval.Proofs.CommandLine.Directive
import ScriptEval.Proofs.Options.Failures
import ScriptEval.Proofs.CommandLine.Endings
import ScriptEval.Proofs.Pattern.Ordinary
import ScriptEval.Proofs.Pattern.Limits
import ScriptEval.Proofs.Functions.Failures
import ScriptEval.Proofs.Session.Facts
import ScriptEval.Proofs.Options.Agreement
import ScriptEval.Proofs.Functions.Output
import ScriptEval.Proofs.Path.Components
import ScriptEval.Proofs.Path.Directory
import ScriptEval.Proofs.Path.FileName
import ScriptEval.Proofs.Path.Stem
import ScriptEval.Proofs.Path.Clearing
import ScriptEval.Proofs.Functions.Padding
import ScriptEval.Proofs.Directive.Alternatives
import ScriptEval.Proofs.Registry.Order
import ScriptEval.Proofs.Directive.MoreFeatures
import ScriptEval.Proofs.Options.Acceptance
import ScriptEval.Proofs.Clause.Written
import ScriptEval.Proofs.Path.Calls
import ScriptEval.Proofs.Path.Appending
import ScriptEval.Proofs.Path.Ascent
import ScriptEval.Proofs.Path.Recomposition
import ScriptEval.Proofs.CommandLine.Words
import ScriptEval.Proofs.Functions.Candidates
import ScriptEval.Proofs.Functions.Trimming
import ScriptEval.Proofs.Functions.Replacing
import ScriptEval.Proofs.Platform.Detection
import ScriptEval.Proofs.Functions.Files
import ScriptEval.Proofs.Functions.Time
