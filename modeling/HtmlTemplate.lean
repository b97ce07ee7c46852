import HtmlTemplate.CommandLine.Program
import HtmlTemplate.Expression.Evaluate
import HtmlTemplate.Main
import HtmlTemplate.Proofs.Template.Interleaving
import HtmlTemplate.Proofs.Text.CommentDecomposition
import HtmlTemplate.Proofs.Text.Escaped
import HtmlTemplate.Proofs.Iteration.Visits
import HtmlTemplate.Proofs.Template.Injection
import HtmlTemplate.Proofs.Template.Splicing
import HtmlTemplate.Proofs.Text.JoinedComment
import HtmlTemplate.Proofs.Template.Carriers
import HtmlTemplate.Proofs.Template.Rejection
import HtmlTemplate.Proofs.Text.Outline
import HtmlTemplate.Proofs.Template.Stripping
import HtmlTemplate.Proofs.Attribute.Pairs
import HtmlTemplate.Proofs.Text.Quoted
import HtmlTemplate.Proofs.CommandLine.Sources
import HtmlTemplate.Proofs.CommandLine.Output
import HtmlTemplate.Proofs.CommandLine.Elements
import HtmlTemplate.Proofs.Value.Truth
import HtmlTemplate.Proofs.Host.Recording
import HtmlTemplate.Proofs.Iteration.Calls
import HtmlTemplate.Proofs.Host.Acceptance
import HtmlTemplate.Proofs.Iteration.CallForm
import HtmlTemplate.Proofs.Condition.Runs
import HtmlTemplate.Proofs.Template.Carried
import HtmlTemplate.Proofs.Template.Expansion
import HtmlTemplate.Proofs.Format.Text
import HtmlTemplate.Proofs.Template.Slots
import HtmlTemplate.Proofs.Template.MarkedSlots
import HtmlTemplate.Proofs.Element.Boundaries
import HtmlTemplate.Proofs.Attribute.LastGiven
import HtmlTemplate.Proofs.Condition.Guarded
import HtmlTemplate.Proofs.Template.CleanValues
import HtmlTemplate.Proofs.Iteration.Counting
import HtmlTemplate.Proofs.Text.Characters
import HtmlTemplate.Proofs.CommandLine.Verbosity
