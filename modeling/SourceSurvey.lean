import SourceSurvey.Journal
import SourceSurvey.Main
import SourceSurvey.Proofs.Double.Decimal
import SourceSurvey.Proofs.Json.Numeral
import SourceSurvey.Proofs.Json.Strings
import SourceSurvey.Proofs.Json.RoundTrip
import SourceSurvey.Proofs.Json.Reading
import SourceSurvey.Proofs.Report.RoundTrip
import SourceSurvey.Proofs.Clone.Scan
import SourceSurvey.Proofs.Double.Order
import SourceSurvey.Proofs.Double.Scaling
import SourceSurvey.Proofs.Clone.Ranking
import SourceSurvey.Proofs.Trace
import SourceSurvey.Proofs.Value.Fields
import SourceSurvey.Proofs.Manifest
import SourceSurvey.Proofs.Audit.Answer
import SourceSurvey.Proofs.Audit.Outcome
import SourceSurvey.Proofs.Audit.Annotation
import SourceSurvey.Proofs.Audit.Outdated
import SourceSurvey.Proofs.Settings.Checked
import SourceSurvey.Proofs.Settings.Layers
import SourceSurvey.Proofs.Corpus
import SourceSurvey.Proofs.Survey
import SourceSurvey.Proofs.CommandLine.Gate
import SourceSurvey.Proofs.Survey.Pool
import SourceSurvey.Proofs.Report.Recommendation
import SourceSurvey.Proofs.Report.Selection
import SourceSurvey.Proofs.Report.Stability
import SourceSurvey.Proofs.Survey.Coherence
import SourceSurvey.Proofs.Settings.Precedence
import SourceSurvey.Proofs.Corpus.Snapshot
import SourceSurvey.Proofs.Tree.Leads
import SourceSurvey.Proofs.Corpus.Ways
import SourceSurvey.Proofs.Corpus.Links
import SourceSurvey.Proofs.Double.Monotone
import SourceSurvey.Proofs.Value.Place
import SourceSurvey.Proofs.Clone.Gauge
import SourceSurvey.Proofs.Clone.Site
import SourceSurvey.Proofs.Clone.Tally
import SourceSurvey.Proofs.Clone.Coverage
import SourceSurvey.Proofs.Clone.Outcome
import SourceSurvey.Proofs.Clone.Strictness
import SourceSurvey.Proofs.Clone.Symmetry
import SourceSurvey.Proofs.Clone.Restriction
import SourceSurvey.Proofs.Complexity.Runs
import SourceSurvey.Proofs.Span.Block
import SourceSurvey.Proofs.Span.Header
import SourceSurvey.Proofs.Complexity.Nesting
import SourceSurvey.Proofs.Span.Matching
import SourceSurvey.Proofs.Text.Lower
import SourceSurvey.Proofs.Rule.Language
import SourceSurvey.Proofs.SourceFile
import SourceSurvey.Proofs.Rule.Locality
import SourceSurvey.Proofs.Clone.Normal
import SourceSurvey.Proofs.Span.End
import SourceSurvey.Proofs.Span.Line
import SourceSurvey.Proofs.Tree.Edit
import SourceSurvey.Proofs.Journal.Calls
import SourceSurvey.Proofs.Journal.History
import SourceSurvey.Proofs.Journal.Namespace
