import ScopeCheck.Proofs.Json.RoundTrip
import ScopeCheck.Report.Basic

/-!
# Reports for other programs

Another program that reads the document of a report has the report again, whatever characters its texts
hold.
-/

namespace ScopeCheck

namespace Diagnostic

/-- A finding is read from what is written for it, unless its line is too great. -/
theorem ofJson?_toJson {finding : Diagnostic} (bounded : finding.line < lineBound) :
    ofJson? finding.toJson = some finding := by
  -- Each field is read from its own value, the line because it is not too great.
  have fields : ofFields? (.string finding.file) (.natural finding.line) finding.rule.toJson
      (.string finding.message) = some finding := by
    simp [ofFields?, Json.string?, Json.natural?, bounded]
  rw [ofJson?, toJson]
  · exact fields
  · -- What is written is an object and no list of the four fields.
    intro file line rule message same
    cases same

theorem listOfJson?_map {findings : List Diagnostic}
    (bounded : ∀ finding ∈ findings, finding.line < lineBound) :
    listOfJson? (.array (findings.map toJson)) = some findings := by
  change (findings.map toJson).mapM ofJson? = some findings
  induction findings with
  | nil => rfl
  | cons finding findings ih =>
    obtain ⟨first, later⟩ := List.forall_mem_cons.mp bounded
    rw [List.map_cons, List.mapM_cons, ofJson?_toJson first, ih later]
    rfl

end Diagnostic

/-- The JSON form of a report is one document and a line end. Reading it gives a value that has the path
of the report, its findings in their order and their number, each under the key for it. -/
theorem report_reads_back (report : Report)
    (bounded : ∀ finding ∈ report.findings, finding.line < 4294967296) :
    ∃ document value, report.text .json = document ++ "\n" ∧
      Json.read? document = some value ∧ Json.read? (report.text .json) = some value ∧
      (value.member? "file").bind Json.string? = some report.path ∧
      (value.member? "diagnostics").bind Diagnostic.listOfJson? = some report.findings ∧
      ((value.member? "summary").bind (Json.member? "total")).bind Json.natural? =
        some report.findings.length := by
  obtain ⟨alone, ended⟩ := Json.read?_pretty report.toJson
  refine ⟨report.toJson.pretty, report.toJson, rfl, alone, ended, rfl, ?_, rfl⟩
  -- Path and number are members of the value itself; only the findings are read one by one.
  exact Diagnostic.listOfJson?_map bounded

/-- A report whose texts hold quotation marks, backslashes, control characters and line ends. -/
def strangeReport : Report where
  path := "a \"b\"\\u0041.py"
  findings := [.unusedVariable "\x01\x02\n" 4294967295 "é\x7f", .trailingWhitespace "" 0]

theorem strangeReport_reads_back :
    (∀ finding ∈ strangeReport.findings, finding.line < 4294967296) ∧
    ∃ document value, strangeReport.text .json = document ++ "\n" ∧
      Json.read? document = some value ∧ Json.read? (strangeReport.text .json) = some value ∧
      (value.member? "file").bind Json.string? = some "a \"b\"\\u0041.py" ∧
      (value.member? "diagnostics").bind Diagnostic.listOfJson? = some strangeReport.findings ∧
      ((value.member? "summary").bind (Json.member? "total")).bind Json.natural? = some 2 := by
  have bounded : ∀ finding ∈ strangeReport.findings, finding.line < 4294967296 := by decide
  exact ⟨bounded, report_reads_back strangeReport bounded⟩

end ScopeCheck
