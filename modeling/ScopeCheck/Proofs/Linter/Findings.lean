import ScopeCheck.Linter
import ScopeCheck.Proofs.LineScan
import ScopeCheck.Proofs.Linter.Order
import ScopeCheck.Proofs.Outline.Depth
import ScopeCheck.Proofs.Scope.Tracking

/-!
# What the linter returns

A file that passes validation has an outline of limited height, so no analysis of it fails, and leaving
out an analysis whose rules are out of force leaves out nothing that the filter would keep.
-/

namespace ScopeCheck

/-- The diagnostics of both analyses, each kept when its own rule is in force. -/
def enabledOf (settings : Settings) (findings : List Diagnostic) : List Diagnostic :=
  findings.filter fun finding => settings.enables finding.rule

theorem mem_enabledOf {settings : Settings} {findings : List Diagnostic} {finding : Diagnostic} :
    finding ∈ enabledOf settings findings ↔
      finding ∈ findings ∧ settings.enables finding.rule = true := List.mem_filter

theorem enabledOf_append (settings : Settings) (left right : List Diagnostic) :
    enabledOf settings (left ++ right) = enabledOf settings left ++ enabledOf settings right :=
  List.filter_append _ _

/-- An analysis that reports its own rules alone gives what the filter keeps, made or not. -/
theorem Checker.enabledFindings_eq {checker : Checker} {settings : Settings} {file : SourceFile}
    {found : List Diagnostic} (checked : checker.check file settings = .ok found)
    (declared : ∀ finding ∈ found, finding.rule ∈ checker.rules) :
    checker.enabledFindings settings file = .ok (enabledOf settings found) := by
  unfold enabledFindings
  split
  · rw [checked]
    rfl
  next skipped =>
    -- The analysis is left out, and none of its rules is in force.
    have none : enabledOf settings found = [] := by
      refine List.filter_eq_nil_iff.mpr fun finding member enabled => skipped ?_
      exact List.any_eq_true.mpr ⟨finding.rule, declared finding member, enabled⟩
    rw [none]

theorem ScopeContents.mem_findings {file : String} {contents : ScopeContents} {finding : Diagnostic}
    (member : finding ∈ contents.findings file) :
    ∃ name ∈ contents.unused, finding = .unusedVariable file contents.line name := by
  obtain ⟨name, unused, rfl⟩ := List.mem_map.mp member
  exact ⟨name, unused, rfl⟩

def Outline.findings (outline : Outline) (file : String) : List Diagnostic :=
  outline.scopes.flatMap fun scope => scope.findings file

theorem Outline.mem_findings {outline : Outline} {file : String} {finding : Diagnostic}
    (member : finding ∈ outline.findings file) :
    ∃ scope ∈ outline.scopes, ∃ name, finding = .unusedVariable file scope.line name := by
  obtain ⟨scope, isScope, found⟩ := List.mem_flatMap.mp member
  obtain ⟨name, _, rfl⟩ := ScopeContents.mem_findings found
  exact ⟨scope, isScope, name, rfl⟩

namespace SourceFile

theorem shallow_of_valid {file : SourceFile} (valid : file.validate = .ok ()) :
    file.tooDeep? = none := by
  unfold validate at valid
  split at valid
  · cases valid
  · split at valid
    · cases valid
    · assumption

/-- Validation fails with a fault of the source, and in no other way. -/
theorem validate_error {file : SourceFile} {failure : Failure}
    (failed : file.validate = .error failure) :
    ∃ fault line column, failure = .badSource fault file.name line column := by
  unfold validate at failed
  split at failed
  · cases failed
    exact ⟨_, _, _, rfl⟩
  · split at failed
    · cases failed
      exact ⟨_, _, _, rfl⟩
    · split at failed
      · cases failed
        exact ⟨_, _, _, rfl⟩
      · cases failed

theorem tracked_of_shallow {file : SourceFile} (shallow : file.tooDeep? = none) :
    ∃ outline, file.outline = .ok outline ∧ outline.height ≤ file.tree.height ∧
      file.tree.height ≤ maxNesting ∧
        ∀ name, unusedNames name outline = .ok (outline.findings name) := by
  obtain ⟨outline, read, bounded⟩ := outline_of_shallow shallow
  have limited := (tooDeep?_eq_none_iff file).mp shallow
  refine ⟨outline, read, bounded, limited, fun name => ?_⟩
  -- The tracker refuses only what lies too deep.
  rw [unusedNames_eq]
  exact if_pos (Nat.le_trans bounded limited)

/-- The findings on a valid file: those on its scopes and those on its lines, filtered by rule and
sorted by line. -/
theorem findings_eq {file : SourceFile} (valid : file.validate = .ok ()) (settings : Settings) :
    ∃ outline, file.outline = .ok outline ∧ outline.height ≤ maxNesting ∧
      file.findings settings = .ok (sortByLine (enabledOf settings
        (outline.findings file.name ++ scanLines file.name file.text settings.maxLineLength))) := by
  obtain ⟨outline, read, bounded, limited, tracked⟩ := tracked_of_shallow (shallow_of_valid valid)
  refine ⟨outline, read, Nat.le_trans bounded limited, ?_⟩
  have names : Checker.unusedVariable.enabledFindings settings file =
      .ok (enabledOf settings (outline.findings file.name)) := by
    -- After validation the tracker succeeds, and it reports names alone.
    refine Checker.enabledFindings_eq ?_ fun finding member => ?_
    · change (file.outline.bind fun outline => unusedNames file.name outline) = _
      rw [read]
      exact tracked file.name
    · obtain ⟨_, _, _, rfl⟩ := Outline.mem_findings member
      exact List.mem_singleton_self _
  have lines : Checker.lineFormat.enabledFindings settings file =
      .ok (enabledOf settings (scanLines file.name file.text settings.maxLineLength)) := by
    -- The scan of the lines cannot fail, and reports its two rules alone.
    refine Checker.enabledFindings_eq rfl fun finding member => ?_
    rcases (mem_scanFrom member).2 with shape | shape
    · rw [shape]
      exact List.mem_cons_self
    · rw [shape]
      exact List.mem_cons_of_mem _ List.mem_cons_self
  have both : Checker.all.mapM (Checker.enabledFindings settings file) =
      .ok [enabledOf settings (outline.findings file.name),
        enabledOf settings (scanLines file.name file.text settings.maxLineLength)] := by
    simp only [Checker.all, List.mapM_cons, List.mapM_nil, names, lines]
    rfl
  unfold findings
  rw [valid, both, enabledOf_append]
  simp [bind, Except.bind, pure, Except.pure]

/-- A file fails as its validation does, whatever the settings are. -/
theorem findings_error_iff (file : SourceFile) (settings : Settings) (failure : Failure) :
    file.findings settings = .error failure ↔ file.validate = .error failure := by
  cases validated : file.validate with
  | ok _ =>
    obtain ⟨_, _, _, found⟩ := findings_eq validated settings
    simp [found]
  | error fault =>
    unfold findings
    rw [validated]
    simp [bind, Except.bind]

end SourceFile

/-- A file that is not nested too deeply has an outline, no part of which lies deeper than the tree is
high, and the tracker succeeds on it. So the linter fails on a file exactly when validation does, with
the same failure, which is a fault of the source, and the settings have no say in it. -/
theorem analysis_fails_only_as_validation (file : SourceFile) :
    (file.tooDeep? = none →
      ∃ outline, file.outline = .ok outline ∧ outline.height ≤ file.tree.height ∧
        outline.height ≤ 500 ∧ ∃ found, unusedNames file.name outline = .ok found) ∧
    (∀ settings failure, file.findings settings = .error failure ↔ file.validate = .error failure) ∧
    (∀ settings, (∃ found, file.findings settings = .ok found) ∨
      ∃ failure, file.findings settings = .error failure ∧ failure.kind = .syntaxError) ∧
    ∀ (linter : Linter) (text : String) (failure : Failure), linter.run text = .error failure ↔
      (SourceFile.read linter.file text).validate = .error failure := by
  refine ⟨fun shallow => ?_, file.findings_error_iff, fun settings => ?_, fun linter text failure => ?_⟩
  · obtain ⟨outline, read, bounded, limited, tracked⟩ := SourceFile.tracked_of_shallow shallow
    exact ⟨outline, read, bounded, Nat.le_trans bounded limited, _, tracked file.name⟩
  · cases found : file.findings settings with
    | ok findings => exact .inl ⟨findings, rfl⟩
    | error failure =>
      obtain ⟨_, _, _, rfl⟩ :=
        SourceFile.validate_error ((file.findings_error_iff settings failure).mp found)
      exact .inr ⟨_, rfl, rfl⟩
  · exact SourceFile.findings_error_iff _ linter.settings failure

/-- A file that assigns to a name on its first line and ends in blanks there. -/
def assigningFile : SourceFile where
  name := "a.py"
  text := "x = y  \n"
  tree := .node { kind := "module" }
    [.node { kind := "expression_statement" }
      [.node { kind := "assignment" }
        [.node { kind := "identifier", field := some "left", stop := 1 } [],
          .node { kind := "=", named := false, start := ⟨2, 0, 2⟩, stop := 3 } [],
          .node { kind := "identifier", field := some "right", start := ⟨4, 0, 4⟩, stop := 5 } []]]]

theorem assigningFile_shallow : assigningFile.tooDeep? = none :=
  (SourceFile.tooDeep?_eq_none_iff _).mpr (by decide)

theorem assigningFile_analysis :
    assigningFile.tooDeep? = none ∧ ∃ outline, assigningFile.outline = .ok outline ∧
      outline.height ≤ assigningFile.tree.height ∧ outline.height ≤ 500 ∧
        ∃ found, unusedNames "a.py" outline = .ok found :=
  ⟨assigningFile_shallow,
    (analysis_fails_only_as_validation assigningFile).1 assigningFile_shallow⟩

/-- How the findings on a valid file are arranged, where `unused` are those of the tracker in the order
in which scopes close. -/
structure Arranged (file : SourceFile) (settings : Settings) (outline : Outline)
    (unused found : List Diagnostic) : Prop where
  /-- They are those of both analyses, each one subject to its own rule, stably sorted by line. -/
  sorted : StablySorted ((unused ++ scanLines file.name file.text settings.maxLineLength).filter
    fun finding => settings.enables finding.rule) found
  named : ∀ finding ∈ found, finding.file = file.name
  /-- Those at line 0 come first and are those on the module, in ascending order of names. -/
  module_first : ∃ later, (∀ finding ∈ later, 0 < finding.line) ∧
    found = (if settings.enables .unusedVariable then
      outline.moduleScope.unused.map (Diagnostic.unusedVariable file.name 0) else []) ++ later
  module_ascending : outline.moduleScope.unused.Pairwise (· < ·)
  /-- On one line the unused names come first, then a length, and then a blank end. -/
  on_line : ∀ line, ∃ names long blank,
    found.filter (fun finding => finding.line = line) = names ++ long ++ blank ∧
    names = (unused.filter fun finding => finding.line = line).filter
      (fun finding => settings.enables finding.rule) ∧
    (∀ finding ∈ names, finding.rule = .unusedVariable) ∧
    long.length ≤ 1 ∧ (∀ finding ∈ long, finding.rule = .lineTooLong) ∧
    blank.length ≤ 1 ∧ ∀ finding ∈ blank, finding.rule = .trailingWhitespace

namespace SourceFile

/-- The findings of the tracker at line 0 are those on the module. -/
theorem filter_findings_zero {file : SourceFile} {outline : Outline}
    (read : file.outline = .ok outline) (name : String) :
    (outline.findings name).filter (fun finding => finding.line = 0) =
      outline.moduleScope.findings name := by
  have inner : (outline.definitions.flatMap fun scope => scope.findings name).filter
      (fun finding => finding.line = 0) = [] := by
    refine List.filter_eq_nil_iff.mpr fun finding member => ?_
    obtain ⟨scope, isDefinition, found⟩ := List.mem_flatMap.mp member
    obtain ⟨_, _, rfl⟩ := ScopeContents.mem_findings found
    have line := Outline.line_mem_of_mem_definitions outline scope isDefinition
    have positive := file.tree.lines_pos _ (outline_lines read line)
    exact fun zero => Nat.ne_of_gt positive (of_decide_eq_true zero)
  have outer : (outline.moduleScope.findings name).filter (fun finding => finding.line = 0) =
      outline.moduleScope.findings name := by
    refine List.filter_eq_self.mpr fun finding member => ?_
    obtain ⟨_, _, rfl⟩ := ScopeContents.mem_findings member
    rfl
  rw [Outline.findings, Outline.scopes, List.flatMap_append, List.filter_append, inner]
  simpa using outer

theorem scanLines_zero (file text : String) (limit : Nat) :
    (scanLines file text limit).filter (fun finding => finding.line = 0) = [] := by
  rw [filter_scanLines]
  rfl

theorem enabledOf_module (settings : Settings) (outline : Outline) (name : String) :
    enabledOf settings (outline.moduleScope.findings name) =
      if settings.enables .unusedVariable then
        outline.moduleScope.unused.map (Diagnostic.unusedVariable name 0) else [] := by
  split
  next enabled =>
    refine List.filter_eq_self.mpr fun finding member => ?_
    obtain ⟨_, _, rfl⟩ := ScopeContents.mem_findings member
    exact enabled
  next disabled =>
    refine List.filter_eq_nil_iff.mpr fun finding member => ?_
    obtain ⟨_, _, rfl⟩ := ScopeContents.mem_findings member
    exact disabled

/-- At most one finding of one rule is left of a finding that is made under a condition. -/
theorem enabledOf_ite (settings : Settings) (condition : Prop) [Decidable condition]
    (finding : Diagnostic) :
    (enabledOf settings (if condition then [finding] else [])).length ≤ 1 ∧
      ∀ given ∈ enabledOf settings (if condition then [finding] else []),
        given.rule = finding.rule := by
  constructor
  · refine Nat.le_trans (List.length_filter_le _ _) ?_
    split <;> simp
  · intro given member
    have inside := (mem_enabledOf.mp member).1
    split at inside
    · rw [List.mem_singleton.mp inside]
    · simp at inside

theorem filter_enabled_scanLines (settings : Settings) (file text : String) (limit line : Nat) :
    ∃ long blank, (enabledOf settings (scanLines file text limit)).filter
        (fun finding => finding.line = line) = long ++ blank ∧
      long.length ≤ 1 ∧ (∀ finding ∈ long, finding.rule = .lineTooLong) ∧
      blank.length ≤ 1 ∧ ∀ finding ∈ blank, finding.rule = .trailingWhitespace := by
  rw [enabledOf, List.filter_comm, filter_scanLines]
  have none : ∃ long blank : List Diagnostic,
      ([] : List Diagnostic).filter (fun finding => settings.enables finding.rule) = long ++ blank ∧
        long.length ≤ 1 ∧ (∀ finding ∈ long, finding.rule = .lineTooLong) ∧
        blank.length ≤ 1 ∧ ∀ finding ∈ blank, finding.rule = .trailingWhitespace :=
    ⟨[], [], by simp⟩
  split
  · -- On a line of the text, each of the two checks gives at most one finding.
    cases (Text.physicalLines text)[line - 1]? with
    | none => exact none
    | some content =>
      simp only [Option.elim, lineFindings, List.filter_append]
      exact ⟨_, _, rfl, (enabledOf_ite settings _ _).1, (enabledOf_ite settings _ _).2,
        (enabledOf_ite settings _ _).1, (enabledOf_ite settings _ _).2⟩
  · exact none

end SourceFile

/-- The findings on a file that passes validation, which are those that the linter returns on a text
with that file. -/
theorem findings_of_valid (file : SourceFile) (settings : Settings)
    (valid : file.validate = .ok ()) :
    ∃ outline unused found, file.outline = .ok outline ∧
      unusedNames file.name outline = .ok unused ∧ file.findings settings = .ok found ∧
        (∀ text, SourceFile.read file.name text = file →
          Linter.run ⟨file.name, settings⟩ text = .ok found) ∧
        Arranged file settings outline unused found := by
  obtain ⟨outline, read, bounded, returned⟩ := SourceFile.findings_eq valid settings
  -- The findings get a name of their own, since the sort is not to be computed.
  obtain ⟨found, isSort⟩ : ∃ found, found = sortByLine (enabledOf settings
      (outline.findings file.name ++ scanLines file.name file.text settings.maxLineLength)) := ⟨_, rfl⟩
  rw [← isSort] at returned
  refine ⟨outline, outline.findings file.name, found, read, ?_, returned, fun text isFile => ?_, ?_⟩
  · rw [unusedNames_eq]
    exact if_pos bounded
  · rw [Linter.run, lint, isFile, returned]
  -- What is sorted is both analyses, each one subject to its own rule.
  have sorted := isSort ▸ sortByLine_stable (enabledOf settings (outline.findings file.name ++
    scanLines file.name file.text settings.maxLineLength))
  exact {
    sorted := sorted
    named := by
      intro finding member
      -- Sorting and leaving out add nothing, and both analyses name the file.
      rw [isSort, (sortByLine_perm _).mem_iff] at member
      rcases List.mem_append.mp (mem_enabledOf.mp member).1 with name | line
      · obtain ⟨_, _, _, rfl⟩ := Outline.mem_findings name
        rfl
      · rcases (mem_scanFrom line).2 with shape | shape
        · rw [shape]
          rfl
        · rw [shape]
          rfl
    module_first := by
      -- A definition stands at the line of a node and a long line at its own, so neither is at 0.
      refine ⟨found.filter fun finding => 0 < finding.line, fun finding member => ?_, ?_⟩
      · exact of_decide_eq_true (List.mem_filter.mp member).2
      · refine (zero_first sorted.ascending).trans (congrArg (· ++ _) ?_)
        rw [sorted.same_line 0, enabledOf, List.filter_comm, List.filter_append,
          SourceFile.filter_findings_zero read, SourceFile.scanLines_zero, List.append_nil]
        exact SourceFile.enabledOf_module settings outline file.name
    module_ascending := (Finset.sortedLT_sort _).pairwise
    on_line := by
      intro line
      -- The sort leaves what is on one line in the order of the analyses.
      obtain ⟨long, blank, split, lengths⟩ := SourceFile.filter_enabled_scanLines settings file.name
        file.text settings.maxLineLength line
      refine ⟨_, long, blank, ?_, rfl, ?_, lengths⟩
      · rw [sorted.same_line line, enabledOf_append, List.filter_append, split, List.append_assoc,
          enabledOf, List.filter_comm]
      · intro finding member
        -- What is left of the tracker's findings on the line is about names.
        have inside := (List.mem_filter.mp (List.mem_filter.mp member).1).1
        obtain ⟨_, _, _, rfl⟩ := Outline.mem_findings inside
        rfl }

theorem assigningFile_validate : assigningFile.validate = .ok () := by
  have accepted : assigningFile.refused? = none := by
    rw [SourceFile.refused?, Cst.walk_eq_preorder]
    rfl
  rw [SourceFile.validate, assigningFile_shallow, accepted]
  rfl

theorem assigningFile_findings :
    assigningFile.validate = .ok () ∧ ∃ outline unused found,
      assigningFile.outline = .ok outline ∧ unusedNames "a.py" outline = .ok unused ∧
        assigningFile.findings {} = .ok found ∧
        (∀ text, SourceFile.read "a.py" text = assigningFile →
          Linter.run ⟨"a.py", {}⟩ text = .ok found) ∧
        Arranged assigningFile {} outline unused found :=
  ⟨assigningFile_validate, findings_of_valid assigningFile {} assigningFile_validate⟩

end ScopeCheck
