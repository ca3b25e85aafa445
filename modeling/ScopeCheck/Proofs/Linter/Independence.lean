import ScopeCheck.Proofs.Linter.Findings

/-!
# Rules do not interfere

What the linter returns is cut out of one list, which depends on the limit alone: all findings of both
analyses in the order of lines.
-/

namespace ScopeCheck

theorem Settings.enables_of_unrestricted (limit : Nat) (rule : Rule) :
    Settings.enables { maxLineLength := limit, select := [], ignore := [] } rule = true := by
  simp [enables]

theorem enabledOf_unrestricted (limit : Nat) (findings : List Diagnostic) :
    enabledOf { maxLineLength := limit, select := [], ignore := [] } findings = findings :=
  List.filter_eq_self.mpr fun finding _ => Settings.enables_of_unrestricted limit finding.rule

/-- What is kept of two selections agrees when the selections agree on what is kept. -/
theorem filter_enabledOf_congr {settings other : Settings} {keep : Rule → Bool}
    (agree : ∀ rule, keep rule = true → settings.enables rule = other.enables rule)
    (findings : List Diagnostic) :
    (enabledOf settings findings).filter (fun finding => keep finding.rule) =
      (enabledOf other findings).filter fun finding => keep finding.rule := by
  rw [enabledOf, enabledOf, List.filter_filter, List.filter_filter]
  refine List.filter_congr fun finding _ => ?_
  -- A rule that is not looked at does not matter.
  cases kept : keep finding.rule with
  | false => rfl
  | true => rw [agree finding.rule kept]

namespace SourceFile

/-- All findings on a file with an outline, in the order of lines. -/
def allFindings (file : SourceFile) (outline : Outline) (limit : Nat) : List Diagnostic :=
  sortByLine (outline.findings file.name ++ scanLines file.name file.text limit)

/-- The findings on a valid file are those of all findings whose rules are in force. -/
theorem findings_eq_filter {file : SourceFile} (valid : file.validate = .ok ()) :
    ∃ outline, ∀ settings : Settings, file.findings settings =
      .ok (enabledOf settings (file.allFindings outline settings.maxLineLength)) := by
  obtain ⟨outline, read, _⟩ := tracked_of_shallow (shallow_of_valid valid)
  refine ⟨outline, fun settings => ?_⟩
  obtain ⟨same, readAgain, _, found⟩ := findings_eq valid settings
  -- The outline is read again for each choice of settings, and is the same.
  obtain rfl : outline = same := Except.ok.inj (read.symm.trans readAgain)
  rw [found, allFindings, enabledOf, enabledOf, filter_sortByLine]

/-- Findings on anything but lengths are the same under every limit. -/
theorem filter_not_long_allFindings (file : SourceFile) (outline : Outline) (limit other : Nat) :
    (file.allFindings outline limit).filter (fun finding => finding.rule ≠ .lineTooLong) =
      (file.allFindings outline other).filter fun finding => finding.rule ≠ .lineTooLong := by
  have lines : (scanLines file.name file.text limit).filter
      (fun finding => finding.rule ≠ .lineTooLong) =
        (scanLines file.name file.text other).filter fun finding => finding.rule ≠ .lineTooLong :=
    filter_not_long_scanFrom file.name limit other 1 (Text.physicalLines file.text)
  rw [allFindings, allFindings, filter_sortByLine, filter_sortByLine, List.filter_append,
    List.filter_append, lines]

/-- A length that is found under a limit is found under a lower one, at the same line. -/
theorem long_allFindings {file : SourceFile} {outline : Outline} {limit wider : Nat}
    (lower : limit ≤ wider) {finding : Diagnostic}
    (member : finding ∈ file.allFindings outline wider) (long : finding.rule = .lineTooLong) :
    .lineTooLong file.name finding.line limit ∈ file.allFindings outline limit := by
  rw [allFindings, (sortByLine_perm _).mem_iff, List.mem_append] at member ⊢
  rcases member with name | line
  · -- A name is reported under another rule.
    obtain ⟨_, _, _, rfl⟩ := Outline.mem_findings name
    cases long
  · right
    exact long_scanFrom lower line long

end SourceFile

/-- On a valid file, settings do no more than choose among the findings of all rules: two settings with
one limit agree on the rules on which both choose alike, and a wider limit leaves all other rules alone
and adds no line that is too long. -/
theorem rules_do_not_interfere (file : SourceFile) (settings : Settings)
    (valid : file.validate = .ok ()) :
    ∃ found, file.findings settings = .ok found ∧
      (∃ all, file.findings { settings with select := [], ignore := [] } = .ok all ∧
        found = all.filter fun finding => settings.enables finding.rule) ∧
      (∀ (other : Settings) (keep : Rule → Bool), other.maxLineLength = settings.maxLineLength →
        (∀ rule, keep rule = true → settings.enables rule = other.enables rule) →
          ∃ others, file.findings other = .ok others ∧
            found.filter (fun finding => keep finding.rule) =
              others.filter fun finding => keep finding.rule) ∧
      (∀ limit, settings.maxLineLength ≤ limit →
        ∃ wider, file.findings { settings with maxLineLength := limit } = .ok wider ∧
          found.filter (fun finding => finding.rule ≠ .lineTooLong) =
            wider.filter (fun finding => finding.rule ≠ .lineTooLong) ∧
          ∀ finding ∈ wider, finding.rule = .lineTooLong →
            ∃ longer ∈ found, longer.rule = .lineTooLong ∧ longer.line = finding.line) ∧
      ∀ text, SourceFile.read file.name text = file →
        ∀ choice, Linter.run ⟨file.name, choice⟩ text = file.findings choice := by
  obtain ⟨outline, returned⟩ := SourceFile.findings_eq_filter valid
  refine ⟨_, returned settings, ?_, ?_, ?_, ?_⟩
  · refine ⟨_, returned _, ?_⟩
    rw [enabledOf_unrestricted]
    rfl
  · intro other keep limit agree
    -- One limit gives one list of all findings, out of which both runs choose.
    refine ⟨_, returned other, ?_⟩
    rw [limit]
    exact filter_enabledOf_congr agree _
  · intro limit lower
    refine ⟨_, returned _, ?_, ?_⟩
    · -- Leaving out lengths commutes with the choice of rules, which no limit changes.
      rw [enabledOf, enabledOf, List.filter_comm,
        SourceFile.filter_not_long_allFindings file outline settings.maxLineLength limit,
        List.filter_comm]
      rfl
    · intro finding member long
      -- A line that is too long under the wider limit is too long, and the rule is in force as
      -- before.
      obtain ⟨inside, enabled⟩ := mem_enabledOf.mp member
      refine ⟨.lineTooLong file.name finding.line settings.maxLineLength, ?_, rfl, rfl⟩
      refine mem_enabledOf.mpr ⟨SourceFile.long_allFindings lower inside long, ?_⟩
      rw [long] at enabled
      exact enabled
  · rintro text isFile choice
    rw [Linter.run, lint, isFile]

/-- Without the rule on names, with blanks at the end of a line alone, and with a wider limit: the
findings on blanks are the same three times. -/
theorem assigningFile_rules :
    assigningFile.validate = .ok () ∧ (3 : Nat) ≤ 80 ∧ ∃ found others wider,
      assigningFile.findings { maxLineLength := 3, ignore := ["F841"] } = .ok found ∧
      assigningFile.findings { maxLineLength := 3, select := ["W"] } = .ok others ∧
      assigningFile.findings { maxLineLength := 80, ignore := ["F841"] } = .ok wider ∧
      found.filter (fun finding => finding.rule = .trailingWhitespace) =
        others.filter (fun finding => finding.rule = .trailingWhitespace) ∧
      found.filter (fun finding => finding.rule ≠ .lineTooLong) =
        wider.filter fun finding => finding.rule ≠ .lineTooLong := by
  obtain ⟨found, returned, _, agree, wider, _⟩ := rules_do_not_interfere assigningFile
    { maxLineLength := 3, ignore := ["F841"] } assigningFile_validate
  obtain ⟨others, chosen, same⟩ := agree { maxLineLength := 3, select := ["W"] }
    (fun rule => rule = .trailingWhitespace) rfl
    (fun rule => by cases rule <;> decide)
  obtain ⟨wide, returnedWide, kept, _⟩ := wider 80 (by decide)
  exact ⟨assigningFile_validate, by decide, found, others, wide, returned, chosen, returnedWide, same,
    kept⟩

end ScopeCheck
