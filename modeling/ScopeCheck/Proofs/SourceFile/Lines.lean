import ScopeCheck.Proofs.Linter.Findings
import ScopeCheck.Proofs.Outline.LineOrigin
import ScopeCheck.Proofs.Text.Lines

/-!
# Line numbers denote physical lines

The line of a name comes from the row of a node, which counts line feeds in the text with its endings
unified. The line of a long line comes from the text being cut. Both mean the same line.
-/

namespace ScopeCheck

namespace Cst

/-- A tree was read from a text: rows count the line feeds of the text, and names and definitions begin
inside it. -/
structure ReadFrom (tree : Cst) (text : List Char) : Prop where
  row : ∀ found ∈ tree.nodes,
    found.2.label.start.row = Text.lineFeedsBefore text found.2.label.start.byte
  inside : ∀ found ∈ tree.nodes, found.2.entersOutline = true →
    found.2.label.start.byte < (Text.bytes text).length

/-- No child begins before its parent, so what holds a name begins inside a text if the name does. -/
def StartsNested (tree : Cst) : Prop :=
  ∀ found ∈ tree.nodes, ∀ child ∈ found.2.children,
    found.2.label.start.byte ≤ child.label.start.byte

theorem StartsNested.of_mem {tree : Cst} (nested : tree.StartsNested) {found : Way × Cst}
    (member : found ∈ tree.nodes) : found.2.StartsNested :=
  fun inner isInner => nested (found.1 ++ inner.1, inner.2) (mem_nodes_trans member isInner)

theorem StartsNested.start_le {tree : Cst} (nested : tree.StartsNested) {found : Way × Cst}
    (member : found ∈ tree.nodes) : tree.label.start.byte ≤ found.2.label.start.byte := by
  induction tree using Cst.induction generalizing found with
  | node label children ih =>
    rcases mem_nodes_iff.mp member with rfl | ⟨step, isStep, inner, isInner, rfl⟩
    · exact Nat.le_refl _
    · -- No step down goes back in the text.
      have isChild := (of_mem_steps isStep).2.2
      have first := nested _ (root_mem_nodes _) step.child isChild
      have entry := mem_nodes_of_step isStep step.child.root_mem_nodes
      have deeper := ih step.child isChild (nested.of_mem entry) isInner
      exact Nat.le_trans first deeper

end Cst

namespace SourceFile

/-- A number denotes the physical line that a scan gives this number, and a node of this line begins
there. -/
structure DenotesLine (file : SourceFile) (line : Nat) : Prop where
  first : 1 ≤ line
  last : line ≤ (Text.physicalLines file.text).length
  begun : ∃ found ∈ file.tree.nodes, found.2.label.line = line ∧
    Text.OnLine file.text (line - 1) found.2.label.start.byte
  scanned : ∃ content, (Text.physicalLines file.text)[line - 1]? = some content ∧
    ∀ limit, (scanLines file.name file.text limit).filter (fun finding => finding.line = line) =
      lineFindings file.name limit line content

variable {file : SourceFile} {outline : Outline}

theorem begins_inside (reads : file.tree.ReadFrom (Text.unifyEndings file.text.toList))
    {found : Cst.Way × Cst} (member : found ∈ file.tree.nodes)
    (enters : found.2.entersOutline = true) :
    found.2.label.start.byte < file.text.utf8ByteSize := by
  rw [← Text.length_bytes_unifyEndings]
  exact reads.inside found member enters

/-- The line of a node that begins inside the text denotes the physical line on which it begins. -/
theorem denotesLine_of_node (reads : file.tree.ReadFrom (Text.unifyEndings file.text.toList))
    {found : Cst.Way × Cst} (member : found ∈ file.tree.nodes)
    (inside : found.2.label.start.byte < file.text.utf8ByteSize) :
    file.DenotesLine found.2.label.line := by
  -- The node begins on some line, and its row counts the lines before that one.
  obtain ⟨index, bound, lies⟩ := Text.exists_onLine inside
  have row : found.2.label.start.row = index :=
    (reads.row found member).trans (Text.lineFeedsBefore_eq lies)
  have line : found.2.label.line = index + 1 := congrArg (· + 1) row
  rw [line]
  refine ⟨Nat.le_add_left 1 index, bound, ⟨found, member, line, lies⟩, ?_⟩
  refine ⟨(Text.physicalLines file.text)[index], List.getElem?_eq_getElem bound, fun limit => ?_⟩
  rw [filter_scanLines, if_pos (Nat.le_add_left 1 index), Nat.add_sub_cancel,
    List.getElem?_eq_getElem bound]
  rfl

/-- An unused name that is not reported at line 0 is reported at the line of a definition. -/
theorem denotesLine_of_unused (reads : file.tree.ReadFrom (Text.unifyEndings file.text.toList))
    (read : file.outline = .ok outline) {finding : Diagnostic}
    (member : finding ∈ outline.findings file.name) (positive : 0 < finding.line) :
    file.DenotesLine finding.line := by
  obtain ⟨scope, isScope, name, rfl⟩ := Outline.mem_findings member
  rcases List.mem_append.mp isScope with isDefinition | isModule
  · -- A scope other than the module stands at the line of its definition.
    obtain ⟨found, isNode, line, enters⟩ := definition_line_origin read isDefinition
    exact line ▸ denotesLine_of_node reads isNode (begins_inside reads isNode enters)
  · rw [List.mem_singleton.mp isModule] at positive
    exact absurd positive (Nat.lt_irrefl 0)

/-- The unused names among the findings on a file are those of its outline. -/
theorem mem_findings_unused {settings : Settings} {found : List Diagnostic}
    (returned : file.findings settings = .ok found) {finding : Diagnostic}
    (member : finding ∈ found) (unused : finding.rule = .unusedVariable) :
    ∃ outline, file.outline = .ok outline ∧ finding ∈ outline.findings file.name := by
  cases validated : file.validate with
  | error failure =>
    rw [(file.findings_error_iff settings failure).mpr validated] at returned
    cases returned
  | ok _ =>
    obtain ⟨outline, read, _, sorted⟩ := findings_eq validated settings
    obtain rfl := Except.ok.inj (sorted.symm.trans returned)
    rw [(sortByLine_perm _).mem_iff] at member
    refine ⟨outline, read, (List.mem_append.mp (mem_enabledOf.mp member).1).resolve_right ?_⟩
    -- What the scan of the lines finds is of other rules.
    intro scanned
    rcases (mem_scanFrom scanned).2 with shape | shape <;> rw [shape] at unused <;> cases unused

end SourceFile

/-- Every offset of a text lies on a line, and the line feeds before it in the text with its endings
unified are as many as the lines before that line. So, for a tree that was read from that text, each
line of the outline and each line above 0 of an unused name denotes a physical line. -/
theorem lines_denote_physical_lines (file : SourceFile) :
    ((Text.cut file.text.toList).flatMap Text.EndedLine.chars = file.text.toList ∧
      Text.physicalLines file.text =
        (Text.cut file.text.toList).map fun line => String.ofList line.content) ∧
    (∀ offset < file.text.utf8ByteSize, ∃ index < (Text.physicalLines file.text).length,
      Text.OnLine file.text index offset) ∧
    (∀ index offset, Text.OnLine file.text index offset →
      Text.lineFeedsBefore (Text.unifyEndings file.text.toList) offset = index) ∧
    (file.tree.ReadFrom (Text.unifyEndings file.text.toList) →
      (file.tree.StartsNested → ∀ outline, file.outline = .ok outline →
        ∀ line ∈ outline.lines, file.DenotesLine line) ∧
      (∀ outline found, file.outline = .ok outline → unusedNames file.name outline = .ok found →
        ∀ finding ∈ found, 0 < finding.line → file.DenotesLine finding.line) ∧
      ∀ settings found, file.findings settings = .ok found →
        ∀ finding ∈ found, finding.rule = .unusedVariable → 0 < finding.line →
          file.DenotesLine finding.line) := by
  refine ⟨⟨Text.flatMap_chars_cut _, Text.physicalLines_eq _⟩, fun offset inside => ?_,
    fun index offset => Text.lineFeedsBefore_eq, fun reads => ⟨?_, ?_, ?_⟩⟩
  · obtain ⟨index, bound, lies⟩ := Text.exists_onLine inside
    exact ⟨index, bound, lies⟩
  · intro nested outline read line member
    obtain ⟨outer, isOuter, rfl, inner, isInner, enters⟩ :=
      SourceFile.outline_line_origin read member
    -- The node whose line is taken begins no later than the name that it holds.
    have below := (nested.of_mem isOuter).start_le isInner
    have inside := SourceFile.begins_inside reads (Cst.mem_nodes_trans isOuter isInner) enters
    exact SourceFile.denotesLine_of_node reads isOuter (Nat.lt_of_le_of_lt below inside)
  · intro outline found read tracked finding member positive
    -- What the tracker returns is what is found in the outline.
    rw [unusedNames_eq] at tracked
    split at tracked
    · cases tracked
      exact SourceFile.denotesLine_of_unused reads read member positive
    · cases tracked
  · intro settings found returned finding member unused positive
    obtain ⟨outline, read, inside⟩ := SourceFile.mem_findings_unused returned member unused
    exact SourceFile.denotesLine_of_unused reads read inside positive

/-- A comment whose line ends in a lone carriage return, an empty line that ends in two characters, and
a function whose lines end in a carriage return and in a line feed. -/
def mixedFile : SourceFile where
  name := "m.py"
  text := "#é\r\r\ndef f():\r\ty = 2\n"
  tree := .node { kind := "module", stop := 22 }
    [.node { kind := "comment", stop := 3 } [],
      .node { kind := "function_definition", start := ⟨6, 2, 0⟩, stop := 21 }
        [.node { kind := "identifier", field := some "name", start := ⟨10, 2, 4⟩, stop := 11 } [],
          .node { kind := "parameters", field := some "parameters", start := ⟨11, 2, 5⟩, stop := 13 }
            [],
          .node { kind := "block", field := some "body", start := ⟨16, 3, 1⟩, stop := 21 }
            [.node { kind := "assignment", start := ⟨16, 3, 1⟩, stop := 21 }
              [.node { kind := "identifier", field := some "left", start := ⟨16, 3, 1⟩, stop := 17 } [],
                .node { kind := "integer", field := some "right", start := ⟨20, 3, 5⟩, stop := 21 }
                  []]]]]

theorem mixedFile_readFrom : mixedFile.tree.ReadFrom (Text.unifyEndings mixedFile.text.toList) :=
  ⟨by decide, by decide⟩

def mixedOutline : Outline :=
  .module [.function "f" 3 [] [.group "block" [.group "assignment" [.binding "y" 4]]]]

theorem mixedFile_outline : mixedFile.outline = .ok mixedOutline := by
  have shallow : mixedFile.tooDeep? = none := (SourceFile.tooDeep?_eq_none_iff _).mpr (by decide)
  rw [SourceFile.outline, shallow]
  rfl

theorem mixedOutline_unused :
    unusedNames "m.py" mixedOutline = .ok [.unusedVariable "m.py" 3 "y"] := rfl

theorem mixedFile_lines :
    Text.physicalLines mixedFile.text = ["#é", "", "def f():", "\ty = 2"] ∧
    mixedFile.tree.ReadFrom (Text.unifyEndings mixedFile.text.toList) ∧
    mixedFile.tree.StartsNested ∧ mixedFile.outline = .ok mixedOutline ∧
    mixedFile.DenotesLine 4 ∧
    unusedNames "m.py" mixedOutline = .ok [.unusedVariable "m.py" 3 "y"] ∧
    mixedFile.DenotesLine 3 := by
  have nested : mixedFile.tree.StartsNested := by
    unfold Cst.StartsNested
    decide
  obtain ⟨-, -, -, assumed⟩ := lines_denote_physical_lines mixedFile
  obtain ⟨lines, unused, -⟩ := assumed mixedFile_readFrom
  refine ⟨by decide, mixedFile_readFrom, nested, mixedFile_outline, ?_, mixedOutline_unused, ?_⟩
  · exact lines nested _ mixedFile_outline 4 (by decide)
  · exact unused _ _ mixedFile_outline mixedOutline_unused _ List.mem_cons_self (by decide)

end ScopeCheck
