import ScopeCheck.Folder
import ScopeCheck.Json.Reader
import ScopeCheck.Main
import ScopeCheck.Proofs.CommandLine
import ScopeCheck.Proofs.Cst.Moves
import ScopeCheck.Proofs.LineScan.Verdicts
import ScopeCheck.Proofs.Linter.Independence
import ScopeCheck.Proofs.Outline.Annotations
import ScopeCheck.Proofs.Outline.Deletion
import ScopeCheck.Proofs.Outline.Parameters
import ScopeCheck.Proofs.Outline.WithItems
import ScopeCheck.Proofs.Report.Exchange
import ScopeCheck.Proofs.Scope.Frame
import ScopeCheck.Proofs.Scope.Rearrangement
import ScopeCheck.Proofs.SourceFile.Lines
import ScopeCheck.Proofs.SourceFile.Offsets
import ScopeCheck.Proofs.SourceFile.Validation
