import ScopeCheck.Proofs.Text.Unification
import ScopeCheck.SourceFile.Basic

/-!
# Offsets in the text as it is parsed and as it is kept

A file is parsed with its line endings unified, and the text for which a node stands is taken from the
file as it was. Both texts have the same offsets.
-/

namespace ScopeCheck

open Text (bytes LoneReturn)
open String.Pos.Raw (IsValid)

namespace SourceFile

/-- The text as it is parsed, with its line endings unified. -/
def parsedText (file : SourceFile) : String := String.ofList (Text.unifyEndings file.text.toList)

variable (file : SourceFile)

theorem bytes_parsedText :
    bytes file.parsedText.toList = Text.withFeeds (bytes file.text.toList) := by
  rw [parsedText, String.toList_ofList, Text.bytes_unifyEndings]

theorem isValid_parsedText_iff (offset : String.Pos.Raw) :
    IsValid file.parsedText offset ↔ IsValid file.text offset := by
  rw [parsedText, Text.isValid_unifyEndings_iff, String.ofList_toList]

variable {file}

/-- Where characters begin at both of its offsets, the text for which a node stands is the slice. -/
theorem textOf_eq_extract {label : Cst.Label} (order : label.start.byte ≤ label.stop)
    (begins : IsValid file.text ⟨label.start.byte⟩) (ends : IsValid file.text ⟨label.stop⟩) :
    file.textOf label = String.Pos.Raw.extract file.text ⟨label.start.byte⟩ ⟨label.stop⟩ := by
  rw [textOf, Text.fromUTF8?_extract order begins ends, Option.getD_some]

variable {first last : Nat}

/-- Between two offsets, only the lone carriage returns are not as they were parsed. -/
theorem bytes_between (order : first ≤ last) (begins : IsValid file.parsedText ⟨first⟩)
    (ends : IsValid file.parsedText ⟨last⟩) :
    bytes (String.Pos.Raw.extract file.text ⟨first⟩ ⟨last⟩).toList =
      (bytes (String.Pos.Raw.extract file.parsedText ⟨first⟩ ⟨last⟩).toList).mapIdx
        fun offset byte => if LoneReturn (bytes file.text.toList) (first + offset) then 13 else byte := by
  have kept := Text.bytes_extract order ((isValid_parsedText_iff file _).mp begins)
    ((isValid_parsedText_iff file _).mp ends)
  have parsed := Text.bytes_extract order begins ends
  rw [bytes_parsedText] at parsed
  -- Both slices are the same stretch of bytes, so they are compared byte by byte.
  rw [kept, parsed]
  refine List.ext_getElem? fun offset => ?_
  rw [List.getElem?_mapIdx, List.getElem?_take, List.getElem?_take]
  by_cases inside : offset < last - first
  · rw [if_pos inside, if_pos inside, List.getElem?_drop, List.getElem?_drop,
      Text.getElem?_withFeeds]
    -- A replaced byte was a carriage return, and all others are kept.
    split
    next lone => exact lone.1
    next => exact Option.map_id'.symm
  · rw [if_neg inside, if_neg inside, Option.map_none]

end SourceFile

/-- The text that is parsed has the bytes of the text that is kept, but for a line feed in the place of
each lone carriage return. So it has the same length, characters begin at the same offsets, and its
physical lines are the same; it holds no lone carriage return, and unifying its endings once more, or
those of a text without carriage returns, changes nothing. Hence, between two offsets at which
characters begin in the text that is parsed, the bytes of the file are a text, the one for which a
node with these offsets stands, and it is what was parsed there, with its lone carriage returns. -/
theorem offsets_of_parsedText (file : SourceFile) :
    bytes file.parsedText.toList = (bytes file.text.toList).mapIdx
      (fun offset byte => if LoneReturn (bytes file.text.toList) offset then 10 else byte) ∧
    file.parsedText.utf8ByteSize = file.text.utf8ByteSize ∧
    (∀ offset, IsValid file.parsedText offset ↔ IsValid file.text offset) ∧
    (∀ offset, ¬ LoneReturn (bytes file.parsedText.toList) offset) ∧
    Text.unifyEndings file.parsedText.toList = file.parsedText.toList ∧
    Text.physicalLines file.parsedText = Text.physicalLines file.text ∧
    ('\r' ∉ file.text.toList → file.parsedText = file.text) ∧
    ∀ label : Cst.Label, label.start.byte ≤ label.stop →
      IsValid file.parsedText ⟨label.start.byte⟩ → IsValid file.parsedText ⟨label.stop⟩ →
      String.fromUTF8? (file.text.toUTF8.extract label.start.byte label.stop) =
        some (file.textOf label) ∧
      bytes (file.textOf label).toList =
        (bytes (String.Pos.Raw.extract file.parsedText ⟨label.start.byte⟩ ⟨label.stop⟩).toList).mapIdx
          fun offset byte =>
            if LoneReturn (bytes file.text.toList) (label.start.byte + offset) then 13 else byte := by
  refine ⟨file.bytes_parsedText, ?_, file.isValid_parsedText_iff, fun offset => ?_, ?_,
    Text.physicalLines_unifyEndings file.text, fun clean => ?_, fun label order begins ends => ?_⟩
  · rw [← Text.length_bytes, SourceFile.parsedText, String.toList_ofList,
      Text.length_bytes_unifyEndings]
  · rw [file.bytes_parsedText]
    exact Text.not_loneReturn_withFeeds _ offset
  · rw [SourceFile.parsedText, String.toList_ofList, Text.unifyEndings_unifyEndings]
  · rw [SourceFile.parsedText, Text.unifyEndings_of_not_mem clean, String.ofList_toList]
  · -- The offsets serve for the text that is kept, so the bytes between them can be decoded.
    have keptBegins := (file.isValid_parsedText_iff _).mp begins
    have keptEnds := (file.isValid_parsedText_iff _).mp ends
    rw [SourceFile.textOf_eq_extract order keptBegins keptEnds]
    exact ⟨Text.fromUTF8?_extract order keptBegins keptEnds,
      SourceFile.bytes_between order begins ends⟩

/-- Two bytes of one character, three carriage returns, of which two are alone, and a name. -/
def returnsFile : SourceFile where
  name := "m.py"
  text := "é\r\r\nab\r"
  tree := .node { kind := "module", stop := 8 } []

theorem returnsFile_offsets :
    returnsFile.parsedText = "é\n\r\nab\n" ∧
    ¬ IsValid returnsFile.parsedText ⟨1⟩ ∧ ¬ IsValid returnsFile.text ⟨1⟩ ∧
    IsValid returnsFile.parsedText ⟨2⟩ ∧ IsValid returnsFile.parsedText ⟨7⟩ ∧
    String.fromUTF8? (returnsFile.text.toUTF8.extract 2 7) = some "\r\r\nab" ∧
    String.Pos.Raw.extract returnsFile.parsedText ⟨2⟩ ⟨7⟩ = "\n\r\nab" ∧
    SourceFile.parsedText { returnsFile with text := "é\nab" } = "é\nab" := by
  obtain ⟨-, -, boundaries, -, -, -, -, slices⟩ := offsets_of_parsedText returnsFile
  have parsed : returnsFile.parsedText = "é\n\r\nab\n" := rfl
  have begins : IsValid returnsFile.parsedText ⟨2⟩ :=
    String.Pos.Raw.isValid_eq_true_iff.mp (by decide)
  have ends : IsValid returnsFile.parsedText ⟨7⟩ :=
    String.Pos.Raw.isValid_eq_true_iff.mp (by decide)
  have inside : ¬ IsValid returnsFile.parsedText ⟨1⟩ := by
    rw [← String.Pos.Raw.isValid_eq_true_iff]
    decide
  obtain ⟨whole, -⟩ := slices { kind := "", start := ⟨2, 0, 2⟩, stop := 7 } (by decide) begins ends
  obtain ⟨-, -, -, -, -, -, unchanged, -⟩ :=
    offsets_of_parsedText { returnsFile with text := "é\nab" }
  exact ⟨parsed, inside, fun valid => inside ((boundaries _).mpr valid), begins, ends, whole, by rfl,
    unchanged (by decide)⟩

end ScopeCheck
