import Mathlib.Data.String.Basic
import ScopeCheck.Proofs.Text.Lines

/-!
# Slices of a text by byte offsets

A slice is a text only if a character begins at both offsets, the end of the text counted as the
beginning of one. Such offsets cut the text in three.
-/

namespace ScopeCheck.Text

open String.Pos.Raw (IsValid)

/-- The part of a text from one byte offset to another. There is none unless both offsets lie in the
text, in this order, each at the beginning of a character or at the end of the text. -/
def slice? (text : String) (first last : Nat) : Option String :=
  if first ≤ last ∧ String.Pos.Raw.isValid text ⟨first⟩ ∧ String.Pos.Raw.isValid text ⟨last⟩ then
    some (String.Pos.Raw.extract text ⟨first⟩ ⟨last⟩)
  else none

theorem extract_append (before part after : String) :
    String.Pos.Raw.extract (before ++ part ++ after) ⟨before.utf8ByteSize⟩
      ⟨before.utf8ByteSize + part.utf8ByteSize⟩ = part := by
  have found := String.extract_of_valid before.toList part.toList after.toList
  simp only [← String.utf8ByteSize_ofList, String.ofList_append, String.ofList_toList] at found
  exact found

theorem isValid_size (before after : String) : IsValid (before ++ after) ⟨before.utf8ByteSize⟩ :=
  String.Pos.Raw.isValid_iff_exists_append.mpr ⟨before, after, rfl, rfl⟩

/-- Two offsets at which characters begin cut a text in three. -/
theorem exists_cuts {text : String} {first last : Nat} (order : first ≤ last)
    (begins : IsValid text ⟨first⟩) (ends : IsValid text ⟨last⟩) :
    ∃ before part after, text = before ++ part ++ after ∧ before.utf8ByteSize = first ∧
      before.utf8ByteSize + part.utf8ByteSize = last := by
  obtain ⟨shorter, after, rfl, isLast⟩ := String.Pos.Raw.isValid_iff_exists_append.mp ends
  have isLast : last = shorter.utf8ByteSize := congrArg String.Pos.Raw.byteIdx isLast
  have inside : IsValid shorter ⟨first⟩ := by
    rcases String.Pos.Raw.isValid_append.mp begins with inside | ⟨beyond, _⟩
    · exact inside
    · -- The first offset does not lie beyond the second one, so both are the same.
      have same : first = shorter.utf8ByteSize := by
        have reached : shorter.utf8ByteSize ≤ first := beyond
        omega
      subst same
      have atEnd := isValid_size shorter ""
      rwa [String.append_empty] at atEnd
  obtain ⟨before, part, rfl, isFirst⟩ := String.Pos.Raw.isValid_iff_exists_append.mp inside
  have isFirst : first = before.utf8ByteSize := congrArg String.Pos.Raw.byteIdx isFirst
  refine ⟨before, part, after, rfl, isFirst.symm, ?_⟩
  rw [isLast, String.utf8ByteSize_append]

theorem slice?_eq_some_iff {text part : String} {first last : Nat} :
    slice? text first last = some part ↔ ∃ before after, text = before ++ part ++ after ∧
      before.utf8ByteSize = first ∧ before.utf8ByteSize + part.utf8ByteSize = last := by
  unfold slice?
  constructor
  · intro found
    split at found
    next valid =>
      obtain ⟨order, begins, ends⟩ := valid
      -- Valid offsets cut the text, and the slice is the part in the middle.
      rw [String.Pos.Raw.isValid_eq_true_iff] at begins ends
      obtain ⟨before, inner, after, rfl, rfl, rfl⟩ := exists_cuts order begins ends
      rw [extract_append] at found
      cases found
      exact ⟨before, after, rfl, rfl, rfl⟩
    next => simp at found
  · rintro ⟨before, after, rfl, rfl, rfl⟩
    have begins := isValid_size before (part ++ after)
    have ends := isValid_size (before ++ part) after
    rw [← String.append_assoc] at begins
    rw [String.utf8ByteSize_append] at ends
    rw [if_pos, extract_append]
    simp [String.Pos.Raw.isValid_eq_true_iff, begins, ends]

variable {text : String} {first last : Nat}

theorem bytes_extract (order : first ≤ last) (begins : IsValid text ⟨first⟩)
    (ends : IsValid text ⟨last⟩) :
    bytes (String.Pos.Raw.extract text ⟨first⟩ ⟨last⟩).toList =
      ((bytes text.toList).drop first).take (last - first) := by
  obtain ⟨before, part, after, rfl, rfl, rfl⟩ := exists_cuts order begins ends
  rw [extract_append, String.toList_append, String.toList_append, bytes_append, bytes_append,
    List.append_assoc, ← length_bytes before, List.drop_left, Nat.add_sub_cancel_left,
    ← length_bytes part, List.take_left]

/-- The bytes between two offsets at which characters begin are a text, which is the slice. -/
theorem fromUTF8?_extract (order : first ≤ last) (begins : IsValid text ⟨first⟩)
    (ends : IsValid text ⟨last⟩) :
    String.fromUTF8? (text.toUTF8.extract first last) =
      some (String.Pos.Raw.extract text ⟨first⟩ ⟨last⟩) := by
  obtain ⟨before, part, after, rfl, rfl, rfl⟩ := exists_cuts order begins ends
  -- The middle part begins where the bytes of the first one end.
  have data : (before ++ part ++ after).toUTF8.extract before.utf8ByteSize
      (before.utf8ByteSize + part.utf8ByteSize) = part.toByteArray := by
    change (before ++ part ++ after).toByteArray.extract _ _ = _
    rw [← String.utf8ByteSize_append, String.toByteArray_append, String.utf8ByteSize,
      String.utf8ByteSize, ByteArray.extract_append_size_left, String.toByteArray_append]
    exact ByteArray.extract_append_eq_right rfl ByteArray.size_append
  rw [extract_append, data, String.fromUTF8?, dif_pos part.isValidUTF8]
  rfl

end ScopeCheck.Text
