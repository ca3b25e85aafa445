import ScopeCheck.Proofs.Text.Joining

/-!
# What the unification of line endings keeps

Where line endings are unified, each lone carriage return becomes a line feed, and both are single bytes.
So no byte moves, and the lines are the same.
-/

namespace ScopeCheck.Text

open EndedLine

/-! ### Lone carriage returns -/

/-- A byte of a text is a carriage return that no line feed follows. -/
def LoneReturn (data : List UInt8) (offset : Nat) : Prop :=
  data[offset]? = some 13 ∧ data[offset + 1]? ≠ some 10

instance (data : List UInt8) (offset : Nat) : Decidable (LoneReturn data offset) :=
  inferInstanceAs (Decidable (_ ∧ _))

/-- The bytes of a text with each lone carriage return replaced by a line feed. -/
def withFeeds (data : List UInt8) : List UInt8 :=
  data.mapIdx fun offset byte => if LoneReturn data offset then 10 else byte

theorem getElem?_withFeeds (data : List UInt8) (offset : Nat) :
    (withFeeds data)[offset]? = if LoneReturn data offset then some 10 else data[offset]? := by
  rw [withFeeds, List.getElem?_mapIdx]
  split
  next lone => rw [lone.1, Option.map_some]
  next => exact Option.map_id'

theorem loneReturn_append (before after : List UInt8) (offset : Nat) :
    LoneReturn (before ++ after) (before.length + offset) ↔ LoneReturn after offset := by
  rw [LoneReturn, LoneReturn, Nat.add_assoc, List.getElem?_append_right (Nat.le_add_right _ _),
    List.getElem?_append_right (Nat.le_add_right _ _), Nat.add_sub_cancel_left,
    Nat.add_sub_cancel_left]

theorem withFeeds_append {before after : List UInt8}
    (settled : ∀ offset < before.length, ¬ LoneReturn (before ++ after) offset) :
    withFeeds (before ++ after) = before ++ withFeeds after := by
  refine List.ext_getElem? fun offset => ?_
  rw [getElem?_withFeeds]
  -- Whether a return behind the first part is alone does not depend on the first part.
  by_cases inside : offset < before.length
  · rw [if_neg (settled offset inside), List.getElem?_append_left inside,
      List.getElem?_append_left inside]
  · obtain ⟨later, rfl⟩ := Nat.exists_eq_add_of_le (Nat.le_of_not_lt inside)
    simp only [loneReturn_append, List.getElem?_append_right (Nat.le_add_right _ _),
      Nat.add_sub_cancel_left, getElem?_withFeeds]

/-- No lone carriage return is left, and none is made. -/
theorem not_loneReturn_withFeeds (data : List UInt8) (offset : Nat) :
    ¬ LoneReturn (withFeeds data) offset := by
  rintro ⟨isReturn, noFeed⟩
  rw [getElem?_withFeeds] at isReturn noFeed
  split at isReturn
  next => cases isReturn
  next settled =>
    -- A line feed follows in the data, and it is kept.
    have feed : data[offset + 1]? = some 10 := by
      by_contra other
      exact settled ⟨isReturn, other⟩
    have kept : ¬ LoneReturn data (offset + 1) := by
      rintro ⟨again, _⟩
      rw [feed] at again
      cases again
    rw [if_neg kept] at noFeed
    exact noFeed feed

theorem withFeeds_eq_self {data : List UInt8} (settled : ∀ offset, ¬ LoneReturn data offset) :
    withFeeds data = data := by
  refine List.ext_getElem? fun offset => ?_
  rw [getElem?_withFeeds, if_neg (settled offset)]

theorem not_loneReturn_of_not_mem {data : List UInt8} (clean : 13 ∉ data) (offset : Nat) :
    ¬ LoneReturn data offset :=
  fun lone => clean (List.mem_of_getElem? lone.1)

/-! ### The bytes of a text with its endings unified -/

theorem head?_bytes {text : List Char} (noFeed : text.head? ≠ some '\n') :
    (bytes text)[0]? ≠ some 10 := by
  cases text with
  | nil => simp [bytes]
  | cons c rest =>
    intro feed
    have other : c ≠ '\n' := fun same => noFeed (congrArg some same)
    have split : bytes (c :: rest) = String.utf8EncodeChar c ++ bytes rest := List.flatMap_cons
    have filled : 0 < (String.utf8EncodeChar c).length := by
      rw [String.length_utf8EncodeChar]
      exact c.utf8Size_pos
    -- The byte is one of the first character, and only a line feed has such a byte.
    rw [split, List.getElem?_append_left filled] at feed
    have member : (10 : UInt8) ∈ bytes [c] := by
      simpa [bytes] using List.mem_of_getElem? feed
    have same := (mem_bytes_iff [c] (by decide : '\n'.toNat < 128)).mp member
    exact other (List.mem_singleton.mp same).symm

theorem withFeeds_ending (ending : Ending) {after : List UInt8}
    (lone : ending = .cr → after[0]? ≠ some 10) :
    withFeeds (bytes ending.chars ++ after) = bytes ending.unified ++ withFeeds after := by
  cases ending with
  | lf =>
    refine @withFeeds_append [10] after fun offset inside isLone => ?_
    obtain rfl : offset = 0 := by simpa using inside
    simp [LoneReturn] at isLone
  | crlf =>
    refine @withFeeds_append [13, 10] after fun offset inside isLone => ?_
    -- The carriage return has its line feed, and the line feed is none.
    obtain rfl | rfl : offset = 0 ∨ offset = 1 := by
      have short : offset < 2 := inside
      omega
    · simp [LoneReturn] at isLone
    · simp [LoneReturn] at isLone
  | cr =>
    -- The carriage return is replaced, and whether one behind it is alone does not depend on it.
    have here : LoneReturn (13 :: after) 0 := ⟨rfl, by simpa using lone rfl⟩
    change withFeeds (13 :: after) = 10 :: withFeeds after
    refine List.ext_getElem? fun offset => ?_
    cases offset with
    | zero => rw [getElem?_withFeeds, if_pos here, List.getElem?_cons_zero]
    | succ offset =>
      have same : LoneReturn (13 :: after) (offset + 1) ↔ LoneReturn after offset := by
        simp [LoneReturn]
      rw [getElem?_withFeeds, List.getElem?_cons_succ, List.getElem?_cons_succ, getElem?_withFeeds]
      simp only [same]

theorem bytes_unified {lines : List EndedLine} (joinable : Joinable lines) :
    bytes (lines.flatMap unified) = withFeeds (bytes (join lines)) := by
  induction lines with
  | nil => rfl
  | cons line later ih =>
    obtain ⟨⟨_, returnFree⟩, unended, lone, rest⟩ := joinable_cons.mp joinable
    obtain ⟨content, ending⟩ := line
    have clean : 13 ∉ bytes content := fun member =>
      returnFree ((mem_bytes_iff content (by decide : '\r'.toNat < 128)).mp member)
    have split : bytes (join (⟨content, ending⟩ :: later)) =
        bytes content ++ (bytes (ending.elim [] Ending.chars) ++ bytes (join later)) := by
      simp [join, chars, bytes_append]
    -- What follows a lone carriage return begins with no line feed, since the lines can be told
    -- apart.
    have behind : withFeeds (bytes (ending.elim [] Ending.chars) ++ bytes (join later)) =
        bytes (ending.elim [] Ending.unified) ++ withFeeds (bytes (join later)) := by
      cases ending with
      | none => rfl
      | some ending =>
        exact withFeeds_ending ending fun isReturn => head?_bytes (lone (congrArg some isReturn))
    -- The content holds no carriage return, so its bytes stay whatever comes behind.
    rw [split, withFeeds_append, behind, ← ih rest]
    · simp [unified, bytes_append]
    · intro offset inside isLone
      have isReturn := isLone.1
      rw [List.getElem?_append_left inside] at isReturn
      exact clean (List.mem_of_getElem? isReturn)

/-- One byte for one byte, each lone carriage return becomes a line feed. -/
theorem bytes_unifyEndings (text : List Char) :
    bytes (unifyEndings text) = withFeeds (bytes text) := by
  rw [unifyEndings_eq, bytes_unified (cut_joinable text), join_cut]

theorem bytes_injective {left right : List Char} (same : bytes left = bytes right) :
    left = right := by
  have encoded : left.utf8Encode = right.utf8Encode := congrArg List.toByteArray same
  rw [← String.toByteArray_ofList, ← String.toByteArray_ofList, String.toByteArray_inj] at encoded
  simpa using congrArg String.toList encoded

theorem unifyEndings_eq_self {text : List Char} (settled : ∀ offset, ¬ LoneReturn (bytes text) offset) :
    unifyEndings text = text := by
  apply bytes_injective
  rw [bytes_unifyEndings, withFeeds_eq_self settled]

theorem unifyEndings_unifyEndings (text : List Char) :
    unifyEndings (unifyEndings text) = unifyEndings text := by
  refine unifyEndings_eq_self fun offset => ?_
  rw [bytes_unifyEndings]
  exact not_loneReturn_withFeeds _ offset

theorem unifyEndings_of_not_mem {text : List Char} (clean : '\r' ∉ text) :
    unifyEndings text = text := by
  refine unifyEndings_eq_self (not_loneReturn_of_not_mem fun member => ?_)
  exact clean ((mem_bytes_iff text (by decide : '\r'.toNat < 128)).mp member)

/-! ### Characters and lines -/

theorem map_utf8Size_unifyEndings (text : List Char) :
    (unifyEndings text).map Char.utf8Size = text.map Char.utf8Size := by
  have each : ∀ line : EndedLine, line.unified.map Char.utf8Size = line.chars.map Char.utf8Size := by
    rintro ⟨content, _ | ending⟩
    · rfl
    · rw [unified, chars, List.map_append, List.map_append]
      cases ending <;> rfl
  -- Both texts are made of the same lines, and the endings differ in no size.
  rw [unifyEndings_eq]
  conv => rhs; rw [← flatMap_chars_cut text]
  simp only [List.map_flatMap, each]

theorem utf8ByteSize_congr {left right : List Char}
    (same : left.map Char.utf8Size = right.map Char.utf8Size) :
    (String.ofList left).utf8ByteSize = (String.ofList right).utf8ByteSize := by
  rw [String.utf8ByteSize_ofList, String.utf8ByteSize_ofList]
  induction left generalizing right with
  | nil =>
    cases right with
    | nil => rfl
    | cons other later => cases same
  | cons c rest ih =>
    cases right with
    | nil => cases same
    | cons other later =>
      obtain ⟨size, sizes⟩ := List.cons.inj same
      rw [String.utf8Len_cons, String.utf8Len_cons, ih sizes, size]

/-- Characters begin at the same offsets. -/
theorem isValid_unifyEndings_iff (text : List Char) (offset : String.Pos.Raw) :
    String.Pos.Raw.IsValid (String.ofList (unifyEndings text)) offset ↔
      String.Pos.Raw.IsValid (String.ofList text) offset := by
  -- Characters begin where some number of them ends, and equally many take equally many bytes.
  have sizes : ∀ count, (String.ofList ((unifyEndings text).take count)).utf8ByteSize =
      (String.ofList (text.take count)).utf8ByteSize := by
    intro count
    apply utf8ByteSize_congr
    rw [List.map_take, List.map_take, map_utf8Size_unifyEndings]
  simp only [String.Pos.Raw.isValid_ofList, sizes]

/-- The line with the ending that is left where each lone carriage return is replaced. -/
def EndedLine.withoutReturn (line : EndedLine) : EndedLine :=
  { line with ending := line.ending.map fun ending => if ending = .cr then .lf else ending }

theorem chars_withoutReturn (line : EndedLine) : line.withoutReturn.chars = line.unified := by
  obtain ⟨content, _ | ending⟩ := line
  · rfl
  · cases ending <;> rfl

theorem EndedLine.Joinable.withoutReturn {lines : List EndedLine} (joinable : Joinable lines) :
    Joinable (lines.map EndedLine.withoutReturn) := by
  induction lines with
  | nil => exact joinable_nil
  | cons line later ih =>
    obtain ⟨clean, unended, _, rest⟩ := joinable_cons.mp joinable
    refine joinable_cons.mpr ⟨clean, fun none => ?_, fun isReturn => ?_, ih rest⟩
    · obtain ⟨rfl, filled⟩ := unended (Option.map_eq_none_iff.mp none)
      exact ⟨rfl, filled⟩
    · obtain ⟨ending, _, same⟩ := Option.map_eq_some_iff.mp isReturn
      split at same
      next => cases same
      next other => exact absurd same other

theorem cut_unifyEndings (text : List Char) :
    cut (unifyEndings text) = (cut text).map EndedLine.withoutReturn := by
  -- The new lines can be told apart, so it is enough that they make up the text.
  refine cut_eq_iff.mpr ⟨(cut_joinable text).withoutReturn, ?_⟩
  rw [join, List.flatMap_map, unifyEndings_eq]
  simp only [chars_withoutReturn]

theorem physicalLines_unifyEndings (text : String) :
    physicalLines (String.ofList (unifyEndings text.toList)) = physicalLines text := by
  rw [physicalLines_eq, physicalLines_eq, String.toList_ofList, cut_unifyEndings, List.map_map]
  rfl

end ScopeCheck.Text
