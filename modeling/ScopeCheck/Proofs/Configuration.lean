import ScopeCheck.Configuration

/-!
# Documents with settings

Which documents configure the linter, and to what. Each setting is left out or has the one value that
is written for the choice. The reader accepts these documents and no others.
-/

namespace ScopeCheck

/-! ### Single settings -/

/-- The choice that a value is written for, if a value is given, and the default otherwise. -/
inductive Chooses {α : Type} (default : α) (written : α → Toml) : Option Toml → α → Prop
  | byDefault : Chooses default written none default
  | given (choice : α) : Chooses default written (some (written choice)) choice

theorem elim_eq_some_iff {α : Type} {default : α} {written : α → Toml} {read? : Toml → Option α}
    (reads : ∀ value choice, read? value = some choice ↔ value = written choice)
    (value? : Option Toml) (choice : α) :
    value?.elim (some default) read? = some choice ↔ Chooses default written value? choice := by
  constructor
  · intro chosen
    cases value? with
    | none =>
      cases chosen
      exact .byDefault
    | some value =>
      -- What the reader takes for a choice is the value that is written for it.
      obtain rfl := (reads value choice).mp chosen
      exact .given choice
  · intro chooses
    cases chooses with
    | byDefault => rfl
    | given => exact (reads _ _).mpr rfl

namespace Toml

/-- The value that is written for a greatest length of lines. -/
def ofLimit (limit : Nat) : Toml := .integer limit

/-- The value that is written for some codes. -/
def ofCodes (codes : List String) : Toml := .array (codes.map .string)

theorem natural?_eq_some_iff (value : Toml) (limit : Nat) :
    value.natural? = some limit ↔ value = ofLimit limit := by
  cases value with
  | integer value =>
    simp only [natural?, ofLimit, integer.injEq]
    split
    · -- Of a number that is not negative nothing is lost.
      rw [Option.some.injEq]
      omega
    · simp only [reduceCtorEq, false_iff]
      omega
  | _ => simp [natural?, ofLimit]

theorem string?_eq_some_iff (value : Toml) (text : String) :
    value.string? = some text ↔ value = .string text := by
  cases value <;> simp [string?]

theorem mapM_string?_eq_some_iff (items : List Toml) (codes : List String) :
    items.mapM string? = some codes ↔ items = codes.map .string := by
  induction items generalizing codes with
  | nil => cases codes <;> simp
  | cons item items ih =>
    cases codes with
    | nil => simp [Option.bind_eq_some_iff]
    | cons code codes => simp [Option.bind_eq_some_iff, string?_eq_some_iff, ih]

theorem strings?_eq_some_iff (value : Toml) (codes : List String) :
    value.strings? = some codes ↔ value = ofCodes codes := by
  cases value with
  | array items => simp [strings?, ofCodes, mapM_string?_eq_some_iff]
  | _ => simp [strings?, ofCodes]

end Toml

/-! ### All settings -/

namespace Settings

/-- The settings with given values, each of which may be left out. -/
structure HasValues (maxLineLength select ignore : Option Toml) (settings : Settings) : Prop where
  maxLineLength : Chooses 80 Toml.ofLimit maxLineLength settings.maxLineLength
  select : Chooses [] Toml.ofCodes select settings.select
  ignore : Chooses [] Toml.ofCodes ignore settings.ignore

theorem ofValues?_eq_some_iff (maxLineLength select ignore : Option Toml) (settings : Settings) :
    ofValues? maxLineLength select ignore = some settings ↔
      HasValues maxLineLength select ignore settings := by
  -- Each of the three is read by its own reader, and has its own default.
  have limit (choice : Nat) : maxLineLength.elim (some 80) Toml.natural? = some choice ↔
      Chooses 80 Toml.ofLimit maxLineLength choice :=
    elim_eq_some_iff Toml.natural?_eq_some_iff maxLineLength choice
  have codes (value? : Option Toml) (choice : List String) :
      value?.elim (some []) Toml.strings? = some choice ↔ Chooses [] Toml.ofCodes value? choice :=
    elim_eq_some_iff Toml.strings?_eq_some_iff value? choice
  constructor
  · intro found
    simp only [ofValues?, Option.bind_eq_bind, Option.bind_eq_some_iff, Option.pure_def,
      Option.some.injEq] at found
    obtain ⟨chosenLimit, isLimit, chosenSelect, isSelect, chosenIgnore, isIgnore, rfl⟩ := found
    exact ⟨(limit chosenLimit).mp isLimit, (codes _ _).mp isSelect, (codes _ _).mp isIgnore⟩
  · intro values
    have isLimit := (limit _).mpr values.maxLineLength
    have isSelect := (codes _ _).mpr values.select
    have isIgnore := (codes _ _).mpr values.ignore
    simp [ofValues?, defaultMaxLineLength, isLimit, isSelect, isIgnore]

/-- What the value in place of the table stands for. -/
inductive WrittenAs (settings : Settings) : Toml → Prop
  /-- The settings stand under their keys. -/
  | table {origin : Toml.Origin} {entries : List (String × Toml)} :
    HasValues (Toml.find? "max_line_length" entries) (Toml.find? "select" entries)
      (Toml.find? "ignore" entries) settings →
    WrittenAs settings (.table origin entries)
  /-- The settings stand in a sequence, in their order. -/
  | array {items : List Toml} : HasValues items[0]? items[1]? items[2]? settings →
    WrittenAs settings (.array items)
  | rows {tables : List Toml} :
    HasValues tables.reverse[0]? tables.reverse[1]? tables.reverse[2]? settings →
    WrittenAs settings (.rows tables)
  | moment {written : String} : settings = {} → WrittenAs settings (.moment written)

theorem ofToml?_eq_some_iff (value : Toml) (settings : Settings) :
    ofToml? value = some settings ↔ WrittenAs settings value := by
  constructor
  · intro found
    cases value with
    | table => exact .table ((ofValues?_eq_some_iff _ _ _ _).mp found)
    | array => exact .array ((ofValues?_eq_some_iff _ _ _ _).mp found)
    | rows => exact .rows ((ofValues?_eq_some_iff _ _ _ _).mp found)
    | moment =>
      cases found
      exact .moment rfl
    | string | integer | float | boolean => cases found
  · intro written
    cases written with
    | table values => exact (ofValues?_eq_some_iff _ _ _ _).mpr values
    | array values => exact (ofValues?_eq_some_iff _ _ _ _).mpr values
    | rows values => exact (ofValues?_eq_some_iff _ _ _ _).mpr values
    | moment isDefault => rw [isDefault, ofToml?]

end Settings

/-! ### Documents -/

namespace Configuration

/-- A document is TOML, and its table `scopelint` is left out or has the settings. -/
inductive Gives (document : String) (settings : Settings) : Prop
  | defaults {root : Toml} : Toml.read? document = some root → root.get? "scopelint" = none →
    settings = {} → Gives document settings
  | written {root value : Toml} : Toml.read? document = some root →
    root.get? "scopelint" = some value → settings.WrittenAs value → Gives document settings

theorem settings?_eq_some_iff (document : String) (settings : Settings) :
    settings? document = some settings ↔ Gives document settings := by
  constructor
  · intro found
    rw [settings?, Option.bind_eq_bind, Option.bind_eq_some_iff] at found
    obtain ⟨root, isRoot, found⟩ := found
    cases given : root.get? "scopelint" with
    | none =>
      rw [tableName, given] at found
      cases found
      exact .defaults isRoot given rfl
    | some value =>
      rw [tableName, given] at found
      exact .written isRoot given ((Settings.ofToml?_eq_some_iff value settings).mp found)
  · intro gives
    cases gives with
    | defaults isRoot given isDefault =>
      simp [settings?, tableName, isRoot, given, isDefault]
    | written isRoot given written =>
      simp [settings?, tableName, isRoot, given,
        (Settings.ofToml?_eq_some_iff _ settings).mpr written]

/-- A document is refused where it gives no settings, and the failure is told in the words of the
reader. -/
theorem read_error_iff (refusal : Refusal) (document : String) (failure : Failure) :
    read refusal document = .error failure ↔
      (∀ settings, ¬ Gives document settings) ∧
        failure = .invalidConfiguration (refusal document) := by
  simp only [← settings?_eq_some_iff, read]
  cases settings? document with
  | none => simp [eq_comm]
  | some settings => simp

end Configuration

end ScopeCheck
