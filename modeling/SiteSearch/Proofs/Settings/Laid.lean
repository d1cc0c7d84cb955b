import Mathlib.Data.List.TakeWhile
import SiteSearch.Proofs.Json.Members
import SiteSearch.Proofs.Text.SmallLetters
import SiteSearch.Settings.Load

/-!
# Sources laid over one another

What a key has after a source was laid over a sheet: the last value that the source gives it, and
what the sheet had if it gives none (`Sheet.get?_putAll`). This holds of flat sources, which give
scalars to the names of settings; those names are read as paths without steps, so nothing that a
flat source gives reaches into the value of another key.
-/

namespace SiteSearch.Settings

open SiteSearch.Text

/-! ## Names -/

/-- The names of the settings. -/
def names : List String := fields.map (·.name)

theorem forall_names : ∀ key ∈ names, foldCase key = key ∧ key.toList ≠ [] ∧
    key.toList.all (IsAscii ·) = true ∧ key.toList.all KeyPath.isNameChar = true := by
  decide

theorem lower_of_mem_names {key : String} (h : key ∈ names) : lower key = key := by
  obtain ⟨hsmall, -, hascii, -⟩ := forall_names key h
  rw [lower_of_isAscii hascii, hsmall]

theorem ofKey_of_mem_names {key : String} (h : key ∈ names) : KeyPath.ofKey key = ⟨key, []⟩ := by
  obtain ⟨-, hne, -, hchars⟩ := forall_names key h
  have hall : ∀ c ∈ key.toList, KeyPath.isNameChar c = true := List.all_eq_true.mp hchars
  have htake : key.toList.takeWhile KeyPath.isNameChar = key.toList :=
    List.takeWhile_eq_self_iff.mpr hall
  have hdrop : key.toList.dropWhile KeyPath.isNameChar = [] := List.dropWhile_eq_nil_iff.mpr hall
  have hsteps : KeyPath.readSteps? [] = some [] := by rw [KeyPath.readSteps?]
  have hread : KeyPath.read? key = some ⟨key, []⟩ := by
    rw [KeyPath.read?, htake, hdrop, hsteps]
    obtain ⟨c, cs, hkey⟩ := List.exists_cons_of_ne_nil hne
    rw [hkey]
    simp only [Option.map_some]
    rw [← hkey, String.ofList_toList]
  rw [KeyPath.ofKey, hread, Option.getD_some]

/-! ## Sources -/

/-- The value is a single one: no array, no table, and not nothing. -/
inductive Value.IsScalar : Value → Prop where
  | boolean (value : Bool) : IsScalar (.boolean value)
  | integer (value : Int64) : IsScalar (.integer value)
  | float (value : Decimal.Extended) : IsScalar (.float value)
  | text (value : String) : IsScalar (.text value)

instance (value : Value) : Decidable value.IsScalar :=
  match value with
  | .boolean b => isTrue (.boolean b)
  | .integer n => isTrue (.integer n)
  | .float x => isTrue (.float x)
  | .text s => isTrue (.text s)
  | .unit => isFalse nofun
  | .sequence => isFalse nofun
  | .table _ => isFalse nofun

/-- Every scalar is some text. -/
theorem Value.IsScalar.exists_toText {value : Value} (h : value.IsScalar) :
    ∃ x, value.toText = .ok x := by
  cases h with
  | boolean => exact ⟨_, rfl⟩
  | integer => exact ⟨_, rfl⟩
  | float => exact ⟨_, rfl⟩
  | text => exact ⟨_, rfl⟩

/-- What a source gives, in the order in which it is laid, and what messages call the source. -/
structure Source where
  values : List (String × Value)
  origin : String

namespace Source

/-- The source gives scalars to settings and nothing else. -/
def IsFlat (source : Source) : Prop :=
  ∀ entry ∈ source.values, entry.1 ∈ names ∧ entry.2.IsScalar

instance (source : Source) : Decidable source.IsFlat :=
  inferInstanceAs (Decidable (∀ entry ∈ source.values, entry.1 ∈ names ∧ entry.2.IsScalar))

/-- The value that a source gives to a key: the last one under it. -/
def value? (source : Source) (key : String) : Option Value := source.values.reverse.lookup key

/-- The value of a key and where it came from. -/
def entryOf? (source : Source) (key : String) : Option Entry :=
  (source.value? key).map (⟨·, some source.origin⟩)

theorem IsFlat.isScalar_of_value? {source : Source} (h : source.IsFlat) {key : String}
    {value : Value} (hvalue : source.value? key = some value) : value.IsScalar := by
  obtain ⟨before, after, hvalues, -⟩ := List.lookup_eq_some_iff.mp hvalue
  apply (h (key, value) _).2
  rw [← List.mem_reverse, hvalues]
  simp

end Source

/-! ## Sheets -/

namespace Sheet

theorem get?_cons (name key : String) (entry : Entry) (sheet : Sheet) :
    get? ((name, entry) :: sheet) key = if key = name then some entry else sheet.get? key :=
  lookup_cons_eq_ite name key entry sheet

theorem get?_set (sheet : Sheet) (name key : String) (entry : Entry) :
    (sheet.set name entry).get? key = if key = name then some entry else sheet.get? key := by
  induction sheet with
  | nil => rw [set, get?_cons]
  | cons e rest ih =>
    obtain ⟨k, e⟩ := e
    rw [set, get?_cons]
    by_cases hk : k = name
    · rw [if_pos hk, get?_cons, hk]
      by_cases hkey : key = name <;> simp [hkey]
    · rw [if_neg hk, get?_cons, ih]
      by_cases hkey : key = k
      · simp [hkey, hk]
      · simp [hkey]

/-- A scalar under the name of a setting takes the place of what the setting had. -/
theorem putPath_of_mem_names {key : String} {value : Value} (hkey : key ∈ names)
    (hvalue : value.IsScalar) (sheet : Sheet) (origin : Option String) :
    sheet.putPath (.ofKey (lower key)) value origin = sheet.set key ⟨value, origin⟩ := by
  rw [lower_of_mem_names hkey, ofKey_of_mem_names hkey, putPath]
  cases hvalue <;> rfl

/-- A flat source gives each setting its last value and leaves the other settings as they were. -/
theorem get?_putAll {source : Source} (h : source.IsFlat) (sheet : Sheet) (key : String) :
    (sheet.putAll source.values (some source.origin)).get? key =
      (source.entryOf? key).or (sheet.get? key) := by
  obtain ⟨values, origin⟩ := source
  induction values generalizing sheet with
  | nil => rfl
  | cons entry rest ih =>
    obtain ⟨name, value⟩ := entry
    obtain ⟨hname, hscalar⟩ := h (name, value) List.mem_cons_self
    have hrest : Source.IsFlat ⟨rest, origin⟩ := fun e he => h e (List.mem_cons_of_mem _ he)
    have hstep : sheet.putAll ((name, value) :: rest) (some origin) =
        (sheet.set name ⟨value, some origin⟩).putAll rest (some origin) := by
      rw [putAll, List.foldl_cons, putPath_of_mem_names hname hscalar]
      rfl
    rw [hstep, ih _ hrest, get?_set]
    simp only [Source.entryOf?, Source.value?, List.reverse_cons, List.lookup_append]
    cases hlater : rest.reverse.lookup key with
    | some later => rfl
    | none =>
      by_cases hkey : key = name <;> simp [lookup_cons_eq_ite, hkey]

end Sheet

end SiteSearch.Settings
