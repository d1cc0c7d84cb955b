import SiteSearch.Proofs.Settings.Layered
import SiteSearch.Proofs.Settings.Variables

/-!
# Texts through variables

Four settings are texts. Each of them can be given by its variable alone, and any text will do: the
settings are loaded, and no other setting is touched. The text itself arrives as it was unless it
can be read as a boolean or a number (`load_variable`).
-/

namespace SiteSearch.Settings

open SiteSearch.Text SiteSearch.Decimal

/-- A setting that is a text. -/
inductive TextSetting where
  | apiUrl
  | apiKey
  | indexName
  | logLevel
  deriving DecidableEq, Repr

namespace TextSetting

def name : TextSetting → String
  | .apiUrl => "api_url"
  | .apiKey => "api_key"
  | .indexName => "index_name"
  | .logLevel => "log_level"

def get : TextSetting → Settings → String
  | .apiUrl, s => s.apiUrl
  | .apiKey, s => s.apiKey
  | .indexName, s => s.indexName
  | .logLevel, s => s.logLevel

/-- The settings with another text in the place of one. -/
def put (w : String) (s : Settings) : TextSetting → Settings
  | .apiUrl => { s with apiUrl := w }
  | .apiKey => { s with apiKey := w }
  | .indexName => { s with indexName := w }
  | .logLevel => { s with logLevel := w }

theorem name_mem_names (setting : TextSetting) : setting.name ∈ names := by
  cases setting <;> decide

theorem name_inj {setting other : TextSetting} : setting.name = other.name ↔ setting = other := by
  cases setting <;> cases other <;> decide

theorem get_put (setting other : TextSetting) (w : String) (s : Settings) :
    other.get (setting.put w s) = if other = setting then w else other.get s := by
  cases setting <;> cases other <;> rfl

end TextSetting

/-- The text is what itself is read as, written out. -/
inductive Kept (v : String) : Prop where
  | unread (noWord : ∀ b, foldCase v ≠ boolText b) (noNumber : ∀ x, ¬ FloatLiteral v.toList x)
  | boolean {b : Bool} (written : v = boolText b)
  | integer {n : Int64} (written : v = toString n.toInt)
  | float {x : Extended} (noInteger : ∀ n : Int64, ¬ IntegerLiteral v.toList n.toInt)
      (literal : FloatLiteral v.toList x) (written : v = floatText x)

theorem Arrives.kept {v w : String} (h : Arrives v w) (hw : w = v) : Kept v := by
  cases h with
  | boolean => exact .boolean hw.symm
  | integer => exact .integer hw.symm
  | float noInteger literal => exact .float noInteger literal hw.symm
  | text noWord noNumber => exact .unread noWord noNumber

theorem Kept.arrives {v : String} (h : Kept v) : Arrives v v := by
  cases h with
  | unread noWord noNumber => exact .text noWord noNumber
  | @boolean b written =>
    have hword : foldCase (boolText b) = boolText b := by cases b <;> decide
    rw [written]
    exact .boolean hword
  | @integer n written =>
    rw [written]
    exact .integer (integerLiteral_toString n.toInt)
  | float noInteger literal written =>
    have harrives := Arrives.float noInteger literal
    rwa [← written] at harrives

/-- One text arrives. -/
theorem Arrives.unique {v w w' : String} (h : Arrives v w) (h' : Arrives v w') : w = w' := by
  have htexts := (toText_ofVariable_iff.mpr h).symm.trans (toText_ofVariable_iff.mpr h')
  exact Except.ok.inj htexts

theorem exists_arrives (v : String) : ∃ w, Arrives v w := by
  obtain ⟨w, hw⟩ := (isScalar_ofVariable v).exists_toText
  exact ⟨w, toText_ofVariable_iff.mp hw⟩

section Loading

variable {setting : TextSetting} {v w : String} {around : Surroundings}
  {before after : List (String × String)}

/-- One variable holds a setting, and there is no file. -/
def alone (around : Surroundings) (before : List (String × String)) (setting : TextSetting)
    (v : String) (after : List (String × String)) : Surroundings where
  __ := around
  text? := fun _ => none
  environment := before ++ (variableName setting.name, v) :: after

theorem ofVariables_alone (hforeign : ∀ e ∈ before ++ after, variableKey? e.1 = none) :
    ofVariables (alone around before setting v after).environment =
      [(setting.name, .ofVariable v)] := by
  have hbefore : ∀ e ∈ before, variableKey? e.1 = none :=
    fun e he => hforeign e (List.mem_append_left _ he)
  have hafter : ∀ e ∈ after, variableKey? e.1 = none :=
    fun e he => hforeign e (List.mem_append_right _ he)
  rw [alone, ofVariables_append, ofVariables_of_foreign hbefore,
    ofVariables_cons_variableName setting.name_mem_names, ofVariables_of_foreign hafter,
    List.nil_append]

theorem gives_alone (hforeign : ∀ e ∈ before ++ after, variableKey? e.1 = none) :
    (alone around before setting v after).Gives none
      [⟨[(setting.name, .ofVariable v)], "the environment"⟩] := by
  have habsent : ∀ name file,
      (alone around before setting v after).find name ≠ .ok file := by
    intro name file
    rw [find_eq_fileNotFound_iff.mpr ⟨rfl, fun _ _ => rfl⟩]
    exact nofun
  have hsource : environmentSource (alone around before setting v after).environment =
      ⟨[(setting.name, .ofVariable v)], "the environment"⟩ := by
    rw [environmentSource, ofVariables_alone hforeign]
  rw [← hsource]
  refine .intro .unnamed (.missing (habsent _)) ?_
  rintro source hmem
  obtain rfl := List.mem_singleton.mp hmem
  rw [hsource]
  rintro entry hentry
  obtain rfl := List.mem_singleton.mp hentry
  exact ⟨setting.name_mem_names, isScalar_ofVariable v⟩

theorem topValue?_single (name key origin : String) (value : Value) :
    topValue? [⟨[(name, value)], origin⟩] key = if key = name then some value else none := by
  by_cases h : key = name <;> simp [topValue?, Source.value?, lookup_cons_eq_ite, h]

/-- The text arrives in its setting, and the others have their standard values. -/
theorem follows_put {origin : String} (h : Arrives v w) :
    Follows none none (topValue? [⟨[(setting.name, .ofVariable v)], origin⟩])
      (setting.put w {}) := by
  have htext : ∀ other : TextSetting, Resolves Value.toText (other.get {})
      (topValue? [⟨[(setting.name, .ofVariable v)], origin⟩] other.name)
      (other.get (setting.put w {})) := by
    intro other
    rw [topValue?_single, TextSetting.get_put]
    by_cases hother : other = setting
    · rw [if_pos (TextSetting.name_inj.mpr hother), if_pos hother]
      exact .given (toText_ofVariable_iff.mpr h)
    · rw [if_neg (mt TextSetting.name_inj.mp hother), if_neg hother]
      exact .standard
  have hother : ∀ {α : Type} {take : Value → Except Mismatch α} {standard x : α} {key : String},
      key ≠ setting.name → x = standard →
      Resolves take standard (topValue? [⟨[(setting.name, .ofVariable v)], origin⟩] key) x := by
    rintro α take standard x key hkey rfl
    rw [topValue?_single, if_neg hkey]
    exact .standard
  exact {
    apiUrl := .untyped (htext .apiUrl)
    apiKey := htext .apiKey
    indexName := htext .indexName
    logLevel := .untyped (htext .logLevel)
    resultsPerPage := hother (by cases setting <;> decide) (by cases setting <;> rfl)
    files := hother (by cases setting <;> decide) (by cases setting <;> rfl)
    posts := hother (by cases setting <;> decide) (by cases setting <;> rfl)
    pages := hother (by cases setting <;> decide) (by cases setting <;> rfl)
    faqs := hother (by cases setting <;> decide) (by cases setting <;> rfl)
    events := hother (by cases setting <;> decide) (by cases setting <;> rfl)
    searchTimeoutSecs := hother (by cases setting <;> decide) (by cases setting <;> rfl)
    healthTimeoutSecs := hother (by cases setting <;> decide) (by cases setting <;> rfl) }

theorem load_alone (hforeign : ∀ e ∈ before ++ after, variableKey? e.1 = none) (h : Arrives v w) :
    load (alone around before setting v after) none = .ok (setting.put w {}) :=
  (load_eq_ok_iff (gives_alone hforeign)).mpr (follows_put h)

/-- A text that is given by its variable alone is loaded, and it arrives as what it is read as,
written out: unchanged exactly if it is no boolean and no number, or if it is written as itself. -/
theorem load_variable (setting : TextSetting) (v : String) (around : Surroundings)
    (before after : List (String × String))
    (hforeign : ∀ e ∈ before ++ after, variableKey? e.1 = none) :
    ∃ w, load (alone around before setting v after) none = .ok (setting.put w {}) ∧
      Arrives v w ∧ (w = v ↔ Kept v) := by
  obtain ⟨w, hw⟩ := exists_arrives v
  exact ⟨w, load_alone hforeign hw, hw, hw.kept, fun hkept => hw.unique hkept.arrives⟩

end Loading

/-- A key with a hyphen arrives as it is, beside a variable that is no setting's. -/
theorem load_variable_hyphen :
    (∀ e ∈ [("PATH", "/bin")] ++ [], variableKey? e.1 = none) ∧
      load (alone bareSurroundings [("PATH", "/bin")] .apiKey "hall-7" []) none =
        .ok { apiKey := "hall-7" } := by
  have hpath : variableKey? "PATH" = none := by
    rw [variableKey?, lower_of_isAscii (by decide)]
    decide
  have hforeign : ∀ e ∈ [("PATH", "/bin")] ++ [], variableKey? e.1 = none := by
    simpa using hpath
  have hkept : Kept "hall-7" :=
    .unread (by decide) (readFloat?_eq_none_iff.mp (by decide))
  obtain ⟨w, hload, -, hw⟩ :=
    load_variable .apiKey "hall-7" bareSurroundings [("PATH", "/bin")] [] hforeign
  rw [hw.mpr hkept] at hload
  exact ⟨hforeign, hload⟩

/-- A key of digits loses the zeros at its front. -/
theorem load_leadingZeros :
    load { bareSurroundings with environment := [("PARISH_SEARCH__API_KEY", "007")] } none =
      .ok { apiKey := "7" } ∧ "7" ≠ "007" := by
  have hname : variableName TextSetting.apiKey.name = "PARISH_SEARCH__API_KEY" := by decide
  have harrives : Arrives "007" "7" :=
    @Arrives.integer "007" 7 (readInt64?_eq_some_iff.mp (by decide))
  have hload := @load_alone .apiKey "007" "7" bareSurroundings [] [] (by simp) harrives
  rw [alone, hname] at hload
  exact ⟨hload, by decide⟩

end SiteSearch.Settings
