import SiteSearch.Proofs.Decimal.FloatLiterals
import SiteSearch.Proofs.Settings.Laid

/-!
# Variables of the environment

Each setting has a variable, and a variable that is no setting's gives nothing. What a variable
holds is read as a boolean or a number where it can be, so a setting that is a text gets what was
read, written out again (`toText_ofVariable_iff`).
-/

namespace SiteSearch.Settings

open SiteSearch.Text SiteSearch.Decimal

/-! ## Names of variables -/

/-- The variable that holds a setting. -/
def variableName (key : String) : String :=
  "PARISH_SEARCH__" ++ .ofList (key.toList.map Char.toUpper)

example : variableName "api_key" = "PARISH_SEARCH__API_KEY" := by decide

/-- No name of a setting could be taken for a path. -/
theorem separated_of_mem_names :
    ∀ key ∈ names, variableKey?.separated key.toList = key.toList := by
  decide

theorem isAscii_toUpper {c : Char} (h : IsAscii c) : IsAscii c.toUpper :=
  @forall_isAscii (fun c => IsAscii c.toUpper) (by decide) c h

theorem toLower_toUpper {c : Char} (h : IsAscii c) : c.toUpper.toLower = c.toLower :=
  @forall_isAscii (fun c => c.toUpper.toLower = c.toLower) (by decide) c h

theorem toList_variableName (key : String) :
    (variableName key).toList = "PARISH_SEARCH__".toList ++ key.toList.map Char.toUpper :=
  String.toList_append.trans (congrArg ("PARISH_SEARCH__".toList ++ ·) String.toList_ofList)

/-- In small letters, the variable of a setting is its key after the prefix. -/
theorem lower_variableName {key : String} (h : key ∈ names) :
    (lower (variableName key)).toList = variablePrefix.toList ++ key.toList := by
  obtain ⟨hsmall, -, hascii, -⟩ := forall_names key h
  have hchars : ∀ c ∈ key.toList, IsAscii c := by simpa using hascii
  have hascii' : (variableName key).toList.all (IsAscii ·) = true := by
    rw [toList_variableName, List.all_append, Bool.and_eq_true]
    refine ⟨by decide, ?_⟩
    simpa using fun c hc => isAscii_toUpper (hchars c hc)
  have hkey : asciiLower (key.toList.map Char.toUpper) = key.toList := by
    calc asciiLower (key.toList.map Char.toUpper) = asciiLower key.toList := by
          rw [asciiLower, List.map_map]
          exact List.map_congr_left fun c hc => toLower_toUpper (hchars c hc)
      _ = (foldCase key).toList := String.toList_ofList.symm
      _ = key.toList := by rw [hsmall]
  rw [lower_of_isAscii hascii', foldCase, String.toList_ofList, toList_variableName,
    asciiLower_append, hkey]
  rfl

/-- The variable of a setting gives a value to this setting. -/
theorem variableKey?_variableName {key : String} (h : key ∈ names) :
    variableKey? (variableName key) = some key := by
  have hdrop : (variablePrefix.toList ++ key.toList).drop variablePrefix.length = key.toList :=
    List.drop_left
  simp only [variableKey?, lower_variableName h, hdrop, separated_of_mem_names key h,
    String.ofList_toList]
  rw [if_pos (List.isPrefixOf_iff_prefix.mpr (List.prefix_append _ _))]

theorem ofVariables_append (before after : List (String × String)) :
    ofVariables (before ++ after) = ofVariables before ++ ofVariables after :=
  List.filterMap_append

theorem ofVariables_cons_variableName {key : String} (h : key ∈ names) (v : String)
    (rest : List (String × String)) :
    ofVariables ((variableName key, v) :: rest) = (key, .ofVariable v) :: ofVariables rest := by
  simp only [ofVariables, List.filterMap_cons, variableKey?_variableName h, Option.map_some]

theorem ofVariables_of_foreign {environment : List (String × String)}
    (h : ∀ e ∈ environment, variableKey? e.1 = none) : ofVariables environment = [] := by
  rw [ofVariables, List.filterMap_eq_nil_iff]
  rintro ⟨name, v⟩ he
  simp only [h _ he, Option.map_none]

/-! ## What variables hold -/

/-- What a text becomes on its way through a variable into a setting. -/
inductive Arrives (v : String) : String → Prop where
  /-- One of two words, in any case. -/
  | boolean {b : Bool} (word : foldCase v = boolText b) : Arrives v (boolText b)
  | integer {n : Int64} (literal : IntegerLiteral v.toList n.toInt) : Arrives v (toString n.toInt)
  /-- A number that is no integer, or too large for one. -/
  | float {x : Extended} (noInteger : ∀ n : Int64, ¬ IntegerLiteral v.toList n.toInt)
      (literal : FloatLiteral v.toList x) : Arrives v (floatText x)
  | text (noWord : ∀ b, foldCase v ≠ boolText b) (noNumber : ∀ x, ¬ FloatLiteral v.toList x) :
      Arrives v v

/-- Neither of the two words is a number. -/
theorem not_floatLiteral_of_word {v : String} {b : Bool} (h : foldCase v = boolText b)
    (x : Extended) : ¬ FloatLiteral v.toList x := by
  intro hliteral
  have hchars : asciiLower v.toList = (boolText b).toList := by
    rw [← h, foldCase, String.toList_ofList]
  obtain ⟨c, rest, hcs, hc⟩ := hliteral.exists_cons
  rw [hcs, asciiLower, List.map_cons] at hchars
  apply hc
  cases b with
  | true =>
    have hfirst : c.toLower = 't' := (List.cons.inj hchars).1
    simp [hfirst]
  | false =>
    have hfirst : c.toLower = 'f' := (List.cons.inj hchars).1
    simp [hfirst]

theorem lower_eq_boolText_iff {v : String} {b : Bool} :
    lower v = boolText b ↔ foldCase v = boolText b := by
  apply lower_eq_iff
  cases b <;> decide

theorem ofVariable_of_word {v : String} {b : Bool} (h : foldCase v = boolText b) :
    Value.ofVariable v = .boolean b := by
  rw [Value.ofVariable, lower_eq_boolText_iff.mpr h]
  cases b <;> rfl

theorem ofVariable_of_noWord {v : String} (h : ∀ b, foldCase v ≠ boolText b) :
    Value.ofVariable v = match readInt64? v with
      | some n => .integer n
      | none => match readFloat? v with
        | some x => .float x
        | none => .text v := by
  rw [Value.ofVariable]
  split
  · rename_i hword
    exact absurd (lower_eq_boolText_iff.mp hword) (h true)
  · rename_i hword
    exact absurd (lower_eq_boolText_iff.mp hword) (h false)
  · rfl

theorem isScalar_ofVariable (v : String) : (Value.ofVariable v).IsScalar := by
  rw [Value.ofVariable]
  split
  · exact .boolean _
  · exact .boolean _
  · split
    · exact .integer _
    · split
      · exact .float _
      · exact .text _

/-- A setting that is a text gets from its variable the text that arrives. -/
theorem toText_ofVariable_iff {v w : String} :
    (Value.ofVariable v).toText = .ok w ↔ Arrives v w := by
  constructor
  · intro h
    by_cases hword : ∃ b, foldCase v = boolText b
    · obtain ⟨b, hb⟩ := hword
      rw [ofVariable_of_word hb] at h
      cases h
      exact .boolean hb
    · rw [not_exists] at hword
      rw [ofVariable_of_noWord hword] at h
      cases hinteger : readInt64? v with
      | some n =>
        rw [hinteger] at h
        cases h
        exact .integer (readInt64?_eq_some_iff.mp hinteger)
      | none =>
        rw [hinteger] at h
        cases hfloat : readFloat? v with
        | some x =>
          rw [hfloat] at h
          cases h
          exact .float (readInt64?_eq_none_iff.mp hinteger) (readFloat?_eq_some_iff.mp hfloat)
        | none =>
          rw [hfloat] at h
          cases h
          exact .text hword (readFloat?_eq_none_iff.mp hfloat)
  · have hnoWord : ∀ {x}, FloatLiteral v.toList x → ∀ b, foldCase v ≠ boolText b :=
      fun literal b word => not_floatLiteral_of_word word _ literal
    intro h
    cases h with
    | boolean word =>
      rw [ofVariable_of_word word]
      rfl
    | integer literal =>
      obtain ⟨x, hx⟩ := exists_floatLiteral_of_integerLiteral literal
      rw [ofVariable_of_noWord (hnoWord hx), readInt64?_eq_some_iff.mpr literal]
      rfl
    | float noInteger literal =>
      rw [ofVariable_of_noWord (hnoWord literal), readInt64?_eq_none_iff.mpr noInteger,
        readFloat?_eq_some_iff.mpr literal]
      rfl
    | text noWord noNumber =>
      have hnoInteger : ∀ n : Int64, ¬ IntegerLiteral v.toList n.toInt := by
        intro n hn
        obtain ⟨x, hx⟩ := exists_floatLiteral_of_integerLiteral hn
        exact noNumber x hx
      rw [ofVariable_of_noWord noWord, readInt64?_eq_none_iff.mpr hnoInteger,
        readFloat?_eq_none_iff.mpr noNumber]
      rfl

end SiteSearch.Settings
