import SiteSearch.CommandLine.Run
import SiteSearch.Proofs.Text.Words

/-!
# When the engine can be asked

The settings are shown with a note when the address or the key is missing, and a connection
refuses to search when it lacks one of them. The two look at the address differently: for the
settings it is missing when there is nothing to see in it, for the connection also when there is
nothing but slashes. So they agree on all other addresses, and on those only if the key is missing
(`isConfigured_eq_iff`).
-/

namespace SiteSearch

open SiteSearch.Text SiteSearch.Engine SiteSearch.CommandLine

namespace Settings

/-- The address is slashes and nothing else, but for blanks around them. -/
def HasBareSlashes (s : Settings) : Prop :=
  trim s.apiUrl.toList ≠ [] ∧ ∀ c ∈ trim s.apiUrl.toList, c = '/'

theorem dropSlashes_eq_nil_iff {cs : List Char} : dropSlashes cs = [] ↔ ∀ c ∈ cs, c = '/' := by
  simp [dropSlashes, List.dropWhile_eq_nil_iff]

theorem baseUrl_eq_empty_iff {s : Settings} :
    s.baseUrl = "" ↔ ∀ c ∈ trim s.apiUrl.toList, c = '/' := by
  rw [baseUrl, ← String.toList_inj, String.toList_ofList]
  exact dropSlashes_eq_nil_iff

theorem isConfigured_iff {s : Settings} :
    s.isConfigured = true ↔ trim s.apiUrl.toList ≠ [] ∧ isBlankText s.apiKey = false := by
  have hurl : isBlankText s.apiUrl = false ↔ trim s.apiUrl.toList ≠ [] := by
    rw [ne_eq, trim_eq_nil_iff, ← List.all_eq_true, Bool.not_eq_true]
    rfl
  rw [isConfigured, Bool.and_eq_true, Bool.not_eq_true', Bool.not_eq_true', hurl]

end Settings

namespace Engine

theorem Connection.isConfigured_ofSettings_iff {s : Settings} :
    (Connection.ofSettings s).isConfigured = true ↔
      (¬ ∀ c ∈ trim s.apiUrl.toList, c = '/') ∧ isBlankText s.apiKey = false := by
  have hkey : trimBlanks s.apiKey ≠ "" ↔ isBlankText s.apiKey = false := by
    rw [ne_eq, trimBlanks_eq_empty_iff, Bool.not_eq_true]
  rw [isConfigured, Bool.and_eq_true, bne_iff_ne, bne_iff_ne, ← hkey,
    ← Settings.baseUrl_eq_empty_iff]
  rfl

/-- The call fails for want of an address or a key, and nothing is sent. -/
def Call.IsRefused {α : Type} (call : Call (Except CallError α)) : Prop :=
  ∃ message, call = .settled (.error (.notConfigured message))

theorem Connection.isRefused_search_iff {c : Connection} {query : String}
    {options : SearchOptions} : (c.search query options).IsRefused ↔ c.isConfigured = false := by
  cases hconfigured : c.isConfigured <;> simp [Call.IsRefused, search, hconfigured]

theorem Connection.isRefused_health_iff {c : Connection} :
    c.health.IsRefused ↔ c.isConfigured = false := by
  cases hconfigured : c.isConfigured <;> simp [Call.IsRefused, health, hconfigured]

end Engine

namespace CommandLine

/-- The settings are shown with the note that the address or the key is missing. -/
def IsNoted (s : Settings) : Prop :=
  showSettings s = s.redacted.toJson.pretty ++ "\n" ++
    "\nNote: API URL and key are required before searching.\n"

theorem isNoted_iff {s : Settings} : IsNoted s ↔ s.isConfigured = false := by
  rw [IsNoted, showSettings]
  cases hconfigured : s.isConfigured with
  | false => simp
  | true =>
    rw [← String.toList_inj]
    simp

end CommandLine

/-- The settings are configured exactly when the connection made from them is, and the note is
shown exactly when a search or a health check would be refused, unless the address is made of
slashes and there is a key. -/
theorem isConfigured_eq_iff (s : Settings) :
    (s.isConfigured = (Connection.ofSettings s).isConfigured ↔
      ¬ (s.HasBareSlashes ∧ isBlankText s.apiKey = false)) ∧
    (∀ query options, (IsNoted s ↔ ((Connection.ofSettings s).search query options).IsRefused) ↔
      ¬ (s.HasBareSlashes ∧ isBlankText s.apiKey = false)) ∧
    ((IsNoted s ↔ (Connection.ofSettings s).health.IsRefused) ↔
      ¬ (s.HasBareSlashes ∧ isBlankText s.apiKey = false)) := by
  have hagree : s.isConfigured = (Connection.ofSettings s).isConfigured ↔
      ¬ (s.HasBareSlashes ∧ isBlankText s.apiKey = false) := by
    rw [Bool.eq_iff_iff, Settings.isConfigured_iff, Connection.isConfigured_ofSettings_iff,
      Settings.HasBareSlashes]
    have hne : (¬ ∀ c ∈ trim s.apiUrl.toList, c = '/') → trim s.apiUrl.toList ≠ [] := by
      intro hslashes hnil
      exact hslashes (by simp [hnil])
    tauto
  have hnoted : (s.isConfigured = false ↔ (Connection.ofSettings s).isConfigured = false) ↔
      s.isConfigured = (Connection.ofSettings s).isConfigured := by
    cases s.isConfigured <;> cases (Connection.ofSettings s).isConfigured <;> simp
  refine ⟨hagree, ?_, ?_⟩
  · intro query options
    rw [isNoted_iff, Connection.isRefused_search_iff, hnoted, hagree]
  · rw [isNoted_iff, Connection.isRefused_health_iff, hnoted, hagree]

/-- An address that is a slash, and a key. -/
def Settings.loneSlash : Settings := { apiUrl := "/", apiKey := "k" }

/-- With a slash as the address no note is shown, and searches and health checks are refused. -/
theorem refused_without_note_loneSlash :
    Settings.loneSlash.isConfigured = true ∧
      (Connection.ofSettings Settings.loneSlash).isConfigured = false ∧
      ¬ IsNoted Settings.loneSlash ∧
      ((Connection.ofSettings Settings.loneSlash).search "hall" {}).IsRefused ∧
      (Connection.ofSettings Settings.loneSlash).health.IsRefused := by
  have hconfigured : Settings.loneSlash.isConfigured = true := by decide
  have hconnection : (Connection.ofSettings Settings.loneSlash).isConfigured = false := by decide
  refine ⟨hconfigured, hconnection, ?_, Connection.isRefused_search_iff.mpr hconnection,
    Connection.isRefused_health_iff.mpr hconnection⟩
  rw [isNoted_iff, hconfigured]
  simp

end SiteSearch
