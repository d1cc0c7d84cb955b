import SiteSearch.CommandLine.Run
import SiteSearch.Proofs.Settings.Laid
import SiteSearch.Proofs.Settings.Variables

/-!
# Settings in layers

Each setting is decided by the highest source that gives it a value: the environment, then the file
that the command line names, then the user's file. The options of the command line are above all
sources, and what is built in is below them (`settings_layered`).

A sheet on which the sources were laid has for each key the entry of the highest source, or what is
built in (`Surroundings.Gives.exists_sheet`). The fields are taken from such a sheet and from
nothing else (`ofSheet_congr`), so what lies beneath another value counts for nothing.

All this holds of any readers of the formats and of any order in which the formats are tried. A file
is missing when no path leads to one, as it is named or with an extension of any format
(`find_eq_fileNotFound_iff`).
-/

namespace SiteSearch.Settings

open SiteSearch.Text

/-! ## Sources in their order -/

/-- The entry that the highest source with the key gives it; the highest source comes first. -/
def topEntryOf? (sources : List Source) (key : String) : Option Entry :=
  sources.findSome? (·.entryOf? key)

/-- The value that the highest source with the key gives it. -/
def topValue? (sources : List Source) (key : String) : Option Value :=
  sources.findSome? (·.value? key)

theorem topEntryOf?_cons (source : Source) (below : List Source) (key : String) :
    topEntryOf? (source :: below) key = (source.entryOf? key).or (topEntryOf? below key) := by
  rw [topEntryOf?, List.findSome?_cons]
  cases source.entryOf? key <;> rfl

theorem map_value_topEntryOf? (sources : List Source) (key : String) :
    (topEntryOf? sources key).map (·.value) = topValue? sources key := by
  induction sources with
  | nil => rfl
  | cons source rest ih =>
    rw [topEntryOf?, topValue?, List.findSome?_cons, List.findSome?_cons, Source.entryOf?]
    cases source.value? key with
    | none => exact ih
    | some value => rfl

/-- The environment as a source. -/
def environmentSource (environment : List (String × String)) : Source :=
  ⟨ofVariables environment, "the environment"⟩

/-- The user's file as a source, if there is one. -/
inductive Surroundings.UserFile (around : Surroundings) : List Source → Prop where
  | missing (absent : ∀ file, around.find around.userFile ≠ .ok file) : UserFile around []
  | found {file : FoundFile} {values : List (String × Value)}
      (present : around.find around.userFile = .ok file) (readable : around.values file = .ok values) :
      UserFile around [⟨values, file.path⟩]

/-- The file that the command line names as a source, if it names one. -/
inductive Surroundings.NamedFile (around : Surroundings) : Option String → List Source → Prop where
  | unnamed : NamedFile around none []
  | found {name : String} {file : FoundFile} {values : List (String × Value)}
      (present : around.find name = .ok file) (readable : around.values file = .ok values) :
      NamedFile around (some name) [⟨values, file.path⟩]

/-- The surroundings give these sources, the highest first, and each of them is flat. -/
inductive Surroundings.Gives (around : Surroundings) (config : Option String) :
    List Source → Prop where
  | intro {named user : List Source} (hnamed : around.NamedFile config named)
      (huser : around.UserFile user)
      (flat : ∀ source ∈ environmentSource around.environment :: (named ++ user), source.IsFlat) :
      Gives around config (environmentSource around.environment :: (named ++ user))

theorem Surroundings.Gives.isFlat {around : Surroundings} {config : Option String}
    {sources : List Source} (h : around.Gives config sources) :
    ∀ source ∈ sources, source.IsFlat := by
  cases h with
  | intro _ _ flat => exact flat

/-- Each key of the sheet has the entry of the highest source, or what is built in. -/
def Sheet.Shows (sheet : Sheet) (sources : List Source) : Prop :=
  ∀ key, sheet.get? key = (topEntryOf? sources key).or (builtIn.get? key)

theorem Sheet.Shows.putAll {sheet : Sheet} {below : List Source} (h : sheet.Shows below)
    {source : Source} (hflat : source.IsFlat) :
    Shows (sheet.putAll source.values (some source.origin)) (source :: below) := by
  intro key
  rw [get?_putAll hflat, h, topEntryOf?_cons, Option.or_assoc]

/-- The user's file laid over what is built in. -/
def Surroundings.userSheet (around : Surroundings) : Except LoadError Sheet :=
  match around.find around.userFile with
  | .ok file => around.putOver file builtIn
  | .error _ => .ok builtIn

/-- The file that the command line names laid over a sheet. -/
def Surroundings.putNamed (around : Surroundings) (config : Option String) (sheet : Sheet) :
    Except LoadError Sheet :=
  match config with
  | some name => around.find name >>= (around.putOver · sheet)
  | none => .ok sheet

theorem Surroundings.sheet_eq (around : Surroundings) (config : Option String) :
    around.sheet config = around.userSheet >>= fun low =>
      around.putNamed config low >>= fun middle =>
        .ok (middle.putAll (ofVariables around.environment) (some "the environment")) := by
  have hnamed : ∀ low : Sheet, (match config with
      | some name => do
        let file ← around.find name
        let sheet ← around.putOver file low
        pure (sheet.putAll (ofVariables around.environment) (some "the environment"))
      | none => do
        let sheet ← Except.ok low
        pure (sheet.putAll (ofVariables around.environment) (some "the environment"))) =
      around.putNamed config low >>= fun middle =>
        .ok (middle.putAll (ofVariables around.environment) (some "the environment")) := by
    intro low
    cases config with
    | none => rfl
    | some name =>
      rw [putNamed, bind_assoc]
      rfl
  rw [Surroundings.sheet, userSheet]
  cases around.find around.userFile with
  | error e => exact hnamed builtIn
  | ok file => exact congrArg (around.putOver file builtIn >>= ·) (funext hnamed)

theorem Surroundings.putOver_of_values {around : Surroundings} {file : FoundFile}
    {values : List (String × Value)} (h : around.values file = .ok values) (sheet : Sheet) :
    around.putOver file sheet = .ok (sheet.putAll values (some file.path)) := by
  rw [putOver, h]
  rfl

theorem Surroundings.values_of_root {around : Surroundings} {file : FoundFile}
    {values : List (String × Value)}
    (h : around.readers.root? file.format file.text = some (.table values)) :
    around.values file = .ok values := by
  rw [Surroundings.values, h]

theorem Surroundings.UserFile.exists_sheet {around : Surroundings} {user : List Source}
    (h : around.UserFile user) (hflat : ∀ source ∈ user, source.IsFlat) :
    ∃ low, around.userSheet = .ok low ∧ low.Shows user := by
  have hshows : Sheet.Shows builtIn [] := fun key => rfl
  cases h with
  | missing absent =>
    refine ⟨builtIn, ?_, hshows⟩
    cases hfind : around.find around.userFile with
    | ok file => exact absurd hfind (absent file)
    | error e => rw [userSheet, hfind]
  | @found file values present readable =>
    refine ⟨_, ?_, hshows.putAll (hflat ⟨values, file.path⟩ (by simp))⟩
    rw [userSheet, present]
    exact Surroundings.putOver_of_values readable builtIn

theorem Surroundings.NamedFile.exists_sheet {around : Surroundings} {config : Option String}
    {named below : List Source} (h : around.NamedFile config named)
    (hflat : ∀ source ∈ named, source.IsFlat) {low : Sheet} (hlow : low.Shows below) :
    ∃ middle, around.putNamed config low = .ok middle ∧ middle.Shows (named ++ below) := by
  cases h with
  | unnamed => exact ⟨low, rfl, hlow⟩
  | @found name file values present readable =>
    refine ⟨_, ?_, hlow.putAll (hflat ⟨values, file.path⟩ (by simp))⟩
    rw [putNamed, present]
    exact Surroundings.putOver_of_values readable low

/-- All sources can be laid over one another, and what comes of it shows them. -/
theorem Surroundings.Gives.exists_sheet {around : Surroundings} {config : Option String}
    {sources : List Source} (h : around.Gives config sources) :
    ∃ sheet, around.sheet config = .ok sheet ∧ sheet.Shows sources := by
  obtain ⟨hnamed, huser, flat⟩ := h
  obtain ⟨low, hlow, hlow_shows⟩ := huser.exists_sheet fun source hs => flat source (by simp [hs])
  obtain ⟨middle, hmiddle, hmiddle_shows⟩ :=
    hnamed.exists_sheet (fun source hs => flat source (by simp [hs])) hlow_shows
  refine ⟨_, ?_, hmiddle_shows.putAll (flat _ (by simp))⟩
  rw [sheet_eq, hlow]
  simp only [bind, Except.bind, hmiddle]
  rfl

/-! ## Fields -/

/-- The value of a field: the one given, converted, or the standard one when none is given. -/
inductive Resolves {α : Type} (take : Value → Except Mismatch α) (standard : α) :
    Option Value → α → Prop where
  | given {value : Value} {x : α} (taken : take value = .ok x) :
      Resolves take standard (some value) x
  | standard : Resolves take standard none standard

/-- The value of a field for which the command line has an option. -/
inductive Overridden {α : Type} (otherwise : α → Prop) : Option α → α → Prop where
  | typed (x : α) : Overridden otherwise (some x) x
  | untyped {x : α} (h : otherwise x) : Overridden otherwise none x

/-- The settings follow the values given to their names, each by itself, under two options of the
command line. -/
structure Follows (apiUrl? logLevel? : Option String) (value? : String → Option Value)
    (s : Settings) : Prop where
  apiUrl : Overridden (Resolves Value.toText "" (value? "api_url")) apiUrl? s.apiUrl
  apiKey : Resolves Value.toText "" (value? "api_key") s.apiKey
  resultsPerPage : Resolves Value.toShortCount 10 (value? "results_per_page") s.resultsPerPage
  files : Resolves Value.toSwitch true (value? "enable_files") s.enabled.files
  posts : Resolves Value.toSwitch true (value? "enable_posts") s.enabled.posts
  pages : Resolves Value.toSwitch true (value? "enable_pages") s.enabled.pages
  faqs : Resolves Value.toSwitch true (value? "enable_faqs") s.enabled.faqs
  events : Resolves Value.toSwitch true (value? "enable_events") s.enabled.events
  indexName : Resolves Value.toText "parish_search" (value? "index_name") s.indexName
  searchTimeoutSecs : Resolves Value.toCount 10 (value? "search_timeout_secs") s.searchTimeoutSecs
  healthTimeoutSecs : Resolves Value.toCount 5 (value? "health_timeout_secs") s.healthTimeoutSecs
  logLevel : Overridden (Resolves Value.toText "info" (value? "log_level")) logLevel? s.logLevel

theorem bind_eq_ok_iff {ε α β : Type} {x : Except ε α} {f : α → Except ε β} {b : β} :
    (x >>= f) = .ok b ↔ ∃ a, x = .ok a ∧ f a = .ok b := by
  cases x with
  | error e => simp [bind, Except.bind]
  | ok a => simp [bind, Except.bind]

/-- What is built in for a key converts to the standard value of its field, so it makes no
difference whether a key is built in. -/
theorem field_eq_ok_iff {α : Type} {take : Value → Except Mismatch α} {standard x : α}
    {sheet : Sheet} {sources : List Source} {key : String} (hsheet : sheet.Shows sources)
    (hbuiltIn : (builtIn.get? key).elim (.ok standard) (take ·.value) = .ok standard) :
    sheet.field key take standard = .ok x ↔ Resolves take standard (topValue? sources key) x := by
  rw [← map_value_topEntryOf?, Sheet.field, hsheet]
  cases htop : topEntryOf? sources key with
  | some entry =>
    simp only [Option.some_or, Option.map_some]
    constructor
    · intro h
      cases htake : take entry.value with
      | error e =>
        rw [htake] at h
        cases h
      | ok y =>
        rw [htake] at h
        cases h
        exact .given htake
    · intro h
      cases h with
      | given taken => rw [taken]
  | none =>
    simp only [Option.none_or, Option.map_none]
    have hstandard : Resolves take standard none x ↔ x = standard := by
      constructor
      · intro h
        cases h with
        | standard => rfl
      · rintro rfl
        exact .standard
    cases hentry : builtIn.get? key with
    | none => simp [hstandard, eq_comm]
    | some entry =>
      rw [hentry, Option.elim_some] at hbuiltIn
      simp [hstandard, hbuiltIn, eq_comm]

theorem overridden_none_iff {α : Type} {otherwise : α → Prop} {x : α} :
    Overridden otherwise none x ↔ otherwise x := by
  constructor
  · intro h
    cases h with
    | untyped h => exact h
  · exact .untyped

/-- The settings that are taken from a sheet follow the highest values. -/
theorem ofSheet_eq_ok_iff {sheet : Sheet} {sources : List Source} (hsheet : sheet.Shows sources)
    {s : Settings} : ofSheet sheet = .ok s ↔ Follows none none (topValue? sources) s := by
  simp only [ofSheet, bind_eq_ok_iff]
  constructor
  · rintro ⟨_, hurl, _, hkey, _, hresults, _, hfiles, _, hposts, _, hpages, _, hfaqs, _, hevents,
      _, hindex, _, hsearch, _, hhealth, _, hlevel, hs⟩
    cases hs
    exact {
      apiUrl := .untyped ((field_eq_ok_iff hsheet rfl).mp hurl)
      apiKey := (field_eq_ok_iff hsheet rfl).mp hkey
      resultsPerPage := (field_eq_ok_iff hsheet rfl).mp hresults
      files := (field_eq_ok_iff hsheet rfl).mp hfiles
      posts := (field_eq_ok_iff hsheet rfl).mp hposts
      pages := (field_eq_ok_iff hsheet rfl).mp hpages
      faqs := (field_eq_ok_iff hsheet rfl).mp hfaqs
      events := (field_eq_ok_iff hsheet rfl).mp hevents
      indexName := (field_eq_ok_iff hsheet rfl).mp hindex
      searchTimeoutSecs := (field_eq_ok_iff hsheet rfl).mp hsearch
      healthTimeoutSecs := (field_eq_ok_iff hsheet rfl).mp hhealth
      logLevel := .untyped ((field_eq_ok_iff hsheet rfl).mp hlevel) }
  · intro h
    exact ⟨_, (field_eq_ok_iff hsheet rfl).mpr (overridden_none_iff.mp h.apiUrl),
      _, (field_eq_ok_iff hsheet rfl).mpr h.apiKey,
      _, (field_eq_ok_iff hsheet rfl).mpr h.resultsPerPage,
      _, (field_eq_ok_iff hsheet rfl).mpr h.files,
      _, (field_eq_ok_iff hsheet rfl).mpr h.posts,
      _, (field_eq_ok_iff hsheet rfl).mpr h.pages,
      _, (field_eq_ok_iff hsheet rfl).mpr h.faqs,
      _, (field_eq_ok_iff hsheet rfl).mpr h.events,
      _, (field_eq_ok_iff hsheet rfl).mpr h.indexName,
      _, (field_eq_ok_iff hsheet rfl).mpr h.searchTimeoutSecs,
      _, (field_eq_ok_iff hsheet rfl).mpr h.healthTimeoutSecs,
      _, (field_eq_ok_iff hsheet rfl).mpr (overridden_none_iff.mp h.logLevel), rfl⟩

/-- Whatever the computation fails with is of a kind. -/
def FailsWith {ε α : Type} (kind : ε → Prop) (x : Except ε α) : Prop := ∀ e, x = .error e → kind e

theorem FailsWith.bind {ε α β : Type} {kind : ε → Prop} {x : Except ε α} {f : α → Except ε β}
    (hx : FailsWith kind x) (hf : ∀ a, FailsWith kind (f a)) : FailsWith kind (x >>= f) := by
  intro e h
  cases x with
  | error e' =>
    cases h
    exact hx e rfl
  | ok a => exact hf a e h

theorem FailsWith.ok {ε α : Type} {kind : ε → Prop} (a : α) : FailsWith kind (.ok a) := by
  intro e h
  cases h

/-- A value cannot be converted. -/
def LoadError.IsBadValue (e : LoadError) : Prop :=
  ∃ mismatch key origin, e = .badValue mismatch key origin

theorem failsWith_field {α : Type} (sheet : Sheet) (key : String) (take : Value → Except Mismatch α)
    (standard : α) : FailsWith LoadError.IsBadValue (sheet.field key take standard) := by
  intro e h
  rw [Sheet.field] at h
  split at h
  · cases h
  · split at h
    · cases h
    · cases h
      exact ⟨_, _, _, rfl⟩

theorem failsWith_ofSheet (sheet : Sheet) : FailsWith LoadError.IsBadValue (ofSheet sheet) := by
  unfold ofSheet
  iterate 12 refine .bind (failsWith_field sheet _ _ _) fun _ => ?_
  exact .ok _

/-- The settings, or why there are none, depend on nothing but what the sheet has under their
names. -/
theorem ofSheet_congr {sheet sheet' : Sheet} (h : ∀ key ∈ names, sheet'.get? key = sheet.get? key) :
    ofSheet sheet' = ofSheet sheet := by
  have hfield : ∀ {α : Type} (key : String) (take : Value → Except Mismatch α) (standard : α),
      key ∈ names → sheet'.field key take standard = sheet.field key take standard := by
    intro α key take standard hkey
    rw [Sheet.field, Sheet.field, h key hkey]
  unfold ofSheet
  simp (disch := decide) only [hfield]

/-! ## Loading -/

section Loading

variable {around : Surroundings} {config : Option String} {sources : List Source}

theorem load_eq_ok_iff (h : around.Gives config sources) {s : Settings} :
    load around config = .ok s ↔ Follows none none (topValue? sources) s := by
  obtain ⟨sheet, hsheet, hshows⟩ := h.exists_sheet
  rw [load, hsheet]
  exact ofSheet_eq_ok_iff hshows

theorem load_congr (h : around.Gives config sources) {around' : Surroundings}
    {sources' : List Source} (h' : around'.Gives config sources')
    (htop : ∀ key ∈ names, topEntryOf? sources' key = topEntryOf? sources key) :
    load around' config = load around config := by
  obtain ⟨sheet, hsheet, hshows⟩ := h.exists_sheet
  obtain ⟨sheet', hsheet', hshows'⟩ := h'.exists_sheet
  rw [load, load, hsheet, hsheet']
  apply ofSheet_congr
  intro key hkey
  rw [hshows key, hshows' key, htop key hkey]

/-- No file has the name, as it is or with an extension of any format. -/
def Surroundings.Lacks (around : Surroundings) (name : String) : Prop :=
  around.text? name = none ∧
    ∀ path ∈ (withExtensions Format.all name).map (·.1), around.text? path = none

theorem perm_withExtensions (around : Surroundings) (name : String) :
    (withExtensions around.formats name).Perm (withExtensions Format.all name) := by
  rw [withExtensions, withExtensions]
  cases pathToName? name with
  | none => exact .refl _
  | some path => exact around.formats_perm.flatMap_right _

theorem extended?_eq_none_iff {name : String} :
    around.extended? name = none ↔
      ∀ path ∈ (withExtensions Format.all name).map (·.1), around.text? path = none := by
  rw [Surroundings.extended?, List.findSome?_eq_none_iff, List.forall_mem_map]
  refine forall_congr' fun candidate => ?_
  rw [(perm_withExtensions around name).mem_iff, Option.map_eq_none_iff]

/-- Whether a file is found at all does not depend on the order in which formats are tried. -/
theorem find_eq_fileNotFound_iff {name : String} :
    around.find name = .error (.fileNotFound name) ↔ around.Lacks name := by
  rw [Surroundings.find, Surroundings.Lacks, ← extended?_eq_none_iff]
  cases around.text? name with
  | some text => cases Format.ofExtension? (extension name) <;> simp
  | none => cases around.extended? name <;> simp

/-- No file and no variable. -/
def bareSurroundings : Surroundings where
  userFile := "home/config"
  text? := fun _ => none
  environment := []

/-- A file that is named must be there: without it nothing is loaded, unless the user's file is not
even readable. -/
theorem exists_load_eq_error {name : String} (h : around.Lacks name) :
    ∃ e, load around (some name) = .error e ∧
      (e = .fileNotFound name ∨
        ∃ file, around.find around.userFile = .ok file ∧ around.values file = .error e) := by
  have hnamed : ∀ low : Sheet, around.putNamed (some name) low = .error (.fileNotFound name) := by
    intro low
    rw [Surroundings.putNamed, find_eq_fileNotFound_iff.mpr h]
    rfl
  rw [load, Surroundings.sheet_eq]
  cases hlow : around.userSheet with
  | ok low =>
    refine ⟨_, ?_, .inl rfl⟩
    simp only [bind, Except.bind, hnamed]
  | error e =>
    refine ⟨e, rfl, .inr ?_⟩
    rw [Surroundings.userSheet] at hlow
    cases hfind : around.find around.userFile with
    | error _ => simp [hfind] at hlow
    | ok file =>
      refine ⟨file, rfl, ?_⟩
      rw [hfind] at hlow
      cases hvalues : around.values file with
      | error e' =>
        simp only [Surroundings.putOver, hvalues, bind, Except.bind, Except.error.injEq] at hlow
        rw [hlow]
      | ok values =>
        simp only [Surroundings.putOver_of_values hvalues] at hlow
        cases hlow

/-- The file that the command line names is not there, or it cannot be read. -/
def Surroundings.NamedFails (around : Surroundings) (config : Option String) (e : LoadError) :
    Prop :=
  ∃ name, config = some name ∧ (around.find name = .error e ∨
    ∃ file, around.find name = .ok file ∧ around.values file = .error e)

/-- Without the user's file, nothing but the file that is named can fail to be laid. -/
theorem failsWith_sheet_of_absent (habsent : ∀ file, around.find around.userFile ≠ .ok file) :
    FailsWith (around.NamedFails config) (around.sheet config) := by
  intro e h
  obtain ⟨low, hlow, -⟩ := (Surroundings.UserFile.missing habsent).exists_sheet (by simp)
  rw [Surroundings.sheet_eq, hlow] at h
  cases config with
  | none => cases h
  | some name =>
    refine ⟨name, rfl, ?_⟩
    cases hfind : around.find name with
    | error e' =>
      simp only [Surroundings.putNamed, hfind, bind, Except.bind, Except.error.injEq] at h
      exact .inl (by rw [h])
    | ok file =>
      refine .inr ⟨file, rfl, ?_⟩
      cases hvalues : around.values file with
      | error e' =>
        simp only [Surroundings.putNamed, hfind, Surroundings.putOver, hvalues, bind, Except.bind,
          Except.error.injEq] at h
        rw [h]
      | ok values =>
        simp only [Surroundings.putNamed, hfind, bind, Except.bind,
          Surroundings.putOver_of_values hvalues] at h
        cases h

/-- A setting that holds text always gets one. -/
theorem exists_resolves_toText (hflat : ∀ source ∈ sources, source.IsFlat) (key standard : String) :
    ∃ x, Resolves Value.toText standard (topValue? sources key) x := by
  cases htop : topValue? sources key with
  | none => exact ⟨standard, .standard⟩
  | some value =>
    obtain ⟨source, hmem, hvalue⟩ := List.exists_of_findSome?_eq_some htop
    obtain ⟨x, hx⟩ := ((hflat source hmem).isScalar_of_value? hvalue).exists_toText
    exact ⟨x, .given hx⟩

end Loading

end SiteSearch.Settings

namespace SiteSearch.CommandLine

open SiteSearch.Settings SiteSearch.Text

/-- An option is put over a value, which there is also when the option hides it. -/
theorem overridden_iff {α : Type} {otherwise : α → Prop} {typed : Option α} {x : α}
    (hsome : ∃ y, otherwise y) :
    Overridden otherwise typed x ↔ ∃ y, otherwise y ∧ typed.getD y = x := by
  constructor
  · intro h
    cases h with
    | typed =>
      obtain ⟨y, hy⟩ := hsome
      exact ⟨y, hy, rfl⟩
    | untyped h => exact ⟨x, h, rfl⟩
  · rintro ⟨y, hy, rfl⟩
    cases typed with
    | none => exact .untyped hy
    | some x => exact .typed x

/-- The settings of a command line follow its options and the highest values. -/
theorem settings_eq_ok_iff {args : Arguments} {around : Surroundings} {sources : List Source}
    (h : around.Gives args.config sources) {s : Settings} :
    args.settings around = .ok s ↔ Follows args.apiUrl args.logLevel (topValue? sources) s := by
  have hurl := exists_resolves_toText h.isFlat "api_url" ""
  have hlevel := exists_resolves_toText h.isFlat "log_level" "info"
  rw [Arguments.settings, bind_eq_ok_iff]
  constructor
  · rintro ⟨loaded, hloaded, hs⟩
    have hfollows := (load_eq_ok_iff h).mp hloaded
    cases hs
    exact { hfollows with
      apiUrl := (overridden_iff hurl).mpr ⟨_, overridden_none_iff.mp hfollows.apiUrl, rfl⟩
      logLevel := (overridden_iff hlevel).mpr ⟨_, overridden_none_iff.mp hfollows.logLevel, rfl⟩ }
  · intro hfollows
    obtain ⟨url, hurl, hurl_eq⟩ := (overridden_iff hurl).mp hfollows.apiUrl
    obtain ⟨level, hlevel, hlevel_eq⟩ := (overridden_iff hlevel).mp hfollows.logLevel
    refine ⟨{ s with apiUrl := url, logLevel := level }, (load_eq_ok_iff h).mpr ?_, ?_⟩
    · exact { hfollows with apiUrl := .untyped hurl, logLevel := .untyped hlevel }
    · simp only [hurl_eq, hlevel_eq]
      rfl

/-- Each setting has the value that the highest source gives it, converted, or the standard one when
no source gives it any; two of them may be overridden by options. The settings are loaded exactly
when these values can be converted: what lies beneath them makes no difference, neither to the
settings nor to why there are none. A file that the command line names must be there, whatever the
other sources hold, while the lack of a user's file makes nothing fail. -/
theorem settings_layered (args : Arguments) (around : Surroundings) :
    (∀ sources, around.Gives args.config sources →
      (∀ s, args.settings around = .ok s ↔
        Follows args.apiUrl args.logLevel (topValue? sources) s) ∧
      ∀ around' sources', around'.Gives args.config sources' →
        (∀ key ∈ names, topEntryOf? sources' key = topEntryOf? sources key) →
        args.settings around' = args.settings around) ∧
    (∀ name, args.config = some name → around.Lacks name →
      ∃ e, args.settings around = .error e ∧
        (e = .fileNotFound name ∨
          ∃ file, around.find around.userFile = .ok file ∧ around.values file = .error e)) ∧
    ((∀ file, around.find around.userFile ≠ .ok file) → ∀ e, args.settings around = .error e →
      e.IsBadValue ∨ around.NamedFails args.config e) := by
  refine ⟨?_, ?_, ?_⟩
  · intro sources h
    refine ⟨fun s => settings_eq_ok_iff h, ?_⟩
    intro around' sources' h' htop
    rw [Arguments.settings, Arguments.settings, load_congr h h' htop]
  · intro name hname hlacks
    obtain ⟨e, he, hcause⟩ := exists_load_eq_error hlacks
    refine ⟨e, ?_, hcause⟩
    rw [Arguments.settings, hname, he]
    rfl
  · intro habsent
    change FailsWith (fun e => e.IsBadValue ∨ around.NamedFails args.config e)
      (args.settings around)
    rw [Arguments.settings, load]
    refine .bind (.bind ?_ ?_) fun loaded => .ok _
    · intro e h
      exact .inr (failsWith_sheet_of_absent habsent e h)
    · intro sheet e h
      exact .inl (failsWith_ofSheet sheet e h)

/-- A user's file, a file that a command line may name, and a variable. The formats are tried in
another order than they are listed in. -/
def hallSurroundings (perPage : String) : Surroundings where
  userFile := "home/config"
  text? := fun path => List.lookup path [
    ("home/config.toml",
      "results_per_page = \"" ++ perPage ++ "\"\nindex_name = \"\"\"\nhall\"\"\"\n"),
    ("cli.toml", "results_per_page = 20\nenable_faqs = true\n")]
  environment := [(variableName "enable_faqs", "off")]
  formats := Format.all.reverse
  formats_perm := List.reverse_perm _

/-- The sources of these surroundings under a command line that names the second file. -/
def hallSources (perPage : String) : List Source := [
  ⟨[("enable_faqs", .text "off")], "the environment"⟩,
  ⟨[("results_per_page", .integer 20), ("enable_faqs", .boolean true)], "cli.toml"⟩,
  ⟨[("results_per_page", .text perPage), ("index_name", .text "hall")], "home/config.toml"⟩]

theorem gives_hallSurroundings {perPage : String} (h : perPage = "many" ∨ perPage = "7") :
    (hallSurroundings perPage).Gives (some "cli") (hallSources perPage) := by
  have hoff : Value.ofVariable "off" = .text "off" := by
    rw [ofVariable_of_noWord (by decide)]
    rfl
  have henvironment : environmentSource (hallSurroundings perPage).environment =
      ⟨[("enable_faqs", .text "off")], "the environment"⟩ := by
    rw [environmentSource, hallSurroundings, ofVariables_cons_variableName (by decide), hoff]
    rfl
  have hnamed : (hallSurroundings perPage).NamedFile (some "cli")
      [⟨[("results_per_page", .integer 20), ("enable_faqs", .boolean true)], "cli.toml"⟩] := by
    have hroot : Readers.own.root? .toml "results_per_page = 20\nenable_faqs = true\n" =
        some (.table [("results_per_page", .integer 20), ("enable_faqs", .boolean true)]) := by
      decide +kernel
    exact @Surroundings.NamedFile.found _ _ ⟨"cli.toml", _, .toml⟩ _ rfl
      (Surroundings.values_of_root hroot)
  have huser : (hallSurroundings perPage).UserFile
      [⟨[("results_per_page", .text perPage), ("index_name", .text "hall")],
        "home/config.toml"⟩] := by
    have hroot : Readers.own.root? .toml ("results_per_page = \"" ++ perPage ++
        "\"\nindex_name = \"\"\"\nhall\"\"\"\n") =
        some (.table [("results_per_page", .text perPage), ("index_name", .text "hall")]) := by
      rcases h with rfl | rfl <;> decide +kernel
    have hvalues := @Surroundings.values_of_root (hallSurroundings perPage)
      ⟨"home/config.toml", _, .toml⟩ _ hroot
    rcases h with rfl | rfl
    · exact .found rfl hvalues
    · exact .found rfl hvalues
  have hflat : ∀ source ∈ hallSources perPage, source.IsFlat := by
    rcases h with rfl | rfl <;> decide
  rw [hallSources, ← henvironment] at hflat ⊢
  exact .intro hnamed huser hflat

/-- What cannot be converted in the user's file makes no difference under a file that hides it. A
file that is not there makes loading fail; the user's file may be missing. -/
theorem settings_layered_hall :
    ((hallSurroundings "many").Gives (some "cli") (hallSources "many") ∧
      (hallSurroundings "7").Gives (some "cli") (hallSources "7") ∧
      (∀ key ∈ names, topEntryOf? (hallSources "7") key = topEntryOf? (hallSources "many") key) ∧
      Arguments.settings ⟨.config, some "cli", some "debug", none⟩ (hallSurroundings "many") =
        .ok { resultsPerPage := 20, enabled := { EnabledTypes.everything with faqs := false },
              indexName := "hall", logLevel := "debug" } ∧
      Arguments.settings ⟨.config, some "cli", some "debug", none⟩ (hallSurroundings "7") =
        Arguments.settings ⟨.config, some "cli", some "debug", none⟩ (hallSurroundings "many")) ∧
    ((hallSurroundings "many").Lacks "lost" ∧
      ∃ e, Arguments.settings ⟨.config, some "lost", none, none⟩ (hallSurroundings "many") =
        .error e) ∧
    (∀ file, bareSurroundings.find "home/config" ≠ .ok file) ∧
    (∀ e, Arguments.settings ⟨.config, none, none, none⟩ bareSurroundings = .error e →
      e.IsBadValue) := by
  have hmany := gives_hallSurroundings (.inl rfl : "many" = "many" ∨ "many" = "7")
  have hseven := gives_hallSurroundings (.inr rfl : "7" = "many" ∨ "7" = "7")
  have htop : ∀ key ∈ names,
      topEntryOf? (hallSources "7") key = topEntryOf? (hallSources "many") key := by
    decide
  obtain ⟨hlayers, -, -⟩ :=
    settings_layered ⟨.config, some "cli", some "debug", none⟩ (hallSurroundings "many")
  obtain ⟨hsettings, hsame⟩ := hlayers _ hmany
  have hlacks : (hallSurroundings "many").Lacks "lost" := ⟨rfl, by decide⟩
  obtain ⟨-, hlost, -⟩ :=
    settings_layered ⟨.config, some "lost", none, none⟩ (hallSurroundings "many")
  obtain ⟨e, he, -⟩ := hlost "lost" rfl hlacks
  have habsent : ∀ file, bareSurroundings.find "home/config" ≠ .ok file := by
    intro file
    rw [find_eq_fileNotFound_iff.mpr ⟨rfl, fun _ _ => rfl⟩]
    exact nofun
  have hoff : Value.toSwitch (.text "off") = .ok false := by
    have hsmall : lower "off" = "off" := (lower_of_isAscii (by decide)).trans (by decide)
    simp [Value.toSwitch, hsmall]
  obtain ⟨-, -, hmissing⟩ :=
    settings_layered ⟨.config, none, none, none⟩ bareSurroundings
  refine ⟨⟨hmany, hseven, htop, (hsettings _).mpr ?_, hsame _ _ hseven htop⟩, ⟨hlacks, e, he⟩,
    habsent, ?_⟩
  · exact {
      apiUrl := .untyped .standard
      apiKey := .standard
      resultsPerPage := .given rfl
      files := .standard
      posts := .standard
      pages := .standard
      faqs := .given hoff
      events := .standard
      indexName := .given rfl
      searchTimeoutSecs := .standard
      healthTimeoutSecs := .standard
      logLevel := .typed "debug" }
  · intro e he
    rcases hmissing habsent e he with hbad | ⟨name, hname, -⟩
    · exact hbad
    · cases hname

end SiteSearch.CommandLine
