import SiteSearch.Engine.Transport

/-!
# What an answer comes from

Of a call that reaches the engine nothing but the outcome of its request decides the answer
(`Connection.run_comesTo`). Without a reply the call fails with what kept the reply away. A reply of
status 200 is a success, whatever JSON came along: what a search lacks there counts as nothing
found. A reply of any other status is a failure, for which the engine may give its own words.

The rules stand in `ComesTo`, once for searches and health checks. Members that may be missing or of
another kind are read by one rule for all of them, `Json.Given`.
-/

namespace SiteSearch

open SiteSearch.Text

/-! ## Members that may be missing -/

/-- The value that a member gives in some form, or the standard one when it gives none. -/
inductive Json.Given {α : Type} (body : Json) (name : String) (form : α → Json) (standard : α) :
    α → Prop where
  | given {x : α} (h : body.get? name = some (form x)) : Given body name form standard x
  | missing (h : ∀ x, body.get? name ≠ some (form x)) : Given body name form standard standard

/-- A reader that knows a form, and nothing else, finds what is given in it. -/
theorem Json.given_iff {α : Type} {read : Json → Option α} {form : α → Json}
    (hread : ∀ json x, read json = some x ↔ json = form x) {body : Json} {name : String}
    {standard x : α} :
    ((body.get? name).bind read).getD standard = x ↔ Given body name form standard x := by
  have hsome : ∀ y, (body.get? name).bind read = some y ↔ body.get? name = some (form y) := by
    intro y
    simp [Option.bind_eq_some_iff, hread]
  constructor
  · rintro rfl
    cases hfound : (body.get? name).bind read with
    | some y => exact .given ((hsome y).mp hfound)
    | none =>
      refine .missing fun y hy => ?_
      rw [(hsome y).mpr hy] at hfound
      cases hfound
  · intro h
    cases h with
    | given h => rw [(hsome x).mpr h, Option.getD_some]
    | missing h =>
      have hnone : (body.get? name).bind read = none :=
        Option.eq_none_iff_forall_ne_some.mpr fun y hy => h y ((hsome y).mp hy)
      rw [hnone, Option.getD_none]

theorem Json.elements?_eq_some_iff (json : Json) (elements : List Json) :
    json.elements? = some elements ↔ json = .array elements := by
  cases json <;> simp [elements?]

theorem Json.text?_eq_some_iff (json : Json) (s : String) :
    json.text? = some s ↔ json = .string s := by
  cases json <;> simp [text?]

/-- Natural numbers of 64 bits are read, as integers. -/
theorem Json.toUInt64?_eq_some_iff (json : Json) (n : UInt64) :
    json.toUInt64? = some n ↔ json = .ofNat n.toNat := by
  cases json with
  | number value =>
    cases value with
    | integer k =>
      simp only [toUInt64?, Number.toUInt64?, ofNat, Json.number.injEq, Number.integer.injEq]
      constructor
      · intro h
        split at h
        · rename_i hk
          obtain rfl := Option.some.inj h
          have hlt : k.toNat < UInt64.size := by
            simp only [UInt64.size]
            omega
          rw [UInt64.toNat_ofNat_of_lt' hlt, Int.toNat_of_nonneg hk.1]
        · cases h
      · rintro rfl
        have hlt := n.toNat_lt
        rw [if_pos (by omega), Int.toNat_natCast, UInt64.ofNat_toNat]
    | float x => simp [toUInt64?, Number.toUInt64?, ofNat]
  | _ => simp [toUInt64?, ofNat]

/-! ## Results -/

/-- What a result says of the body of a reply: the query as it was typed, a record for each hit in
order, and two counters. Without an array of hits there are no records, and a counter that is no
natural number of 64 bits is zero. -/
structure SearchResult.Reports (query : String) (body : Json) (result : SearchResult) : Prop where
  sameQuery : result.query = query
  hits : ∃ hits, Json.Given body "hits" Json.array [] hits ∧ result.hits = hits.map Record.ofHit
  total : Json.Given body "estimatedTotalHits" (fun n : UInt64 => .ofNat n.toNat) 0 result.total
  processingTimeMs : Json.Given body "processingTimeMs" (fun n : UInt64 => .ofNat n.toNat) 0
    result.processingTimeMs

theorem SearchResult.ofAnswer_eq_iff (query : String) (body : Json) (result : SearchResult) :
    ofAnswer query body = result ↔ Reports query body result := by
  have hhits : ∀ hits, ((body.get? "hits").bind Json.elements?).getD [] = hits ↔
      Json.Given body "hits" Json.array [] hits :=
    fun _ => Json.given_iff Json.elements?_eq_some_iff
  have hcounter : ∀ name n, counter body name = n ↔
      Json.Given body name (fun n : UInt64 => .ofNat n.toNat) 0 n :=
    fun _ _ => Json.given_iff Json.toUInt64?_eq_some_iff
  constructor
  · rintro rfl
    exact ⟨rfl, ⟨_, (hhits _).mp rfl, rfl⟩, (hcounter _ _).mp rfl, (hcounter _ _).mp rfl⟩
  · rintro ⟨hquery, ⟨hits, hgiven, heq⟩, htotal, htime⟩
    rw [ofAnswer, (hhits hits).mpr hgiven, (hcounter _ _).mpr htotal, (hcounter _ _).mpr htime,
      ← hquery, ← heq]

namespace Engine

/-! ## Outcomes -/

/-- What an outcome comes to. A success brings an answer with its body, a failure of another status
is told in words that may depend on its body. -/
inductive ComesTo {α : Type} (Brings : Json → α → Prop) (Tells : Json → String → Prop) :
    Outcome → Except CallError α → Prop where
  | unanswered (error : TransportError) :
      ComesTo Brings Tells (.error error) (.error (.transport error))
  | success {body : Json} {answer : α} (h : Brings body answer) :
      ComesTo Brings Tells (.ok ⟨200, body⟩) (.ok answer)
  | failure {status : UInt16} {body : Json} {words : String} (hstatus : status ≠ 200)
      (h : Tells body words) :
      ComesTo Brings Tells (.ok ⟨status, body⟩) (.error (.engine status words))

/-- An answer read off a reply follows the rules when its reader and its messages do. -/
theorem map_replyOf_eq_iff {α : Type} {message : Json → String} {read : Json → α}
    {Brings : Json → α → Prop} {Tells : Json → String → Prop}
    (hread : ∀ body answer, read body = answer ↔ Brings body answer)
    (hmessage : ∀ body words, message body = words ↔ Tells body words) {outcome : Outcome}
    {answer : Except CallError α} :
    (replyOf message outcome).map (fun reply => read reply.body) = answer ↔
      ComesTo Brings Tells outcome answer := by
  cases outcome with
  | error error =>
    constructor
    · rintro rfl
      exact .unanswered error
    · rintro ⟨⟩
      rfl
  | ok reply =>
    obtain ⟨status, body⟩ := reply
    -- A rule for a reply fixes its status, so the other rule for replies is out in each case.
    by_cases hstatus : status = 200
    · subst hstatus
      constructor
      · rintro rfl
        exact .success ((hread body _).mp rfl)
      · intro h
        cases h with
        | success h =>
          rw [← (hread body _).mpr h]
          rfl
        | failure hstatus _ => exact absurd rfl hstatus
    · have hok : HttpReply.isOk ⟨status, body⟩ = false := by simpa [HttpReply.isOk] using hstatus
      simp only [replyOf, hok, Bool.false_eq_true, if_false]
      constructor
      · rintro rfl
        exact .failure hstatus ((hmessage body _).mp rfl)
      · intro h
        cases h with
        | success _ => exact absurd rfl hstatus
        | failure _ h =>
          rw [(hmessage body _).mpr h]
          rfl

/-! ## Calls -/

namespace Connection

/-- What a failed search is told: the message of the engine, if that is a text. -/
def SearchTells (body : Json) (words : String) : Prop :=
  body.Given "message" Json.string "Search request failed" words

/-- What a failed health check is told, whatever the engine says. -/
def HealthTells (_ : Json) (words : String) : Prop := words = "Could not connect to search server"

variable {c : Connection} {σ : Type} {transport : Transport σ} {state : σ}

theorem run_search_eq_iff (h : c.isConfigured = true) (query : String) (options : SearchOptions)
    (answer : Except CallError SearchResult) :
    ((c.search query options).run transport state).1 = answer ↔
      ComesTo (SearchResult.Reports query) SearchTells
        (transport.send (c.searchRequest query options) state).1 answer := by
  have hmessage : ∀ body words, searchMessage body = words ↔ SearchTells body words :=
    fun _ _ => Json.given_iff Json.text?_eq_some_iff
  rw [search, if_pos h]
  exact map_replyOf_eq_iff (SearchResult.ofAnswer_eq_iff query) hmessage

theorem run_health_eq_iff (h : c.isConfigured = true) (answer : Except CallError Unit) :
    (c.health.run transport state).1 = answer ↔
      ComesTo (fun _ _ => True) HealthTells (transport.send c.healthRequest state).1 answer := by
  have hread : ∀ (_ : Json) (answer : Unit), () = answer ↔ True := fun _ _ => by simp
  rw [health, if_pos h]
  exact map_replyOf_eq_iff hread fun _ _ => eq_comm

/-- A form that asks for something is a search, told to users. -/
theorem run_handle_of_visible {input : SearchInput} (h : isBlankText input.query = false) :
    ((c.handle input).run transport state).1 =
      ((c.search input.query (input.toOptions c.resultsPerPage)).run transport state).1.mapError
        CallError.envelope := by
  rw [handle, if_neg (by simp [h])]
  cases c.search input.query (input.toOptions c.resultsPerPage) <;> rfl

theorem mapError_envelope_eq_ok_iff {found : Except CallError SearchResult}
    {result : SearchResult} :
    found.mapError CallError.envelope = .ok result ↔ found = .ok result := by
  cases found with
  | error error => exact iff_of_false nofun nofun
  | ok result' =>
    constructor
    · rintro ⟨⟩
      rfl
    · rintro ⟨⟩
      rfl

theorem mapError_envelope_eq_error_iff {found : Except CallError SearchResult}
    {envelope : ErrorEnvelope} :
    found.mapError CallError.envelope = .error envelope ↔
      ∃ error, found = .error error ∧ envelope.message = error.message := by
  cases found with
  | error error =>
    constructor
    · rintro ⟨⟩
      exact ⟨error, rfl, rfl⟩
    · rintro ⟨error', ⟨⟩, hmessage⟩
      have henvelope : envelope = error.envelope := by
        rw [CallError.envelope, ← hmessage]
      rw [henvelope]
      rfl
  | ok result => exact iff_of_false nofun nofun

/-- How calls are answered when there is an address and a key. Searches and health checks are
decided by the outcome of their request: without a reply they fail with the cause, in its own words;
with status 200 they succeed, whatever came along; with any other status they fail with that status.
A form that asks for something finds what the search with its options finds, and is told why that
fails if it does. -/
theorem run_comesTo (h : c.isConfigured = true) (transport : Transport σ) (state : σ) :
    (∀ query options answer, ((c.search query options).run transport state).1 = answer ↔
      ComesTo (SearchResult.Reports query) SearchTells
        (transport.send (c.searchRequest query options) state).1 answer) ∧
    (∀ answer, (c.health.run transport state).1 = answer ↔
      ComesTo (fun _ _ => True) HealthTells (transport.send c.healthRequest state).1 answer) ∧
    (∀ error : TransportError, (CallError.transport error).message = error.message) ∧
    ∀ input, isBlankText input.query = false →
      let options := input.toOptions c.resultsPerPage
      let found := ((c.search input.query options).run transport state).1
      let told := ((c.handle input).run transport state).1
      (∀ result, told = .ok result ↔ found = .ok result) ∧
      ∀ envelope, told = .error envelope ↔
        ∃ error, found = .error error ∧ envelope.message = error.message := by
  refine ⟨run_search_eq_iff h, run_health_eq_iff h, fun _ => rfl, ?_⟩
  intro input hvisible options found told
  have htold : told = found.mapError CallError.envelope := run_handle_of_visible hvisible
  rw [htold]
  exact ⟨fun _ => mapError_envelope_eq_ok_iff, fun _ => mapError_envelope_eq_error_iff⟩

/-- A body that holds nothing as it should, with status 200 and with another one, and no reply. -/
theorem run_comesTo_oddBody :
    let c := Connection.ofSettings { apiUrl := "http://engine", apiKey := "k" }
    let body : Json := .object [("estimatedTotalHits", .ofInt (-1)), ("hits", .array [.null]),
      ("message", .null), ("processingTimeMs", .string "3")]
    let ended (outcome : Outcome) : Rehearsal := ⟨[outcome], []⟩
    c.isConfigured = true ∧
      ((c.search "hall" {}).run rehearsal (ended (.ok ⟨200, body⟩))).1 =
        .ok ⟨"hall", [.ofHit .null], 0, 0⟩ ∧
      ((c.search "hall" {}).run rehearsal (ended (.ok ⟨204, body⟩))).1 =
        .error (.engine 204 "Search request failed") ∧
      isBlankText "hall" = false ∧
      ((c.handle { query := "hall" }).run rehearsal
          (ended (.error (.timeout (.ofSeconds 10))))).1 =
        .error ⟨"Request timed out after 10s"⟩ := by
  intro c body ended
  have hconfigured : c.isConfigured = true := by decide
  have hvisible : isBlankText "hall" = false := by decide
  have hnegative : ∀ n : UInt64, body.get? "estimatedTotalHits" ≠ some (.ofNat n.toNat) := by
    intro n h
    have hcount : (-1 : Int) = n.toNat :=
      Number.integer.inj (Json.number.inj (Option.some.inj h))
    omega
  have hfound : SearchResult.Reports "hall" body ⟨"hall", [.ofHit .null], 0, 0⟩ :=
    ⟨rfl, ⟨[.null], .given rfl, rfl⟩, .missing hnegative, .missing nofun⟩
  have hwords : SearchTells body "Search request failed" := .missing nofun
  have hcalls := fun outcome => run_comesTo hconfigured rehearsal (ended outcome)
  refine ⟨hconfigured, ((hcalls _).1 _ _ _).mpr (.success hfound),
    ((hcalls _).1 _ _ _).mpr (.failure (by decide) hwords), hvisible, ?_⟩
  obtain ⟨hsearch, -, -, hhandle⟩ := hcalls (.error (.timeout (.ofSeconds 10)))
  exact ((hhandle _ hvisible).2 _).mpr ⟨_, (hsearch _ _ _).mpr (.unanswered _), by decide⟩

end Connection

end Engine

end SiteSearch
