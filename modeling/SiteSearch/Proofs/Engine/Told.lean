import SiteSearch.Proofs.Engine.Outcomes

/-!
# What users are told

A form that is not answered with a result is answered with a message. The library's own messages
and those for a missing reply always say something. A reply that is no success may bring a message
of the engine, which is passed on if it is a text, and there may be nothing to see in that. This is
the only way for users to be told nothing (`told_blank_iff`).
-/

namespace SiteSearch

open SiteSearch.Text

namespace Engine

theorem isBlankText_append (a b : String) :
    isBlankText (a ++ b) = (isBlankText a && isBlankText b) := by
  rw [isBlankText, String.toList_append, List.all_append, isBlankText, isBlankText]

/-- There is something to see in what is said of a missing reply, whatever kept it away. -/
theorem TransportError.isBlankText_message (error : TransportError) :
    isBlankText error.message = false := by
  have htimeout : isBlankText "Request timed out after " = false := by decide
  have hconnection : isBlankText "Connection failed: " = false := by decide
  have hclient : isBlankText "HTTP client error: " = false := by decide
  -- Each message starts with words of the library's own, whatever the transport adds to them.
  cases error with
  | timeout limit =>
    change isBlankText ("Request timed out after " ++ limit.text) = false
    rw [isBlankText_append, htimeout, Bool.false_and]
  | connection reason =>
    change isBlankText ("Connection failed: " ++ reason) = false
    rw [isBlankText_append, hconnection, Bool.false_and]
  | client reason =>
    change isBlankText ("HTTP client error: " ++ reason) = false
    rw [isBlankText_append, hclient, Bool.false_and]

namespace Connection

variable {c : Connection} {σ : Type} {transport : Transport σ} {state : σ}

/-- A failed search tells nothing only when a reply other than a success brings words in which
there is nothing to see. -/
theorem comesTo_blank_iff {query : String} {outcome : Outcome} :
    (∃ error, ComesTo (SearchResult.Reports query) SearchTells outcome (.error error) ∧
        isBlankText error.message = true) ↔
      ∃ status body words, outcome = .ok ⟨status, body⟩ ∧ status ≠ 200 ∧
        body.get? "message" = some (.string words) ∧ isBlankText words = true := by
  constructor
  · rintro ⟨error, hcomes, hblank⟩
    cases hcomes with
    | unanswered cause =>
      rw [CallError.message, cause.isBlankText_message] at hblank
      cases hblank
    | @failure status body words hstatus htells =>
      cases htells with
      | given hgiven => exact ⟨status, body, words, rfl, hstatus, hgiven, hblank⟩
      | missing _ =>
        have hown : isBlankText "Search request failed" = false := by decide
        exact absurd hblank (by simp only [CallError.message, hown, Bool.false_eq_true,
          not_false_iff])
  · rintro ⟨status, body, words, rfl, hstatus, hgiven, hblank⟩
    exact ⟨.engine status words, .failure hstatus (.given hgiven), hblank⟩

/-- A form is answered with a message in which there is nothing to see exactly when it asks for
something, there is an address and a key, and the reply is no success and brings such a message. -/
theorem told_blank_iff (c : Connection) (input : SearchInput) (transport : Transport σ)
    (state : σ) :
    let request := c.searchRequest input.query (input.toOptions c.resultsPerPage)
    (∃ envelope, ((c.handle input).run transport state).1 = .error envelope ∧
        isBlankText envelope.message = true) ↔
      isBlankText input.query = false ∧ c.isConfigured = true ∧
        ∃ status body words, (transport.send request state).1 = .ok ⟨status, body⟩ ∧
          status ≠ 200 ∧ body.get? "message" = some (.string words) ∧
          isBlankText words = true := by
  intro request
  cases hquery : isBlankText input.query with
  | true =>
    -- No query: what is told does not depend on the engine.
    refine iff_of_false ?_ (by simp)
    rintro ⟨envelope, htold, hblank⟩
    rw [handle, if_pos hquery] at htold
    obtain rfl := Except.error.inj htold
    exact absurd hblank (by decide)
  | false =>
    rw [run_handle_of_visible hquery]
    cases hconfigured : c.isConfigured with
    | false =>
      refine iff_of_false ?_ (by simp)
      rintro ⟨envelope, htold, hblank⟩
      rw [search, if_neg (by simp [hconfigured])] at htold
      obtain rfl := Except.error.inj htold
      exact absurd hblank (by decide)
    | true =>
      simp only [mapError_envelope_eq_error_iff, run_search_eq_iff hconfigured, true_and]
      rw [← comesTo_blank_iff]
      constructor
      · rintro ⟨envelope, ⟨error, hcomes, hmessage⟩, hblank⟩
        rw [hmessage] at hblank
        exact ⟨error, hcomes, hblank⟩
      · rintro ⟨error, hcomes, hblank⟩
        exact ⟨error.envelope, ⟨error, hcomes, rfl⟩, hblank⟩

/-- A reply that is no success, with an empty message. -/
theorem told_blank_emptyMessage :
    let c := Connection.ofSettings { apiUrl := "http://engine", apiKey := "k" }
    let reply : Outcome := .ok ⟨400, .object [("message", .string "")]⟩
    ((c.handle { query := "hall" }).run rehearsal ⟨[reply], []⟩).1 = .error ⟨""⟩ ∧
      isBlankText "" = true := by
  intro c reply
  refine ⟨?_, by decide⟩
  have hconfigured : c.isConfigured = true := by decide
  rw [run_handle_of_visible (by decide), mapError_envelope_eq_error_iff]
  exact ⟨.engine 400 "", (run_search_eq_iff hconfigured _ _ _).mpr
    (.failure (by decide) (.given rfl)), rfl⟩

end Connection

end Engine

end SiteSearch
