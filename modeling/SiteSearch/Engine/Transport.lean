import SiteSearch.Engine.Call

/-!
# Transports

A transport sends requests. What comes of them may depend on what was sent before, so it has
a state. Two are defined: a rehearsal, whose outcomes are set beforehand, and a link to an
engine over HTTP.
-/

namespace SiteSearch.Engine

/-- A way to send requests, with a state. -/
structure Transport (σ : Type) where
  send : HttpRequest → σ → Outcome × σ

/-- Makes a call. -/
def Call.run {σ α : Type} (transport : Transport σ) (state : σ) : Call α → α × σ
  | .settled answer => (answer, state)
  | .ask request answer =>
    let (outcome, state) := transport.send request state
    (answer outcome, state)

/-! ## Rehearsals -/

/-- Outcomes still to come, and the requests sent so far, oldest first. -/
structure Rehearsal where
  outcomes : List Outcome
  requests : List HttpRequest

/-- What comes of a request when no outcome is left: a success that found nothing. -/
def defaultOutcome : Outcome := .ok ⟨200, .object [("hits", .array [])]⟩

/-- Each request takes the next outcome and is noted. -/
def rehearsal : Transport Rehearsal where
  send request state :=
    (state.outcomes.head?.getD defaultOutcome,
      ⟨state.outcomes.tail, state.requests ++ [request]⟩)

end SiteSearch.Engine
