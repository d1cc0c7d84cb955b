import SiteSearch.Engine.Conversation

/-!
# What calls ask and answer

A call is told by two things: the request that it needs, if it needs one, and its answer to what
comes of that request. Over every transport it sends the one and gives the other
(`Call.run_of_request?_eq_none`, `Call.run_of_request?_eq_some`).

For each question this says when it reaches the engine, with which request, and how it can fail:
a failure is local exactly when the question does not reach the engine
(`Question.isLocal_iff_of_error?`).
-/

namespace SiteSearch.Engine

open SiteSearch.Text

/-! ## Calls -/

namespace Call

variable {α β : Type}

/-- The request that a call needs. -/
def request? : Call α → Option HttpRequest
  | .settled _ => none
  | .ask request _ => some request

/-- The answer of a call whose request, if it needs one, comes to `outcome`. -/
def answerTo (outcome : Outcome) : Call α → α
  | .settled answer => answer
  | .ask _ answer => answer outcome

@[simp] theorem request?_settled (answer : α) : (settled answer).request? = none := rfl

@[simp] theorem request?_ask (request : HttpRequest) (answer : Outcome → α) :
    (ask request answer).request? = some request := rfl

@[simp] theorem answerTo_settled (outcome : Outcome) (answer : α) :
    (settled answer).answerTo outcome = answer := rfl

@[simp] theorem answerTo_ask (outcome : Outcome) (request : HttpRequest) (answer : Outcome → α) :
    (ask request answer).answerTo outcome = answer outcome := rfl

@[simp] theorem request?_map (f : α → β) (call : Call α) :
    (call.map f).request? = call.request? := by
  cases call <;> rfl

@[simp] theorem answerTo_map (f : α → β) (outcome : Outcome) (call : Call α) :
    (call.map f).answerTo outcome = f (call.answerTo outcome) := by
  cases call <;> rfl

variable {σ : Type} {transport : Transport σ} {state : σ} {call : Call α}

/-- A call that needs no request leaves the transport alone, and its answer is settled. -/
theorem run_of_request?_eq_none (h : call.request? = none) (outcome : Outcome) :
    call.run transport state = (call.answerTo outcome, state) := by
  cases call with
  | settled answer => rfl
  | ask request answer => cases h

/-- A call that needs a request sends it once and answers to what comes of it. -/
theorem run_of_request?_eq_some {request : HttpRequest} (h : call.request? = some request) :
    call.run transport state =
      (call.answerTo (transport.send request state).1, (transport.send request state).2) := by
  cases call with
  | settled answer => cases h
  | ask r answer =>
    obtain rfl : r = request := Option.some.inj h
    rfl

end Call

/-! ## Questions -/

namespace Question

/-- The request with which a question reaches the engine. -/
def request? (c : Connection) : Question → Option HttpRequest
  | .search query options => if c.isConfigured then some (c.searchRequest query options) else none
  | .handle input =>
    if c.isConfigured ∧ isBlankText input.query = false then
      some (c.searchRequest input.query (input.toOptions c.resultsPerPage))
    else none
  | .health => if c.isConfigured then some c.healthRequest else none
  | .plan _ _ => none

/-- The answer to a question whose request, if it has one, comes to `outcome`. -/
def answerTo (c : Connection) (outcome : Outcome) (question : Question) : Answer :=
  (question.call c).answerTo outcome

/-- The question is one of those that reach the engine: there is an address and a key, it is more
than a plan, and it is no form without a query. -/
def Reaches (c : Connection) (question : Question) : Prop :=
  c.isConfigured = true ∧ (∀ query options, question ≠ .plan query options) ∧
    ∀ input, question = .handle input → isBlankText input.query = false

variable {c : Connection} {question : Question} {outcome : Outcome}

theorem request?_search (c : Connection) (query : String) (options : SearchOptions) :
    (c.search query options).request? =
      if c.isConfigured then some (c.searchRequest query options) else none := by
  cases hconfigured : c.isConfigured <;> simp [Connection.search, hconfigured]

theorem request?_health (c : Connection) :
    c.health.request? = if c.isConfigured then some c.healthRequest else none := by
  cases hconfigured : c.isConfigured <;> simp [Connection.health, hconfigured]

theorem request?_handle (c : Connection) (input : SearchInput) :
    (c.handle input).request? =
      if c.isConfigured ∧ isBlankText input.query = false then
        some (c.searchRequest input.query (input.toOptions c.resultsPerPage))
      else none := by
  rw [Connection.handle]
  cases hblank : isBlankText input.query with
  | true => simp
  | false => simp [request?_search]

/-- The call of a question needs the request with which the question reaches the engine. -/
theorem request?_call (c : Connection) (question : Question) :
    (question.call c).request? = question.request? c := by
  cases question with
  | search query options =>
    rw [call, Call.request?_map, request?_search]
    rfl
  | handle input =>
    rw [call, Call.request?_map, request?_handle]
    rfl
  | health =>
    rw [call, Call.request?_map, request?_health]
    rfl
  | plan query options => rfl

theorem isSome_request?_iff : (question.request? c).isSome ↔ question.Reaches c := by
  cases question with
  | search query options => simp [request?, Reaches]
  | handle input =>
    by_cases h : c.isConfigured = true ∧ isBlankText input.query = false
    · simp [request?, Reaches, h]
    · have hnot : ¬ Reaches c (.handle input) := by
        rintro ⟨hconfigured, -, hvisible⟩
        exact h ⟨hconfigured, hvisible input rfl⟩
      simp [request?, h, hnot]
  | health => simp [request?, Reaches]
  | plan query options => simp [request?, Reaches]

/-! ## Failures -/

/-- The failure that a result tells of. -/
def failureOf? {α : Type} : Except CallError α → Option CallError
  | .error e => some e
  | .ok _ => none

/-- The failure of a question whose request, if it has one, comes to `outcome`, as it is before
users are told. -/
def error? (c : Connection) (outcome : Outcome) : Question → Option CallError
  | .search query options => failureOf? ((c.search query options).answerTo outcome)
  | .handle input =>
    if isBlankText input.query then some .emptyQuery
    else failureOf?
      ((c.search input.query (input.toOptions c.resultsPerPage)).answerTo outcome)
  | .health => failureOf? (c.health.answerTo outcome)
  | .plan _ _ => none

end Question

/-- The answer tells of this failure, or of none. A form is told only what users are told. -/
inductive Answer.TellsOf : Answer → Option CallError → Prop where
  | search (result : Except CallError SearchResult) :
      TellsOf (.search result) (Question.failureOf? result)
  | refused (e : CallError) : TellsOf (.handle (.error e.envelope)) (some e)
  | handled (result : SearchResult) : TellsOf (.handle (.ok result)) none
  | health (result : Except CallError Unit) : TellsOf (.health result) (Question.failureOf? result)
  | plan (plan : Plan) : TellsOf (.plan plan) none

namespace Question

variable {c : Connection} {question : Question} {outcome : Outcome}

/-- The answer to a question tells of the failure of the question. -/
theorem tellsOf_answerTo (c : Connection) (outcome : Outcome) (question : Question) :
    (question.answerTo c outcome).TellsOf (question.error? c outcome) := by
  cases question with
  | search query options =>
    rw [answerTo, call, Call.answerTo_map]
    exact .search _
  | handle input =>
    rw [answerTo, call, Call.answerTo_map, Connection.handle, error?]
    cases isBlankText input.query with
    | true => exact .refused .emptyQuery
    | false =>
      -- What the search fails with is told only as an envelope.
      simp only [Bool.false_eq_true, if_false, Call.answerTo_map]
      cases (c.search input.query (input.toOptions c.resultsPerPage)).answerTo outcome with
      | error e => exact .refused e
      | ok result => exact .handled result
  | health =>
    rw [answerTo, call, Call.answerTo_map]
    exact .health _
  | plan query options => exact .plan _

theorem isLocal_eq_false_of_replyOf {message : Json → String} {α : Type} {f : HttpReply → α}
    {e : CallError} (h : failureOf? ((replyOf message outcome).map f) = some e) :
    e.isLocal = false := by
  cases outcome with
  | error error =>
    obtain rfl : CallError.transport error = e := Option.some.inj h
    rfl
  | ok reply =>
    cases hok : reply.isOk with
    | true => simp [replyOf, hok, Except.map, failureOf?] at h
    | false =>
      simp only [replyOf, hok, Bool.false_eq_true, if_false, Except.map, failureOf?,
        Option.some.injEq] at h
      rw [← h]
      rfl

/-- Searches and health checks are made alike: without address or key they are refused, otherwise
they answer to a reply. -/
theorem isLocal_iff_of_guarded {α : Type} {request : HttpRequest} {message : Json → String}
    {f : HttpReply → α} {why : String} {e : CallError}
    (h : failureOf? ((if c.isConfigured then Call.ask request fun outcome =>
        (replyOf message outcome).map f
      else .settled (.error (.notConfigured why))).answerTo outcome) = some e) :
    e.isLocal = true ↔ c.isConfigured = false := by
  cases hconfigured : c.isConfigured with
  | true =>
    rw [hconfigured, if_pos rfl] at h
    simp [isLocal_eq_false_of_replyOf h]
  | false =>
    rw [hconfigured, if_neg Bool.false_ne_true] at h
    obtain rfl : CallError.notConfigured why = e := Option.some.inj h
    simp [CallError.isLocal]

/-- A failure is local exactly when the question does not reach the engine. -/
theorem isLocal_iff_of_error? {e : CallError} (h : question.error? c outcome = some e) :
    e.isLocal = true ↔ question.request? c = none := by
  cases question with
  | search query options =>
    rw [isLocal_iff_of_guarded h]
    simp [request?]
  | handle input =>
    rw [error?] at h
    cases hblank : isBlankText input.query with
    | true =>
      rw [hblank, if_pos rfl] at h
      obtain rfl := Option.some.inj h
      simp [request?, hblank, CallError.isLocal]
    | false =>
      simp only [hblank, Bool.false_eq_true, if_false] at h
      rw [isLocal_iff_of_guarded h]
      simp [request?, hblank]
  | health =>
    rw [isLocal_iff_of_guarded h]
    simp [request?]
  | plan query options => cases h

end Question

end SiteSearch.Engine
