import Mathlib.Data.List.Forall2
import SiteSearch.CommandLine.Run
import SiteSearch.Proofs.Engine.Rehearsed
import SiteSearch.Proofs.Text.Words

/-!
# The key stays hidden

The same questions are put under two settings that differ in the key alone. Nothing tells the two
runs apart but the value of one header of every request (`Settings.apiKey_hidden`).

The transport may note down what it likes, so its states are not compared. It is enough that
requests that differ in the key alone come to the same outcomes, and this is kept by every step of
the two runs (`Call.SameButKey.run`).
-/

namespace SiteSearch.Engine

open SiteSearch.Text

/-! ## Requests -/

/-- The requests are the same but for the value of the one header that holds the key. -/
structure HttpRequest.SameButKey (r r' : HttpRequest) : Prop where
  method : r'.method = r.method
  url : r'.url = r.url
  body : r'.body = r.body
  timeout : r'.timeout = r.timeout
  headers : ∃ before after key key',
    r.headers = before ++ ("Authorization", key) :: after ∧
      r'.headers = before ++ ("Authorization", key') :: after ∧
      ∀ header ∈ before ++ after, sameFolded header.1 "Authorization" = false

/-- Logs leave the key out. -/
theorem HttpRequest.SameButKey.inspect_eq {r r' : HttpRequest} (h : r.SameButKey r') :
    r'.inspect = r.inspect := by
  obtain ⟨before, after, key, key', hheaders, hheaders', -⟩ := h.headers
  have hnames : (r'.headers.map fun header => shown header.1) =
      r.headers.map fun header => shown header.1 := by
    simp only [hheaders, hheaders', List.map_append, List.map_cons]
  unfold inspect
  rw [hnames, h.method, h.url, h.body, h.timeout]

/-! ## Transports -/

namespace Transport

variable {σ : Type}

/-- What comes of requests that are sent one after the other. -/
def outcomes (transport : Transport σ) : σ → List HttpRequest → List Outcome
  | _, [] => []
  | state, request :: requests =>
    (transport.send request state).1 ::
      outcomes transport (transport.send request state).2 requests

/-- From the two states on, requests that differ in the key alone come to the same outcomes. -/
def Indifferent (transport : Transport σ) (state state' : σ) : Prop :=
  ∀ requests requests', List.Forall₂ HttpRequest.SameButKey requests requests' →
    transport.outcomes state' requests' = transport.outcomes state requests

/-- What comes of requests does not depend on the key. -/
def IgnoresKey (transport : Transport σ) (state : σ) : Prop := transport.Indifferent state state

/-- The transport, with a note of the requests that it sends, oldest first. -/
def noted (transport : Transport σ) : Transport (σ × List HttpRequest) where
  send request state :=
    ((transport.send request state.1).1,
      ((transport.send request state.1).2, state.2 ++ [request]))

theorem Indifferent.send {transport : Transport σ} {state state' : σ}
    (h : transport.Indifferent state state') {r r' : HttpRequest} (hr : r.SameButKey r') :
    (transport.send r' state').1 = (transport.send r state).1 ∧
      transport.Indifferent (transport.send r state).2 (transport.send r' state').2 := by
  constructor
  -- What holds for all later requests holds for those that come after this one.
  · exact (List.cons.inj (h [r] [r'] (.cons hr .nil))).1
  · intro requests requests' hrequests
    exact (List.cons.inj (h (r :: requests) (r' :: requests') (.cons hr hrequests))).2

end Transport

/-- A rehearsal never looks at the requests that it notes. -/
theorem indifferent_rehearsal (outcomes : List Outcome) (sent sent' : List HttpRequest) :
    rehearsal.Indifferent ⟨outcomes, sent⟩ ⟨outcomes, sent'⟩ := by
  intro requests requests' h
  induction h generalizing outcomes sent sent' with
  | nil => rfl
  | cons _ _ ih => exact congrArg _ (ih outcomes.tail _ _)

/-! ## Calls -/

namespace Call

variable {α β σ : Type} {transport : Transport σ} {state state' : σ}

/-- The calls ask for the same but for the key, and answer the same. -/
structure SameButKey (call call' : Call α) : Prop where
  request : Option.Rel HttpRequest.SameButKey call.request? call'.request?
  answer : ∀ outcome, call'.answerTo outcome = call.answerTo outcome

theorem SameButKey.of_settled (answer : α) : (settled answer).SameButKey (settled answer) :=
  ⟨.none, fun _ => rfl⟩

theorem SameButKey.map {call call' : Call α} (h : call.SameButKey call') (f : α → β) :
    (call.map f).SameButKey (call'.map f) := by
  constructor
  · rw [request?_map, request?_map]
    exact h.request
  · intro outcome
    rw [answerTo_map, answerTo_map, h.answer]

/-- The calls are answered alike, and from then on the transport comes to the same again. -/
theorem SameButKey.run {call call' : Call α} (h : call.SameButKey call')
    (hstate : transport.Indifferent state state') :
    (call'.run transport state').1 = (call.run transport state).1 ∧
      transport.Indifferent (call.run transport state).2 (call'.run transport state').2 := by
  cases call with
  | settled answer =>
    cases call' with
    | settled answer' => exact ⟨h.answer defaultOutcome, hstate⟩
    | ask request' answer' => cases h.request
  | ask request answer =>
    cases call' with
    | settled answer' => cases h.request
    | ask request' answer' =>
      obtain ⟨hsame⟩ := h.request
      obtain ⟨houtcome, hnext⟩ := hstate.send hsame
      refine ⟨?_, hnext⟩
      exact (congrArg answer' houtcome).trans (h.answer _)

theorem run_noted (call : Call α) (sent : List HttpRequest) :
    call.run transport.noted (state, sent) = ((call.run transport state).1,
      ((call.run transport state).2, sent ++ call.request?.toList)) := by
  cases call with
  | settled answer => simp [run]
  | ask request answer => rfl

end Call

/-! ## Conversations -/

section Conversation

variable {σ : Type} {transport : Transport σ} {state state' : σ} {c c' : Connection}

/-- Noting the requests changes no answer, and what is noted are the requests of the questions. -/
theorem converse_noted (sent : List HttpRequest) (questions : List Question) :
    converse transport.noted c (state, sent) questions =
      ((converse transport c state questions).1, ((converse transport c state questions).2,
        sent ++ questions.filterMap (Question.request? c))) := by
  induction questions generalizing state sent with
  | nil => simp [converse]
  | cons question questions ih =>
    rw [converse_cons, Call.run_noted, ih, converse_cons, Question.request?_call]
    cases hrequest : question.request? c <;> simp [hrequest]

theorem answers_converse_eq (hcalls : ∀ question : Question,
      (question.call c).SameButKey (question.call c'))
    (hstate : transport.Indifferent state state') (questions : List Question) :
    (converse transport c' state' questions).1 = (converse transport c state questions).1 := by
  induction questions generalizing state state' with
  | nil => rfl
  | cons question questions ih =>
    obtain ⟨hanswer, hnext⟩ := (hcalls question).run hstate
    rw [converse_cons, converse_cons, hanswer, ih hnext]

theorem forall₂_requests (hcalls : ∀ question : Question,
      (question.call c).SameButKey (question.call c')) (questions : List Question) :
    List.Forall₂ HttpRequest.SameButKey (questions.filterMap (Question.request? c))
      (questions.filterMap (Question.request? c')) := by
  induction questions with
  | nil => exact .nil
  | cons question questions ih =>
    have hrequest := (hcalls question).request
    rw [Question.request?_call, Question.request?_call] at hrequest
    rw [List.filterMap_cons, List.filterMap_cons]
    generalize question.request? c = request, question.request? c' = request' at hrequest ⊢
    cases hrequest with
    | none => exact ih
    | some hsame => exact .cons hsame ih

end Conversation

/-! ## Connections -/

namespace Connection

def withKey (c : Connection) (key : String) : Connection := { c with apiKey := key }

/-- Requests hold the key in their headers and nowhere else. -/
theorem sameButKey_headers (c : Connection) (key : String) (r : HttpRequest) :
    { r with headers := c.headers }.SameButKey { r with headers := (c.withKey key).headers } :=
  ⟨rfl, rfl, rfl, rfl, [], [], "Bearer " ++ c.apiKey, "Bearer " ++ key, rfl, rfl, by simp⟩

variable {c : Connection} {key : String}

theorem isConfigured_withKey (present : c.apiKey ≠ "") (present' : key ≠ "") :
    (c.withKey key).isConfigured = c.isConfigured := by
  rw [isConfigured, isConfigured, withKey, bne_iff_ne.mpr present, bne_iff_ne.mpr present']

theorem search_sameButKey (present : c.apiKey ≠ "") (present' : key ≠ "") (query : String)
    (options : SearchOptions) :
    (c.search query options).SameButKey ((c.withKey key).search query options) := by
  rw [search, search, isConfigured_withKey present present']
  cases c.isConfigured with
  | true => exact ⟨.some (sameButKey_headers c key (c.searchRequest query options)), fun _ => rfl⟩
  | false => exact .of_settled _

theorem health_sameButKey (present : c.apiKey ≠ "") (present' : key ≠ "") :
    c.health.SameButKey (c.withKey key).health := by
  rw [health, health, isConfigured_withKey present present']
  cases c.isConfigured with
  | true => exact ⟨.some (sameButKey_headers c key c.healthRequest), fun _ => rfl⟩
  | false => exact .of_settled _

theorem handle_sameButKey (present : c.apiKey ≠ "") (present' : key ≠ "") (input : SearchInput) :
    (c.handle input).SameButKey ((c.withKey key).handle input) := by
  rw [handle, handle]
  cases isBlankText input.query with
  | true => exact .of_settled _
  | false => exact (search_sameButKey present present' _ _).map _

theorem call_sameButKey (present : c.apiKey ≠ "") (present' : key ≠ "") (question : Question) :
    (question.call c).SameButKey (question.call (c.withKey key)) := by
  cases question with
  | search query options => exact (search_sameButKey present present' query options).map _
  | handle input => exact (handle_sameButKey present present' input).map _
  | health => exact (health_sameButKey present present').map _
  | plan query options => exact .of_settled _

end Connection

end SiteSearch.Engine

namespace SiteSearch

open SiteSearch.Text SiteSearch.Engine SiteSearch.CommandLine

/-! ## Settings -/

namespace Settings

variable {s : Settings} {key : String}

theorem trimBlanks_ne_empty (present : isBlankText key = false) : trimBlanks key ≠ "" := by
  rw [ne_eq, trimBlanks_eq_empty_iff, present]
  exact Bool.false_ne_true

/-- The settings are shown with a mask for the key, whatever the key is. -/
theorem showSettings_eq (present : isBlankText s.apiKey = false)
    (present' : isBlankText key = false) :
    showSettings { s with apiKey := key } = showSettings s := by
  have hne : ∀ {text : String}, isBlankText text = false → text ≠ "" := by
    rintro text hvisible rfl
    exact absurd hvisible (by decide)
  have hredacted : redacted { s with apiKey := key } = s.redacted := by
    simp only [redacted, if_neg (hne present), if_neg (hne present')]
  have hconfigured : isConfigured { s with apiKey := key } = s.isConfigured := by
    simp only [isConfigured, present, present']
  rw [showSettings, showSettings, hredacted, hconfigured]

theorem call_sameButKey (present : isBlankText s.apiKey = false)
    (present' : isBlankText key = false) (command : Command) :
    (command.call s).SameButKey (command.call { s with apiKey := key }) := by
  have hkey := trimBlanks_ne_empty present
  have hkey' := trimBlanks_ne_empty present'
  cases command with
  | search args => exact (Connection.handle_sameButKey hkey hkey' args.input).map _
  | explain args => exact .of_settled _
  | health => exact (Connection.health_sameButKey hkey hkey').map _
  | config =>
    rw [Command.call, Command.call, showSettings_eq present present']
    exact .of_settled _

/-- Settings that differ in the key alone, where both keys hold something to see, cannot be told
apart but by one header. They are shown alike and every plan is the same. Over a transport that does
not look at the key every command leaves the same behind, and questions asked one after the other get
the same answers, with the same failures and their messages; the requests sent are the same, also
in logs, but for the value of the one header that holds the key. -/
theorem apiKey_hidden (s : Settings) (key : String) (present : isBlankText s.apiKey = false)
    (present' : isBlankText key = false) :
    let s' := { s with apiKey := key }
    let c := Connection.ofSettings s
    let c' := Connection.ofSettings s'
    showSettings s' = showSettings s ∧
    (∀ query options, c'.plan query options = c.plan query options) ∧
    (∀ args, explain s' args = explain s args) ∧
    ∀ (σ : Type) (transport : Transport σ) (state : σ), transport.IgnoresKey state →
      (∀ command : Command, ((command.call s').run transport state).1 =
        ((command.call s).run transport state).1) ∧
      ∀ questions,
        (converse transport c' state questions).1 = (converse transport c state questions).1 ∧
        List.Forall₂ (fun r r' => r.SameButKey r' ∧ r'.inspect = r.inspect)
          (converse transport.noted c (state, []) questions).2.2
          (converse transport.noted c' (state, []) questions).2.2 := by
  intro s' c c'
  have hcalls : ∀ question : Question, (question.call c).SameButKey (question.call c') :=
    Connection.call_sameButKey (trimBlanks_ne_empty present) (trimBlanks_ne_empty present')
  refine ⟨showSettings_eq present present', fun _ _ => rfl, fun _ => rfl, ?_⟩
  intro σ transport state hignores
  constructor
  · intro command
    exact ((call_sameButKey present present' command).run hignores).1
  · intro questions
    refine ⟨answers_converse_eq hcalls hignores questions, ?_⟩
    rw [converse_noted, converse_noted]
    exact (forall₂_requests hcalls questions).imp fun _ _ h => ⟨h, h.inspect_eq⟩

/-- Keys of different lengths, one of them between blanks. -/
theorem apiKey_hidden_rehearsal :
    let s : Settings := { apiUrl := "http://engine", apiKey := "one" }
    let c := Connection.ofSettings s
    let c' := Connection.ofSettings { s with apiKey := " another " }
    let state : Rehearsal := ⟨[.error (.connection "refused")], []⟩
    isBlankText s.apiKey = false ∧ isBlankText " another " = false ∧ c.isConfigured = true ∧
      rehearsal.IgnoresKey state ∧
      showSettings { s with apiKey := " another " } = showSettings s ∧
      (converse rehearsal c' state [.health, .search "hall" {}]).1 =
        (converse rehearsal c state [.health, .search "hall" {}]).1 := by
  intro s c c' state
  have present : isBlankText s.apiKey = false := by decide
  have present' : isBlankText " another " = false := by decide
  have hignores : rehearsal.IgnoresKey state := indifferent_rehearsal _ _ _
  have hhidden := apiKey_hidden s " another " present present'
  exact ⟨present, present', by decide, hignores, hhidden.1,
    ((hhidden.2.2.2 Rehearsal rehearsal state hignores).2 _).1⟩

end Settings

end SiteSearch
