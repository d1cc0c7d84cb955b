import SiteSearch.Proofs.Engine.Asked

/-!
# Conversations over a rehearsal

What a rehearsal holds at every moment of a conversation is told by the questions that reached the
engine so far: one outcome was used up and one request noted for each of them, and nothing for the
others (`converse_rehearsal_eq`). So a question is answered as if it were the only one, whatever
was asked before it and whatever came of that (`rehearse_isolated`).
-/

namespace SiteSearch.Engine

/-! ## One question after the other -/

section Conversation

variable {σ : Type} {transport : Transport σ} {c : Connection}

theorem converse_cons (state : σ) (question : Question) (questions : List Question) :
    converse transport c state (question :: questions) =
      (((question.call c).run transport state).1 ::
        (converse transport c ((question.call c).run transport state).2 questions).1,
      (converse transport c ((question.call c).run transport state).2 questions).2) := rfl

theorem converse_append (state : σ) (questions more : List Question) :
    converse transport c state (questions ++ more) =
      ((converse transport c state questions).1 ++
        (converse transport c (converse transport c state questions).2 more).1,
      (converse transport c (converse transport c state questions).2 more).2) := by
  induction questions generalizing state with
  | nil => rfl
  | cons question questions ih => rw [List.cons_append, converse_cons, ih, converse_cons]; rfl

theorem length_answers_converse (state : σ) (questions : List Question) :
    (converse transport c state questions).1.length = questions.length := by
  induction questions generalizing state with
  | nil => rfl
  | cons question questions ih => rw [converse_cons, List.length_cons, List.length_cons, ih]

end Conversation

/-! ## Rehearsals -/

variable {c : Connection}

/-- The outcome that comes next in a rehearsal. -/
def Rehearsal.next (state : Rehearsal) : Outcome := state.outcomes.head?.getD defaultOutcome

/-- A question is answered from the next outcome. If it reaches the engine the outcome is used up
and the request noted, otherwise nothing happens. -/
theorem run_rehearsal (question : Question) (state : Rehearsal) :
    (question.call c).run rehearsal state = (question.answerTo c state.next,
      ⟨state.outcomes.drop (question.request? c).toList.length,
        state.requests ++ (question.request? c).toList⟩) := by
  have hcall := Question.request?_call c question
  cases hrequest : question.request? c with
  | none =>
    rw [hrequest] at hcall
    rw [Call.run_of_request?_eq_none hcall state.next]
    simp [Question.answerTo]
  | some request =>
    rw [hrequest] at hcall
    rw [Call.run_of_request?_eq_some hcall]
    simp [rehearsal, Question.answerTo, Rehearsal.next]

/-- What is left of a rehearsal after a conversation, and what was noted. -/
theorem converse_rehearsal_eq (state : Rehearsal) (questions : List Question) :
    (converse rehearsal c state questions).2 =
      ⟨state.outcomes.drop (questions.filterMap (Question.request? c)).length,
        state.requests ++ questions.filterMap (Question.request? c)⟩ := by
  induction questions generalizing state with
  | nil => simp [converse]
  | cons question questions ih =>
    rw [converse_cons, ih, run_rehearsal]
    cases hrequest : question.request? c with
    | none => simp [hrequest]
    | some request => simp [hrequest, Nat.add_comm]

/-- What comes of questions that are asked under settings over a rehearsal with these outcomes. -/
def rehearse (s : Settings) (outcomes : List Outcome) (questions : List Question) :
    List Answer × Rehearsal :=
  converse rehearsal (.ofSettings s) ⟨outcomes, []⟩ questions

theorem requests_rehearse (s : Settings) (outcomes : List Outcome) (questions : List Question) :
    (rehearse s outcomes questions).2.requests =
      questions.filterMap (Question.request? (.ofSettings s)) := by
  rw [rehearse, converse_rehearsal_eq, List.nil_append]

/-- The outcome that comes next is the one whose number is that of the requests so far. -/
theorem next_rehearse (s : Settings) (outcomes : List Outcome) (questions : List Question) :
    (rehearse s outcomes questions).2.next =
      outcomes[(rehearse s outcomes questions).2.requests.length]?.getD defaultOutcome := by
  rw [requests_rehearse, rehearse, converse_rehearsal_eq, Rehearsal.next, List.head?_drop]

/-- A question in the middle of a conversation. It is noted once if it reaches the engine and never
otherwise. Its answer is the one to the outcome whose number is that of the requests before it,
and it would be the same with that outcome alone and no other question. If it fails, the failure
is local exactly when nothing was noted. -/
theorem rehearse_isolated (s : Settings) (outcomes : List Outcome) (prior : List Question)
    (question : Question) (later : List Question) :
    let c := Connection.ofSettings s
    let before := (rehearse s outcomes prior).2.requests
    let after := (rehearse s outcomes (prior ++ [question])).2.requests
    let outcome := outcomes[before.length]?.getD defaultOutcome
    before = prior.filterMap (Question.request? c) ∧
    after = before ++ (question.request? c).toList ∧
    ((question.request? c).isSome ↔ question.Reaches c) ∧
    (rehearse s outcomes (prior ++ question :: later)).1[prior.length]? =
      some (question.answerTo c outcome) ∧
    (rehearse s [outcome] [question]).1 = [question.answerTo c outcome] ∧
    (question.answerTo c outcome).TellsOf (question.error? c outcome) ∧
    ∀ e, question.error? c outcome = some e → (e.isLocal = true ↔ after = before) := by
  intro c before after outcome
  have hafter : after = before ++ (question.request? c).toList := by
    simp only [after, before, requests_rehearse, List.filterMap_append]
    cases hrequest : question.request? c <;> simp [c, hrequest]
  refine ⟨requests_rehearse s outcomes prior, hafter, Question.isSome_request?_iff, ?_, ?_,
    Question.tellsOf_answerTo c outcome question, ?_⟩
  -- The conversation is split before the question, where the rehearsal has `outcome` next.
  · have hlength : prior.length = (rehearse s outcomes prior).1.length :=
      (length_answers_converse _ prior).symm
    have hnext : outcome = (rehearse s outcomes prior).2.next :=
      (next_rehearse s outcomes prior).symm
    rw [hnext, rehearse, converse_append, converse_cons, run_rehearsal, hlength, rehearse]
    simp [c]
  · rw [rehearse, converse_cons, run_rehearsal]
    rfl
  · intro e he
    rw [Question.isLocal_iff_of_error? he, hafter]
    cases question.request? c <;> simp

end SiteSearch.Engine
