import SiteSearch.Engine.Transport

/-!
# Conversations

Questions put to an engine one after the other over one transport. Each is answered by the
call it stands for; planning asks nothing.
-/

namespace SiteSearch.Engine

/-- Something that can be asked. -/
inductive Question where
  /-- What does a query find? -/
  | search (query : String) (options : SearchOptions)
  /-- What does the input of a form find? -/
  | handle (input : SearchInput)
  | health
  /-- What would the engine be asked? -/
  | plan (query : String) (options : SearchOptions)

/-- The answer to a question. -/
inductive Answer where
  | search (result : Except CallError SearchResult)
  | handle (result : Except ErrorEnvelope SearchResult)
  | health (result : Except CallError Unit)
  | plan (plan : Plan)

def Question.call (c : Connection) : Question → Call Answer
  | .search query options => (c.search query options).map .search
  | .handle input => (c.handle input).map .handle
  | .health => c.health.map .health
  | .plan query options => .settled (.plan (c.plan query options))

/-- Asks one question after the other. -/
def converse {σ : Type} (transport : Transport σ) (c : Connection) :
    σ → List Question → List Answer × σ
  | state, [] => ([], state)
  | state, question :: questions =>
    let (answer, state) := (question.call c).run transport state
    let (answers, state) := converse transport c state questions
    (answer :: answers, state)

end SiteSearch.Engine
