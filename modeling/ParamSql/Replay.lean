import ParamSql.Repository

/-!
# Repositories over recorded responses

A repository whose queries are answered by a list of responses, one for each query that is executed.
-/

namespace ParamSql

inductive Response where
  | rows (rows : List (Option ResultRow))
  | failure (detail : String)

/-- What is seen of one use of a method. -/
structure Exchange where
  answer : Except Error Answer
  /-- The queries that were executed. -/
  queries : List Query
  calls : List Call

/-- What a response means for the query that it answers; a missing one stands for no rows. -/
def Response.outcome (query : Query) :
    Option Response → Except Error (List (Option ResultRow))
  | none => .ok []
  | some (.rows found) => .ok found
  | some (.failure detail) => .error (.queryFailed query.text detail none)

/-- Uses a method and tells which responses are left. -/
def Method.exchange (table : Table) (properties : Properties) (method : Method)
    (responses : List Response) : Exchange × List Response :=
  let rendering := method.statement.query table properties
  match rendering.outcome with
  | .error error => (⟨.error error, [], rendering.log⟩, responses)
  | .ok query =>
    let answer := do method.answer table (← Response.outcome query responses.head?)
    (⟨answer, [query], rendering.log⟩, responses.tail)

def replay (table : Table) (properties : Properties) : List Method → List Response → List Exchange
  | [], _ => []
  | method :: rest, responses =>
    let (exchange, left) := method.exchange table properties responses
    exchange :: replay table properties rest left

end ParamSql
