import QueryDesk.Backend.Sending
import QueryDesk.Json.Reading
import QueryDesk.Query.Wire
import QueryDesk.Result.Wire
import QueryDesk.Schema.Wire
import QueryDesk.Settings.Basic

/-! # Calls of the backend

The three things the backend is asked for: the result of a query, the result of a text of SQL, and
the schema. A call is one request and the reading of the body of its response.
-/

set_option autoImplicit false

namespace QueryDesk.Backend

/-- **A call of the backend.** -/
inductive Call where
  | query (q : Query) (limit : Option UInt32)
  | sql (text : String)
  | schema

/-- Where the backend answers a path: its address without slashes at the end, and the path. -/
def endpoint (settings : BackendSettings) (path : String) : String :=
  String.ofList (settings.url.toList.reverse.dropWhile (· == '/')).reverse ++ "/api/" ++ path

/-- The limit of rows that is sent with a query: the one of the call, or of the query, or the one
that was set up. -/
def rowLimit (settings : BackendSettings) (q : Query) (limit : Option UInt32) : UInt32 :=
  (limit.or q.limit).getD settings.defaultLimit

/-- **The request of a call.** -/
def Call.request (settings : BackendSettings) : Call → Request
  | .query q limit =>
    ⟨.post, endpoint settings "query",
      some (.object [("query", q.toJson),
        ("limit", .natural (rowLimit settings q limit).toUInt64)]), settings.timeoutMs⟩
  | .sql text =>
    ⟨.post, endpoint settings "sql", some (.object [("sql", .text text)]), settings.timeoutMs⟩
  | .schema => ⟨.get, endpoint settings "schema", none, settings.timeoutMs⟩

/-! ## Reading responses -/

/-- The text of the body of a response. -/
def arrivedText : Body → Except Failure String
  | .text s => .ok s
  | .cut => .error .request
  | .late => .error .timeout

/-- The JSON value that a response holds. -/
def arrivedJson (r : Response) : Except Failure Json := do
  let text ← arrivedText r.body
  match Json.parse? text with
  | some v => .ok v
  | none => .error .decode

/-- The result that a response holds. -/
def readResult (r : Response) : Except Failure QueryResult := do
  let v ← arrivedJson r
  match QueryResult.ofJson v with
  | .ok result => .ok result
  | .error .malformed => .error .decode
  | .error (.shape e) => .error (.result e)

/-- The schema that a response holds. -/
def readSchema (r : Response) : Except Failure Schema := do
  let v ← arrivedJson r
  match Schema.ofJson? v with
  | some schema => .ok schema
  | none => .error .decode

/-! ## Calling -/

/-- A call, and the reading of its response. -/
def call {α : Type} (settings : BackendSettings) (c : Call)
    (read : Response → Except Failure α) : Dialogue (Except Failure α) := do
  let answer ← send (c.request settings) settings.maxRetries.toNat
  return answer >>= read

/-- **The result of a query**, of at most `limit` rows. -/
def executeQuery (settings : BackendSettings) (q : Query) (limit : Option UInt32) :
    Dialogue (Except Failure QueryResult) :=
  call settings (.query q limit) readResult

/-- **The result of a text of SQL.** -/
def executeSql (settings : BackendSettings) (text : String) :
    Dialogue (Except Failure QueryResult) :=
  call settings (.sql text) readResult

/-- **The schema of the database.** -/
def fetchSchema (settings : BackendSettings) : Dialogue (Except Failure Schema) :=
  call settings .schema readSchema

end QueryDesk.Backend
