/-
# One browser tab

The token store, the requests of the API client and the query cache.  A request reads
the store when it starts and touches it again after two suspensions, so that logins,
logouts and other answers lie in between.  Cached data is tagged with the token it was
fetched under; the data itself plays no part.
-/
import SpendLens.Lib.EventRuns
import Mathlib.Data.List.Basic

namespace SpendLens

open EventRuns

/-! ## State -/

/-- Where a request stands: before its status line is in, before its body is in, or
after. -/
inductive CallStage where
  | sent
  | reading (status : ℕ)
  | ended
  deriving DecidableEq

/-- A call of `apiFetch`. -/
structure Call where
  /-- what `getAuthToken` returned -/
  token : Option String
  /-- the token of the `Authorization` header -/
  bearer : Option String
  /-- the query the result is for -/
  query : Option ℕ
  stage : CallStage
  deriving DecidableEq

/-- A query of the cache. -/
structure QueryEntry where
  id : ℕ
  key : String
  /-- the token its data was fetched under, if it has data -/
  data : Option (Option String)
  invalidated : Bool
  deriving DecidableEq

structure Tab where
  token : Option String
  calls : List Call
  queries : List QueryEntry
  nextQuery : ℕ
  deriving DecidableEq

/-- A tab that has just been loaded. -/
def Tab.fresh : Tab := ⟨none, [], [], 0⟩

/-- What happens in a tab.  A request may be that of a query, and its caller may set an
`Authorization` header of its own. -/
inductive TabEvent where
  | login (accessToken : String)
  | logout
  | request (authorization : Option String) (key : Option String)
  | response (call : ℕ) (status : ℕ)
  | body (call : ℕ)
  | failure (call : ℕ)
  | collect (key : String)
  deriving DecidableEq

/-! ## Steps -/

/-- A token that passes `if (token)`. -/
def truthy (token : Option String) : Bool := token.any (fun t => t ≠ "")

/-- The key of the current user. -/
def authMe : String := "auth/me"

def setAuthToken (next : Option String) (s : Tab) : Tab := { s with token := next }

/-- The data of invalidated queries stays until it is fetched again. -/
def invalidateQueries (key : String) (s : Tab) : Tab :=
  { s with queries := s.queries.map (fun q =>
      if q.key = key then { q with invalidated := true } else q) }

/-- `queryClient.clear()`; a result that is still to come has no query to go to. -/
def clearQueries (s : Tab) : Tab := { s with queries := [] }

/-- The query of a key, made if there is none. -/
def openQuery (key : String) (s : Tab) : Tab × ℕ :=
  match s.queries.find? (fun q => q.key = key) with
  | some q => (s, q.id)
  | none =>
      ({ s with
          queries := s.queries ++ [⟨s.nextQuery, key, none, false⟩]
          nextQuery := s.nextQuery + 1 }, s.nextQuery)

/-- The token of the `Authorization` header: the caller's own, or the one in the store. -/
def bearerOf (token authorization : Option String) : Option String :=
  if truthy token && authorization.isNone then token else authorization

/-- `apiFetch` up to its first suspension. -/
def startCall (authorization : Option String) (query : Option ℕ) (s : Tab) : Tab :=
  { s with calls := s.calls ++ [⟨s.token, bearerOf s.token authorization, query, .sent⟩] }

def setStage (i : ℕ) (stage : CallStage) (s : Tab) : Tab :=
  { s with calls := s.calls.modify i (fun c => { c with stage := stage }) }

/-- The result of a request reaches its query, if that is still in the cache. -/
def deliver (c : Call) (s : Tab) : Tab :=
  { s with queries := s.queries.map (fun q =>
      if c.query = some q.id then { q with data := some c.bearer, invalidated := false } else q) }

/-- `response.ok` -/
def isOk (status : ℕ) : Bool := 200 ≤ status && status ≤ 299

/-- The rest of `apiFetch` after its second suspension. -/
def finishCall (c : Call) (status : ℕ) (s : Tab) : Tab :=
  if isOk status then deliver c s
  else if status = 401 && truthy c.token then setAuthToken none s
  else s

/-- `onSuccess` of `useLogin`. -/
def onLogin (accessToken : String) (s : Tab) : Tab :=
  invalidateQueries authMe (setAuthToken (some accessToken) s)

/-- `logout` of the provider. -/
def onLogout (s : Tab) : Tab := clearQueries (setAuthToken none s)

/-- One event. -/
def Tab.step (s : Tab) : TabEvent → Tab
  | .login accessToken => onLogin accessToken s
  | .logout => onLogout s
  | .request authorization none => startCall authorization none s
  | .request authorization (some key) =>
      startCall authorization (some (openQuery key s).2) (openQuery key s).1
  | .response i status =>
      if (s.calls[i]?).any (fun c => c.stage = .sent) then
        -- an answer without content has no body to wait for
        setStage i (if status = 204 then .ended else .reading status) s
      else s
  | .body i =>
      match s.calls[i]? with
      | some ⟨token, bearer, query, .reading status⟩ =>
          finishCall ⟨token, bearer, query, .reading status⟩ status (setStage i .ended s)
      | _ => s
  | .failure i =>
      if (s.calls[i]?).any (fun c => c.stage = .sent) then setStage i .ended s else s
  | .collect key => { s with queries := s.queries.filter (fun q => q.key ≠ key) }

end SpendLens
