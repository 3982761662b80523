import JobsGateway.Text.Duration
import JobsGateway.Url.Parser
import JobsGateway.Url.Printer

/-!
# The backend

All requests are passed on to one backend. It is known by its origin, a URL text that ends in no
slash, and by how long an answer may take. `target` says where a request goes: the origin, a slash
and the backend path are read as one URL, and a query that is not empty is attached to it.
-/

namespace JobsGateway

/-- Where requests are passed on to. -/
structure Backend where
  origin : Text
  timeout : Duration
  deriving Repr, DecidableEq

namespace Backend

/-- The backend at a URL. -/
def ofUrl (url : Url) (timeout : Duration) : Backend where
  origin := (url.text.reverse.dropWhile (· == '/')).reverse
  timeout := timeout

/-- The URL of a backend path with a query. -/
def target (b : Backend) (path : Text) (query : Option Text) : Except UrlError Url := do
  let url ← Url.parse (b.origin ++ '/' :: path.dropWhile (· == '/'))
  pure (url.withQuery (query.filter (· != [])))

end Backend

end JobsGateway
