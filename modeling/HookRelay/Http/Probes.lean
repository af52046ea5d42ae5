import HookRelay.Http.Message

/-!
# Routes and probes

A path knows some methods; another method is answered with those. Both servers have the same two
probes: counters at `/metrics`, and a sign of life at `/healthz`.

## Main definitions

* `routeGet`, `routePost` : the answer of a path that knows one method
* `probe?` : the answer of the probes
-/

namespace HookRelay.Http

/-- A path that is read; a request for the headers only gets no body. -/
def routeGet (r : Inbound) (reply : Reply) : Reply :=
  if r.method = "GET" then reply
  else if r.method = "HEAD" then { reply with body := "" }
  else .notAllowed "GET,HEAD"

/-- The path of a request, without its query. -/
def Inbound.route (r : Inbound) : String := String.ofList (r.path.toList.takeWhile (· != '?'))

/-- The type of counters in text form. -/
def countersText : String := "text/plain; version=0.0.4; charset=utf-8"

/-- The path of the counters. -/
def countersPath : String := "/metrics"

/-- The answer of the probes, if the path is one of theirs. The text of the counters is not
part of the answer. -/
def probe? (r : Inbound) : Option Reply :=
  if r.route = countersPath then some (routeGet r ⟨200, some countersText, none, ""⟩)
  else if r.route = "/healthz" then some (routeGet r (.empty 200))
  else none

end HookRelay.Http
