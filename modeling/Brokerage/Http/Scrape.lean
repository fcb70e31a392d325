import Brokerage.Http.Server
import Brokerage.Metrics.Hub

/-!
# Scrapes

* `Http.scrape`: the response of a metrics server.
-/

namespace Brokerage.Http

/-- The path of the metrics. -/
def metricsPath : String := "/metrics"

/-- The response with the metrics of a server. -/
def metricsResponse (rendered : Option String) : Response :=
  match rendered with
  | some s => .text 200 s
  | none => .text 503 "Metrics not initialized"

/-- **The response of a metrics server.** -/
def scrape (rendered : Option String) (r : Request) : Response :=
  if r.path = metricsPath.toList then
    if r.method = "GET" then metricsResponse rendered
    else if r.method = "HEAD" then (metricsResponse rendered).withoutContent
    else notAllowed.withAllowed Method.get.names
  else notFound

end Brokerage.Http
