import ProxyRouter.Json.Value
import ProxyRouter.Json.Access
import ProxyRouter.Time.Instant
/-!
What the pool knows about a proxy: who it is, what the last probe of it found, and how often
it was chosen. A probe's overall score is the number the selector compares with its threshold;
the timestamp of a sample orders samples, and the zero instant means "not known".
-/
namespace ProxyRouter.Pool

/-- A proxy as a roster lists it. The descriptor holds the source's own description of the
proxy, as a map with sorted keys. -/
structure ProxyIdentity where
  name : String
  server : String := ""
  port : Int := 0
  protocol : String := ""
  source : String := ""
  descriptor : List (String × Json) := []
deriving Inhabited, Repr

/-- What one probe of a proxy found. -/
structure HealthSample where
  timestamp : Instant := Instant.zero
  success : Bool := false
  latencyMs : Int := 0
  connectivity : Float := 0
  successRate : Float := 0
  overallScore : Float := 0
  error : String := ""
deriving Inhabited, Repr

/-- How often a proxy was chosen, and when last. -/
structure UsageRecord where
  selectionCount : Int := 0
  lastSelected : Instant := Instant.zero
deriving Inhabited, Repr

def names (ids : List ProxyIdentity) : List String := ids.map (·.name)

def HealthSample.failed (time : Instant) (latencyMs : Int) (reason : String) : HealthSample :=
  { timestamp := time, latencyMs := latencyMs, error := reason }

/-- `{"name", "server", "port", "protocol", "source"?, "descriptor"?}`, leaving out an empty
source and an empty descriptor. -/
def ProxyIdentity.toJson (id : ProxyIdentity) : Json :=
  .object ([("name", .string id.name), ("server", .string id.server), ("port", .int id.port),
    ("protocol", .string id.protocol)] ++
    (if id.source.isEmpty then [] else [("source", .string id.source)]) ++
    (if id.descriptor.isEmpty then [] else [("descriptor", .object id.descriptor)]))

def identitiesJson (ids : List ProxyIdentity) : Json := .array (ids.map ProxyIdentity.toJson)

def ProxyIdentity.ofJson (j : Json) : ProxyIdentity :=
  { name := j.textAt "name", server := j.textAt "server", port := j.intAt "port",
    protocol := j.textAt "protocol", source := j.textAt "source",
    descriptor := match Json.dynamic (j.member "descriptor") with
      | .object ms => ms
      | _ => [] }

/-- `{"timestamp", "success", "latency_ms", "connectivity", "success_rate", "overall_score",
"error"?}`, leaving out an empty error. -/
def HealthSample.toJson (s : HealthSample) : Json :=
  .object ([("timestamp", .time s.timestamp), ("success", .bool s.success),
    ("latency_ms", .int s.latencyMs), ("connectivity", Json.float s.connectivity),
    ("success_rate", Json.float s.successRate), ("overall_score", Json.float s.overallScore)] ++
    (if s.error.isEmpty then [] else [("error", .string s.error)]))

def samplesJson (rs : List (String × HealthSample)) : Json :=
  .object (rs.map fun p => (p.1, p.2.toJson))

def UsageRecord.toJson (u : UsageRecord) : Json :=
  .object [("selection_count", .int u.selectionCount), ("last_selected", .time u.lastSelected)]

end ProxyRouter.Pool
