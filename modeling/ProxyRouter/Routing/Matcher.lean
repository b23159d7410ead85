import ProxyRouter.Routing.Rule
import ProxyRouter.Routing.Host
import ProxyRouter.Routing.DecisionCache
import ProxyRouter.Settings.Modules
import ProxyRouter.Json.Value
/-!
The matcher decides whether a target goes through a proxy. Its rule book holds networks and
patterns in the order they were added and domains as a sorted set, each without repeats. A
host needs a proxy when it is an address in one of the networks, when it or one of its parent
domains is a domain rule, or when a pattern matches it. Answers are cached by the target's text;
every change of the rules empties the cache.
-/
namespace ProxyRouter.Routing

/-- The rules in force. -/
structure RuleBook where
  networks : List Net.Prefix := []
  domains : List String := []
  patterns : List (String × Regexp) := []
deriving Repr

namespace RuleBook

def insertSorted (x : String) : List String → List String
  | [] => [x]
  | y :: ys => if x == y then y :: ys else if x < y then x :: y :: ys else y :: insertSorted x ys

/-- The book with one more rule; a rule already present changes nothing. -/
def add (b : RuleBook) : Rule → RuleBook
  | .network _ p => if b.networks.contains p then b else { b with networks := b.networks ++ [p] }
  | .domain _ d => { b with domains := insertSorted d b.domains }
  | .pattern raw g =>
    if b.patterns.any (·.1 == raw) then b else { b with patterns := b.patterns ++ [(raw, g)] }

def parents (host : List Char) : List (List Char) :=
  (List.range host.length).filterMap fun i =>
    if host[i]? == some '.' then some (host.drop (i + 1)) else none

/-- The host needs a proxy under these rules. -/
def decides (b : RuleBook) (host : String) : Bool :=
  let byNetwork := match Net.Addr.parse host with
    | .ok a => b.networks.any (·.contains a.unmap)
    | .error _ => false
  byNetwork || b.domains.contains host ||
    (parents host.toList).any (fun p => b.domains.contains (String.ofList p)) ||
    b.patterns.any (fun p => p.2.matches host)

end RuleBook

/-- The readable rules: domains sorted, networks and patterns in order. -/
structure RuleView where
  domains : List String
  ips : List String
  patterns : List String
deriving Repr

/-- Counts of rules and cache entries. -/
structure RuleStats where
  domainRules : Nat
  ipRules : Nat
  patternRules : Nat
  cacheEntries : Nat
  totalRules : Nat
deriving Repr

/-- One routing answer as seen by an observer. -/
structure RouteObservation where
  cacheHit : Bool
  useProxy : Bool
deriving Repr

/-- Why the matcher refused a change. -/
inductive MatcherError where
  | unknownTemplate (name : String)
  | wrongSettings
deriving Repr

def MatcherError.message : MatcherError → String
  | .unknownTemplate n => "unknown rule template " ++ Text.quote n
  | .wrongSettings => "routing: received incorrect settings type"

/-- Rules, cached answers and the count of evaluations. -/
structure Matcher where
  book : RuleBook
  cache : DecisionCache
  evaluations : Nat
deriving Repr

namespace Matcher

def new (cacheSize : Int) : Matcher := ⟨{}, DecisionCache.empty cacheSize, 0⟩

def parseAll (raws : List String) : List Rule :=
  raws.filterMap fun raw =>
    if Text.isBlankText raw then none
    else match Rule.parse raw with
      | .ok r => some r
      | .error _ => none

def addRule (m : Matcher) (raw : String) : Except RuleError Matcher :=
  (Rule.parse raw).map fun r => { m with book := m.book.add r, cache := m.cache.clear }

def addRules (m : Matcher) (raws : List String) : Nat × Matcher :=
  let rules := parseAll raws
  (rules.length, { m with book := rules.foldl RuleBook.add m.book, cache := m.cache.clear })

/-- Decide for a host under the rules, counting one more evaluation. -/
def evaluate (m : Matcher) (host : String) : Bool × Matcher :=
  (m.book.decides host, { m with evaluations := m.evaluations + 1 })

def remember (m : Matcher) (target : Target) (v : Bool) : Matcher :=
  { m with cache := m.cache.put target v }

/-- Whether a target needs a proxy, with what an observer sees; a target without host needs
none and is neither cached nor observed. -/
def route (m : Matcher) (target : Target) : Bool × Option RouteObservation × Matcher :=
  match m.cache.get? target with
  | some v => (v, some ⟨true, v⟩, m)
  | none =>
    let host := target.host
    if host.isEmpty then (false, none, m)
    else
      let (v, m) := m.evaluate host
      (v, some ⟨false, v⟩, m.remember target v)

def rules (m : Matcher) : RuleView :=
  ⟨m.book.domains, m.book.networks.map Net.Prefix.text, m.book.patterns.map (·.1)⟩

def stats (m : Matcher) : RuleStats :=
  let d := m.book.domains.length
  let i := m.book.networks.length
  let p := m.book.patterns.length
  ⟨d, i, p, m.cache.size, d + i + p⟩

def clearRules (m : Matcher) : Matcher := { m with book := {}, cache := m.cache.clear }

def loadDefaults (m : Matcher) : Nat × Matcher := m.addRules defaultRules

def applyTemplate (m : Matcher) (name : String) : Except MatcherError Matcher :=
  match template? name with
  | some rs => .ok (m.addRules rs).2
  | none => .error (.unknownTemplate name)

def ruleTexts (useDefaults : Bool) (names rules : List String) : Except MatcherError (List String) :=
  let start := if useDefaults then defaultRules else []
  let rec gather : List String → Except MatcherError (List String)
    | [] => .ok []
    | n :: ns =>
      match template? n with
      | some rs => (gather ns).map (rs ++ ·)
      | none => .error (.unknownTemplate n)
  (gather names).map fun ts => start ++ ts ++ rules

def replace (m : Matcher) (useDefaults : Bool) (names rules : List String) :
    Except MatcherError Matcher :=
  (ruleTexts useDefaults names rules).map fun texts =>
    let fresh := ((Matcher.new m.cache.capacity).addRules texts).2
    { m with book := fresh.book, cache := m.cache.clear }

def onSettings (m : Matcher) (module : String) (payload : Settings.Payload) :
    Except MatcherError Matcher :=
  if module != Settings.routingKey then .ok m
  else
    match payload with
    | .routing r => m.replace r.useDefaults (r.templates.getD []) (r.rules.getD [])
    | _ => .error .wrongSettings

end Matcher
end ProxyRouter.Routing

namespace ProxyRouter.Routing

def RuleView.toJson (v : RuleView) : Json :=
  .object [("domains", Json.strings v.domains), ("ips", Json.strings v.ips),
    ("patterns", Json.strings v.patterns)]

def RuleStats.toJson (s : RuleStats) : Json :=
  .object [("domain_rules", .int s.domainRules), ("ip_rules", .int s.ipRules),
    ("pattern_rules", .int s.patternRules), ("cache_entries", .int s.cacheEntries),
    ("total_rules", .int s.totalRules)]

end ProxyRouter.Routing
