import ProxyRouter.Pool.Validator
import ProxyRouter.Pool.Snapshot
/-!
The roster: the proxies gathered from every source, validated and merged by name, with the
latest health sample of each proxy.
-/
namespace ProxyRouter.Pool

/-- A source as the roster sees it: its name and what reading it gives. -/
structure RosterSource where
  name : String
  fetched : Except String (List ProxyIdentity)
deriving Repr

/-- An announced change of the roster: the new roster, and the names that joined and left. -/
structure RosterChange where
  current : List ProxyIdentity
  added : List String
  removed : List String
deriving Repr

def RosterChange.announce {σ : Type} (c : RosterChange) (listeners : List (σ → RosterChange → σ))
    (s : σ) : σ :=
  listeners.foldl (fun s l => l s c) s

/-- The state of the roster. -/
structure Roster where
  sources : List RosterSource
  persistent : Bool
  members : List ProxyIdentity := []
  lastRefresh : Instant := Instant.zero
  lastError : Option String := none
  latest : List (String × HealthSample) := []
deriving Repr

/-- The roster's counts and sources, its last refresh and that refresh's error. -/
structure RosterStatus where
  count : Nat
  sources : List String
  lastRefresh : Instant
  lastError : Option String
deriving Repr

def missingFrom (xs ys : List String) : List String := xs.filter (!ys.contains ·)

/-- One proxy through the merge by name, after the proxies kept so far and their names: kept
unless its name was taken. -/
def keepFirstOfName (acc : List ProxyIdentity × List String) (id : ProxyIdentity) :
    List ProxyIdentity × List String :=
  if acc.2.contains id.name then acc else (acc.1 ++ [id], acc.2 ++ [id.name])

def firstOfEachName (ids : List ProxyIdentity) : List ProxyIdentity :=
  (ids.foldl keepFirstOfName ([], [])).1

def sameMembers : List ProxyIdentity → List ProxyIdentity → Bool
  | [], [] => true
  | a :: as, b :: bs =>
    a.name == b.name && a.server == b.server && a.port == b.port && a.protocol == b.protocol &&
      sameMembers as bs
  | _, _ => false

def RosterSource.failed (s : RosterSource) : Bool :=
  match s.fetched with
  | .error _ => true
  | .ok _ => false

def RosterSource.valid (s : RosterSource) : List ProxyIdentity :=
  match s.fetched with
  | .ok ids => (validate false ids).1
  | .error _ => []

def gather (sources : List RosterSource) : Except String (List ProxyIdentity) :=
  match sources.find? (·.failed) with
  | some s =>
    match s.fetched with
    | .error e => .error ("source " ++ s.name ++ ": " ++ e)
    | .ok _ => .ok []
  | none => .ok (firstOfEachName (sources.flatMap (·.valid)))

namespace Roster

/-- Refresh from the sources at time `now`: the new size or the error (with the size kept),
and the change to announce. -/
def refresh (r : Roster) (now : Instant) :
    (Except (String × Nat) Nat) × Option RosterChange × Roster :=
  let r := { r with lastRefresh := now }
  match gather r.sources with
  | .error e => (.error (e, r.members.length), none, { r with lastError := some e })
  | .ok merged =>
    let previous := r.members
    let r := { r with members := merged, lastError := none }
    if sameMembers previous merged then (.ok merged.length, none, r)
    else
      let before := names previous
      let after := names merged
      (.ok merged.length, some ⟨merged, missingFrom after before, missingFrom before after⟩, r)

def record (r : Roster) (name : String) (sample : HealthSample) : Roster :=
  match r.latest.find? (·.1 == name) with
  | some (_, prev) => if sample.timestamp < prev.timestamp then r
    else { r with latest := insertByName (name, sample) r.latest }
  | none => { r with latest := insertByName (name, sample) r.latest }

def saveSnapshot (r : Roster) : Option String :=
  if !r.persistent then none
  else
    let keep := names r.members
    some (formatSnapshot (r.latest.filter (keep.contains ·.1)))

/-- Load a stored snapshot (none for a missing file) and keep its samples: the samples read,
or nothing without storage or when the snapshot cannot be read. -/
def loadSnapshot (r : Roster) (stored : Option String) : Option (List (String × HealthSample)) × Roster :=
  if !r.persistent then (none, r)
  else
    match stored with
    | none => (some [], r)
    | some text =>
      match parseSnapshot text with
      | .error _ => (none, r)
      | .ok samples =>
        (some samples, { r with latest := samples.foldl (fun acc s => insertByName s acc) r.latest })

def status (r : Roster) : RosterStatus :=
  ⟨r.members.length, r.sources.map (·.name), r.lastRefresh, r.lastError⟩

end Roster

def RosterChange.toJson (c : RosterChange) : Json :=
  .object [("current", Json.strings (names c.current)), ("added", Json.strings c.added),
    ("removed", Json.strings c.removed)]

def RosterStatus.toJson (s : RosterStatus) : Json :=
  .object ([("count", .int s.count), ("sources", Json.strings s.sources),
    ("last_refresh", .time s.lastRefresh)] ++
    match s.lastError with
    | some e => [("last_error", .string e)]
    | none => [])

end ProxyRouter.Pool
