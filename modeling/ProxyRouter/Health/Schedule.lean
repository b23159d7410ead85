import ProxyRouter.Health.State
import ProxyRouter.Time.Duration
import ProxyRouter.Decimal.Convert
import ProxyRouter.Pool.Proxy
/-!
The adaptive schedule. A proxy is checked again after the base interval times a factor of its
grade: 2 for `excellent`, 1.5 for `good`, 1 for `fair`, 0.5 for `poor`, 0.25 for `critical` and
0.5 for `unknown`, kept between the least and the greatest interval. The product is taken in
binary64 and truncated to whole nanoseconds.
-/
namespace ProxyRouter.Health

/-- The intervals of the adaptive schedule. -/
structure SchedulerConfig where
  baseInterval : Duration
  minInterval : Duration
  maxInterval : Duration
deriving Repr, Inhabited

def HealthState.multiplier : HealthState → Float
  | .excellent => 2.0
  | .good => 1.5
  | .fair => 1.0
  | .poor => 0.5
  | .critical => 0.25
  | .unknown => 0.5

def SchedulerConfig.intervalBy (c : SchedulerConfig) (m : Float) : Duration :=
  let d : Duration := ⟨Decimal.truncateToInt64 (Float.ofInt c.baseInterval.nanos * m)⟩
  let d := if d < c.minInterval then c.minInterval else d
  if d > c.maxInterval then c.maxInterval else d

/-- The interval before the next check of a proxy with this grade. -/
def SchedulerConfig.interval (c : SchedulerConfig) (s : HealthState) : Duration :=
  c.intervalBy s.multiplier

def SchedulerConfig.intervalOfCode (c : SchedulerConfig) (code : Int) : Duration :=
  c.intervalBy (((HealthState.ofCode? code).map HealthState.multiplier).getD 1.0)

def setAt {α : Type} (f : Nat → α) (a : Nat) (v : α) : Nat → α :=
  fun b => if b = a then v else f b

/-- A check in the queue: when it is due, for which proxy, and its position in the queue
(`-1` once it was taken out). -/
structure ScheduleEntry where
  due : Instant
  name : String
  index : Int
deriving Repr

instance : Inhabited ScheduleEntry := ⟨⟨Instant.zero, "", -1⟩⟩

/-- The queue of checks: the entries by address, the next free address, and the addresses in
queue order, the first `len` positions of `slot`. -/
structure ScheduleQueue where
  entry : Nat → ScheduleEntry := fun _ => default
  fresh : Nat := 0
  slot : Nat → Nat := fun _ => 0
  len : Nat := 0

namespace ScheduleQueue

def entryAt (q : ScheduleQueue) (i : Nat) : ScheduleEntry := q.entry (q.slot i)

instance : Repr ScheduleQueue := ⟨fun q n => reprPrec ((List.range q.len).map q.entryAt) n⟩

def less (q : ScheduleQueue) (i j : Nat) : Bool := decide ((q.entryAt i).due < (q.entryAt j).due)

def swap (q : ScheduleQueue) (i j : Nat) : ScheduleQueue :=
  let a := q.slot i
  let b := q.slot j
  let entry := setAt q.entry b { q.entry b with index := i }
  { q with slot := setAt (setAt q.slot i b) j a,
           entry := setAt entry a { entry a with index := j } }

def up (q : ScheduleQueue) (j : Nat) : ScheduleQueue :=
  if j = 0 then q
  else if q.less j ((j - 1) / 2) then (q.swap ((j - 1) / 2) j).up ((j - 1) / 2)
  else q
termination_by j
decreasing_by omega

def smallerChild (q : ScheduleQueue) (i n : Nat) : Nat :=
  if 2 * i + 2 < n ∧ q.less (2 * i + 2) (2 * i + 1) then 2 * i + 2 else 2 * i + 1

theorem smallerChild_bounds (q : ScheduleQueue) (i n : Nat) :
    2 * i + 1 ≤ q.smallerChild i n ∧ q.smallerChild i n ≤ 2 * i + 2 ∧
      (2 * i + 1 < n → q.smallerChild i n < n) := by
  unfold smallerChild
  split <;> omega

/-- Move the entry at `i` down, among the first `n`, while a child is due strictly before it;
with the position where it stops. -/
def downFrom (q : ScheduleQueue) (i n : Nat) : ScheduleQueue × Nat :=
  if _h : 2 * i + 1 < n then
    if q.less (q.smallerChild i n) i then (q.swap i (q.smallerChild i n)).downFrom (q.smallerChild i n) n
    else (q, i)
  else (q, i)
termination_by n - i
decreasing_by have := q.smallerChild_bounds i n; omega

def down (q : ScheduleQueue) (i n : Nat) : ScheduleQueue × Bool :=
  ((q.downFrom i n).1, (q.downFrom i n).2 > i)

def restore (q : ScheduleQueue) (i n : Nat) : ScheduleQueue :=
  if (q.down i n).2 then (q.down i n).1 else (q.down i n).1.up i

def append (q : ScheduleQueue) (due : Instant) (name : String) : ScheduleQueue :=
  { entry := setAt q.entry q.fresh ⟨due, name, q.len⟩, fresh := q.fresh + 1,
    slot := setAt q.slot q.len q.fresh, len := q.len + 1 }

def push (q : ScheduleQueue) (due : Instant) (name : String) : ScheduleQueue × Nat :=
  ((q.append due name).up q.len, q.fresh)

def setDue (q : ScheduleQueue) (a : Nat) (due : Instant) : ScheduleQueue :=
  { q with entry := setAt q.entry a { q.entry a with due := due } }

def dropLast (q : ScheduleQueue) : ScheduleQueue × Nat :=
  let a := q.slot (q.len - 1)
  ({ q with entry := setAt q.entry a { q.entry a with index := -1 }, len := q.len - 1 }, a)

/-- Take out the entry due first: swap it with the last, move the new first down, and take
out the last. -/
def pop (q : ScheduleQueue) : ScheduleQueue × Nat :=
  ((q.swap 0 (q.len - 1)).down 0 (q.len - 1)).1.dropLast

/-- Take out the entry at position `i`: swap it with the last unless it is the last, put the
entry now at `i` in order, and take out the last. -/
def remove (q : ScheduleQueue) (i : Nat) : ScheduleQueue × Nat :=
  if q.len - 1 ≠ i then ((q.swap i (q.len - 1)).restore i (q.len - 1)).dropLast
  else q.dropLast

def fix (q : ScheduleQueue) (i : Nat) : ScheduleQueue := q.restore i q.len

@[simp] theorem len_swap (q : ScheduleQueue) (i j : Nat) : (q.swap i j).len = q.len := rfl

@[simp] theorem len_downFrom (q : ScheduleQueue) (i n : Nat) : (q.downFrom i n).1.len = q.len := by
  fun_induction downFrom q i n with
  | case1 _ _ _ _ ih => rw [ih, len_swap]
  | case2 => rfl
  | case3 => rfl

@[simp] theorem len_pop (q : ScheduleQueue) : q.pop.1.len = q.len - 1 := by
  simp [pop, dropLast, down]

end ScheduleQueue

/-- The roster, the queue of its checks with the map from names to their entries, and whether
the schedule runs. -/
structure Schedule where
  config : SchedulerConfig
  queue : ScheduleQueue := {}
  entries : List (String × Nat) := []
  roster : List (String × Pool.ProxyIdentity) := []
  running : Bool := false
deriving Repr

namespace Schedule

def putByName (acc : List (String × Pool.ProxyIdentity)) (id : Pool.ProxyIdentity) :
    List (String × Pool.ProxyIdentity) :=
  if acc.any (·.1 == id.name) then acc.map fun p => if p.1 == id.name then (id.name, id) else p
  else acc ++ [(id.name, id)]

def byName (ids : List Pool.ProxyIdentity) : List (String × Pool.ProxyIdentity) :=
  ids.foldl putByName []

def entryOf? (s : Schedule) (name : String) : Option Nat :=
  (s.entries.find? (·.1 == name)).map (·.2)

def pushLocked (s : Schedule) (name : String) (due : Instant) : Schedule :=
  match s.entryOf? name with
  | some a => { s with queue := (s.queue.setDue a due).fix (s.queue.entry a).index.toNat }
  | none =>
    { s with queue := (s.queue.push due name).1,
             entries := s.entries ++ [(name, (s.queue.push due name).2)] }

def dropIfLeft (next : List (String × Pool.ProxyIdentity)) (s : Schedule) (e : String × Nat) :
    Schedule :=
  if next.any (·.1 == e.1) then s
  else { s with queue := (s.queue.remove (s.queue.entry e.2).index.toNat).1,
                entries := s.entries.filter (·.1 != e.1) }

/-- Take a new roster: drop the checks of proxies that left and schedule the newcomers one
interval, by their grade, from now. -/
def sync (s : Schedule) (now : Instant) (grade : String → HealthState)
    (ids : List Pool.ProxyIdentity) : Schedule :=
  let next := byName ids
  let kept := s.entries.foldl (dropIfLeft next) s
  let added := next.foldl (fun acc p =>
    if acc.entries.any (·.1 == p.1) then acc
    else acc.pushLocked p.1 (now.add (s.config.interval (grade p.1)))) kept
  { added with roster := next }

/-- Take out the checks due by now, first due first, with the proxies of the roster among
them. -/
def popDue (s : Schedule) (now : Instant) : List Pool.ProxyIdentity × Schedule :=
  if s.queue.len > 0 ∧ ¬ now < (s.queue.entryAt 0).due then
    let name := (s.queue.pop.1.entry s.queue.pop.2).name
    let rest := popDue { s with queue := s.queue.pop.1, entries := s.entries.filter (·.1 != name) } now
    (((s.roster.find? (·.1 == name)).map (·.2)).toList ++ rest.1, rest.2)
  else ([], s)
termination_by s.queue.len
decreasing_by simp only [ScheduleQueue.len_pop]; omega

/-- Schedule the next check of a proxy still in the roster. -/
def reschedule (s : Schedule) (now : Instant) (grade : HealthState) (name : String) : Schedule :=
  if s.roster.any (·.1 == name) then s.pushLocked name (now.add (s.config.interval grade)) else s

def minSleep : Duration := Duration.ofSeconds 1

def maxSleep : Duration := Duration.ofSeconds 30

/-- How long the loop sleeps after a tick: until the first check is due, but at least the least
sleep and at most the greatest; the greatest when nothing is scheduled. -/
def nextWait (s : Schedule) (now : Instant) : Duration :=
  if s.queue.len = 0 then maxSleep
  else
    let d := (s.queue.entryAt 0).due.since now
    let d := if d < minSleep then minSleep else d
    if d > maxSleep then maxSleep else d

def pending (s : Schedule) : List (String × Instant) :=
  (s.entries.map fun e => (e.1, (s.queue.entry e.2).due)).foldl (fun acc e => insertByName e acc) []
where
  /-- Insert by name. -/
  insertByName (e : String × Instant) : List (String × Instant) → List (String × Instant)
    | [] => [e]
    | f :: fs => if e.1 < f.1 then e :: f :: fs else f :: insertByName e fs

end Schedule
end ProxyRouter.Health
