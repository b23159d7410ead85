import Mathlib.Logic.Function.Basic
import ProxyRouter.Health.Probe
/-!
The engine gate, with every interleaving of the invocations that pass through it. A probe's
switch and fetches, and every section a caller hands to the gate, run while holding the gate,
which one invocation holds at a time; one whose context is done before it has the gate gives up.
-/
namespace ProxyRouter.Health

def maxTargetFanout : Nat := 4

/-- A call of the engine. -/
inductive EngineCall where
  /-- make a proxy the active one -/
  | switch (name : String)
  /-- the fetch of a target is sent -/
  | fetchSent (target : String)
  /-- the fetch of a target is answered -/
  | fetchAnswered (target : String)
deriving DecidableEq, Repr

/-- What an invocation of the gate runs. -/
inductive GateTask where
  /-- a probe of the proxy of this name -/
  | probe (name : String)
  /-- a section handed to the gate by a caller -/
  | exclusive
deriving DecidableEq, Repr

/-- How an invocation ended. -/
inductive GateExit where
  /-- its context was done before it had the gate -/
  | refused
  /-- the engine rejected the switch -/
  | switchRejected
  /-- the switch crashed -/
  | switchCrashed
  /-- the targets were fetched, with this many successes -/
  | tested (successes : Nat)
  /-- a fetch crashed while the targets were tried one at a time -/
  | fetchCrashed (message : String)
  /-- the section returned, or crashed -/
  | left
deriving DecidableEq, Repr

/-- Where an invocation stands. -/
inductive GatePhase where
  /-- waiting for the gate -/
  | waiting
  /-- holding the gate before the probe's switch -/
  | switching
  /-- holding the gate after an accepted switch: the targets not yet sent, the fetches in
  flight, and the successes so far -/
  | fetching (pending sent : List String) (successes : Nat)
  /-- holding the gate in a section -/
  | inSection
  /-- ended -/
  | ended (exit : GateExit)
deriving DecidableEq, Repr

def GatePhase.holding : GatePhase → Bool
  | .switching | .fetching .. | .inSection => true
  | .waiting | .ended _ => false

def GateTask.entry : GateTask → GatePhase
  | .probe _ => .switching
  | .exclusive => .inSection

/-- An invocation: what it runs, where it stands, and whether its context is done. -/
structure Invocation where
  task : GateTask
  phase : GatePhase := .waiting
  done : Bool := false
deriving Repr

/-- The phase after the answer to a fetch: in the minimal mode a crash or a success ends the
probe; otherwise a success counts one. -/
def afterFetch (minimal : Bool) (o : FetchOutcome) (pending sent : List String) (n : Nat) :
    GatePhase :=
  if minimal then
    match o with
    | .crash m => .ended (.fetchCrashed m)
    | o => if o.succeeded then .ended (.tested 1) else .fetching pending sent n
  else .fetching pending sent (if o.succeeded then n + 1 else n)

/-- The invocations of one gate over an engine in state `σ`, by number, with the gate's holder
and the engine calls made so far, the latest first, each with its invocation. -/
structure GateState (σ : Type) where
  engine : σ
  holder : Option Nat := none
  calls : Nat → Option Invocation := fun _ => none
  trace : List (Nat × EngineCall) := []

namespace GateState

variable {σ : Type}

/-- Invocation `i`, now `c`, makes the engine calls `made` in order, leaves the engine in state
`e` and moves to phase `p`; the gate is its own while `p` holds it, and free after. -/
def act (g : GateState σ) (i : Nat) (c : Invocation) (made : List EngineCall) (e : σ)
    (p : GatePhase) : GateState σ :=
  { engine := e, holder := if p.holding then some i else none,
    calls := Function.update g.calls i (some { c with phase := p }),
    trace := (made.map (i, ·)).reverse ++ g.trace }

/-- One step of the invocations of a gate whose probes are configured by `cfg`, over the engine
`eng`. -/
inductive Step (cfg : ProbeConfig) (eng : ProbeEngine σ) : GateState σ → GateState σ → Prop
  /-- a caller invokes a probe or a section; its context may already be done -/
  | invoke (g : GateState σ) (i : Nat) (task : GateTask) (done : Bool) : g.calls i = none →
      Step cfg eng g { g with calls := Function.update g.calls i (some ⟨task, .waiting, done⟩) }
  /-- the context of an invocation is cancelled, or its time runs out -/
  | expire (g : GateState σ) (i : Nat) (c : Invocation) : g.calls i = some c →
      Step cfg eng g { g with calls := Function.update g.calls i (some { c with done := true }) }
  /-- the free gate goes to a waiting invocation whose context is not done -/
  | acquire (g : GateState σ) (i : Nat) (c : Invocation) : g.calls i = some c →
      c.phase = .waiting → c.done = false → g.holder = none →
      Step cfg eng g (g.act i c [] g.engine c.task.entry)
  /-- a waiting invocation whose context is done gives up -/
  | refuse (g : GateState σ) (i : Nat) (c : Invocation) : g.calls i = some c →
      c.phase = .waiting → c.done = true →
      Step cfg eng g
        { g with calls := Function.update g.calls i (some { c with phase := .ended .refused }) }
  /-- the probe asks the engine to switch to its proxy -/
  | switch (g : GateState σ) (i : Nat) (c : Invocation) (name : String) : g.calls i = some c →
      c.task = .probe name → c.phase = .switching →
      Step cfg eng g (g.act i c [.switch name] (eng.switch g.engine name).2
        (if (eng.switch g.engine name).1 then .fetching cfg.targets [] 0 else .ended .switchRejected))
  /-- the switch crashes -/
  | switchCrash (g : GateState σ) (i : Nat) (c : Invocation) (name : String) :
      g.calls i = some c → c.task = .probe name → c.phase = .switching →
      Step cfg eng g (g.act i c [.switch name] g.engine (.ended .switchCrashed))
  /-- the probe sends the fetch of its next target: in the minimal mode when none is in flight
  and its context is not done, otherwise while fewer than four are in flight -/
  | send (g : GateState σ) (i : Nat) (c : Invocation) (t : String) (pending sent : List String)
      (n : Nat) : g.calls i = some c → c.phase = .fetching (t :: pending) sent n →
      (if cfg.stopOnFirstSuccess then sent = [] ∧ c.done = false
        else sent.length < maxTargetFanout) →
      Step cfg eng g (g.act i c [.fetchSent t] g.engine (.fetching pending (sent ++ [t]) n))
  /-- the engine answers a fetch in flight -/
  | answer (g : GateState σ) (i : Nat) (c : Invocation) (t : String) (pending sent : List String)
      (n : Nat) : g.calls i = some c → c.phase = .fetching pending sent n → t ∈ sent →
      Step cfg eng g (g.act i c [.fetchAnswered t] (eng.fetch g.engine t).2
        (afterFetch cfg.stopOnFirstSuccess (eng.fetch g.engine t).1 pending (sent.erase t) n))
  /-- in the minimal mode a probe whose context is done stops between fetches -/
  | stop (g : GateState σ) (i : Nat) (c : Invocation) (pending : List String) (n : Nat) :
      g.calls i = some c → c.phase = .fetching pending [] n → cfg.stopOnFirstSuccess = true →
      c.done = true → Step cfg eng g (g.act i c [] g.engine (.ended (.tested 0)))
  /-- every target has been answered -/
  | finish (g : GateState σ) (i : Nat) (c : Invocation) (n : Nat) : g.calls i = some c →
      c.phase = .fetching [] [] n → Step cfg eng g (g.act i c [] g.engine (.ended (.tested n)))
  /-- a section switches the engine -/
  | sectionSwitch (g : GateState σ) (i : Nat) (c : Invocation) (name : String) :
      g.calls i = some c → c.phase = .inSection →
      Step cfg eng g (g.act i c [.switch name] (eng.switch g.engine name).2 .inSection)
  /-- a section fetches a target -/
  | sectionFetch (g : GateState σ) (i : Nat) (c : Invocation) (t : String) :
      g.calls i = some c → c.phase = .inSection →
      Step cfg eng g
        (g.act i c [.fetchSent t, .fetchAnswered t] (eng.fetch g.engine t).2 .inSection)
  /-- a section returns or crashes -/
  | leave (g : GateState σ) (i : Nat) (c : Invocation) : g.calls i = some c →
      c.phase = .inSection → Step cfg eng g (g.act i c [] g.engine (.ended .left))

/-- The states reached from a gate without invocations. -/
inductive Reachable (cfg : ProbeConfig) (eng : ProbeEngine σ) : GateState σ → Prop
  | start (e : σ) : Reachable cfg eng { engine := e }
  | step {g g' : GateState σ} : Reachable cfg eng g → Step cfg eng g g' → Reachable cfg eng g'

end GateState

end ProxyRouter.Health
