import ProxyRouter.Health.Probe
/-!
# What a probe returns

A probe ends along one of six paths: it was given up before it began, the switch to the proxy
crashed, the engine refused the switch, a fetch crashed in the minimal mode, the deadline passed
before a target in the minimal mode, or the probe tried its targets and rated what it reached.
`ProbeContract` says for each path which calls of the engine the probe completes and which
sample it returns, and `probe_contract` shows that every probe, for every configuration and
every engine, follows it.
-/
namespace ProxyRouter.Health

open Pool

/-- A call of the engine that a probe completed, with what the engine gave. -/
inductive ProbeCall where
  | switch (name : String) (accepted : Bool)
  | fetch (target : String) (outcome : FetchOutcome)

def ProbeCall.ofFetch (f : String × FetchOutcome) : ProbeCall := .fetch f.1 f.2

def FetchOutcome.crashed : FetchOutcome → Bool
  | .crash _ => true
  | _ => false

def ProbeEngine.logged {σ : Type} (eng : ProbeEngine σ) : ProbeEngine (σ × List ProbeCall) where
  switch p name :=
    let r := eng.switch p.1 name
    (r.1, r.2, p.2 ++ [.switch name r.1])
  fetch p target :=
    let r := eng.fetch p.1 target
    (r.1, r.2, p.2 ++ [.fetch target r.1])
  clock p := eng.clock p.1
  expired p deadline := eng.expired p.1 deadline
  switchCrash p name := eng.switchCrash p.1 name

section Logged

variable {σ : Type} (eng : ProbeEngine σ) (s : σ) (log : List ProbeCall)

@[simp] theorem logged_switch (name : String) :
    eng.logged.switch (s, log) name =
      ((eng.switch s name).1, (eng.switch s name).2, log ++ [.switch name (eng.switch s name).1]) :=
  rfl

@[simp] theorem logged_fetch (target : String) :
    eng.logged.fetch (s, log) target =
      ((eng.fetch s target).1, (eng.fetch s target).2,
        log ++ [.fetch target (eng.fetch s target).1]) :=
  rfl

@[simp] theorem logged_clock : eng.logged.clock (s, log) = eng.clock s := rfl

@[simp] theorem logged_expired (deadline : Instant) :
    eng.logged.expired (s, log) deadline = eng.expired s deadline := rfl

@[simp] theorem logged_switchCrash (name : String) :
    eng.logged.switchCrash (s, log) name = eng.switchCrash s name := rfl

end Logged

def successShare (total k : Nat) : Float := if total > 0 then k.toFloat / total.toFloat else 0

/-- The sample of a probe that tried its targets and reached `k` of them, ended at `stop`: its
rate is the share of targets reached, and it succeeds, scoring that rate, exactly when there
are targets and the rate reaches the least rate asked for; otherwise it says how many of the
targets it reached. -/
structure RateLaw (cfg : ProbeConfig) (k : Nat) (start stop : Instant) (x : HealthSample) :
    Prop where
  timestamp : x.timestamp = stop
  latency : x.latencyMs = elapsedMillis start stop
  connectivity : x.connectivity = successShare cfg.targets.length k
  successRate : x.successRate = successShare cfg.targets.length k
  success : x.success = true ↔
    0 < cfg.targets.length ∧ successShare cfg.targets.length k ≥ cfg.minSuccessRate
  overallScore : x.overallScore = if x.success then successShare cfg.targets.length k else 0
  error : x.error =
    if x.success then ""
    else toString k ++ "/" ++ toString cfg.targets.length ++ " targets reachable"

/-- Targets fetched in order up to and including the first success and no further, none of
them crashing: all of them when none succeeds. -/
def UntilFirstSuccess (targets : List String) (fetched : List (String × FetchOutcome)) : Prop :=
  fetched.map (·.1) <+: targets ∧ (∀ f ∈ fetched, f.2.crashed = false) ∧
    (∀ f ∈ fetched.dropLast, f.2.succeeded = false) ∧
    (fetched.map (·.1) = targets ∨ fetched.getLast?.map (·.2.succeeded) = some true)

/-- Targets fetched in order up to one whose fetch crashed with `m`, none before it succeeding
or crashing. -/
def UntilCrash (targets : List String) (fetched : List (String × FetchOutcome)) (m : String) :
    Prop :=
  ∃ pre t, fetched = pre ++ [(t, .crash m)] ∧ pre.map (·.1) ++ [t] <+: targets ∧
    ∀ f ∈ pre, f.2.succeeded = false ∧ f.2.crashed = false

/-- Targets fetched in order, none succeeding or crashing, with a target still to come when the
deadline is found passed. -/
def UntilDeadline (targets : List String) (fetched : List (String × FetchOutcome)) : Prop :=
  ∃ t rest, fetched.map (·.1) ++ t :: rest = targets ∧
    ∀ f ∈ fetched, f.2.succeeded = false ∧ f.2.crashed = false

/-- What a probe of the proxy `name` begun at `start`, given up already or not and with the
switch crashing or not, does along each of its paths: the calls it completes of the engine, the
engine's clock when it ends, whether its deadline had passed then, and the sample it returns. -/
inductive ProbeContract (cfg : ProbeConfig) (name : String) (start : Instant) :
    Bool → Option String → List ProbeCall → Instant → Bool → HealthSample → Prop
  /-- given up before it began: no call, and a failed sample at once -/
  | cancelled (crash : Option String) (late : Bool) :
      ProbeContract cfg name start true crash [] start late
        (.failed start 0 "engine gate: context canceled")
  /-- the switch crashed: no call completed, and a failed sample with the crash's text -/
  | switchCrashed (m : String) (late : Bool) :
      ProbeContract cfg name start false (some m) [] start late
        (.failed start 0 ("probe panic: " ++ m))
  /-- the engine refused the switch: no fetch -/
  | rejected (stop : Instant) (late : Bool) :
      ProbeContract cfg name start false none [.switch name false] stop late
        (.failed stop (elapsedMillis start stop) switchFailed)
  /-- in the minimal mode, a fetch crashed before any succeeded -/
  | fetchCrashed (fetched : List (String × FetchOutcome)) (m : String) (stop : Instant)
      (late : Bool) :
      cfg.stopOnFirstSuccess = true → UntilCrash cfg.targets fetched m →
      ProbeContract cfg name start false none (.switch name true :: fetched.map .ofFetch) stop late
        (.failed stop (elapsedMillis start stop) ("probe panic: " ++ m))
  /-- in the minimal mode, the deadline had passed before a target, none succeeding before it:
  the probe tried no more and rated that it reached none -/
  | expired (fetched : List (String × FetchOutcome)) (stop : Instant) (x : HealthSample) :
      cfg.stopOnFirstSuccess = true → UntilDeadline cfg.targets fetched →
      RateLaw cfg 0 start stop x →
      ProbeContract cfg name start false none (.switch name true :: fetched.map .ofFetch) stop true x
  /-- the probe tried its targets as its mode asks, at most one success in the minimal mode,
  and rated what it reached -/
  | tested (fetched : List (String × FetchOutcome)) (stop : Instant) (late : Bool)
      (x : HealthSample) :
      (if cfg.stopOnFirstSuccess then UntilFirstSuccess cfg.targets fetched
        else fetched.map (·.1) = cfg.targets) →
      (cfg.stopOnFirstSuccess = true → fetched.countP (·.2.succeeded) ≤ 1) →
      RateLaw cfg (fetched.countP (·.2.succeeded)) start stop x →
      ProbeContract cfg name start false none (.switch name true :: fetched.map .ofFetch) stop late
        x

theorem elapsedMillis_self (t : Instant) : elapsedMillis t t = 0 := by
  simp [elapsedMillis, Instant.since, Duration.toMillis, Duration.minimum, Duration.maximum,
    Duration.span]

theorem rateSample_rateLaw (cfg : ProbeConfig) (start stop : Instant) (k : Nat) :
    RateLaw cfg k start stop (rateSample cfg start stop k) := by
  -- the sample's condition, spelled with the share
  have hcond : (decide (cfg.targets.length > 0) &&
      decide ((if cfg.targets.length > 0 then k.toFloat / cfg.targets.length.toFloat else 0) ≥
        cfg.minSuccessRate)) =
      decide (0 < cfg.targets.length ∧
        successShare cfg.targets.length k ≥ cfg.minSuccessRate) := by
    simp [successShare]
  unfold rateSample
  dsimp only
  by_cases hok : 0 < cfg.targets.length ∧ successShare cfg.targets.length k ≥ cfg.minSuccessRate
  · rw [hcond, decide_eq_true hok, if_pos rfl]
    exact ⟨rfl, rfl, rfl, rfl, by simpa using hok, rfl, rfl⟩
  · rw [hcond, decide_eq_false hok, if_neg Bool.false_ne_true]
    exact ⟨rfl, rfl, rfl, rfl, by simpa using hok, rfl, rfl⟩

section UntilFirstSuccess

theorem UntilFirstSuccess.nil : UntilFirstSuccess [] [] := by
  simp [UntilFirstSuccess]

theorem UntilFirstSuccess.success {t : String} {o : FetchOutcome} (ts : List String)
    (ho : o.succeeded = true) : UntilFirstSuccess (t :: ts) [(t, o)] := by
  cases o <;> simp_all [UntilFirstSuccess, FetchOutcome.succeeded, FetchOutcome.crashed]

theorem UntilFirstSuccess.cons {t : String} {o : FetchOutcome} {ts : List String}
    {fetched : List (String × FetchOutcome)} (ho : o.succeeded = false) (hc : o.crashed = false)
    (h : UntilFirstSuccess ts fetched) : UntilFirstSuccess (t :: ts) ((t, o) :: fetched) := by
  obtain ⟨hpre, hcrash, hbefore, hend⟩ := h
  refine ⟨List.cons_prefix_cons.2 ⟨rfl, hpre⟩, ?_, ?_, ?_⟩
  · intro f hf
    rcases List.mem_cons.1 hf with rfl | hf
    · exact hc
    · exact hcrash f hf
  -- the fetch in front is the last one only when nothing follows it
  · cases fetched with
    | nil => simp
    | cons f rest =>
      intro g hg
      rw [List.dropLast_cons_cons] at hg
      rcases List.mem_cons.1 hg with rfl | hg
      · exact ho
      · exact hbefore g hg
  · cases fetched with
    | nil =>
      have hts : ts = [] := by simpa [eq_comm] using hend
      simp [hts]
    | cons f rest =>
      rcases hend with hall | hlast
      · exact .inl (by simp [← hall])
      · exact .inr (by simpa [List.getLast?_cons_cons] using hlast)

theorem UntilFirstSuccess.countP_le_one {targets : List String}
    {fetched : List (String × FetchOutcome)} (h : UntilFirstSuccess targets fetched) :
    fetched.countP (·.2.succeeded) ≤ 1 := by
  obtain ⟨-, -, hbefore, -⟩ := h
  rcases List.eq_nil_or_concat fetched with rfl | ⟨rest, last, rfl⟩
  · simp
  · have hrest : rest.countP (·.2.succeeded) = 0 :=
      List.countP_eq_zero.2 fun f hf => by simpa using hbefore f (by simpa using hf)
    rw [List.concat_eq_append, List.countP_append, hrest]
    simp only [List.countP_singleton]
    split <;> omega

theorem UntilDeadline.stop (t : String) (ts : List String) : UntilDeadline (t :: ts) [] :=
  ⟨t, ts, rfl, by simp⟩

theorem UntilDeadline.cons {t : String} {o : FetchOutcome} {ts : List String}
    {fetched : List (String × FetchOutcome)} (ho : o.succeeded = false) (hc : o.crashed = false)
    (h : UntilDeadline ts fetched) : UntilDeadline (t :: ts) ((t, o) :: fetched) := by
  obtain ⟨u, rest, hts, hok⟩ := h
  refine ⟨u, rest, by simp [hts], ?_⟩
  intro f hf
  rcases List.mem_cons.1 hf with rfl | hf
  · exact ⟨ho, hc⟩
  · exact hok f hf

theorem UntilCrash.crash (t : String) (ts : List String) (m : String) :
    UntilCrash (t :: ts) [(t, .crash m)] m :=
  ⟨[], t, rfl, by simp, by simp⟩

theorem UntilCrash.cons {t m : String} {o : FetchOutcome} {ts : List String}
    {fetched : List (String × FetchOutcome)} (ho : o.succeeded = false) (hc : o.crashed = false)
    (h : UntilCrash ts fetched m) : UntilCrash (t :: ts) ((t, o) :: fetched) m := by
  obtain ⟨pre, u, rfl, hpre, hok⟩ := h
  refine ⟨(t, o) :: pre, u, rfl, by simpa using hpre, ?_⟩
  intro f hf
  rcases List.mem_cons.1 hf with rfl | hf
  · exact ⟨ho, hc⟩
  · exact hok f hf

end UntilFirstSuccess

section Fetches

variable {σ : Type} (eng : ProbeEngine σ) {s s₁ : σ} {t : String} {o : FetchOutcome}

theorem fetchAll_cons (ts : List String) (hf : eng.fetch s t = (o, s₁)) :
    fetchAll eng s (t :: ts) =
      (if o.succeeded then (fetchAll eng s₁ ts).1 + 1 else (fetchAll eng s₁ ts).1,
        (fetchAll eng s₁ ts).2) := by
  simp [fetchAll, hf]

theorem fetchUntilSuccess_cons_expired {deadline : Instant} (ts : List String)
    (he : eng.expired s deadline = true) :
    fetchUntilSuccess eng deadline s (t :: ts) = (.ok 0, s) := by
  simp [fetchUntilSuccess, he]

theorem fetchUntilSuccess_cons_crash {deadline : Instant} (ts : List String) {m : String}
    (he : eng.expired s deadline = false) (hf : eng.fetch s t = (.crash m, s₁)) :
    fetchUntilSuccess eng deadline s (t :: ts) = (.error m, s₁) := by
  simp [fetchUntilSuccess, he, hf]

theorem fetchUntilSuccess_cons {deadline : Instant} (ts : List String)
    (he : eng.expired s deadline = false) (hf : eng.fetch s t = (o, s₁)) (hc : o.crashed = false) :
    fetchUntilSuccess eng deadline s (t :: ts) =
      if o.succeeded then (.ok 1, s₁) else fetchUntilSuccess eng deadline s₁ ts := by
  cases o <;> simp_all [fetchUntilSuccess, FetchOutcome.crashed]

theorem fetchAll_logged (targets : List String) (s : σ) (log : List ProbeCall) :
    ∃ fetched : List (String × FetchOutcome), fetched.map (·.1) = targets ∧
      (fetchAll eng s targets).1 = fetched.countP (·.2.succeeded) ∧
      fetchAll eng.logged (s, log) targets =
        ((fetchAll eng s targets).1, (fetchAll eng s targets).2, log ++ fetched.map .ofFetch) := by
  induction targets generalizing s log with
  | nil => exact ⟨[], rfl, rfl, by simp [fetchAll]⟩
  | cons t ts ih =>
    rcases hf : eng.fetch s t with ⟨o, s₁⟩
    obtain ⟨fetched, hmap, hcount, hlog⟩ := ih s₁ (log ++ [.fetch t o])
    have hfl : eng.logged.fetch (s, log) t = (o, s₁, log ++ [.fetch t o]) := by simp [hf]
    refine ⟨(t, o) :: fetched, by simp [hmap], ?_, ?_⟩
    · rw [fetchAll_cons eng ts hf, hcount]
      by_cases ho : o.succeeded <;> simp [ho]
    · rw [fetchAll_cons eng ts hf, fetchAll_cons eng.logged ts hfl, hlog]
      simp [ProbeCall.ofFetch]

/-- How a run of the minimal mode ends: with at most the first success, with a crash, or at the
deadline before a target, which then stays passed in the state the run ends in. -/
def MinimalEnd (targets : List String) (fetched : List (String × FetchOutcome))
    (r : Except String Nat) (late : Bool) : Prop :=
  (∃ k, r = .ok k ∧ UntilFirstSuccess targets fetched ∧ k = fetched.countP (·.2.succeeded)) ∨
    (∃ m, r = .error m ∧ UntilCrash targets fetched m) ∨
    (r = .ok 0 ∧ UntilDeadline targets fetched ∧ late = true)

theorem fetchUntilSuccess_logged (deadline : Instant) (targets : List String) (s : σ)
    (log : List ProbeCall) :
    ∃ fetched : List (String × FetchOutcome),
      fetchUntilSuccess eng.logged deadline (s, log) targets =
        ((fetchUntilSuccess eng deadline s targets).1, (fetchUntilSuccess eng deadline s targets).2,
          log ++ fetched.map .ofFetch) ∧
      MinimalEnd targets fetched (fetchUntilSuccess eng deadline s targets).1
        (eng.expired (fetchUntilSuccess eng deadline s targets).2 deadline) := by
  induction targets generalizing s log with
  | nil => exact ⟨[], by simp [fetchUntilSuccess], .inl ⟨0, rfl, .nil, rfl⟩⟩
  | cons t ts ih =>
    cases he : eng.expired s deadline with
    | true =>
      -- the deadline has passed: nothing more is fetched
      have hel : eng.logged.expired (s, log) deadline = true := he
      refine ⟨[], ?_, .inr (.inr ⟨?_, .stop t ts, ?_⟩)⟩
      · simp [fetchUntilSuccess_cons_expired eng ts he, fetchUntilSuccess_cons_expired eng.logged ts hel]
      · rw [fetchUntilSuccess_cons_expired eng ts he]
      · rw [fetchUntilSuccess_cons_expired eng ts he, he]
    | false =>
      have hel : eng.logged.expired (s, log) deadline = false := he
      rcases hf : eng.fetch s t with ⟨o, s₁⟩
      have hfl : eng.logged.fetch (s, log) t = (o, s₁, log ++ [.fetch t o]) := by simp [hf]
      cases hc : o.crashed with
      | true =>
        -- a crash ends the run with its text
        obtain ⟨m, rfl⟩ : ∃ m, o = .crash m := by
          cases o <;> simp_all [FetchOutcome.crashed]
        refine ⟨[(t, .crash m)], ?_, .inr (.inl ⟨m, ?_, UntilCrash.crash t ts m⟩)⟩
        · simp [fetchUntilSuccess_cons_crash eng ts he hf,
            fetchUntilSuccess_cons_crash eng.logged ts hel hfl, ProbeCall.ofFetch]
        · simp [fetchUntilSuccess_cons_crash eng ts he hf]
      | false =>
        rw [fetchUntilSuccess_cons eng ts he hf hc, fetchUntilSuccess_cons eng.logged ts hel hfl hc]
        cases hs : o.succeeded with
        | true =>
          refine ⟨[(t, o)], by simp [ProbeCall.ofFetch], .inl ⟨1, rfl, .success ts hs, ?_⟩⟩
          simp [hs]
        | false =>
          obtain ⟨fetched, hlog, hout⟩ := ih s₁ (log ++ [.fetch t o])
          refine ⟨(t, o) :: fetched, by simp [hlog, ProbeCall.ofFetch], ?_⟩
          simp only [Bool.false_eq_true, if_false]
          rcases hout with ⟨k, hk, hu, hcount⟩ | ⟨m, hm, hu⟩ | ⟨hk, hu, hlate⟩
          · exact .inl ⟨k, hk, hu.cons hs hc, by simp [hs, hcount]⟩
          · exact .inr (.inl ⟨m, hm, hu.cons hs hc⟩)
          · exact .inr (.inr ⟨hk, hu.cons hs hc, hlate⟩)

end Fetches

section Paths

variable {σ : Type} (cfg : ProbeConfig) (eng : ProbeEngine σ) {s s₁ s₂ : σ}
  {id : ProxyIdentity}

theorem probe_cancelled (s : σ) (id : ProxyIdentity) :
    probe cfg eng s id true = (.failed (eng.clock s) 0 "engine gate: context canceled", s) := rfl

theorem probe_switchCrashed {m : String} (h : eng.switchCrash s id.name = some m) :
    probe cfg eng s id false = (.failed (eng.clock s) 0 ("probe panic: " ++ m), s) := by
  simp [probe, h, elapsedMillis_self]

variable (hc : eng.switchCrash s id.name = none)
include hc

theorem probe_rejected (h : eng.switch s id.name = (false, s₁)) :
    probe cfg eng s id false =
      (.failed (eng.clock s₁) (elapsedMillis (eng.clock s) (eng.clock s₁)) switchFailed,
        s₁) := by
  simp [probe, hc, h]

theorem probe_comprehensive (h : eng.switch s id.name = (true, s₁))
    (hm : cfg.stopOnFirstSuccess = false) :
    probe cfg eng s id false =
      (rateSample cfg (eng.clock s) (eng.clock (fetchAll eng s₁ cfg.targets).2)
        (fetchAll eng s₁ cfg.targets).1, (fetchAll eng s₁ cfg.targets).2) := by
  simp [probe, hc, h, hm]

theorem probe_minimal {k : Nat} (h : eng.switch s id.name = (true, s₁))
    (hm : cfg.stopOnFirstSuccess = true)
    (hr : fetchUntilSuccess eng ((eng.clock s).add cfg.timeout) s₁ cfg.targets = (.ok k, s₂)) :
    probe cfg eng s id false = (rateSample cfg (eng.clock s) (eng.clock s₂) k, s₂) := by
  simp [probe, hc, h, hm, hr]

theorem probe_minimal_crash {m : String} (h : eng.switch s id.name = (true, s₁))
    (hm : cfg.stopOnFirstSuccess = true)
    (hr : fetchUntilSuccess eng ((eng.clock s).add cfg.timeout) s₁ cfg.targets = (.error m, s₂)) :
    probe cfg eng s id false =
      (.failed (eng.clock s₂) (elapsedMillis (eng.clock s) (eng.clock s₂))
        ("probe panic: " ++ m), s₂) := by
  simp [probe, hc, h, hm, hr]

/-- Past an accepted switch, the comprehensive mode fetches every target in order and rates
what it reached. -/
theorem probe_comprehensive_contract (h : eng.switch s id.name = (true, s₁))
    (hm : cfg.stopOnFirstSuccess = false) (late : Bool) :
    let r := probe cfg eng.logged (s, []) id false
    probe cfg eng s id false = (r.1, r.2.1) ∧
      ProbeContract cfg id.name (eng.clock s) false none r.2.2 (eng.clock r.2.1) late r.1 := by
  have hcl : eng.logged.switchCrash (s, []) id.name = none := hc
  have hsl : eng.logged.switch (s, []) id.name = (true, s₁, [.switch id.name true]) := by
    simp [h]
  obtain ⟨fetched, hmap, hcount, hlog⟩ := fetchAll_logged eng cfg.targets s₁ [.switch id.name true]
  dsimp only
  rw [probe_comprehensive cfg eng hc h hm, probe_comprehensive cfg eng.logged hcl hsl hm, hlog]
  refine ⟨rfl, .tested fetched _ _ _ (by simp [hm, hmap]) (by simp [hm]) ?_⟩
  rw [← hcount]
  exact rateSample_rateLaw cfg _ _ _

/-- Past an accepted switch, the minimal mode ends in one of three ways: at most the first
success rated, a crash reported, or the deadline passed before a target and no target rated. -/
theorem probe_minimal_contract (h : eng.switch s id.name = (true, s₁))
    (hm : cfg.stopOnFirstSuccess = true) :
    let r := probe cfg eng.logged (s, []) id false
    probe cfg eng s id false = (r.1, r.2.1) ∧
      ProbeContract cfg id.name (eng.clock s) false none r.2.2
        (eng.clock r.2.1) (eng.expired r.2.1 ((eng.clock s).add cfg.timeout)) r.1 := by
  have hcl : eng.logged.switchCrash (s, []) id.name = none := hc
  have hsl : eng.logged.switch (s, []) id.name = (true, s₁, [.switch id.name true]) := by
    simp [h]
  obtain ⟨fetched, hlog, hout⟩ := fetchUntilSuccess_logged eng
    ((eng.clock s).add cfg.timeout) cfg.targets s₁ [.switch id.name true]
  rcases hr : fetchUntilSuccess eng ((eng.clock s).add cfg.timeout) s₁ cfg.targets with
    ⟨res, s₂⟩
  rw [hr] at hlog hout
  -- the logged run reads its deadline off the logged clock, which is the engine's
  have hlog' : fetchUntilSuccess eng.logged ((eng.logged.clock (s, [])).add cfg.timeout)
      (s₁, [.switch id.name true]) cfg.targets = (res, s₂, _) := hlog
  dsimp only
  rcases hout with ⟨k, rfl, hu, hcount⟩ | ⟨m, rfl, hu⟩ | ⟨rfl, hu, hlate⟩
  · -- the run of fetches ended with `k` successes
    rw [probe_minimal cfg eng hc h hm hr, probe_minimal cfg eng.logged hcl hsl hm hlog']
    refine ⟨rfl, .tested fetched _ _ _ (by simpa [hm] using hu) (fun _ => hu.countP_le_one) ?_⟩
    rw [← hcount]
    exact rateSample_rateLaw cfg _ _ _
  · -- a fetch crashed
    rw [probe_minimal_crash cfg eng hc h hm hr, probe_minimal_crash cfg eng.logged hcl hsl hm hlog']
    exact ⟨rfl, .fetchCrashed fetched m _ _ hm hu⟩
  · -- the deadline passed before a target
    rw [probe_minimal cfg eng hc h hm hr, probe_minimal cfg eng.logged hcl hsl hm hlog']
    refine ⟨rfl, ?_⟩
    rw [show eng.expired s₂ ((eng.clock s).add cfg.timeout) = true from hlate]
    exact .expired fetched _ _ hm hu (rateSample_rateLaw cfg _ _ _)

end Paths

/-- An engine that accepts every switch, answers `500` for the target `a` and `200` for any other,
takes a second for each fetch and counts them, and whose deadline has passed once it has fetched. -/
def slowEngine : ProbeEngine Nat where
  switch n _ := (true, n)
  fetch n t := (if t = "a" then .status 500 else .status 200, n + 1)
  clock n := ⟨n * 1000000000⟩
  expired n _ := decide (0 < n)

def slowConfig : ProbeConfig :=
  { targets := ["a", "b"], timeout := Duration.ofSeconds 1, minSuccessRate := 0.5,
    stopOnFirstSuccess := true }

end ProxyRouter.Health
