import ProxyRouter.Routing.Matcher
import ProxyRouter.Proofs.CacheOrder
/-!
The decision cache never changes an answer. A cached answer is what the rules in force give for
its target: every change of the rules empties the cache, and only fresh evaluations are stored.
-/
namespace ProxyRouter.Routing

/-- The answer without a cache: no proxy for a target without host, otherwise what the rules
decide for its host. -/
def RuleBook.answer (b : RuleBook) (t : Target) : Bool :=
  !t.host.isEmpty && b.decides t.host

theorem RuleBook.answer_of_host {b : RuleBook} {t : Target} (h : t.host ≠ "") :
    b.answer t = b.decides t.host := by
  simp [RuleBook.answer, h]

theorem RuleBook.answer_of_no_host {b : RuleBook} {t : Target} (h : t.host = "") :
    b.answer t = false := by
  simp [RuleBook.answer, h]

namespace DecisionCache

def Agrees (c : DecisionCache) (b : RuleBook) : Prop :=
  ∀ t v, c.get? t = some v → v = b.answer t

theorem agrees_clear (c : DecisionCache) (b : RuleBook) : c.clear.Agrees b := by
  intro t v h
  simp [clear, DecisionCache.get?, lookup] at h

theorem Agrees.put {c : DecisionCache} {b : RuleBook} (h : c.Agrees b) {t : Target} {v : Bool}
    (hv : v = b.answer t) : (c.put t v).Agrees b := by
  intro t' v' ht'
  rcases get?_put_eq_some ht' with ⟨rfl, rfl⟩ | hold
  · exact hv
  · exact h t' v' hold

end DecisionCache

namespace Matcher

def Consistent (m : Matcher) : Prop := m.cache.Agrees m.book

@[simp] theorem evaluate_book (m : Matcher) (host : String) : (m.evaluate host).2.book = m.book :=
  rfl

@[simp] theorem evaluate_cache (m : Matcher) (host : String) :
    (m.evaluate host).2.cache = m.cache := rfl

@[simp] theorem evaluate_evaluations (m : Matcher) (host : String) :
    (m.evaluate host).2.evaluations = m.evaluations + 1 := rfl

@[simp] theorem remember_book (m : Matcher) (t : Target) (v : Bool) : (m.remember t v).book = m.book :=
  rfl

@[simp] theorem remember_cache (m : Matcher) (t : Target) (v : Bool) :
    (m.remember t v).cache = m.cache.put t v := rfl

@[simp] theorem remember_evaluations (m : Matcher) (t : Target) (v : Bool) :
    (m.remember t v).evaluations = m.evaluations := rfl

theorem Consistent.evaluate {m : Matcher} (h : m.Consistent) (host : String) :
    (m.evaluate host).2.Consistent := h

theorem Consistent.remember {m : Matcher} (h : m.Consistent) {t : Target} {v : Bool}
    (hv : v = m.book.answer t) : (m.remember t v).Consistent :=
  DecisionCache.Agrees.put h hv

@[simp] theorem evaluate_answer (m : Matcher) (host : String) :
    (m.evaluate host).1 = m.book.decides host := rfl

theorem route_hit {m : Matcher} {t : Target} {v : Bool} (hv : m.cache.get? t = some v) :
    m.route t = (v, some ⟨true, v⟩, m) := by
  simp [route, hv]

theorem route_no_host {m : Matcher} {t : Target} (hv : m.cache.get? t = none) (h : t.host = "") :
    m.route t = (false, none, m) := by
  simp [route, hv, h]

theorem route_miss {m : Matcher} {t : Target} (hv : m.cache.get? t = none) (h : t.host ≠ "") :
    m.route t = ((m.evaluate t.host).1, some ⟨false, (m.evaluate t.host).1⟩,
      (m.evaluate t.host).2.remember t (m.evaluate t.host).1) := by
  simp [route, hv, h]

theorem route_answer {m : Matcher} (h : m.Consistent) (t : Target) :
    (m.route t).1 = m.book.answer t := by
  cases hv : m.cache.get? t with
  | some v => rw [route_hit hv]; exact h t v hv
  | none =>
    by_cases hh : t.host = ""
    · rw [route_no_host hv hh, RuleBook.answer_of_no_host hh]
    · rw [route_miss hv hh, RuleBook.answer_of_host hh, evaluate_answer]

theorem route_consistent {m : Matcher} (h : m.Consistent) (t : Target) :
    (m.route t).2.2.Consistent := by
  cases hv : m.cache.get? t with
  | some v => rw [route_hit hv]; exact h
  | none =>
    by_cases hh : t.host = ""
    · rw [route_no_host hv hh]; exact h
    · rw [route_miss hv hh]
      exact (h.evaluate t.host).remember (by simp [RuleBook.answer_of_host hh])

theorem route_evaluations (m : Matcher) (t : Target) :
    (m.route t).2.2.evaluations =
      m.evaluations + if (m.cache.get? t).isNone && t.host != "" then 1 else 0 := by
  cases hv : m.cache.get? t with
  | some v => simp [route_hit hv]
  | none =>
    by_cases hh : t.host = ""
    · simp [route_no_host hv hh, hh]
    · simp [route_miss hv hh, hh]

end Matcher

/-- The changes of the rules: the entry points that take the matcher's write lock. -/
inductive MatcherOp where
  | addRule (raw : String)
  | addRules (raws : List String)
  | clearRules
  | loadDefaults
  | applyTemplate (name : String)
  | replace (useDefaults : Bool) (names rules : List String)
  | onSettings (module : String) (payload : Settings.Payload)

namespace MatcherOp

def result (m : Matcher) : MatcherOp → Except String Matcher
  | .addRule raw =>
    match m.addRule raw with
    | .ok m' => .ok m'
    | .error e => .error e.message
  | .addRules raws => .ok (m.addRules raws).2
  | .clearRules => .ok m.clearRules
  | .loadDefaults => .ok m.loadDefaults.2
  | .applyTemplate name =>
    match m.applyTemplate name with
    | .ok m' => .ok m'
    | .error e => .error e.message
  | .replace useDefaults names rules =>
    match m.replace useDefaults names rules with
    | .ok m' => .ok m'
    | .error e => .error e.message
  | .onSettings module payload =>
    match m.onSettings module payload with
    | .ok m' => .ok m'
    | .error e => .error e.message

def apply (m : Matcher) (op : MatcherOp) : Matcher :=
  match op.result m with
  | .ok m' => m'
  | .error _ => m

theorem apply_of_error {m : Matcher} {op : MatcherOp} {e : String} (h : op.result m = .error e) :
    op.apply m = m := by
  simp [apply, h]

def Clears (m m' : Matcher) : Prop :=
  m' = m ∨ (m'.cache = m.cache.clear ∧ m'.evaluations = m.evaluations)

/-- How a change of the rules that succeeds leaves the matcher: as it was, or with its cache emptied
and a book that adds one parsed rule, adds the readable rules of some texts, or holds only the
readable rules of some texts. -/
theorem result_cases {m m' : Matcher} {op : MatcherOp} (h : op.result m = .ok m') :
    m' = m ∨ ∃ b, m' = { m with book := b, cache := m.cache.clear } ∧
      ((∃ raw r, Rule.parse raw = .ok r ∧ b = m.book.add r) ∨
        (∃ raws, b = (Matcher.parseAll raws).foldl RuleBook.add m.book) ∨
        ∃ raws, b = (Matcher.parseAll raws).foldl RuleBook.add {}) := by
  -- `replace` builds its book afresh from the texts it gathers, in both places it is reached
  have fresh : ∀ {u ns rs}, m.replace u ns rs = .ok m' →
      ∃ b, m' = { m with book := b, cache := m.cache.clear } ∧
        ∃ raws, b = (Matcher.parseAll raws).foldl RuleBook.add {} := by
    intro u ns rs hr
    cases ht : Matcher.ruleTexts u ns rs <;> simp [Matcher.replace, ht, Except.map] at hr
    subst hr
    exact ⟨_, rfl, _, rfl⟩
  cases op with
  | addRule raw =>
    cases hp : Rule.parse raw <;> simp [result, Matcher.addRule, hp, Except.map] at h
    subst h
    exact .inr ⟨_, rfl, .inl ⟨raw, _, hp, rfl⟩⟩
  | addRules raws =>
    cases h
    exact .inr ⟨_, rfl, .inr (.inl ⟨raws, rfl⟩)⟩
  | clearRules =>
    cases h
    exact .inr ⟨_, rfl, .inr (.inr ⟨[], rfl⟩)⟩
  | loadDefaults =>
    -- name the result first: matching `h` against `m'` would unfold the default rules
    obtain rfl : m.loadDefaults.2 = m' := Except.ok.inj h
    exact .inr ⟨_, rfl, .inr (.inl ⟨defaultRules, rfl⟩)⟩
  | applyTemplate name =>
    cases ht : template? name <;> simp [result, Matcher.applyTemplate, ht] at h
    subst h
    exact .inr ⟨_, rfl, .inr (.inl ⟨_, rfl⟩)⟩
  | replace u ns rs =>
    cases hr : m.replace u ns rs <;> simp [result, hr] at h
    subst h
    obtain ⟨b, rfl, hb⟩ := fresh hr
    exact .inr ⟨b, rfl, .inr (.inr hb)⟩
  | onSettings module payload =>
    cases hr : m.onSettings module payload with
    | error e => simp [result, hr] at h
    | ok m'' =>
      simp only [result, hr, Except.ok.injEq] at h
      subst h
      simp only [Matcher.onSettings] at hr
      split at hr
      · cases hr
        exact .inl rfl
      · split at hr
        · obtain ⟨b, rfl, hb⟩ := fresh hr
          exact .inr ⟨b, rfl, .inr (.inr hb)⟩
        · cases hr

theorem clears_result (m : Matcher) (op : MatcherOp) {m' : Matcher} (h : op.result m = .ok m') :
    Clears m m' := by
  rcases result_cases h with rfl | ⟨b, rfl, -⟩
  · exact .inl rfl
  · exact .inr ⟨rfl, rfl⟩

theorem clears_apply (m : Matcher) (op : MatcherOp) : Clears m (op.apply m) := by
  unfold apply
  split
  · rename_i m' h
    exact clears_result m op h
  · exact .inl rfl

theorem consistent_apply {m : Matcher} (h : m.Consistent) (op : MatcherOp) :
    (op.apply m).Consistent := by
  rcases clears_apply m op with he | ⟨hc, -⟩
  · rw [he]; exact h
  · unfold Matcher.Consistent
    rw [hc]
    exact DecisionCache.agrees_clear _ _

theorem evaluations_apply (m : Matcher) (op : MatcherOp) : (op.apply m).evaluations = m.evaluations := by
  rcases clears_apply m op with he | ⟨-, he⟩
  · rw [he]
  · exact he

end MatcherOp

/-- A routing call that holds the read lock and missed the cache: still to evaluate its host,
or evaluated and still to store the answer. -/
inductive Call where
  | missed (target : Target)
  | evaluated (target : Target) (answer : Bool)

/-- The matcher with the routing calls in progress. -/
structure Shared where
  matcher : Matcher
  calls : List Call

/-- One step of one party: a change of the rules, or a step of a routing call, the call named by
its place among those in progress. -/
inductive Action where
  | mutate (op : MatcherOp)
  | lookup (target : Target)
  | evaluate (call : Nat)
  | store (call : Nat)

def Action.cost : Action → Nat
  | .evaluate _ => 1
  | _ => 0

/-- A call in progress is true to the rules: a missed target has a host, and an evaluated
answer is the rules' answer. -/
def Call.Sound (b : RuleBook) : Call → Prop
  | .missed t => t.host ≠ ""
  | .evaluated t v => v = b.answer t

namespace Shared

/-- One step, and the answer a call gives at it. A change of the rules waits until no call is in
progress. A call answers at its lookup when it hits the cache or its target has no host, and
otherwise at its store. -/
def step (s : Shared) : Action → Option (Shared × Option (Target × Bool))
  | .mutate op => if s.calls.isEmpty then some (⟨op.apply s.matcher, []⟩, none) else none
  | .lookup t =>
    match s.matcher.cache.get? t with
    | some v => some (s, some (t, v))
    | none =>
      if t.host.isEmpty then some (s, some (t, false))
      else some (⟨s.matcher, s.calls ++ [.missed t]⟩, none)
  | .evaluate i =>
    match s.calls[i]? with
    | some (.missed t) =>
      let (v, m) := s.matcher.evaluate t.host
      some (⟨m, s.calls.set i (.evaluated t v)⟩, none)
    | _ => none
  | .store i =>
    match s.calls[i]? with
    | some (.evaluated t v) => some (⟨s.matcher.remember t v, s.calls.eraseIdx i⟩, some (t, v))
    | _ => none

/-- The states reached from a new matcher of some capacity by any interleaving. -/
inductive Reachable (capacity : Int) : Shared → Prop where
  | init : Reachable capacity ⟨Matcher.new capacity, []⟩
  | step {s s' : Shared} {a : Action} {out : Option (Target × Bool)} :
      Reachable capacity s → s.step a = some (s', out) → Reachable capacity s'

def Sound (s : Shared) : Prop :=
  s.matcher.Consistent ∧ ∀ c ∈ s.calls, c.Sound s.matcher.book

theorem sound_init (capacity : Int) : Sound ⟨Matcher.new capacity, []⟩ := by
  refine ⟨?_, by simp⟩
  intro t v h
  simp [Matcher.new, DecisionCache.empty, DecisionCache.get?, DecisionCache.lookup] at h

theorem step_sound {s s' : Shared} {a : Action} {out : Option (Target × Bool)} (h : s.Sound)
    (hs : s.step a = some (s', out)) :
    s'.Sound ∧ ∀ t v, out = some (t, v) → v = s.matcher.book.answer t := by
  obtain ⟨hc, hcalls⟩ := h
  cases a with
  | mutate op =>
    simp only [step] at hs
    split at hs
    · cases hs
      exact ⟨⟨MatcherOp.consistent_apply hc op, by simp⟩, by simp⟩
    · cases hs
  | lookup t =>
    simp only [step] at hs
    split at hs
    · rename_i v hv
      cases hs
      exact ⟨⟨hc, hcalls⟩, fun _ _ ho => by cases ho; exact hc t _ hv⟩
    · split at hs
      · rename_i hh
        cases hs
        refine ⟨⟨hc, hcalls⟩, fun _ _ ho => ?_⟩
        cases ho
        exact (RuleBook.answer_of_no_host (by simpa using hh)).symm
      · rename_i hh
        cases hs
        refine ⟨⟨hc, fun c hc' => ?_⟩, by simp⟩
        rcases List.mem_append.mp hc' with hc' | hc'
        · exact hcalls c hc'
        · rw [List.mem_singleton.mp hc']
          simpa [Call.Sound] using hh
  | evaluate i =>
    simp only [step] at hs
    split at hs
    · rename_i t ht
      cases hs
      have hhost : t.host ≠ "" := hcalls _ (List.mem_of_getElem? ht)
      refine ⟨⟨hc.evaluate t.host, fun c hc' => ?_⟩, by simp⟩
      rcases List.mem_or_eq_of_mem_set hc' with hc' | rfl
      · exact hcalls c hc'
      · simp [Call.Sound, RuleBook.answer_of_host hhost]
    · cases hs
  | store i =>
    simp only [step] at hs
    split at hs
    · rename_i t v ht
      cases hs
      have hv : v = s.matcher.book.answer t := hcalls _ (List.mem_of_getElem? ht)
      refine ⟨⟨hc.remember hv, fun c hc' => hcalls c (List.mem_of_mem_eraseIdx hc')⟩, ?_⟩
      intro _ _ ho
      cases ho
      exact hv
    · cases hs

theorem Reachable.sound {capacity : Int} {s : Shared} (h : s.Reachable capacity) : s.Sound := by
  induction h with
  | init => exact sound_init capacity
  | step _ hs ih => exact (step_sound ih hs).1

theorem step_evaluations {s s' : Shared} {a : Action} {out : Option (Target × Bool)}
    (hs : s.step a = some (s', out)) : s'.matcher.evaluations = s.matcher.evaluations + a.cost := by
  cases a with
  | mutate op =>
    simp only [step] at hs
    split at hs
    · cases hs
      exact MatcherOp.evaluations_apply s.matcher op
    · cases hs
  | lookup t =>
    simp only [step] at hs
    split at hs
    · cases hs; rfl
    · split at hs <;> cases hs <;> rfl
  | evaluate i =>
    simp only [step] at hs
    split at hs
    · cases hs; rfl
    · cases hs
  | store i =>
    simp only [step] at hs
    split at hs
    · cases hs; rfl
    · cases hs

theorem step_book {s s' : Shared} {a : Action} {out : Option (Target × Bool)}
    (hs : s.step a = some (s', out)) (busy : s.calls ≠ []) : s'.matcher.book = s.matcher.book := by
  cases a with
  | mutate op =>
    simp only [step] at hs
    split at hs
    · rename_i hempty
      exact absurd (List.isEmpty_iff.mp hempty) busy
    · cases hs
  | lookup t =>
    simp only [step] at hs
    split at hs
    · cases hs; rfl
    · split at hs <;> cases hs <;> rfl
  | evaluate i =>
    simp only [step] at hs
    split at hs
    · cases hs; rfl
    · cases hs
  | store i =>
    simp only [step] at hs
    split at hs
    · cases hs; rfl
    · cases hs

theorem step_lookup_miss {s : Shared} {t : Target} (hv : s.matcher.cache.get? t = none)
    (hh : t.host ≠ "") : s.step (.lookup t) = some (⟨s.matcher, s.calls ++ [.missed t]⟩, none) := by
  simp [step, hv, hh]

theorem route_reachable {capacity : Int} {s : Shared} (h : s.Reachable capacity) (t : Target) :
    Reachable capacity ⟨(s.matcher.route t).2.2, s.calls⟩ := by
  cases hv : s.matcher.cache.get? t with
  | some v =>
    rw [Matcher.route_hit hv]
    exact h
  | none =>
    by_cases hh : t.host = ""
    · rw [Matcher.route_no_host hv hh]
      exact h
    · rw [Matcher.route_miss hv hh]
      have h1 := step_lookup_miss hv hh
      have h2 : Shared.step ⟨s.matcher, s.calls ++ [.missed t]⟩ (.evaluate s.calls.length) =
          some (⟨(s.matcher.evaluate t.host).2,
            s.calls ++ [.evaluated t (s.matcher.evaluate t.host).1]⟩, none) := by
        simp [step]
      have h3 : Shared.step ⟨(s.matcher.evaluate t.host).2,
            s.calls ++ [.evaluated t (s.matcher.evaluate t.host).1]⟩ (.store s.calls.length) =
          some (⟨(s.matcher.evaluate t.host).2.remember t (s.matcher.evaluate t.host).1, s.calls⟩,
            some (t, (s.matcher.evaluate t.host).1)) := by
        simp [step, List.eraseIdx_append_of_length_le]
      exact .step (.step (.step h h1) h2) h3

end Shared
end ProxyRouter.Routing

namespace ProxyRouter.Routing

/-- The decision cache is transparent. From a new matcher of any capacity, over every
interleaving of routing calls with changes of the rules: the rules do not change while a call is
in progress, and every answer a call gives is the rules' answer for its target; so is the answer
of a call made on its own, which is one interleaving; a change of the rules or a step of a call leaves the count of evaluations
alone except a call's evaluation, which counts one, so a call that hits the cache counts none,
one that misses with a host counts one, and one whose target has no host counts none; and a
change that fails leaves the rules and the cache as they were. -/
theorem decision_cache_transparent (capacity : Int) {s : Shared} (hs : s.Reachable capacity) :
    (∀ a s' out, s.step a = some (s', out) → s.calls ≠ [] → s'.matcher.book = s.matcher.book) ∧
    (∀ a s' t v, s.step a = some (s', some (t, v)) → v = s.matcher.book.answer t) ∧
    (∀ t, (s.matcher.route t).1 = s.matcher.book.answer t ∧
      Shared.Reachable capacity ⟨(s.matcher.route t).2.2, s.calls⟩) ∧
    (∀ a s' out, s.step a = some (s', out) →
      s'.matcher.evaluations = s.matcher.evaluations + a.cost) ∧
    (∀ t, (s.matcher.route t).2.2.evaluations =
      s.matcher.evaluations + if (s.matcher.cache.get? t).isNone && t.host != "" then 1 else 0) ∧
    (∀ (op : MatcherOp) (e : String), op.result s.matcher = .error e →
      op.apply s.matcher = s.matcher) := by
  have hsound := hs.sound
  refine ⟨fun a s' out h busy => Shared.step_book h busy,
    fun a s' t v h => (Shared.step_sound hsound h).2 t v rfl, fun t => ?_,
    fun a s' out h => Shared.step_evaluations h, Matcher.route_evaluations s.matcher,
    fun op e h => MatcherOp.apply_of_error h⟩
  exact ⟨Matcher.route_answer hsound.1 t, Shared.route_reachable hs t⟩

/-- The laws in the middle of a run: a domain rule was added, a call for `example.com` ran and
cached its answer, and a call for `a.test` missed the cache and has not evaluated yet. -/
theorem decision_cache_transparent_mid_call :
    Shared.Reachable 2 ⟨(((MatcherOp.addRule "example.com").apply (Matcher.new 2)).route
      "example.com").2.2, [.missed "a.test"]⟩ ∧
    let s : Shared := ⟨(((MatcherOp.addRule "example.com").apply (Matcher.new 2)).route
      "example.com").2.2, [.missed "a.test"]⟩
    s.matcher.cache.get? "example.com" = some true ∧ s.matcher.evaluations = 1 ∧
    (∀ a s' out, s.step a = some (s', out) → s.calls ≠ [] → s'.matcher.book = s.matcher.book) ∧
    (∀ a s' t v, s.step a = some (s', some (t, v)) → v = s.matcher.book.answer t) ∧
    (∀ t, (s.matcher.route t).1 = s.matcher.book.answer t ∧
      Shared.Reachable 2 ⟨(s.matcher.route t).2.2, s.calls⟩) ∧
    (∀ a s' out, s.step a = some (s', out) →
      s'.matcher.evaluations = s.matcher.evaluations + a.cost) ∧
    (∀ t, (s.matcher.route t).2.2.evaluations =
      s.matcher.evaluations + if (s.matcher.cache.get? t).isNone && t.host != "" then 1 else 0) ∧
    (∀ (op : MatcherOp) (e : String), op.result s.matcher = .error e →
      op.apply s.matcher = s.matcher) := by
  have h1 : Shared.Reachable 2 ⟨(MatcherOp.addRule "example.com").apply (Matcher.new 2), []⟩ :=
    .step (a := .mutate (.addRule "example.com")) .init rfl
  -- the call for `example.com` made on its own, then the lookup of `a.test`, which misses
  have h2 := Shared.route_reachable h1 "example.com"
  have hmiss : (((MatcherOp.addRule "example.com").apply (Matcher.new 2)).route
      "example.com").2.2.cache.get? "a.test" = none := by decide +kernel
  have hhost : (Target.ofText "a.test").host ≠ "" := by decide +kernel
  have h3 := Shared.Reachable.step h2 (Shared.step_lookup_miss hmiss hhost)
  -- the call for `example.com` evaluated its host and cached the rules' answer
  have hhit : (((MatcherOp.addRule "example.com").apply (Matcher.new 2)).route
      "example.com").2.2.cache.get? "example.com" = some true := by
    have hv : ((MatcherOp.addRule "example.com").apply (Matcher.new 2)).cache.get? "example.com" =
      none := by decide +kernel
    -- the host first, so that the kernel reads it once
    have hh : (Target.ofText "example.com").host = "example.com" := by decide +kernel
    rw [Matcher.route_miss hv (by simp [hh]), Matcher.remember_cache, DecisionCache.get?_put_self,
      Matcher.evaluate_answer, hh]
    decide +kernel
  refine ⟨h3, ?_⟩
  intro s
  exact ⟨hhit, by decide +kernel, decision_cache_transparent 2 h3⟩

/-- A call whose target has no host misses the cache and counts no evaluation. -/
theorem route_without_host_counts_nothing :
    (Matcher.new 0).cache.get? ⟨[]⟩ = none ∧
    ((Matcher.new 0).route ⟨[]⟩).2.2.evaluations = (Matcher.new 0).evaluations := by
  have hv : (Matcher.new 0).cache.get? ⟨[]⟩ = none := rfl
  have hh : (⟨[]⟩ : Target).host = "" := by
    simp [Target.host, Target.text, Text.ofBytesLossy, Text.decodeLossy, hostOf, Text.trimBlank,
      Text.trimBlankChars]
  rw [Matcher.route_no_host hv hh]
  exact ⟨hv, rfl⟩

end ProxyRouter.Routing
