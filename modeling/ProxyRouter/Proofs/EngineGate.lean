import Mathlib.Logic.Relation
import ProxyRouter.Health.Gate
/-!
The engine gate keeps the engine calls of different invocations apart. However probes and
sections interleave, at most one invocation is inside the gate; each engine call is made by the
invocation inside it; the calls of one invocation stand together in the order the engine sees
them; and a probe fetches only while the proxy it switched to is active. An invocation moves from
waiting, to holding the gate, to its end, and every end gives the gate back, so the gate is free
whenever no invocation is inside it. One whose context is done while it waits never calls the
engine.
-/
namespace ProxyRouter.Health

def Grouped : List Nat → Prop
  | [] => True
  | x :: l => Grouped l ∧ (x ∈ l → l.head? = some x)

theorem head?_replicate_append {i : Nat} {l : List Nat} (hi : i ∈ l → l.head? = some i) (k : Nat)
    (hm : i ∈ List.replicate k i ++ l) : (List.replicate k i ++ l).head? = some i := by
  cases k with
  | zero =>
    simp only [List.replicate_zero, List.nil_append] at hm ⊢
    exact hi hm
  | succ k => simp [List.replicate_succ]

theorem Grouped.replicate_append {i : Nat} {l : List Nat} (hl : Grouped l)
    (hi : i ∈ l → l.head? = some i) (k : Nat) : Grouped (List.replicate k i ++ l) := by
  induction k with
  | zero => simpa using hl
  | succ k ih =>
    rw [List.replicate_succ, List.cons_append]
    exact ⟨ih, head?_replicate_append hi k⟩

theorem Grouped.block {l : List Nat} (h : Grouped l) {a b k : Nat} (hab : a < b) (hbk : b < k)
    (hk : k < l.length) (heq : l[a] = l[k]) : l[b] = l[a] := by
  induction l generalizing a b k with
  | nil => simp at hk
  | cons x l ih =>
    obtain ⟨hl, hx⟩ := h
    obtain ⟨b, rfl⟩ : ∃ b', b = b' + 1 := ⟨b - 1, by omega⟩
    obtain ⟨k, rfl⟩ : ∃ k', k = k' + 1 := ⟨k - 1, by omega⟩
    have hk' : k < l.length := by simpa using hk
    cases a with
    | zero =>
      simp only [List.getElem_cons_zero, List.getElem_cons_succ] at heq ⊢
      -- `x` comes back further on, so the rest of the list starts with it
      have h0 : l[0] = x := by
        have hhead := hx (heq ▸ List.getElem_mem hk')
        rw [List.head?_eq_getElem?, List.getElem?_eq_getElem (by omega)] at hhead
        exact Option.some.inj hhead
      cases b with
      | zero => exact h0
      | succ b =>
        rw [ih hl (a := 0) (by omega) (by omega) hk' (by rw [h0, heq]), h0]
    | succ a =>
      simp only [List.getElem_cons_succ] at heq ⊢
      exact ih hl (by omega) (by omega) hk' heq

def GatePhase.stage : GatePhase → Nat
  | .waiting => 0
  | .ended _ => 2
  | _ => 1

theorem GatePhase.stage_of_holding {p : GatePhase} (h : p.holding = true) : p.stage = 1 := by
  cases p <;> simp_all [GatePhase.holding, GatePhase.stage]

theorem GatePhase.one_le_stage {p : GatePhase} (h : p ≠ .waiting) : 1 ≤ p.stage := by
  cases p <;> simp_all [GatePhase.stage]

@[simp] theorem GateTask.entry_holding (t : GateTask) : t.entry.holding = true := by
  cases t <;> rfl

theorem afterFetch_served (m : Bool) (o : FetchOutcome) (pending sent : List String) (n : Nat) :
    afterFetch m o pending sent n ≠ .waiting ∧ afterFetch m o pending sent n ≠ .ended .refused := by
  unfold afterFetch
  split
  · split
    · simp
    · split <;> simp
  · simp

/-- The active proxy of the engine, as `active` reads it, becomes the proxy asked for when a
switch is accepted and stays as it is while a fetch is made. -/
structure ProbeEngine.FollowsSwitches {σ : Type} (eng : ProbeEngine σ) (active : σ → String) :
    Prop where
  switch : ∀ s name, (eng.switch s name).1 = true → active (eng.switch s name).2 = name
  fetch : ∀ s t, active (eng.fetch s t).2 = active s

namespace GateState

variable {σ : Type} {cfg : ProbeConfig} {eng : ProbeEngine σ}

def callers (g : GateState σ) : List Nat := g.trace.map Prod.fst

@[simp] theorem act_engine (g : GateState σ) (i : Nat) (c : Invocation) (made : List EngineCall)
    (e : σ) (p : GatePhase) : (g.act i c made e p).engine = e := rfl

@[simp] theorem act_holder (g : GateState σ) (i : Nat) (c : Invocation) (made : List EngineCall)
    (e : σ) (p : GatePhase) :
    (g.act i c made e p).holder = if p.holding then some i else none := rfl

@[simp] theorem act_calls (g : GateState σ) (i : Nat) (c : Invocation) (made : List EngineCall)
    (e : σ) (p : GatePhase) :
    (g.act i c made e p).calls = Function.update g.calls i (some { c with phase := p }) := rfl

theorem act_trace (g : GateState σ) (i : Nat) (c : Invocation) (made : List EngineCall) (e : σ)
    (p : GatePhase) : (g.act i c made e p).trace = (made.map (i, ·)).reverse ++ g.trace := rfl

theorem callers_act (g : GateState σ) (i : Nat) (c : Invocation) (made : List EngineCall) (e : σ)
    (p : GatePhase) :
    (g.act i c made e p).callers = List.replicate made.length i ++ g.callers := by
  simp [callers, act_trace, List.map_reverse, Function.comp_def, List.map_const']

/-- What every reachable state keeps, reading the engine's active proxy by `active`. -/
structure Sound (active : σ → String) (g : GateState σ) : Prop where
  /-- the gate is held by exactly the invocation whose phase holds it -/
  holder_iff : ∀ i c, g.calls i = some c → (c.phase.holding = true ↔ g.holder = some i)
  /-- the holder is an invocation -/
  holder_invoked : ∀ i, g.holder = some i → g.calls i ≠ none
  /-- a probe fetching after its switch has its proxy active -/
  fetching_active : ∀ i c pending sent n, g.calls i = some c →
    c.phase = .fetching pending sent n → ∃ name, c.task = .probe name ∧ active g.engine = name
  /-- a number not yet invoked has made no engine call -/
  uninvoked_silent : ∀ i, g.calls i = none → i ∉ g.callers
  /-- an invocation that never had the gate has made no engine call -/
  unserved_silent : ∀ i c, g.calls i = some c → (c.phase = .waiting ∨ c.phase = .ended .refused) →
    i ∉ g.callers
  /-- the engine calls of each invocation stand together -/
  grouped : Grouped g.callers
  /-- the holder's engine calls, if any, are the latest -/
  holder_latest : ∀ i, g.holder = some i → i ∈ g.callers → g.callers.head? = some i

variable {active : σ → String}

theorem Sound.start (e : σ) : Sound active ({ engine := e } : GateState σ) where
  holder_iff _ _ h := by simp at h
  holder_invoked _ h := by simp at h
  fetching_active _ _ _ _ _ h := by simp at h
  uninvoked_silent _ _ := by simp [callers]
  unserved_silent _ _ h := by simp at h
  grouped := trivial
  holder_latest _ h := by simp at h

theorem Sound.holds {g : GateState σ} (h : g.Sound active) {i : Nat} {c : Invocation}
    (hi : g.calls i = some c) (hc : c.phase.holding = true) : g.holder = some i :=
  (h.holder_iff i c hi).1 hc

theorem Sound.act {g : GateState σ} (h : g.Sound active) {i : Nat} {c : Invocation}
    {made : List EngineCall} {e : σ} {p : GatePhase} (hi : g.calls i = some c)
    (hh : g.holder = none ∨ g.holder = some i)
    (hlast : i ∈ g.callers → g.callers.head? = some i)
    (hp : p ≠ .waiting ∧ p ≠ .ended .refused)
    (hfetch : ∀ pending sent n, p = .fetching pending sent n →
      ∃ name, c.task = .probe name ∧ active e = name) :
    (g.act i c made e p).Sound active := by
  -- no other invocation is inside the gate
  have other : ∀ j cj, j ≠ i → g.calls j = some cj → cj.phase.holding = false := by
    intro j cj hj hcj
    cases hh' : cj.phase.holding
    · rfl
    · have := h.holds hcj hh'
      rcases hh with hh | hh <;> rw [hh] at this <;> simp_all
  have holder_ne : ∀ j, j ≠ i → (g.act i c made e p).holder ≠ some j := by
    intro j hj
    simp only [act_holder]
    split <;> simp [Ne.symm hj]
  constructor
  · intro j cj hj
    by_cases hji : j = i
    · subst hji
      simp only [act_calls, Function.update_self, Option.some.injEq] at hj
      subst hj
      cases hph : p.holding <;> simp [hph]
    · rw [act_calls, Function.update_of_ne hji] at hj
      simp only [other j cj hji hj, Bool.false_eq_true, false_iff]
      exact holder_ne j hji
  · intro j hj
    by_cases hji : j = i
    · subst hji
      simp
    · exact absurd hj (holder_ne j hji)
  · intro j cj pending sent n hj hph
    by_cases hji : j = i
    · subst hji
      simp only [act_calls, Function.update_self, Option.some.injEq] at hj
      subst hj
      exact hfetch pending sent n hph
    · rw [act_calls, Function.update_of_ne hji] at hj
      have := other j cj hji hj
      simp [hph, GatePhase.holding] at this
  · intro j hj
    have hji : j ≠ i := by
      rintro rfl
      simp at hj
    rw [act_calls, Function.update_of_ne hji] at hj
    rw [callers_act]
    simp [hji, h.uninvoked_silent j hj]
  · intro j cj hj hw
    by_cases hji : j = i
    · subst hji
      simp only [act_calls, Function.update_self, Option.some.injEq] at hj
      subst hj
      rcases hw with hw | hw
      · exact absurd hw hp.1
      · exact absurd hw hp.2
    · rw [act_calls, Function.update_of_ne hji] at hj
      rw [callers_act]
      simp [hji, h.unserved_silent j cj hj hw]
  · rw [callers_act]
    exact h.grouped.replicate_append hlast _
  · intro j hj hm
    have hji : j = i := by
      simp only [act_holder] at hj
      split at hj <;> simp_all
    subst hji
    rw [callers_act] at hm ⊢
    exact head?_replicate_append hlast _ hm

/-- A step that changes one invocation in place, leaving the gate, the engine and its calls
alone, keeps the bookkeeping when the invocation's new phase agrees with them. -/
theorem Sound.update {g : GateState σ} (h : g.Sound active) {i : Nat} {c' : Invocation}
    (hhold : c'.phase.holding = true ↔ g.holder = some i)
    (hfetch : ∀ pending sent n, c'.phase = .fetching pending sent n →
      ∃ name, c'.task = .probe name ∧ active g.engine = name)
    (hsilent : (c'.phase = .waiting ∨ c'.phase = .ended .refused) → i ∉ g.callers) :
    ({ g with calls := Function.update g.calls i (some c') } : GateState σ).Sound active := by
  constructor
  · intro j cj hj
    by_cases hji : j = i
    · subst hji
      simp only [Function.update_self, Option.some.injEq] at hj
      exact hj ▸ hhold
    · simp only [Function.update_of_ne hji] at hj
      exact h.holder_iff j cj hj
  · intro j hj
    by_cases hji : j = i
    · subst hji
      simp
    · simpa [Function.update_of_ne hji] using h.holder_invoked j hj
  · intro j cj pending sent n hj hph
    by_cases hji : j = i
    · subst hji
      simp only [Function.update_self, Option.some.injEq] at hj
      subst hj
      exact hfetch pending sent n hph
    · simp only [Function.update_of_ne hji] at hj
      exact h.fetching_active j cj pending sent n hj hph
  · intro j hj
    by_cases hji : j = i
    · subst hji
      simp at hj
    · simp only [Function.update_of_ne hji] at hj
      exact h.uninvoked_silent j hj
  · intro j cj hj hw
    by_cases hji : j = i
    · subst hji
      simp only [Function.update_self, Option.some.injEq] at hj
      subst hj
      exact hsilent hw
    · simp only [Function.update_of_ne hji] at hj
      exact h.unserved_silent j cj hj hw
  · exact h.grouped
  · exact h.holder_latest

theorem Sound.actHolder {g : GateState σ} (h : g.Sound active) {i : Nat} {c : Invocation}
    {made : List EngineCall} {e : σ} {p : GatePhase} (hi : g.calls i = some c)
    (hc : c.phase.holding = true) (hp : p ≠ .waiting ∧ p ≠ .ended .refused)
    (hfetch : ∀ pending sent n, p = .fetching pending sent n →
      ∃ name, c.task = .probe name ∧ active e = name) :
    (g.act i c made e p).Sound active :=
  h.act hi (.inr (h.holds hi hc)) (h.holder_latest i (h.holds hi hc)) hp hfetch

theorem Sound.step (hf : eng.FollowsSwitches active) {g g' : GateState σ} (h : g.Sound active)
    (hs : Step cfg eng g g') : g'.Sound active := by
  cases hs with
  | invoke i task done hi =>
    refine h.update ?_ (fun _ _ _ hph => by simp at hph) (fun _ => h.uninvoked_silent i hi)
    simp only [GatePhase.holding, Bool.false_eq_true, false_iff]
    exact fun hh => h.holder_invoked i hh hi
  | expire i c hi =>
    exact h.update (h.holder_iff i c hi) (h.fetching_active i c · · · hi)
      (h.unserved_silent i c hi)
  | acquire i c hi hw _ hfree =>
    refine h.act hi (.inl hfree) (fun hm => absurd hm (h.unserved_silent i c hi (.inl hw)))
      ?_ (fun _ _ _ hp => ?_)
    · cases c.task <;> simp [GateTask.entry]
    · cases ht : c.task <;> simp [ht, GateTask.entry] at hp
  | refuse i c hi hw _ =>
    refine h.update ?_ (fun _ _ _ hph => by simp at hph)
      (fun _ => h.unserved_silent i c hi (.inl hw))
    simp only [GatePhase.holding, Bool.false_eq_true, false_iff]
    intro hh
    have := (h.holder_iff i c hi).2 hh
    simp [hw, GatePhase.holding] at this
  | switch i c name hi ht hp =>
    refine h.actHolder hi (by simp [hp, GatePhase.holding]) (by split <;> simp) ?_
    intro pending sent n hph
    split at hph
    · exact ⟨name, ht, hf.switch _ _ ‹_›⟩
    · simp at hph
  | switchCrash i c name hi _ hp =>
    exact h.actHolder hi (by simp [hp, GatePhase.holding]) (by simp)
      (fun _ _ _ hph => by simp at hph)
  | send i c t pending sent n hi hp _ =>
    obtain ⟨name, ht, ha⟩ := h.fetching_active i c _ _ _ hi hp
    exact h.actHolder hi (by simp [hp, GatePhase.holding]) (by simp)
      (fun _ _ _ _ => ⟨name, ht, ha⟩)
  | answer i c t pending sent n hi hp _ =>
    -- the fetch leaves the proxy the probe switched to active
    obtain ⟨name, ht, ha⟩ := h.fetching_active i c _ _ _ hi hp
    exact h.actHolder hi (by simp [hp, GatePhase.holding]) (afterFetch_served ..)
      (fun _ _ _ _ => ⟨name, ht, (hf.fetch _ _).trans ha⟩)
  | stop i c pending n hi hp _ _ =>
    exact h.actHolder hi (by simp [hp, GatePhase.holding]) (by simp)
      (fun _ _ _ hph => by simp at hph)
  | finish i c n hi hp =>
    exact h.actHolder hi (by simp [hp, GatePhase.holding]) (by simp)
      (fun _ _ _ hph => by simp at hph)
  | sectionSwitch i c name hi hp =>
    exact h.actHolder hi (by simp [hp, GatePhase.holding]) (by simp)
      (fun _ _ _ hph => by simp at hph)
  | sectionFetch i c t hi hp =>
    exact h.actHolder hi (by simp [hp, GatePhase.holding]) (by simp)
      (fun _ _ _ hph => by simp at hph)
  | leave i c hi hp =>
    exact h.actHolder hi (by simp [hp, GatePhase.holding]) (by simp)
      (fun _ _ _ hph => by simp at hph)

theorem Reachable.sound (hf : eng.FollowsSwitches active) {g : GateState σ}
    (h : Reachable cfg eng g) : g.Sound active := by
  induction h with
  | start e => exact .start e
  | step _ hs ih => exact ih.step hf hs

theorem Reachable.of_steps {g g' : GateState σ} (h : Reachable cfg eng g)
    (hr : Relation.ReflTransGen (Step cfg eng) g g') : Reachable cfg eng g' := by
  induction hr with
  | refl => exact h
  | tail _ hs ih => exact .step ih hs

theorem Sound.step_trace {g g' : GateState σ} (h : g.Sound active) (hs : Step cfg eng g g') :
    ∃ made, g'.trace = made ++ g.trace ∧ ∀ x ∈ made, g.holder = some x.1 := by
  -- the calls of a step of the holder `i` are all `i`'s
  have byHolder : ∀ {i c made e p}, g.calls i = some c → c.phase.holding = true →
      ∃ made', (g.act i c made e p).trace = made' ++ g.trace ∧ ∀ x ∈ made', g.holder = some x.1 :=
    fun hi hc => ⟨_, act_trace .., fun x hx => by
      obtain ⟨k, -, rfl⟩ := List.mem_map.1 (List.mem_reverse.1 hx)
      exact h.holds hi hc⟩
  cases hs with
  | invoke => exact ⟨[], rfl, by simp⟩
  | expire => exact ⟨[], rfl, by simp⟩
  | acquire => exact ⟨[], by simp [act_trace], by simp⟩
  | refuse => exact ⟨[], rfl, by simp⟩
  | switch _ _ _ hi _ hp => exact byHolder hi (by simp [hp, GatePhase.holding])
  | switchCrash _ _ _ hi _ hp => exact byHolder hi (by simp [hp, GatePhase.holding])
  | send _ _ _ _ _ _ hi hp _ => exact byHolder hi (by simp [hp, GatePhase.holding])
  | answer _ _ _ _ _ _ hi hp _ => exact byHolder hi (by simp [hp, GatePhase.holding])
  | stop _ _ _ _ hi hp _ _ => exact byHolder hi (by simp [hp, GatePhase.holding])
  | finish _ _ _ hi hp => exact byHolder hi (by simp [hp, GatePhase.holding])
  | sectionSwitch _ _ _ hi hp => exact byHolder hi (by simp [hp, GatePhase.holding])
  | sectionFetch _ _ _ hi hp => exact byHolder hi (by simp [hp, GatePhase.holding])
  | leave _ _ hi hp => exact byHolder hi (by simp [hp, GatePhase.holding])

end GateState

/-- What one step can do to an invocation it finds: leave it as it is, mark its context done,
give it the free gate, refuse it, or, when it holds the gate, move it to a phase past waiting
and refusal. -/
inductive Moved (c : Invocation) : Option Invocation → Prop
  | stays : Moved c (some c)
  | expires : Moved c (some { c with done := true })
  | enters : c.phase = .waiting → c.done = false → Moved c (some { c with phase := c.task.entry })
  | refused : c.phase = .waiting → c.done = true →
      Moved c (some { c with phase := .ended .refused })
  | moves (p : GatePhase) : c.phase.holding = true → p ≠ .waiting → p ≠ .ended .refused →
      Moved c (some { c with phase := p })

namespace GateState

variable {σ : Type} {cfg : ProbeConfig} {eng : ProbeEngine σ}

theorem moved_act {g : GateState σ} {i j : Nat} {c cj : Invocation} {made : List EngineCall}
    {e : σ} {p : GatePhase} (hi : g.calls i = some c) (hj : g.calls j = some cj)
    (hc : cj.phase.holding = true) (hp : p ≠ .waiting ∧ p ≠ .ended .refused) :
    Moved c ((g.act j cj made e p).calls i) := by
  by_cases hij : i = j
  · subst hij
    obtain rfl : c = cj := Option.some.inj (hi.symm.trans hj)
    simpa using Moved.moves p hc hp.1 hp.2
  · simpa [Function.update_of_ne hij, hi] using Moved.stays

theorem moved_update {g : GateState σ} {i j : Nat} {c : Invocation} (c' : Invocation)
    (hi : g.calls i = some c) (hij : i ≠ j) :
    Moved c (Function.update g.calls j (some c') i) := by
  simpa [Function.update_of_ne hij, hi] using Moved.stays

theorem Step.moved {g g' : GateState σ} (hs : Step cfg eng g g') {i : Nat} {c : Invocation}
    (hi : g.calls i = some c) : Moved c (g'.calls i) := by
  cases hs with
  | invoke j task done hj =>
    exact moved_update _ hi (by rintro rfl; simp [hi] at hj)
  | expire j cj hj =>
    by_cases hij : i = j
    · subst hij
      obtain rfl : c = cj := Option.some.inj (hi.symm.trans hj)
      simpa using Moved.expires
    · exact moved_update _ hi hij
  | acquire j cj hj hw hd _ =>
    by_cases hij : i = j
    · subst hij
      obtain rfl : c = cj := Option.some.inj (hi.symm.trans hj)
      simpa using Moved.enters hw hd
    · simpa [Function.update_of_ne hij, hi] using Moved.stays
  | refuse j cj hj hw hd =>
    by_cases hij : i = j
    · subst hij
      obtain rfl : c = cj := Option.some.inj (hi.symm.trans hj)
      simpa using Moved.refused hw hd
    · exact moved_update _ hi hij
  | switch _ _ _ hj _ hp =>
    exact moved_act hi hj (by simp [hp, GatePhase.holding]) (by split <;> simp)
  | switchCrash _ _ _ hj _ hp =>
    exact moved_act hi hj (by simp [hp, GatePhase.holding]) (by simp)
  | send _ _ _ _ _ _ hj hp _ =>
    exact moved_act hi hj (by simp [hp, GatePhase.holding]) (by simp)
  | answer _ _ _ _ _ _ hj hp _ =>
    exact moved_act hi hj (by simp [hp, GatePhase.holding]) (afterFetch_served ..)
  | stop _ _ _ _ hj hp _ _ =>
    exact moved_act hi hj (by simp [hp, GatePhase.holding]) (by simp)
  | finish _ _ _ hj hp =>
    exact moved_act hi hj (by simp [hp, GatePhase.holding]) (by simp)
  | sectionSwitch _ _ _ hj hp =>
    exact moved_act hi hj (by simp [hp, GatePhase.holding]) (by simp)
  | sectionFetch _ _ _ hj hp =>
    exact moved_act hi hj (by simp [hp, GatePhase.holding]) (by simp)
  | leave _ _ hj hp =>
    exact moved_act hi hj (by simp [hp, GatePhase.holding]) (by simp)

end GateState

theorem Moved.stage_le {c : Invocation} {o : Option Invocation} (h : Moved c o) {c' : Invocation}
    (ho : o = some c') : c.phase.stage ≤ c'.phase.stage := by
  cases h with
  | stays => cases ho; exact Nat.le_refl _
  | expires => cases ho; exact Nat.le_refl _
  | enters hw _ =>
    cases ho
    simp [hw, GatePhase.stage]
  | refused hw _ => cases ho; simp [hw, GatePhase.stage]
  | moves p hc hp _ =>
    cases ho
    rw [GatePhase.stage_of_holding hc]
    exact GatePhase.one_le_stage hp

theorem Moved.unserved {c : Invocation} {o : Option Invocation} (h : Moved c o)
    (hw : c.phase = .waiting ∨ c.phase = .ended .refused) (hd : c.done = true) :
    ∃ c', o = some c' ∧ (c'.phase = .waiting ∨ c'.phase = .ended .refused) ∧ c'.done = true := by
  cases h with
  | stays => exact ⟨c, rfl, hw, hd⟩
  | expires => exact ⟨_, rfl, hw, rfl⟩
  | enters _ hd' => simp [hd] at hd'
  | refused _ _ => exact ⟨_, rfl, .inr rfl, hd⟩
  | moves p hc _ _ => rcases hw with hw | hw <;> simp [hw, GatePhase.holding] at hc

namespace GateState

variable {σ : Type} {cfg : ProbeConfig} {eng : ProbeEngine σ}

theorem unserved_of_steps {g g' : GateState σ} (hr : Relation.ReflTransGen (Step cfg eng) g g')
    {i : Nat} {c : Invocation} (hi : g.calls i = some c)
    (hw : c.phase = .waiting ∨ c.phase = .ended .refused) (hd : c.done = true) :
    ∃ c', g'.calls i = some c' ∧ (c'.phase = .waiting ∨ c'.phase = .ended .refused) ∧
      c'.done = true := by
  induction hr with
  | refl => exact ⟨c, hi, hw, hd⟩
  | tail _ hs ih =>
    obtain ⟨c', h1, h2, h3⟩ := ih
    exact (hs.moved h1).unserved h2 h3

end GateState

open GateState

/-- What holds in a state of the gate, for probes configured by `cfg` over the engine `eng`
whose active proxy `active` reads. -/
structure GateLaw {σ : Type} (cfg : ProbeConfig) (eng : ProbeEngine σ) (active : σ → String)
    (g : GateState σ) : Prop where
  /-- at most one invocation is inside the gate -/
  exclusive : ∀ i j ci cj, g.calls i = some ci → g.calls j = some cj →
    ci.phase.holding = true → cj.phase.holding = true → i = j
  /-- the gate is free when no invocation is inside it: every way out gives it back -/
  free : (∀ i c, g.calls i = some c → c.phase.holding = false) → g.holder = none
  /-- a probe fetches only while the proxy it switched to is active -/
  own_proxy : ∀ i c name pending sent n, g.calls i = some c → c.task = .probe name →
    c.phase = .fetching pending sent n → active g.engine = name
  /-- the engine calls of two invocations never interleave -/
  unmixed : ∀ a b k (hab : a < b) (hbk : b < k) (hk : k < g.trace.length),
    g.trace[a].1 = g.trace[k].1 → g.trace[b].1 = g.trace[a].1
  /-- every engine call a step makes is made by the invocation holding the gate -/
  by_holder : ∀ g', Step cfg eng g g' →
    ∃ made, g'.trace = made ++ g.trace ∧ ∀ x ∈ made, g.holder = some x.1
  /-- an invocation moves from waiting, to holding the gate, to its end, and never back -/
  forward : ∀ g' i c c', Step cfg eng g g' → g.calls i = some c → g'.calls i = some c' →
    c.phase.stage ≤ c'.phase.stage
  /-- an invocation whose context is done while it waits never calls the engine -/
  refused_silent : ∀ i c g', g.calls i = some c → c.phase = .waiting → c.done = true →
    Relation.ReflTransGen (Step cfg eng) g g' → i ∉ g'.callers

/-- However probes and sections interleave on the gate, its law holds, for any engine whose active
proxy follows the switches it accepts and stays while it fetches. -/
theorem engine_gate_law {σ : Type} {cfg : ProbeConfig} {eng : ProbeEngine σ}
    {active : σ → String} (hf : eng.FollowsSwitches active) {g : GateState σ}
    (hg : Reachable cfg eng g) : GateLaw cfg eng active g := by
  have hs := hg.sound hf
  refine ⟨fun i j ci cj hi hj hci hcj => ?_, fun hnone => ?_, fun i c name pending sent n hi ht hp => ?_,
    fun a b k hab hbk hk heq => ?_, fun g' step => hs.step_trace step,
    fun g' i c c' step hi hi' => (step.moved hi).stage_le hi', fun i c g' hi hw hd hr => ?_⟩
  · exact Option.some.inj ((hs.holds hi hci).symm.trans (hs.holds hj hcj))
  · cases hh : g.holder with
    | none => rfl
    | some i =>
      obtain ⟨c, hc⟩ := Option.ne_none_iff_exists'.1 (hs.holder_invoked i hh)
      have := hnone i c hc
      simp [(hs.holder_iff i c hc).2 hh] at this
  · obtain ⟨name', ht', ha⟩ := hs.fetching_active i c pending sent n hi hp
    rw [ht, GateTask.probe.injEq] at ht'
    rw [ht', ha]
  · have hk' : k < g.callers.length := by simpa [callers] using hk
    simpa [callers] using hs.grouped.block hab hbk hk' (by simpa [callers] using heq)
  · obtain ⟨c', hc', hw', -⟩ := unserved_of_steps hr hi (.inl hw) hd
    exact ((hg.of_steps hr).sound hf).unserved_silent i c' hc' hw'

/-- An engine whose state is its active proxy: it accepts every switch, answers every fetch with
204, and its time stands still. -/
def echoEngine : ProbeEngine String where
  switch _ name := (true, name)
  fetch s _ := (.status 204, s)
  clock _ := Instant.epoch
  expired _ _ := false

/-- Two probes of one target on the echo engine: the first has switched to its proxy and sent
its fetch, the second was invoked with its context already done. -/
def twoProbes : GateState String :=
  let g : GateState String := { engine := "" }
  let g := { g with calls := Function.update g.calls 0 (some ⟨.probe "a", .waiting, false⟩) }
  let g := { g with calls := Function.update g.calls 1 (some ⟨.probe "b", .waiting, true⟩) }
  let g := g.act 0 ⟨.probe "a", .waiting, false⟩ [] "" .switching
  let g := g.act 0 ⟨.probe "a", .switching, false⟩ [.switch "a"] "a" (.fetching ["t"] [] 0)
  g.act 0 ⟨.probe "a", .fetching ["t"] [] 0, false⟩ [.fetchSent "t"] "a" (.fetching [] ["t"] 0)

theorem engine_gate_law_two_probes :
    echoEngine.FollowsSwitches id ∧ Reachable { targets := ["t"] } echoEngine twoProbes ∧
      GateLaw { targets := ["t"] } echoEngine id twoProbes := by
  have hf : echoEngine.FollowsSwitches id := ⟨fun _ _ _ => rfl, fun _ _ => rfl⟩
  have hr : Reachable { targets := ["t"] } echoEngine twoProbes :=
    .step (.step (.step (.step (.step (.start "")
      (.invoke _ 0 (.probe "a") false rfl)) (.invoke _ 1 (.probe "b") true rfl))
      (.acquire _ 0 _ rfl rfl rfl rfl)) (.switch _ 0 _ "a" rfl rfl rfl))
      (.send _ 0 _ "t" [] [] 0 rfl rfl (by decide))
  exact ⟨hf, hr, engine_gate_law hf hr⟩

end ProxyRouter.Health
