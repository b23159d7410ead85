import Mathlib.Data.List.Basic
import Mathlib.Logic.Relation
import ProxyRouter.Health.Cycle
/-!
# A check of a roster, however its probes interleave and whenever it is given up

A check of a roster of distinct names, run by any steps its probes may take and with the request
given up at any moment or not at all: each proxy's sample goes to the histories (when adaptive),
to each observer and to the results together or not at all. So when the check is over the
results, what each observer was handed and what was recorded are the same samples under the same
names, each observer being handed a name at most once; without the request given up every proxy
has its result; and the basic checker leaves the histories alone.
-/
namespace ProxyRouter.Health

open Pool

/-! ### Lists changed at one place -/

section SetAt

variable {α β : Type}

theorem filterMap_cons_toList (f : α → Option β) (a : α) (l : List α) :
    (a :: l).filterMap f = (f a).toList ++ l.filterMap f := by
  cases h : f a <;> simp [h]

theorem filterMap_set_perm (f : α → Option β) (y : α) :
    ∀ (l : List α) (i : Nat) {x : α}, l[i]? = some x →
      ((f x).toList ++ (l.set i y).filterMap f).Perm ((f y).toList ++ l.filterMap f)
  | [], _, _, h => by simp at h
  | a :: l, 0, x, h => by
    obtain rfl : a = x := by simpa using h
    simp only [List.set_cons_zero, filterMap_cons_toList, ← List.append_assoc]
    exact List.perm_append_comm.append_right _
  | a :: l, i + 1, x, h => by
    have ih := filterMap_set_perm f y l i (by simpa using h)
    simp only [List.set_cons_succ, filterMap_cons_toList]
    -- move the head's share to the front on both sides
    exact (List.perm_append_comm_assoc _ _ _).trans
      ((ih.append_left _).trans (List.perm_append_comm_assoc _ _ _))

theorem perm_filterMap_set {f : α → Option β} {l : List α} {i : Nat} {x y : α} {out out' : List β}
    (hout : out.Perm (l.filterMap f)) (hi : l[i]? = some x)
    (hout' : ((f x).toList ++ out').Perm ((f y).toList ++ out)) :
    out'.Perm ((l.set i y).filterMap f) := by
  rw [← List.perm_append_left_iff (f x).toList]
  exact hout'.trans ((hout.append_left _).trans (filterMap_set_perm f y l i hi).symm)

theorem map_fst_set_snd {γ : Type} {l : List (α × γ)} {i : Nat} {a : α} {c c' : γ}
    (hi : l[i]? = some (a, c)) : (l.set i (a, c')).map (·.1) = l.map (·.1) := by
  obtain ⟨hlt, heq⟩ := List.getElem?_eq_some_iff.1 hi
  have hlt' : i < (l.map (·.1)).length := by simpa using hlt
  have ha : (a, c').1 = (l.map (·.1))[i] := by simp [heq]
  rw [List.map_set, ha, List.set_getElem_self]

end SetAt

/-! ### What each output holds of a check -/

namespace CheckPhase

def stored? : CheckPhase → Option HealthSample
  | .done s => some s
  | _ => none

def recorded? : CheckPhase → Option HealthSample
  | .telling s _ | .done s => some s
  | _ => none

def toldTo? (observers k : Nat) : CheckPhase → Option HealthSample
  | .telling s j => if k < j then some s else none
  | .done s => if k < observers then some s else none
  | _ => none

def handingOut : CheckPhase → Bool
  | .telling _ _ | .done _ => true
  | _ => false

variable {ph : CheckPhase}

theorem stored?_of_handingOut (h : ph.handingOut = false) : ph.stored? = none := by
  cases ph <;> simp_all [handingOut, stored?]

theorem recorded?_of_handingOut (h : ph.handingOut = false) : ph.recorded? = none := by
  cases ph <;> simp_all [handingOut, recorded?]

theorem toldTo?_of_handingOut (h : ph.handingOut = false) (observers k : Nat) :
    ph.toldTo? observers k = none := by
  cases ph <;> simp_all [handingOut, toldTo?]

theorem toldTo?_of_ended (h : ph.ended = true) {observers k : Nat} (hk : k < observers) :
    ph.toldTo? observers k = ph.stored? := by
  cases ph <;> simp_all [ended, toldTo?, stored?]

theorem recorded?_of_ended (h : ph.ended = true) : ph.recorded? = ph.stored? := by
  cases ph <;> simp_all [ended, recorded?, stored?]

end CheckPhase

/-- What an output holds for a check, by the given reading of its phase: its proxy's name with
the sample. -/
def checkEntry (g : CheckPhase → Option HealthSample) (p : ProxyIdentity × CheckPhase) :
    Option (String × HealthSample) :=
  (g p.2).map (p.1.name, ·)

section Entries

variable {g : CheckPhase → Option HealthSample}

theorem names_filterMap_checkEntry_sublist (g : CheckPhase → Option HealthSample) :
    ∀ l : List (ProxyIdentity × CheckPhase),
      List.Sublist ((l.filterMap (checkEntry g)).map (·.1)) (l.map (·.1.name))
  | [] => .slnil
  | p :: l => by
    have ih := names_filterMap_checkEntry_sublist g l
    cases h : g p.2 with
    | none => simpa [checkEntry, h] using ih.cons p.1.name
    | some s => simpa [checkEntry, h] using ih.cons_cons p.1.name

theorem names_filterMap_checkEntry_of_isSome :
    ∀ l : List (ProxyIdentity × CheckPhase), (∀ p ∈ l, (g p.2).isSome = true) →
      (l.filterMap (checkEntry g)).map (·.1) = l.map (·.1.name)
  | [], _ => rfl
  | p :: l, h => by
    obtain ⟨s, hs⟩ := Option.isSome_iff_exists.1 (h p List.mem_cons_self)
    have ih := names_filterMap_checkEntry_of_isSome l fun q hq => h q (List.mem_cons_of_mem p hq)
    simp [checkEntry, hs, ih]

theorem name_not_mem_filterMap_checkEntry {l : List (ProxyIdentity × CheckPhase)} {i : Nat}
    {id : ProxyIdentity} {ph : CheckPhase} (hnd : (l.map (·.1.name)).Nodup)
    (hi : l[i]? = some (id, ph)) (hg : g ph = none) :
    id.name ∉ (l.filterMap (checkEntry g)).map (·.1) := by
  induction l generalizing i with
  | nil => simp at hi
  | cons q l ih =>
    rw [List.map_cons, List.nodup_cons] at hnd
    rw [filterMap_cons_toList, List.map_append, List.mem_append, not_or]
    cases i with
    | zero =>
      obtain rfl : q = (id, ph) := by simpa using hi
      refine ⟨by simp [checkEntry, hg], fun hmem => hnd.1 ?_⟩
      exact (names_filterMap_checkEntry_sublist g l).subset hmem
    | succ i =>
      have hil : l[i]? = some (id, ph) := by simpa using hi
      refine ⟨fun hmem => hnd.1 ?_, ih hnd.2 hil⟩
      -- the name at `i` is the head's, which the tail does not have
      have hq : q.1.name = id.name := by
        cases h : g q.2 <;> simp_all [checkEntry]
      rw [hq]
      exact List.mem_map.2 ⟨_, List.mem_of_getElem? hil, rfl⟩

end Entries

theorem insertResult_perm (o : String × HealthSample) :
    ∀ rs : List (String × HealthSample), o.1 ∉ rs.map (·.1) →
      (resultMap.insertResult o rs).Perm (o :: rs)
  | [], _ => by simp [resultMap.insertResult]
  | q :: rs, h => by
    have hne : o.1 ≠ q.1 := fun he => h (he ▸ List.mem_cons_self)
    have hrest : o.1 ∉ rs.map (·.1) := fun hm => h (List.mem_cons_of_mem _ hm)
    simp only [resultMap.insertResult, beq_iff_eq, hne, if_false]
    split
    · exact List.Perm.refl _
    · exact ((insertResult_perm o rs hrest).cons q).trans (List.Perm.swap o q rs)

/-! ### What every step keeps -/

namespace CheckRun

variable (ids : List ProxyIdentity) (adaptive : Bool) (t₀ : Tracker) (observers : Nat)

/-- What every step keeps of the check of `ids` begun with the histories `t₀`, by an adaptive
checker or not, with `observers` observers: each output holds, up to order, what the checks
handed it; a check that ended without a sample found the request given up; and the basic
checker recorded nothing. -/
structure Keeps (r : CheckRun) : Prop where
  ids_eq : r.checks.map (·.1) = ids
  adaptive_eq : r.adaptive = adaptive
  dropped : ∀ p ∈ r.checks, p.2 = .dropped → r.cancelled = true
  telling : ∀ p ∈ r.checks, ∀ s j, p.2 = .telling s j → j ≤ observers
  recorded : adaptive = true → r.recorded.Perm (r.checks.filterMap (checkEntry CheckPhase.recorded?))
  told : ∀ k, (r.seenBy k).Perm (r.checks.filterMap (checkEntry (CheckPhase.toldTo? observers k)))
  results : r.results.Perm (r.checks.filterMap (checkEntry CheckPhase.stored?))
  basic : adaptive = false → r.tracker = t₀ ∧ r.recorded = []

variable {ids adaptive t₀ observers} {r r' : CheckRun} {i : Nat} {id : ProxyIdentity}
  {ph ph' : CheckPhase}

theorem Keeps.names (h : Keeps ids adaptive t₀ observers r) :
    r.checks.map (·.1.name) = ids.map (·.name) := by
  rw [← h.ids_eq, List.map_map]
  rfl

theorem Keeps.begin (strategy : HealthStrategy) (cancelled : Bool) :
    Keeps ids (strategy == .adaptive) t₀ observers (CheckRun.begin strategy t₀ ids cancelled) := by
  have hnone : ∀ g : CheckPhase → Option HealthSample, g .waiting = none →
      (ids.map (·, CheckPhase.waiting)).filterMap (checkEntry g) = [] := by
    intro g hg
    simp [List.filterMap_map, Function.comp_def, checkEntry, hg]
  refine ⟨by simp [CheckRun.begin, List.map_map, Function.comp_def], rfl, ?_, ?_, ?_,
    fun k => ?_, ?_, fun _ => ⟨rfl, rfl⟩⟩
  · intro p hp hdrop
    obtain ⟨id, -, rfl⟩ := List.mem_map.1 hp
    cases hdrop
  · intro p hp s j htell
    obtain ⟨id, -, rfl⟩ := List.mem_map.1 hp
    cases htell
  · intro _
    simp only [CheckRun.begin]
    rw [hnone CheckPhase.recorded? rfl]
  · simp only [CheckRun.begin, seenBy, List.filterMap_nil]
    rw [hnone (CheckPhase.toldTo? observers k) rfl]
  · simp only [CheckRun.begin]
    rw [hnone CheckPhase.stored? rfl]

theorem Keeps.of_set (h : Keeps ids adaptive t₀ observers r) (hi : r.checks[i]? = some (id, ph))
    (hchecks : r'.checks = r.checks.set i (id, ph')) (hadaptive : r'.adaptive = r.adaptive)
    (hcancel : r.cancelled = true → r'.cancelled = true)
    (hdrop : ph' = .dropped → r'.cancelled = true)
    (htell : ∀ s j, ph' = .telling s j → j ≤ observers)
    (hrecorded : adaptive = true → ((checkEntry CheckPhase.recorded? (id, ph)).toList ++
      r'.recorded).Perm ((checkEntry CheckPhase.recorded? (id, ph')).toList ++ r.recorded))
    (htold : ∀ k, ((checkEntry (CheckPhase.toldTo? observers k) (id, ph)).toList ++
      r'.seenBy k).Perm ((checkEntry (CheckPhase.toldTo? observers k) (id, ph')).toList ++
        r.seenBy k))
    (hresults : ((checkEntry CheckPhase.stored? (id, ph)).toList ++ r'.results).Perm
      ((checkEntry CheckPhase.stored? (id, ph')).toList ++ r.results))
    (hbasic : adaptive = false → r'.tracker = r.tracker ∧ r'.recorded = r.recorded) :
    Keeps ids adaptive t₀ observers r' := by
  refine ⟨?_, hadaptive.trans h.adaptive_eq, fun p hp hpd => ?_, fun p hp s j hpt => ?_,
    fun ha => ?_, fun k => ?_, ?_, fun ha => ?_⟩
  · rw [hchecks, map_fst_set_snd hi, h.ids_eq]
  · rw [hchecks] at hp
    rcases List.mem_or_eq_of_mem_set hp with hp | rfl
    · exact hcancel (h.dropped p hp hpd)
    · exact hdrop hpd
  · rw [hchecks] at hp
    rcases List.mem_or_eq_of_mem_set hp with hp | rfl
    · exact h.telling p hp s j hpt
    · exact htell s j hpt
  · rw [hchecks]
    exact perm_filterMap_set (h.recorded ha) hi (hrecorded ha)
  · rw [hchecks]
    exact perm_filterMap_set (h.told k) hi (htold k)
  · rw [hchecks]
    exact perm_filterMap_set h.results hi hresults
  · obtain ⟨ht, hr⟩ := hbasic ha
    obtain ⟨ht₀, hr₀⟩ := h.basic ha
    exact ⟨ht.trans ht₀, hr.trans hr₀⟩

theorem Keeps.quiet (h : Keeps ids adaptive t₀ observers r) (hi : r.checks[i]? = some (id, ph))
    (hph : ph.handingOut = false) (hph' : ph'.handingOut = false)
    (hdrop : ph' = .dropped → r.cancelled = true) :
    Keeps ids adaptive t₀ observers { r with checks := r.checks.set i (id, ph') } := by
  refine h.of_set hi rfl rfl (fun hc => hc) hdrop (fun s j ht => ?_) (fun _ => ?_) (fun k => ?_) ?_
    (fun _ => ⟨rfl, rfl⟩)
  · subst ht
    cases hph'
  · simp [checkEntry, CheckPhase.recorded?_of_handingOut hph,
      CheckPhase.recorded?_of_handingOut hph']
  · simp [checkEntry, CheckPhase.toldTo?_of_handingOut hph,
      CheckPhase.toldTo?_of_handingOut hph', seenBy]
  · simp [checkEntry, CheckPhase.stored?_of_handingOut hph, CheckPhase.stored?_of_handingOut hph']

theorem Keeps.record (h : Keeps ids adaptive t₀ observers r) {sample : HealthSample}
    (hi : r.checks[i]? = some (id, .passed sample)) (now : Instant) :
    Keeps ids adaptive t₀ observers (r.record i id sample now) := by
  refine h.of_set hi rfl rfl (fun hc => hc) (fun hd => by cases hd) (fun s j ht => ?_) (fun ha => ?_)
    (fun k => ?_) ?_ (fun ha => ?_)
  · cases ht
    exact Nat.zero_le _
  · have hr : r.adaptive = true := h.adaptive_eq.trans ha
    simp only [CheckRun.record, hr, if_true]
    simp [checkEntry, CheckPhase.recorded?]
  · simp [checkEntry, CheckPhase.toldTo?, CheckRun.record, seenBy]
  · simp [checkEntry, CheckPhase.stored?, CheckRun.record]
  · have hr : r.adaptive = false := h.adaptive_eq.trans ha
    simp [CheckRun.record, hr]

theorem Keeps.tell (h : Keeps ids adaptive t₀ observers r) {sample : HealthSample} {k : Nat}
    (hi : r.checks[i]? = some (id, .telling sample k)) (hk : k < observers) :
    Keeps ids adaptive t₀ observers
      { r with checks := r.checks.set i (id, .telling sample (k + 1)),
               told := r.told ++ [(k, id.name, sample)] } := by
  refine h.of_set hi rfl rfl (fun hc => hc) (fun hd => by cases hd) (fun s j ht => ?_) (fun _ => ?_)
    (fun k' => ?_) ?_ (fun _ => ⟨rfl, rfl⟩)
  · cases ht
    exact hk
  · simp [checkEntry, CheckPhase.recorded?]
  · by_cases hkk : k = k'
    · subst hkk
      simp [checkEntry, CheckPhase.toldTo?, seenBy]
    · -- another observer's share is unchanged
      have hlt : (k' < k + 1) = (k' < k) := by
        simp only [eq_iff_iff]
        omega
      simp [checkEntry, CheckPhase.toldTo?, seenBy, hkk, hlt]
  · simp [checkEntry, CheckPhase.stored?]

theorem Keeps.store (hnd : (ids.map (·.name)).Nodup) (h : Keeps ids adaptive t₀ observers r)
    {sample : HealthSample} (hi : r.checks[i]? = some (id, .telling sample observers)) :
    Keeps ids adaptive t₀ observers
      { r with checks := r.checks.set i (id, .done sample),
               results := resultMap.insertResult (id.name, sample) r.results } := by
  have hnames : (r.checks.map (·.1.name)).Nodup := h.names ▸ hnd
  -- the name is not among the results yet, which hold the names of checks that stored
  have hfresh : id.name ∉ r.results.map (·.1) := fun hm =>
    name_not_mem_filterMap_checkEntry hnames hi rfl ((h.results.map _).subset hm)
  refine h.of_set hi rfl rfl (fun hc => hc) (fun hd => by cases hd) (fun s j ht => by cases ht)
    (fun _ => ?_) (fun k => ?_) ?_ (fun _ => ⟨rfl, rfl⟩)
  · simp [checkEntry, CheckPhase.recorded?]
  · simp [checkEntry, CheckPhase.toldTo?, seenBy]
  · simpa [checkEntry, CheckPhase.stored?] using insertResult_perm (id.name, sample) r.results hfresh

theorem Keeps.step (hnd : (ids.map (·.name)).Nodup) (h : Keeps ids adaptive t₀ observers r)
    {limit : Nat} (hstep : Step limit observers r r') : Keeps ids adaptive t₀ observers r' := by
  cases hstep with
  | cancel =>
    refine ⟨h.ids_eq, h.adaptive_eq, fun _ _ _ => rfl, h.telling, h.recorded, h.told, h.results, h.basic⟩
  | start i id hi _ _ => exact h.quiet hi rfl rfl (fun hd => by cases hd)
  | refuse i id hi hc => exact h.quiet hi rfl rfl fun _ => hc
  | probe i id sample hi => exact h.quiet hi rfl rfl (fun hd => by cases hd)
  | discard i id sample hi hc => exact h.quiet hi rfl rfl fun _ => hc
  | pass i id sample hi _ => exact h.quiet hi rfl rfl (fun hd => by cases hd)
  | record i id sample now hi => exact h.record hi now
  | tell i id sample k hi hk => exact h.tell hi hk
  | store i id sample hi => exact h.store hnd hi

theorem Keeps.run (hnd : (ids.map (·.name)).Nodup) (strategy : HealthStrategy) (cancelled : Bool)
    {limit : Nat}
    (hrun : Relation.ReflTransGen (Step limit observers) (CheckRun.begin strategy t₀ ids cancelled) r) :
    Keeps ids (strategy == .adaptive) t₀ observers r := by
  induction hrun with
  | refl => exact .begin strategy cancelled
  | tail _ hstep ih => exact ih.step hnd hstep

end CheckRun

/-! ### The check of a roster -/

/-- What a check of the roster `ids` by a checker of the given strategy, begun with the
histories `t₀` and with `observers` observers, has done by the state `r`. -/
structure CycleLaw (ids : List ProxyIdentity) (strategy : HealthStrategy) (t₀ : Tracker)
    (observers : Nat) (r : CheckRun) : Prop where
  /-- no observer is ever handed a name twice -/
  once : ∀ k, ((r.seenBy k).map (·.1)).Nodup
  /-- the results hold each name once -/
  distinct : (r.results.map (·.1)).Nodup
  /-- once over, each observer was handed exactly the results, sample for sample -/
  seen : r.ended = true → ∀ k < observers, (r.seenBy k).Perm r.results
  /-- once over, the adaptive checker recorded exactly the results, sample for sample -/
  recorded : r.ended = true → strategy = .adaptive → r.recorded.Perm r.results
  /-- once over without the request given up, every proxy of the roster has its result -/
  complete : r.ended = true → r.cancelled = false → (r.results.map (·.1)).Perm (ids.map (·.name))
  /-- the basic checker records nothing and leaves the histories as they were -/
  basic : strategy = .basic → r.tracker = t₀ ∧ r.recorded = []

namespace CheckRun

variable {ids : List ProxyIdentity} {adaptive : Bool} {t₀ : Tracker} {observers : Nat}
  {r : CheckRun}

theorem Keeps.nodup_names (hnd : (ids.map (·.name)).Nodup) (h : Keeps ids adaptive t₀ observers r)
    {out : List (String × HealthSample)} {g : CheckPhase → Option HealthSample}
    (hout : out.Perm (r.checks.filterMap (checkEntry g))) : (out.map (·.1)).Nodup := by
  refine ((hout.map _).nodup_iff).2 ?_
  exact (names_filterMap_checkEntry_sublist g r.checks).nodup (h.names ▸ hnd)

theorem Keeps.ended_perm (h : Keeps ids adaptive t₀ observers r) (hend : r.ended = true)
    {out : List (String × HealthSample)} {g : CheckPhase → Option HealthSample}
    (hout : out.Perm (r.checks.filterMap (checkEntry g)))
    (hg : ∀ ph : CheckPhase, ph.ended = true → g ph = ph.stored?) : out.Perm r.results := by
  have hall : ∀ p ∈ r.checks, p.2.ended = true := by
    simpa [CheckRun.ended] using hend
  have heq : r.checks.filterMap (checkEntry g) = r.checks.filterMap (checkEntry CheckPhase.stored?) :=
    List.filterMap_congr fun p hp => by simp [checkEntry, hg p.2 (hall p hp)]
  exact hout.trans (heq ▸ h.results.symm)

theorem Keeps.complete (h : Keeps ids adaptive t₀ observers r) (hend : r.ended = true)
    (hc : r.cancelled = false) : (r.results.map (·.1)).Perm (ids.map (·.name)) := by
  -- no check ended without a sample, since the request was never given up
  have hdone : ∀ p ∈ r.checks, (p.2.stored?).isSome = true := by
    intro p hp
    have hpe : p.2.ended = true := by
      simpa [CheckRun.ended] using List.all_eq_true.1 hend p hp
    cases hph : p.2 with
    | done s => rfl
    | dropped => exact absurd (h.dropped p hp hph) (by simp [hc])
    | _ => simp [hph, CheckPhase.ended] at hpe
  have hmap := (h.results.map (·.1))
  rw [names_filterMap_checkEntry_of_isSome r.checks hdone, h.names] at hmap
  exact hmap

end CheckRun

/-! ### The checker's check is one of these runs

The checker probes the proxies of a roster one after the other. With the request on, that is a
run of the check in which each proxy's check starts, probes, passes, is recorded, tells every
observer and stores before the next one starts; with the request given up, every check is refused
at once. -/

namespace CheckRun

variable {limit observers : Nat}

theorem set_of_getElem? {α : Type} {l : List α} {i : Nat} {a : α} (h : l[i]? = some a) :
    l.set i a = l := by
  obtain ⟨hlt, heq⟩ := List.getElem?_eq_some_iff.1 h
  rw [← heq, List.set_getElem_self]

theorem filterMap_range'_told (e : String × HealthSample) (k : Nat) :
    ∀ j n : Nat, ((List.range' j n).map fun x => (x, e)).filterMap
        (fun t : Nat × String × HealthSample => if t.1 = k then some t.2 else none) =
      if j ≤ k ∧ k < j + n then [e] else []
  | j, 0 => by simp
  | j, n + 1 => by
    rw [List.range'_succ, List.map_cons, filterMap_cons_toList, filterMap_range'_told e k (j + 1) n]
    by_cases hjk : j = k
    · subst hjk
      have hlow : ¬ j + 1 ≤ j := by omega
      simp [hlow]
    · have hiff : (j ≤ k ∧ k < j + (n + 1)) ↔ (j + 1 ≤ k ∧ k < j + 1 + n) := by omega
      simp [hjk, hiff]

theorem tell_rest (i : Nat) (id : ProxyIdentity) (sample : HealthSample) :
    ∀ (n j : Nat) (r : CheckRun), j + n = observers → r.checks[i]? = some (id, .telling sample j) →
      Relation.ReflTransGen (Step limit observers) r
        { r with checks := r.checks.set i (id, .telling sample observers),
                 told := r.told ++ (List.range' j n).map fun k => (k, id.name, sample) }
  | 0, j, r, hn, hi => by
    obtain rfl : j = observers := by simpa using hn
    rw [set_of_getElem? hi, List.range'_zero, List.map_nil, List.append_nil]
  | n + 1, j, r, hn, hi => by
    have hj : j < observers := by omega
    let r₁ : CheckRun := { r with checks := r.checks.set i (id, .telling sample (j + 1)),
                                  told := r.told ++ [(j, id.name, sample)] }
    have hlt := (List.getElem?_eq_some_iff.1 hi).1
    have hrest := tell_rest i id sample n (j + 1) r₁ (by omega) (by simp [r₁, hlt])
    refine .head (Step.tell r i id sample j hi hj) ?_
    simpa [r₁, List.set_set, List.range'_succ] using hrest

/-- The state after the check at `i`, of the proxy `id`, ran to its end alone with `sample`,
recorded at `now` and handed to `observers` observers. -/
def ranAlone (r : CheckRun) (observers i : Nat) (id : ProxyIdentity) (sample : HealthSample)
    (now : Instant) : CheckRun :=
  { r with checks := r.checks.set i (id, .done sample),
           tracker := if r.adaptive then (r.tracker.record now id.name sample).2 else r.tracker,
           recorded := if r.adaptive then r.recorded ++ [(id.name, sample)] else r.recorded,
           told := r.told ++ (List.range' 0 observers).map fun k => (k, id.name, sample),
           results := resultMap.insertResult (id.name, sample) r.results }

/-- A waiting check of a state whose request is on and whose limiter has a place free runs to its
end alone: it starts, probes with `sample`, passes, is recorded at `now`, tells every observer
and stores. -/
theorem run_one (r : CheckRun) {i : Nat} {id : ProxyIdentity} (sample : HealthSample)
    (now : Instant) (hi : r.checks[i]? = some (id, .waiting)) (hc : r.cancelled = false)
    (hfree : r.running < limit) :
    Relation.ReflTransGen (Step limit observers) r (r.ranAlone observers i id sample now) := by
  have hlt := (List.getElem?_eq_some_iff.1 hi).1
  let r₁ : CheckRun := { r with checks := r.checks.set i (id, .probing) }
  let r₂ : CheckRun := { r₁ with checks := r₁.checks.set i (id, .probed sample) }
  let r₃ : CheckRun := { r₂ with checks := r₂.checks.set i (id, .passed sample) }
  let r₄ : CheckRun := r₃.record i id sample now
  let r₅ : CheckRun :=
    { r₄ with checks := r₄.checks.set i (id, .telling sample observers),
              told := r₄.told ++ (List.range' 0 observers).map fun k => (k, id.name, sample) }
  have h₁ : Step limit observers r r₁ := Step.start r i id hi hc hfree
  have h₂ : Step limit observers r₁ r₂ := Step.probe r₁ i id sample (by simp [r₁, hlt])
  have h₃ : Step limit observers r₂ r₃ := Step.pass r₂ i id sample (by simp [r₂, r₁, hlt]) hc
  have h₄ : Step limit observers r₃ r₄ := Step.record r₃ i id sample now (by simp [r₃, r₂, r₁, hlt])
  have h₅ : Relation.ReflTransGen (Step limit observers) r₄ r₅ :=
    tell_rest i id sample observers 0 r₄ (Nat.zero_add _)
      (by simp [r₄, r₃, r₂, r₁, CheckRun.record, hlt])
  have h₆ : Step limit observers r₅ _ :=
    Step.store r₅ i id sample (by simp [r₅, r₄, r₃, r₂, r₁, CheckRun.record, hlt])
  have hend : ({ r₅ with checks := r₅.checks.set i (id, .done sample),
                          results := resultMap.insertResult (id.name, sample) r₅.results } :
        CheckRun) = r.ranAlone observers i id sample now := by
    simp [r₅, r₄, r₃, r₂, r₁, CheckRun.record, ranAlone, List.set_set]
  rw [← hend]
  exact .head h₁ (.head h₂ (.head h₃ (.head h₄ (h₅.tail h₆))))

theorem refuse_all :
    ∀ (ids : List ProxyIdentity) (pre : List (ProxyIdentity × CheckPhase)) (r : CheckRun),
      r.checks = pre ++ ids.map (·, .waiting) → r.cancelled = true →
      Relation.ReflTransGen (Step limit observers) r
        { r with checks := pre ++ ids.map (·, .dropped) }
  | [], pre, r, hr, _ => by
    simp only [List.map_nil, List.append_nil] at hr ⊢
    rw [← hr]
  | id :: ids, pre, r, hr, hc => by
    have hi : r.checks[pre.length]? = some (id, .waiting) := by simp [hr]
    have hrest := refuse_all ids (pre ++ [(id, .dropped)])
      { r with checks := r.checks.set pre.length (id, .dropped) } (by simp [hr]) hc
    refine .head (Step.refuse r pre.length id hi hc) ?_
    simpa using hrest

variable {σ : Type} (eng : ProbeEngine σ)

/-- With the request on and a place free, the waiting checks after `pre` run to their ends in
turn, as the checker probes their proxies in turn: the results gain its samples by name, every
observer is handed them in order, and the histories become the checker's. -/
theorem probeEach_run (hlimit : 0 < limit) (record : Bool) :
    ∀ (ids : List ProxyIdentity) (c : Checker) (s : σ) (pre : List (ProxyIdentity × CheckPhase))
      (r : CheckRun), r.checks = pre ++ ids.map (·, .waiting) → (∀ p ∈ pre, p.2.ended = true) →
      r.cancelled = false → r.adaptive = record → r.tracker = c.tracker →
      ∃ r' L, Relation.ReflTransGen (Step limit observers) r r' ∧ r'.checks = pre ++ L ∧
        (∀ p ∈ L, p.2.ended = true) ∧
        r'.results = (c.probeEach eng s record ids).1.foldl
          (fun acc o => resultMap.insertResult o acc) r.results ∧
        (∀ k < observers, r'.seenBy k = r.seenBy k ++ (c.probeEach eng s record ids).1) ∧
        r'.tracker = (c.probeEach eng s record ids).2.1.tracker
  | [], c, s, pre, r, hr, _, _, _, ht =>
    ⟨r, [], .refl, by simpa using hr, by simp, rfl, fun k _ => by simp [Checker.probeEach], ht⟩
  | id :: ids, c, s, pre, r, hr, hpre, hc, ha, ht => by
    rcases hp : Health.probe c.probe eng s id false with ⟨sample, s₁⟩
    have hi : r.checks[pre.length]? = some (id, .waiting) := by simp [hr]
    -- no check holds the limiter: those before have ended and the rest wait
    have hfree : r.running < limit := by
      have hpre0 : pre.countP (·.2.running) = 0 := List.countP_eq_zero.2 fun p hp hrun => by
        have := hpre p hp
        cases h : p.2 <;> simp_all [CheckPhase.ended, CheckPhase.running]
      have hwait : ((id :: ids).map (·, CheckPhase.waiting)).countP (·.2.running) = 0 :=
        List.countP_eq_zero.2 fun p hp => by
          obtain ⟨_, _, rfl⟩ := List.mem_map.1 hp
          simp [CheckPhase.running]
      rw [CheckRun.running, hr, List.countP_append, hpre0, hwait]
      exact hlimit
    let c₁ : Checker := if record then c.recordSample (eng.clock s₁) id.name sample else c
    let r₁ := r.ranAlone observers pre.length id sample (eng.clock s₁)
    have hone : Relation.ReflTransGen (Step limit observers) r r₁ :=
      run_one r sample (eng.clock s₁) hi hc hfree
    have hdone : ∀ p ∈ pre ++ [(id, CheckPhase.done sample)], p.2.ended = true := by
      intro p hp
      rcases List.mem_append.1 hp with hp | hp
      · exact hpre p hp
      · rw [List.mem_singleton.1 hp]
        rfl
    have htr₁ : r₁.tracker = c₁.tracker := by
      cases record <;> simp [r₁, ranAlone, ha, ht, c₁, Checker.recordSample]
    obtain ⟨r', L, hrun, hchecks, hL, hres, hseen, htr⟩ :=
      probeEach_run hlimit record ids c₁ s₁ (pre ++ [(id, .done sample)]) r₁
        (by simp [r₁, ranAlone, hr]) hdone hc ha htr₁
    have heach : c.probeEach eng s record (id :: ids) =
        ((id.name, sample) :: (c₁.probeEach eng s₁ record ids).1,
          (c₁.probeEach eng s₁ record ids).2) := by
      simp [Checker.probeEach, hp, c₁]
    refine ⟨r', (id, .done sample) :: L, hone.trans hrun, by simpa using hchecks, ?_, ?_, ?_, ?_⟩
    · intro p hp
      rcases List.mem_cons.1 hp with rfl | hp
      · rfl
      · exact hL p hp
    · rw [hres, heach]
      rfl
    · -- the check handed its sample once to each observer
      intro k hk
      have hk₁ : r₁.seenBy k = r.seenBy k ++ [(id.name, sample)] := by
        simp only [r₁, ranAlone, seenBy, List.filterMap_append]
        rw [filterMap_range'_told (id.name, sample) k 0 observers]
        simp [hk]
      rw [hseen k hk, hk₁, heach, List.append_assoc]
      rfl
    · rw [htr, heach]

end CheckRun

/-- The checker's own check of a roster, which probes the proxies one after the other, is a run of
the check under a limiter with a place or more and with any number of observers, at whose end
every check has ended: its results are the checker's samples by name, every observer is handed
those samples in the order taken, and the histories are the ones the checker leaves. -/
theorem Checker.checkAll_cycle {σ : Type} (eng : ProbeEngine σ) (c : Checker) (s : σ)
    (ids : List ProxyIdentity) (cancelled : Bool) {limit : Nat} (hlimit : 0 < limit)
    (observers : Nat) :
    ∃ r, Relation.ReflTransGen (CheckRun.Step limit observers)
        (CheckRun.begin c.strategy c.tracker ids cancelled) r ∧
      r.ended = true ∧ r.results = resultMap (c.checkAll eng s ids cancelled).1 ∧
      (∀ k < observers, r.seenBy k = (c.checkAll eng s ids cancelled).1) ∧
      r.tracker = (c.checkAll eng s ids cancelled).2.1.tracker := by
  cases cancelled with
  | true =>
    refine ⟨_, CheckRun.refuse_all ids [] _ (by simp [CheckRun.begin]) rfl, ?_, rfl, ?_, rfl⟩
    · simp [CheckRun.ended, CheckPhase.ended]
    · intro k _
      simp [CheckRun.seenBy, CheckRun.begin, Checker.checkAll]
  | false =>
    obtain ⟨r, L, hrun, hchecks, hL, hres, hseen, htr⟩ :=
      CheckRun.probeEach_run eng hlimit (c.strategy == .adaptive) ids c s []
        (CheckRun.begin c.strategy c.tracker ids false) (by simp [CheckRun.begin]) (by simp) rfl
        rfl rfl
    refine ⟨r, hrun, ?_, by simpa [Checker.checkAll, resultMap, CheckRun.begin] using hres,
      fun k hk => ?_,
      by simpa [Checker.checkAll] using htr⟩
    · simpa [CheckRun.ended, hchecks] using hL
    · simpa [Checker.checkAll, CheckRun.seenBy, CheckRun.begin] using hseen k hk

/-- A check of a roster of distinct names, run by any steps its probes may take under a limiter
of any size, with any number of observers and with the request given up at any moment (before
the check, between probes, or while an observer is handed a sample) or never: no observer is
handed a name twice, and once the check is over the results, what each observer was handed and,
for the adaptive checker, what was recorded in the histories are the same samples under the same
names; without the request given up, every proxy has its result; and the basic checker records
nothing and leaves the histories as they were. -/
theorem check_cycle_all_or_nothing {ids : List ProxyIdentity} (hnd : (ids.map (·.name)).Nodup)
    (strategy : HealthStrategy) (t₀ : Tracker) (cancelled : Bool) (limit observers : Nat)
    {r : CheckRun}
    (hrun : Relation.ReflTransGen (CheckRun.Step limit observers)
      (CheckRun.begin strategy t₀ ids cancelled) r) :
    CycleLaw ids strategy t₀ observers r := by
  have h := CheckRun.Keeps.run hnd strategy cancelled hrun
  refine ⟨fun k => h.nodup_names hnd (h.told k), h.nodup_names hnd h.results,
    fun hend k hk => h.ended_perm hend (h.told k) fun _ hph => CheckPhase.toldTo?_of_ended hph hk,
    fun hend hs => ?_, h.complete, fun hs => h.basic (by simp [hs])⟩
  exact h.ended_perm hend (h.recorded (by simp [hs])) fun _ hph => CheckPhase.recorded?_of_ended hph

def twoProxies : List ProxyIdentity := [{ name := "a" }, { name := "b" }]

/-- A check of `a` and `b` with two observers in which `a`'s check ran to its end, then the
request was given up and `b`'s check refused: the check is over, with `a`'s result alone. -/
theorem check_cycle_all_or_nothing_given_up :
    (twoProxies.map (·.name)).Nodup ∧
    let r : CheckRun :=
      { (CheckRun.begin .adaptive {} twoProxies false).ranAlone 2 0 { name := "a" } {} Instant.zero with
        cancelled := true, checks := [({ name := "a" }, .done {}), ({ name := "b" }, .dropped)] }
    Relation.ReflTransGen (CheckRun.Step 1 2) (CheckRun.begin .adaptive {} twoProxies false) r ∧
      r.ended = true ∧ r.results.map (·.1) = ["a"] ∧ CycleLaw twoProxies .adaptive {} 2 r := by
  refine ⟨by decide, ?_⟩
  intro r
  have hi : (CheckRun.begin .adaptive {} twoProxies false).checks[0]? =
      some ({ name := "a" }, .waiting) := rfl
  have h₁ : Relation.ReflTransGen (CheckRun.Step 1 2) (CheckRun.begin .adaptive {} twoProxies false)
      ((CheckRun.begin .adaptive {} twoProxies false).ranAlone 2 0 { name := "a" } {} Instant.zero) :=
    CheckRun.run_one _ {} Instant.zero hi rfl (by decide)
  -- the request is given up, and then `b`'s check finds it so
  have h₂ := h₁.tail (CheckRun.Step.cancel _)
  have hrun := h₂.tail (CheckRun.Step.refuse _ 1 { name := "b" } rfl rfl)
  exact ⟨hrun, rfl, rfl, check_cycle_all_or_nothing (by decide) .adaptive {} false 1 2 hrun⟩

end ProxyRouter.Health
