import Mathlib.Data.List.Induction
import ProxyRouter.App.Server
import ProxyRouter.Proofs.SelectionContract
/-!
The newest sample, wherever a proxy's samples are kept. One stream of probe samples reaches four
keepers of a proxy's latest sample: the selector's health entry, the roster's kept sample, the
service's latest result and, when the selector shares the checker's histories, the newest entry
of the proxy's window, which may get each sample twice (from the checker, and again through the
selector).
-/
namespace ProxyRouter

theorem Instant.lt_iff_nanos {a b : Instant} : a < b ↔ a.nanos < b.nanos := Iff.rfl

theorem Instant.le_iff_nanos {a b : Instant} : a ≤ b ↔ a.nanos ≤ b.nanos := Iff.rfl

theorem Instant.isZero_of_zero_lt {t : Instant} (h : Instant.zero < t) : t.isZero = false := by
  have hne : t ≠ Instant.zero := by
    rintro rfl
    exact Int.lt_irrefl _ h
  simpa [Instant.isZero] using hne

namespace Pool

/-! ### The newest of a sequence of samples -/

/-- `a` is the last delivered of the samples with the greatest timestamp: none delivered before
it is later, and every one delivered after it is earlier. -/
def LastNewest (xs : List HealthSample) (a : HealthSample) : Prop :=
  ∃ pre post, xs = pre ++ a :: post ∧ (∀ y ∈ pre, y.timestamp ≤ a.timestamp) ∧
    ∀ y ∈ post, y.timestamp < a.timestamp

/-- `b` is the first delivered of the samples with the greatest timestamp: every one delivered
before it is earlier, and none delivered after it is later. -/
def FirstNewest (xs : List HealthSample) (b : HealthSample) : Prop :=
  ∃ pre post, xs = pre ++ b :: post ∧ (∀ y ∈ pre, y.timestamp < b.timestamp) ∧
    ∀ y ∈ post, y.timestamp ≤ b.timestamp

section Newest

variable {xs : List HealthSample} {a b x : HealthSample}

theorem LastNewest.mem (h : LastNewest xs a) : a ∈ xs := by
  obtain ⟨pre, post, rfl, -, -⟩ := h
  simp

theorem FirstNewest.mem (h : FirstNewest xs b) : b ∈ xs := by
  obtain ⟨pre, post, rfl, -, -⟩ := h
  simp

theorem LastNewest.le (h : LastNewest xs a) : ∀ y ∈ xs, y.timestamp ≤ a.timestamp := by
  obtain ⟨pre, post, rfl, hpre, hpost⟩ := h
  intro y hy
  rcases List.mem_append.mp hy with hy | hy
  · exact hpre y hy
  · rcases List.mem_cons.mp hy with rfl | hy
    · exact Int.le_refl _
    · exact Int.le_of_lt (hpost y hy)

theorem FirstNewest.le (h : FirstNewest xs b) : ∀ y ∈ xs, y.timestamp ≤ b.timestamp := by
  obtain ⟨pre, post, rfl, hpre, hpost⟩ := h
  intro y hy
  rcases List.mem_append.mp hy with hy | hy
  · exact Int.le_of_lt (hpre y hy)
  · rcases List.mem_cons.mp hy with rfl | hy
    · exact Int.le_refl _
    · exact hpost y hy

theorem LastNewest.singleton : LastNewest [x] x := ⟨[], [], rfl, by simp, by simp⟩

theorem FirstNewest.singleton : FirstNewest [x] x := ⟨[], [], rfl, by simp, by simp⟩

theorem LastNewest.snoc_earlier (h : LastNewest xs a) (hx : x.timestamp < a.timestamp) :
    LastNewest (xs ++ [x]) a := by
  obtain ⟨pre, post, rfl, hpre, hpost⟩ := h
  refine ⟨pre, post ++ [x], by simp, hpre, fun y hy => ?_⟩
  rcases List.mem_append.mp hy with hy | hy
  · exact hpost y hy
  · rw [List.mem_singleton.mp hy]
    exact hx

theorem LastNewest.snoc_not_earlier (h : LastNewest xs a) (hx : ¬ x.timestamp < a.timestamp) :
    LastNewest (xs ++ [x]) x := by
  refine ⟨xs, [], rfl, fun y hy => ?_, by simp⟩
  have hy := h.le y hy
  rw [Instant.le_iff_nanos] at hy ⊢
  rw [Instant.lt_iff_nanos] at hx
  omega

theorem FirstNewest.snoc_not_later (h : FirstNewest xs b) (hx : x.timestamp ≤ b.timestamp) :
    FirstNewest (xs ++ [x]) b := by
  obtain ⟨pre, post, rfl, hpre, hpost⟩ := h
  refine ⟨pre, post ++ [x], by simp, hpre, fun y hy => ?_⟩
  rcases List.mem_append.mp hy with hy | hy
  · exact hpost y hy
  · rw [List.mem_singleton.mp hy]
    exact hx

theorem FirstNewest.snoc_later (h : FirstNewest xs b) (hx : b.timestamp < x.timestamp) :
    FirstNewest (xs ++ [x]) x := by
  refine ⟨xs, [], rfl, fun y hy => ?_, by simp⟩
  have hy := h.le y hy
  rw [Instant.le_iff_nanos] at hy
  rw [Instant.lt_iff_nanos] at hx ⊢
  omega

theorem LastNewest.timestamp_eq (ha : LastNewest xs a) (hb : FirstNewest xs b) :
    a.timestamp = b.timestamp := by
  have hab := hb.le a ha.mem
  have hba := ha.le b hb.mem
  rw [Instant.le_iff_nanos] at hab hba
  show (⟨a.timestamp.nanos⟩ : Instant) = ⟨b.timestamp.nanos⟩
  rw [Int.le_antisymm hab hba]

end Newest

/-! ### Two rules of keeping the newest -/

section Rules

variable {β : Type} (time : β → Instant) (e : HealthSample → β)

/-- What a keeper holds after the sample `x` when it takes every sample unless what it holds is
later: `e x`, or the value held. -/
def replaceUnlessLater (x : HealthSample) : Option β → β
  | some v => if x.timestamp < time v then v else e x
  | none => e x

/-- What a keeper holds after the sample `x` when it takes only a sample later than what it
holds: `e x`, or the value held. -/
def replaceIfLater (x : HealthSample) : Option β → β
  | some v => if x.timestamp ≤ time v then v else e x
  | none => e x

theorem replaceUnlessLater_map (htime : ∀ x, time (e x) = x.timestamp) (x : HealthSample)
    (o : Option HealthSample) :
    replaceUnlessLater time e x (o.map e) = e (replaceUnlessLater (·.timestamp) id x o) := by
  cases o with
  | none => rfl
  | some v => by_cases h : x.timestamp < v.timestamp <;> simp [replaceUnlessLater, htime, h]

theorem replaceIfLater_map (htime : ∀ x, time (e x) = x.timestamp) (x : HealthSample)
    (o : Option HealthSample) :
    replaceIfLater time e x (o.map e) = e (replaceIfLater (·.timestamp) id x o) := by
  cases o with
  | none => rfl
  | some v => by_cases h : x.timestamp ≤ v.timestamp <;> simp [replaceIfLater, htime, h]

end Rules

def lastNewest (xs : List HealthSample) : Option HealthSample :=
  xs.foldl (fun o x => some (replaceUnlessLater (·.timestamp) id x o)) none

def firstNewest (xs : List HealthSample) : Option HealthSample :=
  xs.foldl (fun o x => some (replaceIfLater (·.timestamp) id x o)) none

theorem lastNewest_snoc (xs : List HealthSample) (x : HealthSample) :
    lastNewest (xs ++ [x]) = some (replaceUnlessLater (·.timestamp) id x (lastNewest xs)) := by
  simp [lastNewest, List.foldl_append]

theorem firstNewest_snoc (xs : List HealthSample) (x : HealthSample) :
    firstNewest (xs ++ [x]) = some (replaceIfLater (·.timestamp) id x (firstNewest xs)) := by
  simp [firstNewest, List.foldl_append]

theorem lastNewest_spec {xs : List HealthSample} (hne : xs ≠ []) :
    ∃ a, lastNewest xs = some a ∧ LastNewest xs a := by
  induction xs using List.reverseRecOn with
  | nil => exact absurd rfl hne
  | append_singleton xs x ih =>
    rw [lastNewest_snoc]
    by_cases hxs : xs = []
    · subst hxs
      exact ⟨x, rfl, LastNewest.singleton⟩
    · obtain ⟨a, hla, ha⟩ := ih hxs
      rw [hla]
      by_cases hlt : x.timestamp < a.timestamp
      · exact ⟨a, by simp [replaceUnlessLater, hlt], ha.snoc_earlier hlt⟩
      · exact ⟨x, by simp [replaceUnlessLater, hlt], ha.snoc_not_earlier hlt⟩

theorem firstNewest_spec {xs : List HealthSample} (hne : xs ≠ []) :
    ∃ b, firstNewest xs = some b ∧ FirstNewest xs b := by
  induction xs using List.reverseRecOn with
  | nil => exact absurd rfl hne
  | append_singleton xs x ih =>
    rw [firstNewest_snoc]
    by_cases hxs : xs = []
    · subst hxs
      exact ⟨x, rfl, FirstNewest.singleton⟩
    · obtain ⟨b, hfb, hb⟩ := ih hxs
      rw [hfb]
      by_cases hle : x.timestamp ≤ b.timestamp
      · exact ⟨b, by simp [replaceIfLater, hle], hb.snoc_not_later hle⟩
      · have hlt : b.timestamp < x.timestamp := by
          rw [Instant.le_iff_nanos] at hle
          rw [Instant.lt_iff_nanos]
          omega
        exact ⟨x, by simp [replaceIfLater, hle], hb.snoc_later hlt⟩

/-! ### Keepers over a run -/

section Runs

variable {σ α β : Type} (sample : α → HealthSample) (step : σ → α → σ) (view : σ → Option β)
  (time : β → Instant) (e : HealthSample → β)

theorem replaceUnlessLater_run (htime : ∀ x, time (e x) = x.timestamp)
    (hstep : ∀ s p, Instant.zero < (sample p).timestamp →
      view (step s p) = some (replaceUnlessLater time e (sample p) (view s)))
    {s₀ : σ} (h₀ : view s₀ = none) (xs : List α)
    (hts : ∀ p ∈ xs, Instant.zero < (sample p).timestamp) :
    view (xs.foldl step s₀) = (lastNewest (xs.map sample)).map e := by
  induction xs using List.reverseRecOn with
  | nil => simpa [lastNewest] using h₀
  | append_singleton xs p ih =>
    rw [List.foldl_append, List.foldl_cons, List.foldl_nil, hstep _ p (hts p (by simp)),
      ih (fun q hq => hts q (by simp [hq])), replaceUnlessLater_map time e htime,
      List.map_append, List.map_singleton, lastNewest_snoc]
    rfl

/-- `ys` delivers the samples `xs` in order, each at some instant, and may deliver a sample once
more at any point after its first delivery: a sample reaching the histories both from the checker
and through the selector. -/
inductive Redelivery : List HealthSample → List (Instant × HealthSample) → Prop
  | nil : Redelivery [] []
  | first {xs ys} (t : Instant) (x : HealthSample) :
      Redelivery xs ys → Redelivery (xs ++ [x]) (ys ++ [(t, x)])
  | again {xs ys} (t : Instant) (x : HealthSample) :
      Redelivery xs ys → x ∈ xs → Redelivery xs (ys ++ [(t, x)])

variable (stepAt : σ → Instant × HealthSample → σ) (inv : σ → Prop)

/-- A keeper that takes only a sample later than what it holds ends up holding the value of the
first newest sample delivered, however often samples are delivered again. The keeper follows
this rule in the states `inv` holds of, which its steps keep. -/
theorem replaceIfLater_run (htime : ∀ x, time (e x) = x.timestamp)
    (hinv : ∀ s p, inv s → inv (stepAt s p))
    (hstep : ∀ s p, inv s → Instant.zero < p.2.timestamp →
      view (stepAt s p) = some (replaceIfLater time e p.2 (view s)))
    {s₀ : σ} (hinv₀ : inv s₀) (h₀ : view s₀ = none) {xs : List HealthSample}
    {ys : List (Instant × HealthSample)} (hr : Redelivery xs ys)
    (hts : ∀ x ∈ xs, Instant.zero < x.timestamp) :
    view (ys.foldl stepAt s₀) = (firstNewest xs).map e := by
  induction hr with
  | nil => simpa [firstNewest] using h₀
  | @first xs ys t x hr ih =>
    rw [List.foldl_append, List.foldl_cons, List.foldl_nil,
      hstep _ (t, x) (List.foldlRecOn ys stepAt hinv₀ fun s hs p _ => hinv s p hs) (hts x (by simp)),
      ih (fun y hy => hts y (by simp [hy])), replaceIfLater_map time e htime, firstNewest_snoc]
    rfl
  | @again xs ys t x hr hmem ih =>
    -- a sample delivered again is never later than the one held
    obtain ⟨b, hfb, hb⟩ := firstNewest_spec (List.ne_nil_of_mem hmem)
    rw [List.foldl_append, List.foldl_cons, List.foldl_nil,
      hstep _ (t, x) (List.foldlRecOn ys stepAt hinv₀ fun s hs p _ => hinv s p hs) (hts x hmem),
      ih hts, hfb]
    simp [replaceIfLater, htime, hb.le x hmem]

end Runs

end Pool

namespace Selection.Selector

open Pool

def entryOf (x : HealthSample) : HealthEntry := ⟨x.overallScore, x.latencyMs, x.timestamp⟩

theorem named?_updateHealth_self (s : Selector) (now : Instant) (name : String) {x : HealthSample}
    (hx : Instant.zero < x.timestamp) :
    Selector.named? (s.updateHealth now [(name, x)]).health name =
      some (replaceUnlessLater (·.lastChecked) entryOf x (Selector.named? s.health name)) := by
  show Selector.named? (s.merge name x).health name = _
  simp only [Selector.merge, Selector.named?_setNamed, if_pos, Instant.isZero_of_zero_lt hx,
    Bool.not_false, Bool.true_and, decide_eq_true_eq]
  cases hn : Selector.named? s.health name with
  | none =>
    -- the empty entry was checked at the zero instant, before the sample
    have hlate : ¬ x.timestamp < Instant.zero := fun h => Int.lt_asymm h hx
    simp [replaceUnlessLater, entryOf, hlate]
  | some h => simp [replaceUnlessLater, entryOf]

end Selection.Selector

namespace Pool

open Selection

theorem named?_insertByName_self (name : String) (x : HealthSample)
    (l : List (String × HealthSample)) : Selector.named? (insertByName (name, x) l) name = some x := by
  fun_induction insertByName (name, x) l with
  | case1 => simp [Selector.named?]
  | case2 => simp [Selector.named?]
  | case3 => simp [Selector.named?]
  | case4 f fs hne _ ih =>
    have hf : (f.1 == name) = false := by
      rw [beq_eq_false_iff_ne]
      intro h
      exact hne (by simp [h])
    unfold Selector.named? at ih ⊢
    rw [List.find?_cons, hf]
    exact ih

theorem named?_record_latest (r : Roster) (name : String) (x : HealthSample) :
    Selector.named? (r.record name x).latest name =
      some (replaceUnlessLater (·.timestamp) id x (Selector.named? r.latest name)) := by
  unfold Roster.record
  cases hf : r.latest.find? (·.1 == name) with
  | none =>
    have hnone : Selector.named? r.latest name = none := by simp [Selector.named?, hf]
    rw [named?_insertByName_self, hnone]
    rfl
  | some p =>
    obtain ⟨n, prev⟩ := p
    have hprev : Selector.named? r.latest name = some prev := by simp [Selector.named?, hf]
    by_cases hlt : x.timestamp < prev.timestamp
    · simp only [hlt, if_true, hprev, replaceUnlessLater]
    · simp only [hlt, if_false, named?_insertByName_self, hprev, replaceUnlessLater, id]

end Pool

namespace Health.Tracker

open Pool Selection

/-- What the histories hold of a proxy's newest sample: the last check and the newest entry of
the window. -/
def newest (t : Health.Tracker) (name : String) : Option (Instant × Option ScoreEntry) :=
  (t.history? name).map fun h => (h.lastCheck, h.entries.getLast?)

def newestOf (x : HealthSample) : Instant × Option ScoreEntry :=
  (x.timestamp, some ⟨x.timestamp, clampUnit x.overallScore⟩)

theorem histories_setHistory (t : Health.Tracker) (name : String) (h : History) :
    (t.setHistory name h).histories = Selector.setNamed t.histories name h := by
  unfold setHistory Selector.setNamed
  split <;> rfl

@[simp] theorem config_setHistory (t : Health.Tracker) (name : String) (h : History) :
    (t.setHistory name h).config = t.config := by
  unfold setHistory
  split <;> rfl

theorem history?_setHistory (t : Health.Tracker) (name n : String) (h : History) :
    (t.setHistory name h).history? n = if n = name then some h else t.history? n := by
  show Selector.named? _ n = if n = name then some h else Selector.named? t.histories n
  rw [histories_setHistory, Selector.named?_setNamed]

@[simp] theorem config_record (t : Health.Tracker) (now : Instant) (name : String)
    (x : HealthSample) : (t.record now name x).2.config = t.config := by
  unfold record
  cases t.history? name with
  | none => simp [addAt]
  | some h =>
    simp only
    split <;> split <;> simp [addAt]

theorem getLast?_dropBefore (cutoff : Instant) (es : List ScoreEntry) :
    (History.dropBefore cutoff es).getLast? = es.getLast? := by
  fun_induction History.dropBefore cutoff es with
  | case1 => rfl
  | case2 => rfl
  | case3 e es hes hlt ih =>
    rw [ih]
    cases es with
    | nil => exact absurd rfl hes
    | cons y ys => simp [List.getLast?_cons_cons]
  | case4 => rfl

theorem lastCheck_add (cfg : TrackerConfig) (now : Instant) (h : History) (score : Float)
    (time : Instant) : (h.add cfg now score time).lastCheck = time := rfl

theorem getLast?_add (cfg : TrackerConfig) (now : Instant) (h : History) (score : Float)
    (time : Instant) (hw : 0 < cfg.windowSize) :
    (h.add cfg now score time).entries.getLast? = some ⟨time, clampUnit score⟩ := by
  have hroom : ¬ (h.entries ++ [(⟨time, clampUnit score⟩ : ScoreEntry)]).length ≤
      (h.entries ++ [(⟨time, clampUnit score⟩ : ScoreEntry)]).length - cfg.windowSize := by
    simp only [List.length_append, List.length_singleton]
    omega
  unfold History.add
  split <;> simp only [getLast?_dropBefore, List.getLast?_drop, hroom, if_false,
    List.getLast?_append, List.getLast?_singleton, Option.some_or]

theorem newest_record (t : Health.Tracker) (now : Instant) (name : String) {x : HealthSample}
    (hx : Instant.zero < x.timestamp) (hw : 0 < t.config.windowSize) :
    newest (t.record now name x).2 name = some (replaceIfLater Prod.fst newestOf x (newest t name)) := by
  unfold newest record addAt
  simp only [Instant.isZero_of_zero_lt hx, Bool.false_eq_true, if_false]
  cases hh : t.history? name with
  | none => simp [history?_setHistory, getLast?_add _ _ _ _ _ hw, lastCheck_add,
      replaceIfLater, newestOf]
  | some h =>
    by_cases hle : x.timestamp ≤ h.lastCheck
    · simp [hh, hle, replaceIfLater]
    · simp [hle, history?_setHistory, getLast?_add _ _ _ _ _ hw, lastCheck_add,
      replaceIfLater, newestOf]

end Health.Tracker

namespace App.Service

open Pool Selection

theorem named?_keepLatest (results : List (String × HealthSample)) (name : String)
    (x : HealthSample) :
    Selector.named? (Service.keepLatest results name x) name =
      some (replaceUnlessLater (·.timestamp) id x (Selector.named? results name)) := by
  unfold Service.keepLatest
  cases hf : results.find? (·.1 == name) with
  | none =>
    have hnone : Selector.named? results name = none := by simp [Selector.named?, hf]
    simp [Selector.named?_setNamed, hnone, replaceUnlessLater]
  | some p =>
    obtain ⟨n, prev⟩ := p
    have hprev : Selector.named? results name = some prev := by simp [Selector.named?, hf]
    by_cases hlt : x.timestamp < prev.timestamp
    · simp [hprev, hlt, replaceUnlessLater]
    · simp [hprev, hlt, replaceUnlessLater, Selector.named?_setNamed]

end App.Service

namespace App

open Pool Selection Health

/-- The keepers of one proxy agree on its newest sample, after the samples `xs`: the selector's
`entry`, the roster's `kept` sample and the `latest` result come from the last delivered of the
samples with the greatest timestamp, the histories' `newest` from the first delivered, and these
are one sample when no two samples share a timestamp. -/
def KeepersAgree (xs : List HealthSample) (entry : Option HealthEntry)
    (kept latest : Option HealthSample) (newest : Option (Instant × Option ScoreEntry)) : Prop :=
  ∃ a b, LastNewest xs a ∧ FirstNewest xs b ∧ a.timestamp = b.timestamp ∧
    ((∀ y ∈ xs, ∀ z ∈ xs, y.timestamp = z.timestamp → y = z) → a = b) ∧
    entry = some (Selector.entryOf a) ∧ kept = some a ∧ latest = some a ∧
    newest = some (Tracker.newestOf b)

/-- One stream of samples taken after the zero instant reaches the selector (each sample at an
instant of its own), the roster and the latest results once, and the histories once more
wherever a sample comes again. Starting from keepers that hold nothing of the proxy, all four
end up holding a sample with the greatest timestamp: the same one, unless samples tie on it. -/
theorem newest_sample_everywhere (name : String) (observed recorded : List (Instant × HealthSample))
    (sel : Selector) (roster : Roster) (results : List (String × HealthSample)) (tr : Tracker)
    (hsel : Selector.named? sel.health name = none)
    (hroster : Selector.named? roster.latest name = none)
    (hresults : Selector.named? results name = none) (htr : tr.history? name = none)
    (hwin : 0 < tr.config.windowSize) (hne : observed ≠ [])
    (hts : ∀ p ∈ observed, Instant.zero < p.2.timestamp)
    (hrec : Redelivery (observed.map Prod.snd) recorded) :
    KeepersAgree (observed.map Prod.snd)
      (Selector.named? (observed.foldl (fun s p => s.updateHealth p.1 [(name, p.2)]) sel).health name)
      (Selector.named? ((observed.map Prod.snd).foldl (fun r x => r.record name x) roster).latest name)
      (Selector.named? ((observed.map Prod.snd).foldl (fun l x => Service.keepLatest l name x) results)
        name)
      ((recorded.foldl (fun t p => (t.record p.1 name p.2).2) tr).newest name) := by
  have hsamples : ∀ x ∈ observed.map Prod.snd, Instant.zero < x.timestamp := by
    simpa using fun x t hx => hts (t, x) hx
  have hsome : observed.map Prod.snd ≠ [] := by simpa using hne
  obtain ⟨a, hla, ha⟩ := lastNewest_spec hsome
  obtain ⟨b, hfb, hb⟩ := firstNewest_spec hsome
  refine ⟨a, b, ha, hb, ha.timestamp_eq hb,
    fun hd => hd a ha.mem b hb.mem (ha.timestamp_eq hb), ?selector, ?roster, ?latest, ?histories⟩
  case selector =>
    rw [replaceUnlessLater_run Prod.snd (fun s p => s.updateHealth p.1 [(name, p.2)])
      (fun s => Selector.named? s.health name) (·.lastChecked) Selector.entryOf (fun _ => rfl)
      (fun s p hp => Selector.named?_updateHealth_self s p.1 name hp) hsel observed hts, hla]
    rfl
  case roster =>
    rw [replaceUnlessLater_run id (fun r x => r.record name x) (fun r => Selector.named? r.latest name)
      (·.timestamp) id (fun _ => rfl) (fun r x _ => named?_record_latest r name x) hroster _
      hsamples, List.map_id, hla]
    rfl
  case latest =>
    rw [replaceUnlessLater_run id (fun l x => Service.keepLatest l name x)
      (fun l => Selector.named? l name) (·.timestamp) id (fun _ => rfl)
      (fun l x _ => Service.named?_keepLatest l name x) hresults _ hsamples, List.map_id, hla]
    rfl
  case histories =>
    -- the histories keep their window, so each recorded sample is their newest entry
    rw [replaceIfLater_run (fun t => t.newest name) Prod.fst Tracker.newestOf
      (fun t p => (t.record p.1 name p.2).2) (fun t => t.config = tr.config) (fun _ => rfl)
      (fun t p ht => by simp [ht])
      (fun t p ht hp => Tracker.newest_record t p.1 name hp (ht ▸ hwin)) rfl
      (by simp [Tracker.newest, htr]) hrec hsamples, hfb]
    rfl

def tiedFirst : HealthSample :=
  { timestamp := Instant.ofUnixMillis 1000, success := true, overallScore := 0.25 }

def tiedSecond : HealthSample :=
  { timestamp := Instant.ofUnixMillis 1000, success := true, latencyMs := 40, overallScore := 0.75 }

theorem newest_sample_everywhere_tied :
    Selector.named? (Selector.new ⟨Strategy.roundRobin, 0.5, false⟩).health "a" = none ∧
    Selector.named? ({ sources := [], persistent := false } : Roster).latest "a" = none ∧
    Selector.named? ([] : List (String × HealthSample)) "a" = none ∧
    ({} : Tracker).history? "a" = none ∧ 0 < ({} : Tracker).config.windowSize ∧
    [(Instant.epoch, tiedFirst), (Instant.epoch, tiedSecond)] ≠ [] ∧
    (∀ p ∈ [(Instant.epoch, tiedFirst), (Instant.epoch, tiedSecond)],
      Instant.zero < p.2.timestamp) ∧
    Redelivery [tiedFirst, tiedSecond]
      [(Instant.epoch, tiedFirst), (Instant.epoch, tiedFirst), (Instant.epoch, tiedSecond)] ∧
    KeepersAgree [tiedFirst, tiedSecond]
      (Selector.named? ([(Instant.epoch, tiedFirst), (Instant.epoch, tiedSecond)].foldl
        (fun s p => s.updateHealth p.1 [("a", p.2)])
        (Selector.new ⟨Strategy.roundRobin, 0.5, false⟩)).health "a")
      (Selector.named? ([tiedFirst, tiedSecond].foldl (fun r x => r.record "a" x)
        ({ sources := [], persistent := false } : Roster)).latest "a")
      (Selector.named? ([tiedFirst, tiedSecond].foldl (fun l x => Service.keepLatest l "a" x) [])
        "a")
      (([(Instant.epoch, tiedFirst), (Instant.epoch, tiedFirst), (Instant.epoch, tiedSecond)].foldl
        (fun (t : Tracker) p => (t.record p.1 "a" p.2).2) {}).newest "a") := by
  have hts : ∀ p ∈ [(Instant.epoch, tiedFirst), (Instant.epoch, tiedSecond)],
      Instant.zero < p.2.timestamp := by decide
  have hr : Redelivery [tiedFirst, tiedSecond]
      [(Instant.epoch, tiedFirst), (Instant.epoch, tiedFirst), (Instant.epoch, tiedSecond)] :=
    @Redelivery.first [tiedFirst] [(Instant.epoch, tiedFirst), (Instant.epoch, tiedFirst)] _ _
      (@Redelivery.again [tiedFirst] [(Instant.epoch, tiedFirst)] _ _
        (@Redelivery.first [] [] _ _ .nil) (by simp))
  exact ⟨rfl, rfl, rfl, rfl, by decide, by simp, hts, hr,
    newest_sample_everywhere "a" _ _ _ _ _ _ rfl rfl rfl rfl (by decide) (by simp) hts hr⟩

/-- Two samples at one instant are not kept alike: the selector, the roster and the latest results
keep the second, the tracker's history the first, so a tie leaves different latencies behind. -/
theorem tied_samples_kept_apart :
    tiedFirst.timestamp = tiedSecond.timestamp ∧ tiedFirst.latencyMs ≠ tiedSecond.latencyMs ∧
    Selector.named? ([tiedFirst, tiedSecond].foldl (fun s x => s.updateHealth Instant.epoch [("a", x)])
      (Selector.new ⟨Strategy.roundRobin, 0.5, false⟩)).health "a" =
        some (Selector.entryOf tiedSecond) ∧
    Selector.named? ([tiedFirst, tiedSecond].foldl (fun r x => r.record "a" x)
      ({ sources := [], persistent := false } : Roster)).latest "a" = some tiedSecond ∧
    Selector.named? ([tiedFirst, tiedSecond].foldl (fun l x => Service.keepLatest l "a" x) [])
      "a" = some tiedSecond ∧
    ([tiedFirst, tiedSecond].foldl (fun (t : Tracker) x => (t.record x.timestamp "a" x).2)
      {}).newest "a" = some (Tracker.newestOf tiedFirst) := by
  have h₁ : Instant.zero < tiedFirst.timestamp := by decide
  have h₂ : Instant.zero < tiedSecond.timestamp := by decide
  -- the keepers that take a sample unless theirs is later take the second; the histories take a
  -- sample only when it is later than their last check
  have hnot : ¬ tiedSecond.timestamp < tiedFirst.timestamp := by decide
  have hle : tiedSecond.timestamp ≤ tiedFirst.timestamp := by decide
  refine ⟨rfl, by decide, ?_, ?_, ?_, ?_⟩
  · rw [List.foldl_cons, List.foldl_cons, List.foldl_nil, Selector.named?_updateHealth_self _ _ _ h₂,
      Selector.named?_updateHealth_self _ _ _ h₁]
    have hnone : Selector.named? (Selector.new ⟨Strategy.roundRobin, 0.5, false⟩).health "a" = none :=
      rfl
    simp [replaceUnlessLater, Selector.entryOf, hnone, hnot]
  · rw [List.foldl_cons, List.foldl_cons, List.foldl_nil, named?_record_latest, named?_record_latest]
    have hnone : Selector.named? ({ sources := [], persistent := false } : Roster).latest "a" = none :=
      rfl
    simp [replaceUnlessLater, hnone, hnot]
  · rw [List.foldl_cons, List.foldl_cons, List.foldl_nil, Service.named?_keepLatest,
      Service.named?_keepLatest]
    have hnone : Selector.named? ([] : List (String × HealthSample)) "a" = none := rfl
    simp [replaceUnlessLater, hnone, hnot]
  · rw [List.foldl_cons, List.foldl_cons, List.foldl_nil, Tracker.newest_record _ _ _ h₂ (by decide),
      Tracker.newest_record _ _ _ h₁ (by decide)]
    have hnone : ({} : Tracker).newest "a" = none := rfl
    simp [replaceIfLater, Tracker.newestOf, hnone, hle]

def beforeZeroSample : HealthSample :=
  { timestamp := ⟨Instant.zero.nanos - 1000000⟩, success := true, latencyMs := 7 }

/-- A sample taken before the zero instant does not reach the selector's entry, which stays
checked at the zero instant, while the roster and the latest results keep it. -/
theorem sample_before_zero_instant_unchecked :
    beforeZeroSample.timestamp ≠ Instant.zero ∧
    (Selector.named? ((Selector.new ⟨Strategy.roundRobin, 0.5, false⟩).updateHealth Instant.epoch
      [("a", beforeZeroSample)]).health "a").map (·.lastChecked) = some Instant.zero ∧
    Selector.named? (({ sources := [], persistent := false } : Roster).record "a"
      beforeZeroSample).latest "a" = some beforeZeroSample ∧
    Selector.named? (Service.keepLatest [] "a" beforeZeroSample) "a" = some beforeZeroSample := by
  refine ⟨by decide, ?selector, by rw [named?_record_latest]; rfl,
    by rw [Service.named?_keepLatest]; rfl⟩
  -- the empty entry's check, at the zero instant, is later than the sample
  have hskip : (!beforeZeroSample.timestamp.isZero &&
      decide (beforeZeroSample.timestamp < ({} : HealthEntry).lastChecked)) = true := by decide
  show (Selector.named? ((Selector.new _).merge "a" beforeZeroSample).health "a").map
    (·.lastChecked) = _
  have hnone : Selector.named? (Selector.new ⟨Strategy.roundRobin, 0.5, false⟩).health "a" = none :=
    rfl
  unfold Selector.merge
  rw [Selector.named?_setNamed, if_pos rfl, hnone, Option.getD_none, if_pos hskip]
  rfl

end App

end ProxyRouter
