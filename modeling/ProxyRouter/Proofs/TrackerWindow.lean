import Mathlib.Data.List.DropRight
import ProxyRouter.Proofs.RemovedProxies
/-!
The window of a proxy's history over any run of calls on the tracker. Each score taken is
appended, the window is cut to its last `windowSize` entries and, when a maximum age is set, the
entries before the cutoff (the clock less the maximum age) are dropped from its front, the newest
always kept. As the clock never goes back, cutting again at every step cuts no more than cutting
once: the window is the cut, at the clock of the last score taken, of all the scores taken since
the history was created. Its count and last check follow those scores, and its figures are the
window's.
-/
namespace ProxyRouter.Health

open Pool

def recordTime (now : Instant) (s : HealthSample) : Instant :=
  if s.timestamp.isZero then now else s.timestamp

/-- A call on the histories. -/
inductive TrackerCall where
  /-- a score taken now -/
  | addSample (name : String) (score : Float)
  /-- a probe's sample -/
  | record (name : String) (sample : HealthSample)
  /-- the names whose histories stay -/
  | retain (keep : List String)

def ScoreEntry.clamped (e : ScoreEntry) : ScoreEntry := ⟨e.time, clampUnit e.score⟩

def InOrder (es : List ScoreEntry) : Prop := es.Pairwise fun a b => a.time ≤ b.time

namespace TrackerConfig

def cutoff (cfg : TrackerConfig) (now : Instant) : Instant := now.add ⟨-cfg.maxAge.nanos⟩

/-- The window kept of `entries` at clock `now`: the last `windowSize`, and with a maximum age,
without the old entries at their front, the newest always kept. -/
def cut (cfg : TrackerConfig) (now : Instant) (entries : List ScoreEntry) : List ScoreEntry :=
  if cfg.maxAge.nanos > 0 then History.dropBefore (cfg.cutoff now) (entries.rtake cfg.windowSize)
  else entries.rtake cfg.windowSize

theorem cutoff_mono (cfg : TrackerConfig) {now now' : Instant} (h : now ≤ now') :
    cfg.cutoff now ≤ cfg.cutoff now' := by
  simp only [cutoff, Instant.add, Instant.le_iff_nanos] at *
  omega

theorem windowSize_ofRequest_pos (windowSize : Int) (maxAge : Duration) :
    0 < (ofRequest windowSize maxAge).windowSize := by
  simp only [ofRequest]
  split <;> omega

end TrackerConfig

/-- `w` is the longest run of latest entries of `log`, at most `n` of them, whose entries but the
newest are none before `cutoff`. -/
structure LongestFresh (n : Nat) (cutoff : Instant) (log w : List ScoreEntry) : Prop where
  suffix : w <:+ log
  length_le : w.length ≤ n
  fresh : ∀ e ∈ w.dropLast, cutoff ≤ e.time
  longest : ∀ v, v <:+ log → v.length ≤ n → (∀ e ∈ v.dropLast, cutoff ≤ e.time) →
    v.length ≤ w.length

namespace History

variable {cutoff : Instant}

theorem dropBefore_cons (e : ScoreEntry) {es : List ScoreEntry} (hes : es ≠ []) :
    dropBefore cutoff (e :: es) = if e.time < cutoff then dropBefore cutoff es else e :: es := by
  cases es with
  | nil => exact absurd rfl hes
  | cons f fs => rfl

theorem eq_append_dropBefore (cutoff : Instant) (es : List ScoreEntry) :
    ∃ old, es = old ++ dropBefore cutoff es ∧ ∀ e ∈ old, e.time < cutoff := by
  fun_induction dropBefore cutoff es with
  | case1 => exact ⟨[], rfl, by simp⟩
  | case2 => exact ⟨[], rfl, by simp⟩
  | case3 e es _ hlt ih =>
    obtain ⟨old, hes, hold⟩ := ih
    refine ⟨e :: old, by rw [List.cons_append, ← hes], ?_⟩
    intro x hx
    rcases List.mem_cons.1 hx with rfl | hx
    · exact hlt
    · exact hold x hx
  | case4 => exact ⟨[], rfl, by simp⟩

theorem dropBefore_suffix (es : List ScoreEntry) : dropBefore cutoff es <:+ es := by
  obtain ⟨old, hes, -⟩ := eq_append_dropBefore cutoff es
  exact ⟨old, hes.symm⟩

theorem dropBefore_ne_nil {es : List ScoreEntry} (h : es ≠ []) : dropBefore cutoff es ≠ [] := by
  intro hnil
  have hlast := Tracker.getLast?_dropBefore cutoff es
  rw [hnil, List.getLast?_nil, eq_comm, List.getLast?_eq_none_iff] at hlast
  exact h hlast

theorem dropBefore_old_append {old rest : List ScoreEntry} (hold : ∀ e ∈ old, e.time < cutoff)
    (hrest : rest ≠ []) : dropBefore cutoff (old ++ rest) = dropBefore cutoff rest := by
  induction old with
  | nil => rfl
  | cons e old ih =>
    rw [List.cons_append, dropBefore_cons e (by simp [hrest]),
      if_pos (hold e List.mem_cons_self)]
    exact ih fun x hx => hold x (List.mem_cons_of_mem e hx)

theorem length_le_dropBefore {es v : List ScoreEntry} (hv : v <:+ es)
    (hfresh : ∀ e ∈ v.dropLast, cutoff ≤ e.time) : v.length ≤ (dropBefore cutoff es).length := by
  induction es with
  | nil => simp [List.suffix_nil.1 hv]
  | cons e es ih =>
    by_cases hes : es = []
    · subst hes
      exact hv.length_le
    rw [dropBefore_cons e hes]
    split
    · rename_i hlt
      rcases List.suffix_cons_iff.1 hv with rfl | hv
      · -- the whole list: its first entry is old, and not its newest
        have he : e ∈ (e :: es).dropLast := by
          rw [List.dropLast_cons_of_ne_nil hes]
          exact List.mem_cons_self
        have := hfresh e he
        simp only [Instant.lt_iff_nanos, Instant.le_iff_nanos] at hlt this
        omega
      · exact ih hv
    · exact hv.length_le

theorem fresh_dropBefore {es : List ScoreEntry} (hes : InOrder es) :
    ∀ e ∈ (dropBefore cutoff es).dropLast, cutoff ≤ e.time := by
  fun_induction dropBefore cutoff es with
  | case1 => simp
  | case2 => simp
  | case3 e es _ _ ih => exact ih (List.pairwise_cons.1 hes).2
  | case4 e es hne hlt =>
    intro x hx
    have hx : x ∈ e :: es := List.dropLast_subset _ hx
    have hfresh : cutoff ≤ e.time := by
      simp only [Instant.lt_iff_nanos, Instant.le_iff_nanos] at hlt ⊢
      omega
    rcases List.mem_cons.1 hx with rfl | hx
    · exact hfresh
    · have := (List.pairwise_cons.1 hes).1 x hx
      simp only [Instant.le_iff_nanos] at hfresh this ⊢
      omega

end History

/-! ### Cutting the window -/

section Cut

variable {α : Type}

theorem rtake_suffix (l : List α) (n : Nat) : l.rtake n <:+ l := List.drop_suffix _ _

theorem length_rtake_le (l : List α) (n : Nat) : (l.rtake n).length ≤ n := by
  simp only [List.rtake, List.length_drop]
  omega

theorem rtake_ne_nil {l : List α} {n : Nat} (hl : l ≠ []) (hn : 0 < n) : l.rtake n ≠ [] := by
  have hlen : 0 < l.length := List.length_pos_iff.2 hl
  simp only [List.rtake, ne_eq, List.drop_eq_nil_iff]
  omega

theorem rtake_rtake (l : List α) {k n : Nat} (hkn : k ≤ n) : (l.rtake n).rtake k = l.rtake k := by
  simp only [List.rtake, List.length_drop, List.drop_drop]
  congr 1
  omega

theorem rtake_append (s w : List α) (k : Nat) :
    (s ++ w).rtake k = s.rtake (k - w.length) ++ w.rtake k := by
  simp only [List.rtake, List.length_append, List.drop_append]
  by_cases hk : w.length ≤ k
  · congr 2 <;> omega
  · rw [List.drop_eq_nil_of_le (by omega : s.length ≤ s.length + w.length - k),
      List.drop_eq_nil_of_le (by omega : s.length ≤ s.length - (k - w.length))]
    congr 2
    omega

end Cut

namespace TrackerConfig

variable (cfg : TrackerConfig)

theorem cut_suffix (now : Instant) (es : List ScoreEntry) : cfg.cut now es <:+ es := by
  unfold cut
  split
  · exact (History.dropBefore_suffix _).trans (rtake_suffix _ _)
  · exact rtake_suffix _ _

theorem length_cut_le (now : Instant) (es : List ScoreEntry) :
    (cfg.cut now es).length ≤ cfg.windowSize := by
  unfold cut
  split
  · exact (History.dropBefore_suffix _).length_le.trans (length_rtake_le _ _)
  · exact length_rtake_le _ _

theorem cut_ne_nil (hw : 0 < cfg.windowSize) {now : Instant} {es : List ScoreEntry}
    (h : es ≠ []) : cfg.cut now es ≠ [] := by
  unfold cut
  split
  · exact History.dropBefore_ne_nil (rtake_ne_nil h hw)
  · exact rtake_ne_nil h hw

theorem cut_cut_append (hw : 0 < cfg.windowSize) {now₀ now : Instant} (hle : now₀ ≤ now)
    (es : List ScoreEntry) (x : ScoreEntry) :
    cfg.cut now (cfg.cut now₀ es ++ [x]) = cfg.cut now (es ++ [x]) := by
  obtain ⟨n, hn⟩ : ∃ n, cfg.windowSize = n + 1 := ⟨cfg.windowSize - 1, by omega⟩
  unfold cut
  split
  · rw [hn, List.rtake_concat_succ, List.rtake_concat_succ]
    -- the entries the earlier cut dropped by age are old now too
    obtain ⟨old, hsplit, hold⟩ :=
      History.eq_append_dropBefore (cfg.cutoff now₀) (es.rtake (n + 1))
    have hold' : ∀ e ∈ old.rtake (n - (History.dropBefore (cfg.cutoff now₀)
        (es.rtake (n + 1))).length), e.time < cfg.cutoff now := fun e he =>
      Int.lt_of_lt_of_le (hold e ((rtake_suffix _ _).mem he)) (cfg.cutoff_mono hle)
    rw [← rtake_rtake es (Nat.le_succ n), hsplit, rtake_append, ← hsplit, List.append_assoc,
      History.dropBefore_old_append hold' (by simp)]
  · rw [hn, List.rtake_concat_succ, List.rtake_concat_succ, rtake_rtake es (Nat.le_succ n)]

theorem longestFresh_cut (hage : 0 < cfg.maxAge.nanos) (now : Instant) {es : List ScoreEntry}
    (hes : InOrder es) : LongestFresh cfg.windowSize (cfg.cutoff now) es (cfg.cut now es) := by
  have hcut : cfg.cut now es = History.dropBefore (cfg.cutoff now) (es.rtake cfg.windowSize) := by
    simp [cut, hage]
  refine ⟨cfg.cut_suffix now es, cfg.length_cut_le now es, ?_, fun v hv hlen hfresh => ?_⟩
  · rw [hcut]
    exact History.fresh_dropBefore (hes.sublist (rtake_suffix _ _).sublist)
  · -- a run of latest entries that fits the window is a run of latest entries of the window
    have hv' : v <:+ es.rtake cfg.windowSize := by
      refine List.suffix_of_suffix_length_le hv (rtake_suffix _ _) ?_
      simp only [List.rtake, List.length_drop]
      have := hv.length_le
      omega
    rw [hcut]
    exact History.length_le_dropBefore hv' hfresh

end TrackerConfig

theorem TrackerConfig.cut_nil (cfg : TrackerConfig) (now : Instant) : cfg.cut now [] = [] := by
  unfold cut
  split <;> simp [History.dropBefore]

theorem History.entries_add (cfg : TrackerConfig) (now : Instant) (h : History) (score : Float)
    (time : Instant) :
    (h.add cfg now score time).entries = cfg.cut now (h.entries ++ [⟨time, clampUnit score⟩]) :=
  rfl

/-! ### The window after a run of calls -/

/-- What the history `h` of a proxy holds after the scores `log` were taken, each with the clock
it was taken at, the last at `now`. -/
structure WindowLaw (cfg : TrackerConfig) (log : List (Instant × ScoreEntry)) (now : Instant)
    (h : History) : Prop where
  /-- the last score was taken at `now`, and the last check is its time -/
  last : log.getLast?.map (fun p => (p.1, p.2.time)) = some (now, h.lastCheck)
  /-- one check per score taken -/
  checkCount : h.checkCount = log.length
  /-- the window is the cut at `now` of all the scores taken, clamped -/
  cut : h.entries = cfg.cut now (log.map (·.2.clamped))
  length_pos : 0 < h.entries.length
  length_le : h.entries.length ≤ cfg.windowSize
  /-- a run of the latest scores taken -/
  suffix : h.entries <:+ log.map (·.2.clamped)
  /-- with a maximum age and the scores taken in order of time, the longest run of latest scores
  that fits the window and whose entries but the newest are not old at `now` -/
  longest : 0 < cfg.maxAge.nanos → InOrder (log.map (·.2)) →
    LongestFresh cfg.windowSize (cfg.cutoff now) (log.map (·.2.clamped)) h.entries
  /-- the figures are the window's -/
  average : h.average = mean h.scores
  stability : h.stability = stabilityOf h.scores
  state : h.state = classify h.scores.length h.average h.stability

/-- A score added to a history that is the cut, at an earlier clock, of the scores taken before:
the new history follows the law of a window of them all. -/
theorem WindowLaw.add {cfg : TrackerConfig} (hw : 0 < cfg.windowSize)
    {log : List (Instant × ScoreEntry)} {now₀ now : Instant} {h : History}
    (hcut : h.entries = cfg.cut now₀ (log.map (·.2.clamped))) (hcount : h.checkCount = log.length)
    (hle : now₀ ≤ now) (score : Float) (time : Instant) :
    WindowLaw cfg (log ++ [(now, (⟨time, score⟩ : ScoreEntry))]) now (h.add cfg now score time) := by
  have hcut' : (h.add cfg now score time).entries =
      cfg.cut now ((log ++ [(now, (⟨time, score⟩ : ScoreEntry))]).map (·.2.clamped)) := by
    rw [History.entries_add, hcut, cfg.cut_cut_append hw hle, List.map_append]
    rfl
  have hne : (log ++ [(now, (⟨time, score⟩ : ScoreEntry))]).map (·.2.clamped) ≠ [] := by simp
  refine ⟨by simp [History.add], by simp [History.add, hcount], hcut', ?_, ?_, ?_, fun hage hord => ?_,
    rfl, rfl, rfl⟩
  · rw [hcut']
    exact List.length_pos_iff.2 (cfg.cut_ne_nil hw hne)
  · rw [hcut']
    exact cfg.length_cut_le now _
  · rw [hcut']
    exact cfg.cut_suffix now _
  · rw [hcut']
    -- clamping keeps the times
    have hord' : InOrder ((log ++ [(now, (⟨time, score⟩ : ScoreEntry))]).map (·.2.clamped)) := by
      unfold InOrder at hord ⊢
      rw [List.pairwise_map] at hord ⊢
      exact hord
    exact cfg.longestFresh_cut hage now hord'

theorem WindowLaw.clock_mem {cfg : TrackerConfig} {log : List (Instant × ScoreEntry)} {now : Instant}
    {h : History} (hl : WindowLaw cfg log now h) :
    ∃ p ∈ log, p.1 = now := by
  obtain ⟨p, hp, hpn⟩ := Option.map_eq_some_iff.1 hl.last
  exact ⟨p, List.mem_of_getLast? hp, congrArg Prod.fst hpn⟩

namespace Tracker

def call (t : Tracker) (now : Instant) : TrackerCall → Tracker
  | .addSample name score => t.addSample now name score
  | .record name s => (t.record now name s).2
  | .retain keep => t.retain keep

def run (t : Tracker) (calls : List (Instant × TrackerCall)) : Tracker :=
  calls.foldl (fun t c => t.call c.1 c.2) t

def taken (t : Tracker) (now : Instant) (name : String) : TrackerCall → Option ScoreEntry
  | .addSample n score => if n = name then some ⟨now, score⟩ else none
  | .record n s =>
    if n = name ∧ (t.record now n s).1 = true then some ⟨recordTime now s, s.overallScore⟩
    else none
  | .retain _ => none

/-- The scores of `name` taken since its history was created, each with the clock it was taken
at, after one more call: a call that drops the history starts them afresh. -/
def takenAfter (t : Tracker) (now : Instant) (name : String) (log : List (Instant × ScoreEntry)) :
    TrackerCall → List (Instant × ScoreEntry)
  | .retain keep => if keep.contains name then log else []
  | c => log ++ ((t.taken now name c).map (now, ·)).toList

def takenOver (t : Tracker) (name : String) :
    List (Instant × TrackerCall) → List (Instant × ScoreEntry) → List (Instant × ScoreEntry)
  | [], log => log
  | (now, c) :: cs, log => (t.call now c).takenOver name cs (t.takenAfter now name log c)

@[simp] theorem run_nil (t : Tracker) : t.run [] = t := rfl

@[simp] theorem run_cons (t : Tracker) (now : Instant) (c : TrackerCall)
    (cs : List (Instant × TrackerCall)) : t.run ((now, c) :: cs) = (t.call now c).run cs := rfl

@[simp] theorem config_addAt (t : Tracker) (now : Instant) (name : String) (score : Float)
    (time : Instant) : (t.addAt now name score time).config = t.config :=
  config_setHistory _ _ _

@[simp] theorem config_apply (t : Tracker) (now : Instant) (c : TrackerCall) :
    (t.call now c).config = t.config := by
  cases c <;> simp [call, addSample, retain]

theorem record_of_le_lastCheck {t : Tracker} {name : String} {h : History}
    (hh : t.history? name = some h) {now : Instant} {s : HealthSample}
    (hle : recordTime now s ≤ h.lastCheck) : t.record now name s = (false, t) := by
  unfold recordTime at hle
  unfold record
  simp only [hh]
  exact if_pos hle

theorem record_eq_or (t : Tracker) (now : Instant) (name : String) (s : HealthSample) :
    t.record now name s = (false, t) ∨
      t.record now name s = (true, t.addAt now name s.overallScore (recordTime now s)) := by
  cases hh : t.history? name with
  | none =>
    right
    simp [record, hh, recordTime]
  | some h =>
    by_cases hle : recordTime now s ≤ h.lastCheck
    · exact .inl (record_of_le_lastCheck hh hle)
    · right
      unfold recordTime at hle
      unfold record
      simp only [hh]
      rw [if_neg hle]
      rfl

theorem history?_addAt_self (t : Tracker) (now : Instant) (name : String) (score : Float)
    (time : Instant) : (t.addAt now name score time).history? name =
      some (((t.history? name).getD {}).add t.config now score time) := by
  simp [addAt, history?_setHistory]

theorem history?_retain_of_mem (t : Tracker) {keep : List String} {n : String} (h : n ∈ keep) :
    (t.retain keep).history? n = t.history? n := by
  simp only [history?, retain, List.find?_filter]
  congr 2
  funext p
  by_cases hp : p.1 = n
  · simp [hp, h]
  · simp [hp]

theorem mem_takenAfter {t : Tracker} {now : Instant} {name : String}
    {log : List (Instant × ScoreEntry)} {c : TrackerCall} {p : Instant × ScoreEntry}
    (hp : p ∈ t.takenAfter now name log c) : p ∈ log ∨ p.1 = now := by
  cases c with
  | retain keep =>
    simp only [takenAfter] at hp
    split at hp
    · exact .inl hp
    · simp at hp
  | addSample | record =>
    rcases List.mem_append.1 hp with hp | hp
    · exact .inl hp
    · obtain ⟨e, -, rfl⟩ := by simpa using hp
      exact .inr rfl

/-- What the tracker holds of `name` follows the scores `log` of it taken so far: it has a history
exactly when some score was taken, and the history follows the law of a window of them. -/
structure Follows (t : Tracker) (name : String) (log : List (Instant × ScoreEntry)) : Prop where
  none_iff : t.history? name = none ↔ log = []
  law : ∀ h, t.history? name = some h → ∃ now, WindowLaw t.config log now h

variable {t : Tracker} {name : String} {log : List (Instant × ScoreEntry)} {now : Instant}

theorem Follows.empty (t : Tracker) (name : String) (h : t.history? name = none) :
    t.Follows name [] :=
  ⟨by simp [h], fun _ hh => by simp [h] at hh⟩

theorem Follows.addAt (hf : t.Follows name log) (hw : 0 < t.config.windowSize)
    (hclock : ∀ p ∈ log, p.1 ≤ now) (score : Float) (time : Instant) :
    (t.addAt now name score time).Follows name (log ++ [(now, ⟨time, score⟩)]) := by
  refine ⟨by simp [history?_addAt_self], fun h' hh => ⟨now, ?_⟩⟩
  rw [history?_addAt_self, Option.some.injEq] at hh
  subst hh
  rw [config_addAt]
  cases hold : t.history? name with
  | none =>
    obtain rfl : log = [] := hf.none_iff.1 hold
    exact WindowLaw.add hw (t.config.cut_nil now).symm rfl (Int.le_refl _) score time
  | some h =>
    obtain ⟨now₀, hl⟩ := hf.law h hold
    obtain ⟨p, hp, rfl⟩ := hl.clock_mem
    exact WindowLaw.add hw hl.cut hl.checkCount (hclock p hp) score time

theorem Follows.addAt_of_ne (hf : t.Follows name log) {n : String} (hn : n ≠ name)
    (now : Instant) (score : Float) (time : Instant) : (t.addAt now n score time).Follows name log := by
  have hh := history?_addAt_of_ne t now score time (Ne.symm hn)
  refine ⟨by rw [hh]; exact hf.none_iff, fun h' hh' => ?_⟩
  rw [config_addAt]
  exact hf.law h' (hh ▸ hh')

theorem Follows.call (hf : t.Follows name log) (hw : 0 < t.config.windowSize)
    (hclock : ∀ p ∈ log, p.1 ≤ now) (c : TrackerCall) :
    (t.call now c).Follows name (t.takenAfter now name log c) := by
  cases c with
  | addSample n score =>
    by_cases hn : n = name
    · subst hn
      have := hf.addAt hw hclock score now
      simpa [Tracker.call, addSample, takenAfter, taken] using this
    · have := hf.addAt_of_ne hn now score now
      simpa [Tracker.call, addSample, takenAfter, taken, hn] using this
  | record n s =>
    rcases record_eq_or t now n s with hr | hr
    · -- refused: neither the tracker nor the scores taken change
      simpa [Tracker.call, takenAfter, taken, hr] using hf
    · by_cases hn : n = name
      · subst hn
        have := hf.addAt hw hclock s.overallScore (recordTime now s)
        simpa [Tracker.call, takenAfter, taken, hr] using this
      · have := hf.addAt_of_ne hn now s.overallScore (recordTime now s)
        simpa [Tracker.call, takenAfter, taken, hr, hn] using this
  | retain keep =>
    by_cases hk : name ∈ keep
    · have hh := history?_retain_of_mem t hk
      simp only [Tracker.call, takenAfter, List.contains_iff_mem, hk, if_true]
      exact ⟨by rw [hh]; exact hf.none_iff, fun h' hh' => hf.law h' (hh ▸ hh')⟩
    · simp only [Tracker.call, takenAfter, List.contains_iff_mem, hk, if_false]
      exact Follows.empty _ name (history?_retain_of_not_mem t hk)

theorem config_run (t : Tracker) (calls : List (Instant × TrackerCall)) :
    (t.run calls).config = t.config := by
  induction calls generalizing t with
  | nil => rfl
  | cons c cs ih =>
    obtain ⟨now, c⟩ := c
    rw [run_cons, ih, config_apply]

theorem Follows.run (hw : 0 < t.config.windowSize) {calls : List (Instant × TrackerCall)}
    (hcalls : calls.Pairwise fun a b => a.1 ≤ b.1) (hf : t.Follows name log)
    (hlog : ∀ p ∈ log, ∀ q ∈ calls, p.1 ≤ q.1) :
    (t.run calls).Follows name (t.takenOver name calls log) := by
  induction calls generalizing t log with
  | nil => exact hf
  | cons c cs ih =>
    obtain ⟨now, c⟩ := c
    obtain ⟨hhead, htail⟩ := List.pairwise_cons.1 hcalls
    rw [run_cons, takenOver]
    refine ih (by rwa [config_apply]) htail
      (hf.call hw (fun p hp => hlog p hp _ List.mem_cons_self) c) fun p hp q hq => ?_
    rcases mem_takenAfter hp with hp | hp
    · exact hlog p hp q (List.mem_cons_of_mem _ hq)
    · rw [hp]
      exact hhead q hq

end Tracker

/-! ### Order of time -/

def NotAhead (calls : List (Instant × TrackerCall)) : Prop :=
  ∀ now n s, (now, TrackerCall.record n s) ∈ calls → recordTime now s ≤ now

def TakenInOrder (log : List (Instant × ScoreEntry)) : Prop :=
  InOrder (log.map (·.2)) ∧ ∀ p ∈ log, p.2.time ≤ p.1

theorem TakenInOrder.append {log : List (Instant × ScoreEntry)} (ho : TakenInOrder log)
    {now time : Instant} (score : Float) (hnow : time ≤ now)
    (hafter : ∀ p ∈ log, p.2.time ≤ time) :
    TakenInOrder (log ++ [(now, ⟨time, score⟩)]) := by
  refine ⟨?_, fun p hp => ?_⟩
  · unfold InOrder
    rw [List.map_append, List.pairwise_append]
    refine ⟨ho.1, by simp, fun a ha b hb => ?_⟩
    obtain ⟨p, hp, rfl⟩ := List.mem_map.1 ha
    simp only [List.map_cons, List.map_nil, List.mem_singleton] at hb
    subst hb
    exact hafter p hp
  · rcases List.mem_append.1 hp with hp | hp
    · exact ho.2 p hp
    · simp only [List.mem_singleton] at hp
      subst hp
      exact hnow

theorem TakenInOrder.le_last {log : List (Instant × ScoreEntry)} (ho : TakenInOrder log)
    {q : Instant × ScoreEntry} (hq : log.getLast? = some q) : ∀ p ∈ log, p.2.time ≤ q.2.time := by
  intro p hp
  have hsplit := List.dropLast_append_getLast? q hq
  rw [← hsplit] at hp
  have ho' := ho.1
  rw [← hsplit] at ho'
  unfold InOrder at ho'
  rw [List.map_append, List.pairwise_append] at ho'
  rcases List.mem_append.1 hp with hp | hp
  · exact ho'.2.2 _ (List.mem_map_of_mem hp) _ (by simp)
  · simp only [List.mem_singleton] at hp
    subst hp
    exact Int.le_refl _

namespace Tracker

variable {t : Tracker} {name : String} {log : List (Instant × ScoreEntry)} {now : Instant}

theorem TakenInOrder.call (hf : t.Follows name log) (ho : TakenInOrder log)
    (hclock : ∀ p ∈ log, p.1 ≤ now) (c : TrackerCall)
    (hc : ∀ n s, c = .record n s → recordTime now s ≤ now) :
    TakenInOrder (t.takenAfter now name log c) := by
  cases c with
  | addSample n score =>
    by_cases hn : n = name
    · simp only [takenAfter, taken, hn, if_true, Option.map_some, Option.toList_some]
      exact ho.append score (Int.le_refl _) fun p hp =>
        Int.le_trans (ho.2 p hp) (hclock p hp)
    · simpa [takenAfter, taken, hn] using ho
  | record n s =>
    rcases record_eq_or t now n s with hr | hr
    · simpa [takenAfter, taken, hr] using ho
    · by_cases hn : n = name
      · subst hn
        simp only [takenAfter, taken, hr, and_self, if_true, Option.map_some, Option.toList_some]
        refine ho.append _ (hc n s rfl) fun p hp => ?_
        -- the score is recorded, so it is later than the last check, the last score's time
        cases hh : t.history? n with
        | none => simp [hf.none_iff.1 hh] at hp
        | some h =>
          obtain ⟨now₀, hl⟩ := hf.law h hh
          have hlater : ¬ recordTime now s ≤ h.lastCheck := fun hle => by
            rw [record_of_le_lastCheck hh hle] at hr
            simp at hr
          obtain ⟨q, hq, hqn⟩ := Option.map_eq_some_iff.1 hl.last
          have hqt : q.2.time = h.lastCheck := congrArg Prod.snd hqn
          have := ho.le_last hq p hp
          simp only [Instant.le_iff_nanos] at hlater this hqt ⊢
          rw [← hqt] at hlater
          omega
      · simpa [takenAfter, taken, hr, hn] using ho
  | retain keep =>
    simp only [takenAfter]
    split
    · exact ho
    · exact ⟨List.Pairwise.nil, by simp⟩

theorem TakenInOrder.run (hw : 0 < t.config.windowSize) {calls : List (Instant × TrackerCall)}
    (hcalls : calls.Pairwise fun a b => a.1 ≤ b.1) (hna : NotAhead calls)
    (hf : t.Follows name log) (ho : TakenInOrder log) (hlog : ∀ p ∈ log, ∀ q ∈ calls, p.1 ≤ q.1) :
    TakenInOrder (t.takenOver name calls log) := by
  induction calls generalizing t log with
  | nil => exact ho
  | cons c cs ih =>
    obtain ⟨now, c⟩ := c
    obtain ⟨hhead, htail⟩ := List.pairwise_cons.1 hcalls
    have hclock : ∀ p ∈ log, p.1 ≤ now := fun p hp => hlog p hp _ List.mem_cons_self
    rw [takenOver]
    refine ih (by rwa [config_apply]) htail
      (fun now' n s hm => hna now' n s (List.mem_cons_of_mem _ hm)) (hf.call hw hclock c)
      (TakenInOrder.call hf ho hclock c fun n s hcs => hna now n s (by rw [← hcs]; exact List.mem_cons_self))
      fun p hp q hq => ?_
    rcases mem_takenAfter hp with hp | hp
    · exact hlog p hp q (List.mem_cons_of_mem _ hq)
    · rw [hp]
      exact hhead q hq

end Tracker

/-- What a tracker with configuration `cfg` holds of `name` after the scores `log` of it were taken
since its history was created. -/
structure WindowState (cfg : TrackerConfig) (t : Tracker) (name : String)
    (log : List (Instant × ScoreEntry)) : Prop where
  /-- `name` has a history exactly when a score of it was taken -/
  none_iff : t.history? name = none ↔ log = []
  /-- the history follows the law of a window of the scores taken -/
  law : ∀ h, t.history? name = some h → ∃ now, WindowLaw cfg log now h
  /-- a sample recorded at a time not after the last check is refused and changes nothing -/
  refuses : ∀ h, t.history? name = some h → ∀ now s, recordTime now s ≤ h.lastCheck →
    t.record now name s = (false, t)

/-- Over any calls on a new tracker whose clock never goes back, each proxy's history is the window
of the scores of it taken since the history was created: the cut of them all at the clock of the
last, at least one and at most a window of the latest of them, clamped, with one check per score,
the last check the last score's time and the figures of the window; a sample not later than the
last check is refused and changes nothing; with a maximum age and the scores taken in order of
time, the window is the longest run of latest scores within it whose entries but the newest are
not old; and the scores are taken in order of time when no sample is dated after its clock. -/
theorem tracker_window_law (windowSize : Int) (maxAge : Duration) (name : String)
    (calls : List (Instant × TrackerCall)) (hclock : calls.Pairwise fun a b => a.1 ≤ b.1) :
    let t₀ : Tracker := { config := TrackerConfig.ofRequest windowSize maxAge }
    WindowState t₀.config (t₀.run calls) name (t₀.takenOver name calls []) ∧
      (NotAhead calls → InOrder ((t₀.takenOver name calls []).map (·.2))) := by
  intro t₀
  have hw : 0 < t₀.config.windowSize := TrackerConfig.windowSize_ofRequest_pos windowSize maxAge
  have hnew : t₀.history? name = none := rfl
  have hf := Tracker.Follows.run hw hclock (Tracker.Follows.empty t₀ name hnew) (by simp)
  refine ⟨⟨hf.none_iff, fun h hh => ?_, fun h hh now s hle => Tracker.record_of_le_lastCheck hh hle⟩,
    fun hna => ?_⟩
  · rw [← Tracker.config_run t₀ calls]
    exact hf.law h hh
  · exact (Tracker.TakenInOrder.run hw hclock hna (Tracker.Follows.empty t₀ name hnew)
      ⟨List.Pairwise.nil, by simp⟩ (by simp)).1

def recordThenAdd : List (Instant × TrackerCall) :=
  [(Instant.epoch, .record "a" { timestamp := ⟨500⟩, overallScore := 1 }),
    (⟨1000⟩, .addSample "a" 0.5)]

theorem tracker_window_law_record_then_add :
    recordThenAdd.Pairwise (fun a b => a.1 ≤ b.1) ∧
      (let t₀ : Tracker := { config := TrackerConfig.ofRequest 3 ⟨0⟩ }
      WindowState t₀.config (t₀.run recordThenAdd) "a" (t₀.takenOver "a" recordThenAdd []) ∧
        (NotAhead recordThenAdd →
          InOrder ((t₀.takenOver "a" recordThenAdd []).map (·.2)))) :=
  ⟨by decide, tracker_window_law 3 ⟨0⟩ "a" recordThenAdd (by decide)⟩

/-- A sample dated 1000 s, recorded by a clock at 0 s, then scores taken by the clock at 0 s and
at 100 s, with a maximum age of 10 s. -/
def futureThenAdds : List (Instant × TrackerCall) :=
  [(Instant.epoch, .record "a" { timestamp := ⟨1000000000000⟩, overallScore := 0.9 }),
    (Instant.epoch, .addSample "a" 0.5), (⟨100000000000⟩, .addSample "a" 0.2)]

/-- After a sample dated after the clock, the score taken at 0 s stays in the window behind it at
100 s, though it is older than the cutoff at 90 s: the window is out of order of time and is not
the longest run of latest scores whose entries but the newest are within the maximum age. -/
theorem old_score_stays_behind_future_sample :
    let t₀ : Tracker := { config := TrackerConfig.ofRequest 10 ⟨10000000000⟩ }
    ∃ h, (t₀.run futureThenAdds).history? "a" = some h ∧
      h.entries.map (·.time) = [⟨1000000000000⟩, ⟨0⟩, ⟨100000000000⟩] ∧
      ¬ LongestFresh 10 (t₀.config.cutoff ⟨100000000000⟩)
        ((t₀.takenOver "a" futureThenAdds []).map (·.2.clamped)) h.entries := by
  intro t₀
  have hrun : ((t₀.run futureThenAdds).history? "a").map (fun h => h.entries.map (·.time)) =
      some [⟨1000000000000⟩, ⟨0⟩, ⟨100000000000⟩] := by decide
  obtain ⟨h, hh, htimes⟩ := Option.map_eq_some_iff.1 hrun
  refine ⟨h, hh, htimes, fun hl => ?_⟩
  -- the score taken at 0 s stands before the newest, yet is old at 100 s
  have hmem : (⟨0⟩ : Instant) ∈ h.entries.dropLast.map (·.time) := by
    rw [List.map_dropLast, htimes]
    decide
  obtain ⟨e, he, he0⟩ := List.mem_map.1 hmem
  have hfresh := hl.fresh e he
  rw [he0] at hfresh
  exact absurd hfresh (by decide)

end ProxyRouter.Health
