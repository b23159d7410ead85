import Mathlib.Data.List.DropRight
import Mathlib.Data.List.TakeWhile
import Mathlib.Data.Finset.Basic
import ProxyRouter.Pool.Roster
/-!
The roster's refresh. A refresh reads every source; the first source that fails, in source
order, fails it, and then the roster, the listeners and the size stay as they were while the
status reports the failure. Otherwise each source's proxies are validated, put together in source
order and kept at the first occurrence of their name: the roster's names are distinct, trimmed
and non-empty, and the roster passes the validator again as a whole. The listeners hear of the
new roster exactly when it differs from the old one in length or in some position's name, server,
port or protocol, with the names that joined and left.
-/
namespace ProxyRouter

namespace Text

theorem trimBlank_trimBlank (s : String) : trimBlank (trimBlank s) = trimBlank s := by
  -- trimming is dropping blanks from the front, then from the back
  have htrim (cs : List Char) : trimBlankChars cs = (cs.dropWhile isBlank).rdropWhile isBlank := rfl
  -- what is left after the front blanks starts with no blank, and so does its front part
  have hfront (cs : List Char) :
      ((cs.dropWhile isBlank).rdropWhile isBlank).dropWhile isBlank =
        (cs.dropWhile isBlank).rdropWhile isBlank := by
    rw [List.dropWhile_eq_self_iff]
    intro hl
    have hne : (cs.dropWhile isBlank).rdropWhile isBlank ≠ [] := List.ne_nil_of_length_pos hl
    have hd : cs.dropWhile isBlank ≠ [] := fun h => hne (by simp [h])
    have hhead := List.IsPrefix.head (List.rdropWhile_prefix isBlank _) hne
    rw [← List.head_eq_getElem hne, hhead]
    simpa using List.head_dropWhile_not isBlank hd
  unfold trimBlank
  rw [String.toList_ofList, htrim, htrim, hfront, List.rdropWhile_idempotent]

end Text

namespace Pool

/-! ### Validation -/

def Passes (id : ProxyIdentity) : Prop := invalidReason false [] id = none

theorem invalidReason_eq_none_iff (seen : List String) (id : ProxyIdentity) :
    invalidReason false seen id = none ↔ Passes id ∧ id.name ∉ seen := by
  unfold Passes invalidReason
  by_cases hempty : id.name.isEmpty
  · simp [hempty]
  · by_cases hseen : id.name ∈ seen <;> simp [hempty, hseen]

def Kept (id : ProxyIdentity) : Prop := Text.trimBlank id.name = id.name ∧ Passes id

theorem Kept.name_ne_empty {id : ProxyIdentity} (h : Kept id) : id.name ≠ "" := by
  have hp := h.2
  unfold Passes invalidReason at hp
  intro hn
  simp [hn] at hp

abbrev ValidatorState := List ProxyIdentity × List Rejection × List String × Nat

section Step

variable {valid : List ProxyIdentity} {rejected : List Rejection} {seen : List String} {i : Nat}
  {id : ProxyIdentity}

theorem validateStep_of_some {r : String}
    (h : invalidReason false seen { id with name := Text.trimBlank id.name } = some r) :
    validateStep false (valid, rejected, seen, i) id =
      (valid, rejected ++ [⟨i, Text.trimBlank id.name, r⟩], seen, i + 1) := by
  simp [validateStep, h]

theorem validateStep_of_none
    (h : invalidReason false seen { id with name := Text.trimBlank id.name } = none) :
    validateStep false (valid, rejected, seen, i) id =
      (valid ++ [{ id with name := Text.trimBlank id.name }], rejected,
        seen ++ [Text.trimBlank id.name], i + 1) := by
  simp [validateStep, h]

end Step

/-- The valid proxies so far are kept proxies with distinct names, and the names taken are
theirs. -/
def ValidSoFar (acc : ValidatorState) : Prop :=
  acc.2.2.1 = names acc.1 ∧ (names acc.1).Nodup ∧ ∀ id ∈ acc.1, Kept id

theorem validSoFar_step {acc : ValidatorState} (h : ValidSoFar acc) (id : ProxyIdentity) :
    ValidSoFar (validateStep false acc id) := by
  obtain ⟨valid, rejected, seen, i⟩ := acc
  obtain ⟨hseen, hnodup, hkept⟩ := h
  cases hr : invalidReason false seen { id with name := Text.trimBlank id.name } with
  | some r =>
    rw [validateStep_of_some hr]
    exact ⟨hseen, hnodup, hkept⟩
  | none =>
    rw [validateStep_of_none hr]
    obtain ⟨hpass, hfresh⟩ := (invalidReason_eq_none_iff _ _).mp hr
    simp only at hseen hnodup hkept hfresh
    subst hseen
    refine ⟨by simp [names], ?_, ?_⟩
    · simpa [names, List.nodup_append] using And.intro hnodup hfresh
    · intro x hx
      rcases List.mem_append.mp hx with hx | hx
      · exact hkept x hx
      · rw [List.mem_singleton.mp hx]
        exact ⟨Text.trimBlank_trimBlank _, hpass⟩

theorem validSoFar_foldl (ids : List ProxyIdentity) :
    ∀ acc, ValidSoFar acc → ValidSoFar (ids.foldl (validateStep false) acc) :=
  fun _ h => List.foldlRecOn ids _ h fun _ hacc id _ => validSoFar_step hacc id

theorem validate_valid (ids : List ProxyIdentity) :
    (names (validate false ids).1).Nodup ∧ ∀ id ∈ (validate false ids).1, Kept id := by
  obtain ⟨-, hnodup, hkept⟩ :=
    validSoFar_foldl ids ([], [], [], 0) ⟨rfl, List.nodup_nil, by simp⟩
  exact ⟨hnodup, hkept⟩

theorem foldl_validateStep_kept (ids : List ProxyIdentity) (hkept : ∀ id ∈ ids, Kept id)
    (hnodup : (names ids).Nodup) :
    ∀ valid rejected seen i, (∀ id ∈ ids, id.name ∉ seen) →
      ids.foldl (validateStep false) (valid, rejected, seen, i) =
        (valid ++ ids, rejected, seen ++ names ids, i + ids.length) := by
  induction ids with
  | nil => simp [names]
  | cons id ids ih =>
    intro valid rejected seen i hfresh
    obtain ⟨htrim, hpass⟩ := hkept id (by simp)
    have hnodup' : id.name ∉ names ids ∧ (names ids).Nodup := by simpa [names] using hnodup
    -- a kept proxy's name is already trimmed, so the validator sees the proxy itself
    have hid : { id with name := Text.trimBlank id.name } = id := by rw [htrim]
    have hnone : invalidReason false seen { id with name := Text.trimBlank id.name } = none := by
      rw [hid]
      exact (invalidReason_eq_none_iff _ _).mpr ⟨hpass, hfresh id (by simp)⟩
    have hrest : ∀ x ∈ ids, x.name ∉ seen ++ [id.name] := by
      intro x hx hmem
      rcases List.mem_append.mp hmem with h | h
      · exact hfresh x (by simp [hx]) h
      · exact hnodup'.1 (List.mem_map.mpr ⟨x, hx, List.mem_singleton.mp h⟩)
    rw [List.foldl_cons, validateStep_of_none hnone, hid, htrim,
      ih (fun x hx => hkept x (by simp [hx])) hnodup'.2 _ _ _ _ hrest]
    simp [names, Nat.add_assoc, Nat.add_comm 1]

theorem validate_of_kept {ids : List ProxyIdentity} (hkept : ∀ id ∈ ids, Kept id)
    (hnodup : (names ids).Nodup) : validate false ids = (ids, []) := by
  unfold validate
  rw [foldl_validateStep_kept ids hkept hnodup [] [] [] 0 (by simp)]
  simp

/-! ### The first proxy of each name -/

theorem foldl_keepFirstOfName (ids : List ProxyIdentity) :
    ∀ kept : List ProxyIdentity, (names kept).Nodup →
      ∃ more, ids.foldl keepFirstOfName (kept, names kept) = (kept ++ more, names (kept ++ more)) ∧
        more.Sublist ids ∧ (names (kept ++ more)).Nodup ∧
        ∀ n, (kept ++ more).find? (·.name == n) = (kept ++ ids).find? (·.name == n) := by
  induction ids with
  | nil => exact fun kept h => ⟨[], by simp, List.Sublist.slnil, by simpa using h, fun _ => rfl⟩
  | cons id ids ih =>
    intro kept hnodup
    rw [List.foldl_cons]
    by_cases htaken : id.name ∈ names kept
    · -- a taken name is found in `kept` before this proxy
      have hstep : keepFirstOfName (kept, names kept) id = (kept, names kept) := by
        simp [keepFirstOfName, htaken]
      obtain ⟨more, hfold, hsub, hnd, hfind⟩ := ih kept hnodup
      refine ⟨more, by rw [hstep, hfold], hsub.cons id, hnd, fun n => ?_⟩
      rw [hfind, List.find?_append, List.find?_append]
      by_cases hn : id.name = n
      · obtain ⟨k, hk, hkn⟩ : ∃ k ∈ kept, k.name = id.name := by simpa [names] using htaken
        have hsome : (kept.find? (·.name == n)).isSome := by
          rw [List.find?_isSome]
          exact ⟨k, hk, by simp [hkn, hn]⟩
        obtain ⟨f, hf⟩ := Option.isSome_iff_exists.mp hsome
        simp [hf]
      · simp [hn]
    · have hfree : ∀ x ∈ kept, ¬x.name = id.name := by simpa [names] using htaken
      have hstep : keepFirstOfName (kept, names kept) id = (kept ++ [id], names (kept ++ [id])) := by
        unfold keepFirstOfName
        rw [if_neg (fun h => htaken (List.contains_iff_mem.mp h))]
        simp [names]
      have hnodup' : (names (kept ++ [id])).Nodup := by
        simpa [names, List.nodup_append] using And.intro hnodup hfree
      obtain ⟨more, hfold, hsub, hnd, hfind⟩ := ih (kept ++ [id]) hnodup'
      refine ⟨id :: more, by rw [hstep, hfold]; simp, hsub.cons_cons id, by simpa using hnd, ?_⟩
      intro n
      simpa using hfind n

theorem firstOfEachName_spec (ids : List ProxyIdentity) :
    (firstOfEachName ids).Sublist ids ∧ (names (firstOfEachName ids)).Nodup ∧
      ∀ n, (firstOfEachName ids).find? (·.name == n) = ids.find? (·.name == n) := by
  obtain ⟨more, hfold, hsub, hnd, hfind⟩ := foldl_keepFirstOfName ids [] List.nodup_nil
  unfold firstOfEachName
  rw [show (([] : List ProxyIdentity), ([] : List String)) = ([], names []) from rfl, hfold]
  exact ⟨by simpa using hsub, by simpa using hnd, by simpa using hfind⟩

/-! ### Reading the sources -/

def validatedAll (idss : List (List ProxyIdentity)) : List ProxyIdentity :=
  idss.flatMap fun ids => (validate false ids).1

theorem gather_of_failure {sources pre post : List RosterSource} {s : RosterSource} {m : String}
    (hsplit : sources = pre ++ s :: post) (hpre : ∀ q ∈ pre, ∃ ids, q.fetched = .ok ids)
    (hs : s.fetched = .error m) : gather sources = .error ("source " ++ s.name ++ ": " ++ m) := by
  have hnone : pre.find? (·.failed) = none := by
    rw [List.find?_eq_none]
    intro q hq
    obtain ⟨ids, hids⟩ := hpre q hq
    simp [RosterSource.failed, hids]
  have hfailed : s.failed = true := by simp [RosterSource.failed, hs]
  unfold gather
  rw [hsplit, List.find?_append, hnone, Option.none_or, List.find?_cons, hfailed]
  simp [hs]

theorem flatMap_valid {sources : List RosterSource} {idss : List (List ProxyIdentity)}
    (h : sources.map (·.fetched) = idss.map .ok) : sources.flatMap (·.valid) = validatedAll idss := by
  induction sources generalizing idss with
  | nil =>
    cases idss with
    | nil => rfl
    | cons _ _ => simp at h
  | cons s ss ih =>
    cases idss with
    | nil => simp at h
    | cons ids idss =>
      simp only [List.map_cons, List.cons.injEq] at h
      rw [List.flatMap_cons, ih h.2]
      simp [RosterSource.valid, h.1, validatedAll]

theorem gather_of_answers {sources : List RosterSource} {idss : List (List ProxyIdentity)}
    (h : sources.map (·.fetched) = idss.map .ok) :
    gather sources = .ok (firstOfEachName (validatedAll idss)) := by
  have hnone : sources.find? (·.failed) = none := by
    rw [List.find?_eq_none]
    intro s hs
    have hmem : s.fetched ∈ idss.map Except.ok := h ▸ List.mem_map_of_mem hs
    obtain ⟨ids, -, hids⟩ := List.mem_map.mp hmem
    simp [RosterSource.failed, ← hids]
  unfold gather
  rw [hnone, flatMap_valid h]

theorem kept_of_mem_validatedAll {idss : List (List ProxyIdentity)} {id : ProxyIdentity}
    (h : id ∈ validatedAll idss) : Kept id := by
  obtain ⟨ids, -, hid⟩ := List.mem_flatMap.mp h
  exact (validate_valid ids).2 id hid

/-! ### Agreeing rosters -/

def SameEndpoint (a b : ProxyIdentity) : Prop :=
  a.name = b.name ∧ a.server = b.server ∧ a.port = b.port ∧ a.protocol = b.protocol

theorem sameMembers_iff (a b : List ProxyIdentity) :
    sameMembers a b = true ↔ List.Forall₂ SameEndpoint a b := by
  fun_induction sameMembers a b with
  | case1 => simp
  | case2 x xs y ys ih => simp [SameEndpoint, ih, and_assoc]
  | case3 a b hnil hcons =>
    -- the lengths differ: one list is empty and the other is not
    cases a with
    | nil => cases b <;> simp_all
    | cons x xs =>
      cases b with
      | nil => simp
      | cons y ys => exact (hcons x xs y ys rfl rfl).elim

theorem sameEndpoint_refl (a : List ProxyIdentity) : List.Forall₂ SameEndpoint a a :=
  List.forall₂_same.mpr fun _ _ => ⟨rfl, rfl, rfl, rfl⟩

theorem sameEndpoint_trans {a b c : List ProxyIdentity} (hab : List.Forall₂ SameEndpoint a b)
    (hbc : List.Forall₂ SameEndpoint b c) : List.Forall₂ SameEndpoint a c := by
  induction hab generalizing c with
  | nil => exact hbc
  | cons hxy _ ih =>
    cases hbc with
    | cons hyz hrest =>
      exact .cons ⟨hxy.1.trans hyz.1, hxy.2.1.trans hyz.2.1, hxy.2.2.1.trans hyz.2.2.1,
        hxy.2.2.2.trans hyz.2.2.2⟩ (ih hrest)

theorem names_eq_of_sameEndpoint {a b : List ProxyIdentity} (h : List.Forall₂ SameEndpoint a b) :
    names a = names b := by
  induction h with
  | nil => rfl
  | cons hxy _ ih =>
    simp only [names, List.map_cons] at ih ⊢
    rw [hxy.1, ih]

theorem missingFrom_eq_filter (xs ys : List String) :
    missingFrom xs ys = xs.filter (· ∉ ys) := by
  simp [missingFrom]

theorem toFinset_after_change (before after : List String) :
    before.toFinset \ (missingFrom before after).toFinset ∪ (missingFrom after before).toFinset =
      after.toFinset := by
  ext n
  by_cases hb : n ∈ before <;> by_cases ha : n ∈ after <;> simp [missingFrom_eq_filter, hb, ha]

/-! ### One refresh -/

namespace Roster

theorem refresh_of_error {r : Roster} {now : Instant} {e : String}
    (h : gather r.sources = .error e) :
    r.refresh now = (.error (e, r.members.length), none,
      { r with lastRefresh := now, lastError := some e }) := by
  simp [refresh, h]

theorem refresh_of_ok {r : Roster} {now : Instant} {merged : List ProxyIdentity}
    (h : gather r.sources = .ok merged) :
    r.refresh now = (.ok merged.length,
      (if sameMembers r.members merged then none
        else some ⟨merged, missingFrom (names merged) (names r.members),
          missingFrom (names r.members) (names merged)⟩),
      { r with lastRefresh := now, members := merged, lastError := none }) := by
  unfold refresh
  simp only [h]
  split <;> rfl

end Roster

/-- What a refresh of the roster `r` at `now` does, answering `result`, announcing `change` and
leaving the roster `after`. -/
structure RefreshLaw (r : Roster) (now : Instant) (result : Except (String × Nat) Nat)
    (change : Option RosterChange) (after : Roster) : Prop where
  /-- the refresh is stamped; the sources, the storage and the kept samples stay -/
  stamped : after.lastRefresh = now ∧ after.sources = r.sources ∧
    after.persistent = r.persistent ∧ after.latest = r.latest
  /-- the first source to fail, in source order, fails the refresh: the roster stays, no listener
  hears of it, the answer is the failure with the roster's size, and the status reports it -/
  failed : ∀ pre s post m, r.sources = pre ++ s :: post →
    (∀ q ∈ pre, ∃ ids, q.fetched = .ok ids) → s.fetched = .error m →
      result = .error ("source " ++ s.name ++ ": " ++ m, r.members.length) ∧ change = none ∧
        after.members = r.members ∧ after.lastError = some ("source " ++ s.name ++ ": " ++ m)
  /-- when every source answers, the roster becomes the proxies they list, validated source by
  source and kept at the first occurrence of their name: distinct names, trimmed and not empty,
  passing the validator again as a whole -/
  merged : ∀ idss : List (List ProxyIdentity), r.sources.map (·.fetched) = idss.map .ok →
    result = .ok after.members.length ∧ after.lastError = none ∧
      after.members.Sublist (validatedAll idss) ∧
      (∀ n, after.members.find? (·.name == n) = (validatedAll idss).find? (·.name == n)) ∧
      (names after.members).Nodup ∧
      (∀ id ∈ after.members, Text.trimBlank id.name = id.name ∧ id.name ≠ "") ∧
      validate false after.members = (after.members, [])
  /-- and the listeners hear of it exactly when it differs from the old roster in length or in
  some position's name, server, port or protocol, with the new roster and the names that joined
  and left -/
  announced : ∀ idss : List (List ProxyIdentity), r.sources.map (·.fetched) = idss.map .ok →
    (change = none ↔ List.Forall₂ SameEndpoint r.members after.members) ∧
      ∀ c, change = some c → c.current = after.members ∧
        c.added = (names after.members).filter (· ∉ names r.members) ∧
        c.removed = (names r.members).filter (· ∉ names after.members)

theorem refresh_stamped (r : Roster) (now : Instant) :
    (r.refresh now).2.2.lastRefresh = now ∧ (r.refresh now).2.2.sources = r.sources ∧
      (r.refresh now).2.2.persistent = r.persistent ∧ (r.refresh now).2.2.latest = r.latest := by
  cases h : gather r.sources with
  | error e => simp [Roster.refresh_of_error h]
  | ok merged => simp [Roster.refresh_of_ok h]

theorem refresh_merged {r : Roster} (now : Instant) {idss : List (List ProxyIdentity)}
    (h : r.sources.map (·.fetched) = idss.map .ok) :
    (r.refresh now).2.2.members = firstOfEachName (validatedAll idss) ∧
      (r.refresh now).2.2.lastError = none ∧
      (r.refresh now).1 = .ok (firstOfEachName (validatedAll idss)).length := by
  simp [Roster.refresh_of_ok (gather_of_answers h)]

theorem refreshLaw (r : Roster) (now : Instant) :
    RefreshLaw r now (r.refresh now).1 (r.refresh now).2.1 (r.refresh now).2.2 where
  stamped := refresh_stamped r now
  failed := by
    intro pre s post m hsplit hpre hs
    simp [Roster.refresh_of_error (gather_of_failure hsplit hpre hs)]
  merged := by
    intro idss h
    obtain ⟨hmembers, herror, hresult⟩ := refresh_merged now h
    obtain ⟨hsub, hnodup, hfind⟩ := firstOfEachName_spec (validatedAll idss)
    have hkept : ∀ id ∈ firstOfEachName (validatedAll idss), Kept id :=
      fun id hid => kept_of_mem_validatedAll (hsub.subset hid)
    rw [hmembers, herror, hresult]
    exact ⟨rfl, rfl, hsub, hfind, hnodup, fun id hid => ⟨(hkept id hid).1,
      (hkept id hid).name_ne_empty⟩, validate_of_kept hkept hnodup⟩
  announced := by
    intro idss h
    rw [Roster.refresh_of_ok (gather_of_answers h)]
    by_cases hsame : sameMembers r.members (firstOfEachName (validatedAll idss))
    · simp [hsame, ← sameMembers_iff]
    · simp [hsame, ← sameMembers_iff, missingFrom_eq_filter]

/-! ### A listener that follows the names -/

/-- A listener that keeps a set of names, applying each announced change to it, and the last
roster handed to it. -/
structure NameFollower where
  known : Finset String := ∅
  last : List ProxyIdentity := []

def NameFollower.hear (f : NameFollower) (c : RosterChange) : NameFollower :=
  { known := f.known \ c.removed.toFinset ∪ c.added.toFinset, last := c.current }

/-- Refresh the roster at `now` with the sources' answers `sources`, announcing a change to the
follower. -/
def refreshFollowed (st : Roster × NameFollower) (now : Instant) (sources : List RosterSource) :
    Roster × NameFollower :=
  let out := ({ st.1 with sources := sources } : Roster).refresh now
  (out.2.2, match out.2.1 with
    | some c => c.announce [NameFollower.hear] st.2
    | none => st.2)

/-- The follower knows the roster's names, and the last roster handed to it agrees with the
roster in every name, server, port and protocol. -/
def Follows (st : Roster × NameFollower) : Prop :=
  st.2.known = (names st.1.members).toFinset ∧ List.Forall₂ SameEndpoint st.2.last st.1.members

/-- A refresh keeps the follower following: a failed one changes neither, a silent one replaces
the roster by one that agrees with it, and an announced one hands over the change. -/
theorem Follows.refresh {st : Roster × NameFollower} (h : Follows st) (now : Instant)
    (sources : List RosterSource) : Follows (refreshFollowed st now sources) := by
  obtain ⟨r, f⟩ := st
  obtain ⟨hknown, hlast⟩ := h
  dsimp only at hknown hlast
  unfold refreshFollowed
  cases hg : gather sources with
  | error e =>
    rw [Roster.refresh_of_error (r := { r with sources := sources }) hg]
    exact ⟨hknown, hlast⟩
  | ok merged =>
    rw [Roster.refresh_of_ok (r := { r with sources := sources }) hg]
    by_cases hsame : sameMembers r.members merged
    · have hagree := (sameMembers_iff _ _).mp hsame
      simp only [hsame, if_true]
      exact ⟨hknown.trans (by rw [names_eq_of_sameEndpoint hagree]),
        sameEndpoint_trans hlast hagree⟩
    · simp only [hsame, Bool.false_eq_true, if_false, RosterChange.announce, List.foldl_cons,
        List.foldl_nil, NameFollower.hear]
      exact ⟨by rw [hknown, toFinset_after_change], sameEndpoint_refl merged⟩

theorem Follows.run (runs : List (Instant × List RosterSource)) :
    ∀ st, Follows st → Follows (runs.foldl (fun st p => refreshFollowed st p.1 p.2) st) :=
  fun _ h => List.foldlRecOn runs _ h fun _ hst p _ => hst.refresh p.1 p.2

/-- Every refresh reads its sources as the roster's refresh law says, and a listener that starts
with no names and applies each announced change knows the roster's names after any run of
refreshes from a new roster, the last roster handed to it agreeing with the roster in every name,
server, port and protocol. -/
theorem roster_refresh_law :
    (∀ (r : Roster) (now : Instant),
      RefreshLaw r now (r.refresh now).1 (r.refresh now).2.1 (r.refresh now).2.2) ∧
    ∀ (sources : List RosterSource) (persistent : Bool) (runs : List (Instant × List RosterSource)),
      Follows (runs.foldl (fun st p => refreshFollowed st p.1 p.2)
        ({ sources := sources, persistent := persistent }, {})) :=
  ⟨refreshLaw, fun _ _ runs => Follows.run runs _ ⟨rfl, .nil⟩⟩

end Pool

end ProxyRouter
