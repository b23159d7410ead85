import Mathlib.Data.List.Induction
import ProxyRouter.Proofs.SettingsDelivery
/-!
Updating one module of the runtime settings from JSON text.
-/
namespace ProxyRouter

open Json

/-! ### Binding the members of an object, one field at a time -/

section Fold

variable {σ β ε : Type}

theorem foldlM_ok_iff (step : σ → String × Json → Except ε σ) (Binds : String × Json → Prop)
    (hstep : ∀ s m, (∃ s', step s m = .ok s') ↔ Binds m) (ms : List (String × Json)) (s : σ) :
    (∃ r, ms.foldlM step s = .ok r) ↔ ∀ m ∈ ms, Binds m := by
  induction ms generalizing s with
  | nil => simp [pure, Except.pure]
  | cons m ms ih =>
    simp only [List.foldlM_cons, List.forall_mem_cons]
    cases h : step s m with
    | error e =>
      have hno : ¬ Binds m := fun hb => by
        obtain ⟨s', hs'⟩ := (hstep s m).mpr hb
        rw [h] at hs'
        cases hs'
      simp [bind, Except.bind, hno]
    | ok s' =>
      have hyes : Binds m := (hstep s m).mp ⟨s', h⟩
      simp only [bind, Except.bind, ih s', hyes, true_and]

theorem foldlM_field (step : σ → String × Json → Except ε σ) (get : σ → β)
    (names : String → Bool) (bindField : Json → β → Except ε β)
    (hstep : ∀ s m s', step s m = .ok s' →
      if names m.1 then bindField m.2 (get s) = .ok (get s') else get s' = get s)
    (ms : List (String × Json)) (s r : σ) (h : ms.foldlM step s = .ok r) :
    ((ms.filter (names ·.1)).map (·.2)).foldlM (fun x v => bindField v x) (get s) = .ok (get r) := by
  induction ms generalizing s with
  | nil =>
    simp only [List.foldlM_nil, pure, Except.pure, Except.ok.injEq] at h
    simp [h, pure, Except.pure]
  | cons m ms ih =>
    simp only [List.foldlM_cons] at h
    cases hm : step s m with
    | error e => simp [hm, bind, Except.bind] at h
    | ok s' =>
      simp only [hm, bind, Except.bind] at h
      have hfield := hstep s m s' hm
      by_cases hn : names m.1
      · simp only [hn, if_true] at hfield
        simp [hn, hfield, bind, Except.bind, ih s' h]
      · simp only [hn, Bool.false_eq_true, if_false] at hfield
        simpa [List.filter_cons, hn, hfield] using ih s' h

end Fold

/-! ### Text, number and flag fields -/

namespace Json

def isSet : Json → Bool
  | .null => false
  | _ => true

def lastSet (vs : List Json) : Option Json := (vs.filter isSet).getLast?

theorem lastSet_append_null (vs : List Json) : lastSet (vs ++ [.null]) = lastSet vs := by
  simp [lastSet, isSet]

theorem lastSet_append_of_isSet (vs : List Json) {v : Json} (hv : v.isSet) :
    lastSet (vs ++ [v]) = some v := by
  simp [lastSet, hv]

def textOf : Json → Option String
  | .string s => some s
  | _ => none

def flagOf : Json → Option Bool
  | .bool b => some b
  | _ => none

def realOf : Json → Option Float
  | .number lit => match Decimal.readFloat lit with
    | .ok x => some x
    | .error _ => none
  | _ => none

def wholeOf : Json → Option Int
  | .number lit => match Decimal.readInt lit with
    | .ok n => some n
    | .error _ => none
  | _ => none

end Json

section Scalar

variable {β ε : Type}

theorem foldlM_scalar (bindField : Json → β → Except ε β) (valueOf : Json → Option β)
    (hnull : ∀ x, bindField .null x = .ok x)
    (hset : ∀ v x r, v.isSet → bindField v x = .ok r → valueOf v = some r)
    (vs : List Json) (old r : β) (h : vs.foldlM (fun x v => bindField v x) old = .ok r) :
    r = ((Json.lastSet vs).bind valueOf).getD old := by
  induction vs using List.reverseRecOn generalizing r with
  | nil =>
    simp only [List.foldlM_nil, pure, Except.pure, Except.ok.injEq] at h
    simp [Json.lastSet, h]
  | append_singleton vs v ih =>
    rw [List.foldlM_append] at h
    cases hvs : vs.foldlM (fun x v => bindField v x) old with
    | error e => simp [hvs, bind, Except.bind] at h
    | ok r' =>
      simp only [hvs, bind, Except.bind, List.foldlM_cons, List.foldlM_nil] at h
      cases hv : v.isSet
      · -- a `null` changes nothing
        have hnullv : v = .null := by cases v <;> simp_all [Json.isSet]
        subst hnullv
        simp only [hnull, pure, Except.pure, Except.ok.injEq] at h
        rw [Json.lastSet_append_null, ← h]
        exact ih r' hvs
      · cases hb : bindField v r' with
        | error e => simp [hb] at h
        | ok r'' =>
          simp only [hb, pure, Except.pure, Except.ok.injEq] at h
          rw [Json.lastSet_append_of_isSet vs hv]
          simp [hset v r' r'' hv hb, h]

variable (c : BindContext)

theorem bindText_null (x : String) : bindText c .null x = .ok x := rfl
theorem bindReal_null (x : Float) : bindReal c .null x = .ok x := rfl
theorem bindWhole_null (x : Int) : bindWhole c .null x = .ok x := rfl
theorem bindFlag_null (x : Bool) : bindFlag c .null x = .ok x := rfl

theorem bindText_set (v : Json) (x r : String) (hv : v.isSet) (h : bindText c v x = .ok r) :
    Json.textOf v = some r := by
  cases v <;> simp_all [bindText, Json.textOf, Json.isSet]

theorem bindFlag_set (v : Json) (x r : Bool) (hv : v.isSet) (h : bindFlag c v x = .ok r) :
    Json.flagOf v = some r := by
  cases v <;> simp_all [bindFlag, Json.flagOf, Json.isSet]

theorem bindReal_set (v : Json) (x r : Float) (hv : v.isSet) (h : bindReal c v x = .ok r) :
    Json.realOf v = some r := by
  cases v with
  | number lit =>
    simp only [bindReal] at h
    cases hr : Decimal.readFloat lit <;> simp_all [Json.realOf]
  | _ => simp_all [bindReal, Json.isSet]

theorem bindWhole_set (v : Json) (x r : Int) (hv : v.isSet) (h : bindWhole c v x = .ok r) :
    Json.wholeOf v = some r := by
  cases v with
  | number lit =>
    simp only [bindWhole] at h
    cases hr : Decimal.readInt lit <;> simp_all [Json.wholeOf]
  | _ => simp_all [bindWhole, Json.isSet]

end Scalar

/-! ### List fields -/

namespace Json

def itemText (item : Json) (there : String) : String :=
  match item with
  | .string s => s
  | _ => there

/-- What the members naming a list field leave it as, from the list it held: the last member
decides. `null` makes the list absent; an array gives it as many texts as the array has items,
each text item at its place, and when that member is the only one naming the field, a `null`
item keeps the text the list held at its place (the empty text past its end). -/
def ListOverlay (vs : List Json) (old : Option (List String)) (new : Option (List String)) :
    Prop :=
  match vs.getLast? with
  | none => new = old
  | some .null => new = none
  | some (.array items) =>
    ∃ xs, new = some xs ∧ xs.length = items.length ∧
      (∀ (k : Nat) (s : String), items[k]? = some (Json.string s) → xs[k]? = some s) ∧
      (vs.length = 1 → xs = items.mapIdx fun k item => itemText item ((old.getD []).getD k ""))
  | some _ => False

end Json

section Lists

variable (c : BindContext)

theorem bindTextItems_ok (i : Nat) (items : List Json) (stored xs : List String)
    (h : bindTextItems c i items stored = .ok xs) :
    xs = items.mapIdx fun k item => Json.itemText item (stored.getD k "") := by
  induction items generalizing i stored xs with
  | nil =>
    simp only [bindTextItems] at h
    cases h
    rfl
  | cons item items ih =>
    rw [bindTextItems, except_bind_ok] at h
    obtain ⟨x, hx, h⟩ := h
    rw [except_bind_ok] at h
    obtain ⟨rest, hrest, h⟩ := h
    simp only [pure, Except.pure, Except.ok.injEq] at h
    subst h
    have hitem : x = Json.itemText item (stored.getD 0 "") := by
      cases item with
      | null =>
        simp only [bindText, Except.ok.injEq] at hx
        cases stored <;> simp [← hx, Json.itemText]
      | string s =>
        simp only [bindText, Except.ok.injEq] at hx
        simp [← hx, Json.itemText]
      | _ => simp [bindText] at hx
    have hdrop : ∀ k, (stored.drop 1).getD k "" = stored.getD (k + 1) "" := by
      intro k
      simp [List.getD_eq_getElem?_getD]
    rw [List.mapIdx_cons, hitem, ih (i + 1) (stored.drop 1) rest hrest]
    simp only [hdrop]

theorem bindTextItems_ok_iff (i : Nat) (items : List Json) (stored : List String) :
    (∃ xs, bindTextItems c i items stored = .ok xs) ↔
      ∀ item ∈ items, item = .null ∨ ∃ s, item = .string s := by
  induction items generalizing i stored with
  | nil => simp [bindTextItems]
  | cons item items ih =>
    simp only [bindTextItems, bind, Except.bind, List.forall_mem_cons]
    cases hx : bindText (c.item i) item (stored.headD "") with
    | error e =>
      have hbad : ¬ (item = .null ∨ ∃ s, item = .string s) := by
        rintro (rfl | ⟨s, rfl⟩) <;> simp [bindText] at hx
      simp [hbad]
    | ok x =>
      have hgood : item = .null ∨ ∃ s, item = .string s := by
        cases item <;> simp_all [bindText]
      rw [← ih (i + 1) (stored.drop 1)]
      cases bindTextItems c (i + 1) items (stored.drop 1) <;> simp [hgood, pure, Except.pure]

theorem bindTextList_cons (item : Json) (more : List Json) (cur : Option TextList) :
    bindTextList c (.array (item :: more)) cur =
      (bindTextItems c 0 (item :: more) (cur.elim [] fun l => l.items ++ l.spare)).map fun xs =>
        some ⟨xs, (cur.elim [] fun l => l.items ++ l.spare).drop (more.length + 1)⟩ := by
  cases cur <;> rfl

theorem foldlM_textList (vs : List Json) (old : Option (List String)) (r : Option TextList)
    (h : vs.foldlM (fun x v => bindTextList c v x) (old.map TextList.ofItems) = .ok r) :
    Json.ListOverlay vs old (r.map (·.items)) := by
  induction vs using List.reverseRecOn generalizing r with
  | nil =>
    simp only [List.foldlM_nil, pure, Except.pure, Except.ok.injEq] at h
    subst h
    cases old <;> simp [Json.ListOverlay, TextList.ofItems]
  | append_singleton vs v ih =>
    simp only [List.foldlM_append, List.foldlM_cons, List.foldlM_nil, bind_pure] at h
    cases hvs : vs.foldlM (fun x v => bindTextList c v x) (old.map TextList.ofItems) with
    | error e => simp [hvs, bind, Except.bind] at h
    | ok r' =>
      simp only [hvs, bind, Except.bind] at h
      -- the draft before the last member is the old list when no member came before
      have hfirst : vs.length = 0 → r' = old.map TextList.ofItems := by
        intro hl
        rw [List.length_eq_zero_iff.mp hl] at hvs
        simp only [List.foldlM_nil, pure, Except.pure, Except.ok.injEq] at hvs
        exact hvs.symm
      cases v with
      | null =>
        simp only [bindTextList, Except.ok.injEq] at h
        subst h
        simp [Json.ListOverlay]
      | array items =>
        simp only [Json.ListOverlay, List.getLast?_append, List.getLast?_singleton,
          Option.some_or, List.length_append, List.length_singleton]
        cases items with
        | nil =>
          simp only [bindTextList, Except.ok.injEq] at h
          subst h
          exact ⟨[], rfl, rfl, by simp, fun _ => rfl⟩
        | cons item more =>
          rw [bindTextList_cons] at h
          cases hitems : bindTextItems c 0 (item :: more) (r'.elim [] fun l => l.items ++ l.spare) with
          | error e => simp [hitems, Except.map] at h
          | ok xs =>
            simp only [hitems, Except.map, Except.ok.injEq] at h
            subst h
            have hxs := bindTextItems_ok c 0 _ _ xs hitems
            refine ⟨xs, rfl, by simp [hxs], ?_, ?_⟩
            · intro k s hk
              rw [hxs, List.getElem?_mapIdx, hk]
              rfl
            · intro hl
              rw [hxs, hfirst (by omega)]
              cases old <;> simp [TextList.ofItems]
      | _ => simp [bindTextList] at h

theorem bindTextList_ok_iff (v : Json) (cur : Option TextList) :
    (∃ r, bindTextList c v cur = .ok r) ↔
      v = .null ∨ ∃ items, v = .array items ∧ ∀ item ∈ items, item = .null ∨ ∃ s, item = .string s := by
  cases v with
  | null => simp [bindTextList]
  | array items =>
    cases items with
    | nil => simp [bindTextList]
    | cons item more =>
      rw [bindTextList_cons]
      simp only [reduceCtorEq, false_or, Json.array.injEq, exists_eq_left']
      rw [← bindTextItems_ok_iff c 0 (item :: more) (cur.elim [] fun l => l.items ++ l.spare)]
      cases bindTextItems c 0 (item :: more) _ <;> simp [Except.map]
  | _ => simp [bindTextList]

end Lists

/-! ### What a module's JSON must hold -/

namespace Settings

/-- The kind of value a settings field holds. -/
inductive FieldKind where
  | text
  | real
  | whole
  | flag
  | texts
deriving DecidableEq, Repr

/-- A JSON value a field of the kind takes: `null`, or a value of the field's kind; a number must
read as a binary64 for a real field and as a 64-bit whole number for a whole field, and a list's
items must be texts or `null`. -/
def FieldKind.Fits : FieldKind → Json → Prop
  | _, .null => True
  | .text, .string _ => True
  | .real, v => (Json.realOf v).isSome
  | .whole, v => (Json.wholeOf v).isSome
  | .flag, .bool _ => True
  | .texts, .array items => ∀ item ∈ items, item = .null ∨ ∃ s, item = .string s
  | _, _ => False

def selectorFields : List (String × FieldKind) :=
  [("strategy", .text), ("healthy_threshold", .real), ("fallback_to_all", .flag)]

def routingFields : List (String × FieldKind) :=
  [("use_defaults", .flag), ("templates", .texts), ("rules", .texts)]

def stickyFields : List (String × FieldKind) :=
  [("mode", .text), ("ttl", .whole), ("rules", .texts)]

/-- JSON that binds to a module with these fields: `null`, or an object whose every member holds
a value of the kind of the field its key names. -/
def Binds (fields : List (String × FieldKind)) : Json → Prop
  | .null => True
  | .object ms => ∀ m ∈ ms, ∀ f ∈ fields, fieldFor (fields.map (·.1)) m.1 = some f.1 → f.2.Fits m.2
  | _ => False

def memberValues (fields : List (String × FieldKind)) (field : String) : Json → List Json
  | .object ms => (ms.filter fun m => fieldFor (fields.map (·.1)) m.1 == some field).map (·.2)
  | _ => []

section Kinds

variable (c : BindContext) (v : Json)

theorem bindText_ok_iff (x : String) : (∃ r, bindText c v x = .ok r) ↔ FieldKind.text.Fits v := by
  cases v <;> simp [bindText, FieldKind.Fits]

theorem bindFlag_ok_iff (x : Bool) : (∃ r, bindFlag c v x = .ok r) ↔ FieldKind.flag.Fits v := by
  cases v <;> simp [bindFlag, FieldKind.Fits]

theorem bindReal_ok_iff (x : Float) : (∃ r, bindReal c v x = .ok r) ↔ FieldKind.real.Fits v := by
  cases v with
  | number lit =>
    simp only [bindReal, FieldKind.Fits, Json.realOf]
    cases Decimal.readFloat lit <;> simp
  | _ => simp [bindReal, FieldKind.Fits, Json.realOf]

theorem bindWhole_ok_iff (x : Int) : (∃ r, bindWhole c v x = .ok r) ↔ FieldKind.whole.Fits v := by
  cases v with
  | number lit =>
    simp only [bindWhole, FieldKind.Fits, Json.wholeOf]
    cases Decimal.readInt lit <;> simp
  | _ => simp [bindWhole, FieldKind.Fits, Json.wholeOf]

theorem bindTextList_ok_iff_fits (cur : Option TextList) :
    (∃ r, bindTextList c v cur = .ok r) ↔ FieldKind.texts.Fits v := by
  rw [bindTextList_ok_iff]
  cases v <;> simp [FieldKind.Fits]

end Kinds

/-! ### The selector module -/

/-- Selector settings after binding JSON onto them: each field takes the last member naming it
that is not `null`, and keeps its value when there is none. -/
def SelectorSettings.Overlay (old : SelectorSettings) (j : Json) (new : SelectorSettings) : Prop :=
  new.strategy =
      ((Json.lastSet (memberValues selectorFields "strategy" j)).bind Json.textOf).getD
        old.strategy ∧
    new.healthyThreshold =
      ((Json.lastSet (memberValues selectorFields "healthy_threshold" j)).bind Json.realOf).getD
        old.healthyThreshold ∧
    new.fallbackToAll =
      ((Json.lastSet (memberValues selectorFields "fallback_to_all" j)).bind Json.flagOf).getD
        old.fallbackToAll

theorem SelectorSettings.bind_object (c : BindContext) (ms : List (String × Json))
    (s : SelectorSettings) :
    SelectorSettings.bind c (.object ms) s =
      ms.foldlM (fun s m => SelectorSettings.bind c (.object [m]) s) s := by
  simp only [SelectorSettings.bind, List.foldlM_cons, List.foldlM_nil, bind_pure]

theorem SelectorSettings.bind_member {c : BindContext} {k : String} {v : Json}
    {s s' : SelectorSettings} (h : SelectorSettings.bind c (.object [(k, v)]) s = .ok s') :
    (if fieldFor (selectorFields.map (·.1)) k == some "strategy" then
      bindText (c.enter "SelectorSettings" "strategy") v s.strategy = .ok s'.strategy
    else s'.strategy = s.strategy) ∧
    (if fieldFor (selectorFields.map (·.1)) k == some "healthy_threshold" then
      bindReal (c.enter "SelectorSettings" "healthy_threshold") v s.healthyThreshold =
        .ok s'.healthyThreshold
    else s'.healthyThreshold = s.healthyThreshold) ∧
    (if fieldFor (selectorFields.map (·.1)) k == some "fallback_to_all" then
      bindFlag (c.enter "SelectorSettings" "fallback_to_all") v s.fallbackToAll =
        .ok s'.fallbackToAll
    else s'.fallbackToAll = s.fallbackToAll) := by
  simp only [SelectorSettings.bind, List.foldlM_cons, List.foldlM_nil, bind_pure] at h
  simp only [selectorFields, List.map]
  split at h
  · rename_i hk
    rw [except_bind_ok] at h
    obtain ⟨x, hx, h⟩ := h
    cases h
    simp [hk, hx]
  · rename_i hk
    rw [except_bind_ok] at h
    obtain ⟨x, hx, h⟩ := h
    cases h
    simp [hk, hx]
  · rename_i hk
    rw [except_bind_ok] at h
    obtain ⟨x, hx, h⟩ := h
    cases h
    simp [hk, hx]
  · rename_i h1 h2 h3
    cases h
    simp only [beq_iff_eq]
    exact ⟨by rw [if_neg h1]; trivial, by rw [if_neg h2]; trivial, by rw [if_neg h3]; trivial⟩

theorem SelectorSettings.bind_ok_iff (c : BindContext) (j : Json) (s : SelectorSettings) :
    (∃ r, SelectorSettings.bind c j s = .ok r) ↔ Binds selectorFields j := by
  cases j with
  | null => simp [SelectorSettings.bind, Binds]
  | object ms =>
    rw [SelectorSettings.bind_object]
    simp only [Binds]
    apply foldlM_ok_iff
    rintro s ⟨k, v⟩
    simp only [SelectorSettings.bind, List.foldlM_cons, List.foldlM_nil, bind_pure,
      selectorFields, List.map, List.mem_cons, List.not_mem_nil, or_false, forall_eq_or_imp,
      forall_eq]
    split
    · rename_i h
      simp only [h, Option.some.injEq]
      rw [← bindText_ok_iff _ v s.strategy]
      cases bindText _ v s.strategy <;> simp [pure, Except.pure, Bind.bind, Except.bind]
    · rename_i h
      simp only [h, Option.some.injEq]
      rw [← bindReal_ok_iff _ v s.healthyThreshold]
      cases bindReal _ v s.healthyThreshold <;> simp [pure, Except.pure, Bind.bind, Except.bind]
    · rename_i h
      simp only [h, Option.some.injEq]
      rw [← bindFlag_ok_iff _ v s.fallbackToAll]
      cases bindFlag _ v s.fallbackToAll <;> simp [pure, Except.pure, Bind.bind, Except.bind]
    · rename_i h1 h2 h3
      simp only [pure, Except.pure, Except.ok.injEq, exists_eq', true_iff]
      exact ⟨fun h => (h1 h).elim, fun h => (h2 h).elim, fun h => (h3 h).elim⟩
  | _ => simp [SelectorSettings.bind, Binds]

theorem SelectorSettings.bind_overlay {c : BindContext} {j : Json} {s r : SelectorSettings}
    (h : SelectorSettings.bind c j s = .ok r) : s.Overlay j r := by
  cases j with
  | null =>
    simp only [SelectorSettings.bind, Except.ok.injEq] at h
    subst h
    simp [SelectorSettings.Overlay, memberValues, Json.lastSet]
  | object ms =>
    rw [SelectorSettings.bind_object] at h
    refine ⟨?_, ?_, ?_⟩
    · refine foldlM_scalar (bindText (c.enter "SelectorSettings" "strategy")) Json.textOf
        (bindText_null _) (bindText_set _) _ _ _ ?_
      exact foldlM_field _ (·.strategy) (fun k => fieldFor (selectorFields.map (·.1)) k == some "strategy")
        (bindText (c.enter "SelectorSettings" "strategy"))
        (fun _ _ _ hm => (SelectorSettings.bind_member hm).1) ms s r h
    · refine foldlM_scalar (bindReal (c.enter "SelectorSettings" "healthy_threshold"))
        Json.realOf (bindReal_null _) (bindReal_set _) _ _ _ ?_
      exact foldlM_field _ (·.healthyThreshold)
        (fun k => fieldFor (selectorFields.map (·.1)) k == some "healthy_threshold")
        (bindReal (c.enter "SelectorSettings" "healthy_threshold"))
        (fun _ _ _ hm => (SelectorSettings.bind_member hm).2.1) ms s r h
    · refine foldlM_scalar (bindFlag (c.enter "SelectorSettings" "fallback_to_all")) Json.flagOf
        (bindFlag_null _) (bindFlag_set _) _ _ _ ?_
      exact foldlM_field _ (·.fallbackToAll)
        (fun k => fieldFor (selectorFields.map (·.1)) k == some "fallback_to_all")
        (bindFlag (c.enter "SelectorSettings" "fallback_to_all"))
        (fun _ _ _ hm => (SelectorSettings.bind_member hm).2.2) ms s r h
  | _ => simp [SelectorSettings.bind] at h

/-! ### The routing module -/

/-- Routing settings after binding JSON onto them: the flag takes the last member naming it that
is not `null`, and each list is left as `ListOverlay` says. -/
def RoutingSettings.Overlay (old : RoutingSettings) (j : Json) (new : RoutingSettings) : Prop :=
  new.useDefaults =
      ((Json.lastSet (memberValues routingFields "use_defaults" j)).bind Json.flagOf).getD
        old.useDefaults ∧
    Json.ListOverlay (memberValues routingFields "templates" j) old.templates new.templates ∧
    Json.ListOverlay (memberValues routingFields "rules" j) old.rules new.rules

theorem RoutingDraft.bind_object (c : BindContext) (ms : List (String × Json)) (d : RoutingDraft) :
    RoutingDraft.bind c (.object ms) d = ms.foldlM (fun d m => RoutingDraft.bind c (.object [m]) d) d := by
  simp only [RoutingDraft.bind, List.foldlM_cons, List.foldlM_nil, bind_pure]

theorem RoutingDraft.bind_member {c : BindContext} {k : String} {v : Json} {d d' : RoutingDraft}
    (h : RoutingDraft.bind c (.object [(k, v)]) d = .ok d') :
    (if fieldFor (routingFields.map (·.1)) k == some "use_defaults" then
      bindFlag (c.enter "RoutingSettings" "use_defaults") v d.useDefaults = .ok d'.useDefaults
    else d'.useDefaults = d.useDefaults) ∧
    (if fieldFor (routingFields.map (·.1)) k == some "templates" then
      bindTextList (c.enter "RoutingSettings" "templates") v d.templates = .ok d'.templates
    else d'.templates = d.templates) ∧
    (if fieldFor (routingFields.map (·.1)) k == some "rules" then
      bindTextList (c.enter "RoutingSettings" "rules") v d.rules = .ok d'.rules
    else d'.rules = d.rules) := by
  simp only [RoutingDraft.bind, List.foldlM_cons, List.foldlM_nil, bind_pure] at h
  simp only [routingFields, List.map]
  split at h
  · rename_i hk
    rw [except_bind_ok] at h
    obtain ⟨x, hx, h⟩ := h
    cases h
    simp [hk, hx]
  · rename_i hk
    rw [except_bind_ok] at h
    obtain ⟨x, hx, h⟩ := h
    cases h
    simp [hk, hx]
  · rename_i hk
    rw [except_bind_ok] at h
    obtain ⟨x, hx, h⟩ := h
    cases h
    simp [hk, hx]
  · rename_i h1 h2 h3
    cases h
    simp only [beq_iff_eq]
    exact ⟨by rw [if_neg h1]; trivial, by rw [if_neg h2]; trivial, by rw [if_neg h3]; trivial⟩

theorem RoutingDraft.bind_ok_iff (c : BindContext) (j : Json) (d : RoutingDraft) :
    (∃ r, RoutingDraft.bind c j d = .ok r) ↔ Binds routingFields j := by
  cases j with
  | null => simp [RoutingDraft.bind, Binds]
  | object ms =>
    rw [RoutingDraft.bind_object]
    simp only [Binds]
    apply foldlM_ok_iff
    rintro d ⟨k, v⟩
    simp only [RoutingDraft.bind, List.foldlM_cons, List.foldlM_nil, bind_pure,
      routingFields, List.map, List.mem_cons, List.not_mem_nil, or_false, forall_eq_or_imp,
      forall_eq]
    split
    · rename_i h
      simp only [h, Option.some.injEq]
      rw [← bindFlag_ok_iff _ v d.useDefaults]
      cases bindFlag _ v d.useDefaults <;> simp [pure, Except.pure, Bind.bind, Except.bind]
    · rename_i h
      simp only [h, Option.some.injEq]
      rw [← bindTextList_ok_iff_fits _ v d.templates]
      cases bindTextList _ v d.templates <;> simp [pure, Except.pure, Bind.bind, Except.bind]
    · rename_i h
      simp only [h, Option.some.injEq]
      rw [← bindTextList_ok_iff_fits _ v d.rules]
      cases bindTextList _ v d.rules <;> simp [pure, Except.pure, Bind.bind, Except.bind]
    · rename_i h1 h2 h3
      simp only [pure, Except.pure, Except.ok.injEq, exists_eq', true_iff]
      exact ⟨fun h => (h1 h).elim, fun h => (h2 h).elim, fun h => (h3 h).elim⟩
  | _ => simp [RoutingDraft.bind, Binds]

theorem RoutingSettings.bind_ok_iff (c : BindContext) (j : Json) (s : RoutingSettings) :
    (∃ r, RoutingSettings.bind c j s = .ok r) ↔ Binds routingFields j := by
  rw [← RoutingDraft.bind_ok_iff c j s.draft, RoutingSettings.bind]
  cases RoutingDraft.bind c j s.draft <;> simp [Except.map]

theorem RoutingSettings.bind_overlay {c : BindContext} {j : Json} {s r : RoutingSettings}
    (h : RoutingSettings.bind c j s = .ok r) : s.Overlay j r := by
  simp only [RoutingSettings.bind] at h
  cases hd : RoutingDraft.bind c j s.draft with
  | error e => simp [hd, Except.map] at h
  | ok d =>
    simp only [hd, Except.map, Except.ok.injEq] at h
    subst h
    cases j with
    | null =>
      simp only [RoutingDraft.bind, Except.ok.injEq] at hd
      subst hd
      cases htemplates : s.templates <;> cases hrules : s.rules <;>
        simp [RoutingSettings.Overlay, memberValues, Json.lastSet, Json.ListOverlay,
          RoutingDraft.settings, RoutingSettings.draft, htemplates, hrules, TextList.ofItems]
    | object ms =>
      rw [RoutingDraft.bind_object] at hd
      refine ⟨?_, ?_, ?_⟩
      · refine foldlM_scalar (bindFlag (c.enter "RoutingSettings" "use_defaults")) Json.flagOf
          (bindFlag_null _) (bindFlag_set _) _ _ _ ?_
        exact foldlM_field _ (·.useDefaults)
          (fun k => fieldFor (routingFields.map (·.1)) k == some "use_defaults")
          (bindFlag (c.enter "RoutingSettings" "use_defaults"))
          (fun _ _ _ hm => (RoutingDraft.bind_member hm).1) ms s.draft d hd
      · refine foldlM_textList (c.enter "RoutingSettings" "templates") _ _ d.templates ?_
        exact foldlM_field _ (·.templates)
          (fun k => fieldFor (routingFields.map (·.1)) k == some "templates")
          (bindTextList (c.enter "RoutingSettings" "templates"))
          (fun _ _ _ hm => (RoutingDraft.bind_member hm).2.1) ms s.draft d hd
      · refine foldlM_textList (c.enter "RoutingSettings" "rules") _ _ d.rules ?_
        exact foldlM_field _ (·.rules)
          (fun k => fieldFor (routingFields.map (·.1)) k == some "rules")
          (bindTextList (c.enter "RoutingSettings" "rules"))
          (fun _ _ _ hm => (RoutingDraft.bind_member hm).2.2) ms s.draft d hd
    | _ => simp [RoutingDraft.bind] at hd

/-! ### The sticky module -/

/-- Sticky settings after binding JSON onto them: mode and time to live take the last member
naming them that is not `null`, and the rules are left as `ListOverlay` says. -/
def StickySettings.Overlay (old : StickySettings) (j : Json) (new : StickySettings) : Prop :=
  new.mode = ((Json.lastSet (memberValues stickyFields "mode" j)).bind Json.textOf).getD old.mode ∧
    new.ttl = ((Json.lastSet (memberValues stickyFields "ttl" j)).bind Json.wholeOf).getD old.ttl ∧
    Json.ListOverlay (memberValues stickyFields "rules" j) old.rules new.rules

theorem StickyDraft.bind_object (c : BindContext) (ms : List (String × Json)) (d : StickyDraft) :
    StickyDraft.bind c (.object ms) d = ms.foldlM (fun d m => StickyDraft.bind c (.object [m]) d) d := by
  simp only [StickyDraft.bind, List.foldlM_cons, List.foldlM_nil, bind_pure]

theorem StickyDraft.bind_member {c : BindContext} {k : String} {v : Json} {d d' : StickyDraft}
    (h : StickyDraft.bind c (.object [(k, v)]) d = .ok d') :
    (if fieldFor (stickyFields.map (·.1)) k == some "mode" then
      bindText (c.enter "StickySettings" "mode") v d.mode = .ok d'.mode
    else d'.mode = d.mode) ∧
    (if fieldFor (stickyFields.map (·.1)) k == some "ttl" then
      bindWhole (c.enter "StickySettings" "ttl") v d.ttl = .ok d'.ttl
    else d'.ttl = d.ttl) ∧
    (if fieldFor (stickyFields.map (·.1)) k == some "rules" then
      bindTextList (c.enter "StickySettings" "rules") v d.rules = .ok d'.rules
    else d'.rules = d.rules) := by
  simp only [StickyDraft.bind, List.foldlM_cons, List.foldlM_nil, bind_pure] at h
  simp only [stickyFields, List.map]
  split at h
  · rename_i hk
    rw [except_bind_ok] at h
    obtain ⟨x, hx, h⟩ := h
    cases h
    simp [hk, hx]
  · rename_i hk
    rw [except_bind_ok] at h
    obtain ⟨x, hx, h⟩ := h
    cases h
    simp [hk, hx]
  · rename_i hk
    rw [except_bind_ok] at h
    obtain ⟨x, hx, h⟩ := h
    cases h
    simp [hk, hx]
  · rename_i h1 h2 h3
    cases h
    simp only [beq_iff_eq]
    exact ⟨by rw [if_neg h1]; trivial, by rw [if_neg h2]; trivial, by rw [if_neg h3]; trivial⟩

theorem StickyDraft.bind_ok_iff (c : BindContext) (j : Json) (d : StickyDraft) :
    (∃ r, StickyDraft.bind c j d = .ok r) ↔ Binds stickyFields j := by
  cases j with
  | null => simp [StickyDraft.bind, Binds]
  | object ms =>
    rw [StickyDraft.bind_object]
    simp only [Binds]
    apply foldlM_ok_iff
    rintro d ⟨k, v⟩
    simp only [StickyDraft.bind, List.foldlM_cons, List.foldlM_nil, bind_pure,
      stickyFields, List.map, List.mem_cons, List.not_mem_nil, or_false, forall_eq_or_imp,
      forall_eq]
    split
    · rename_i h
      simp only [h, Option.some.injEq]
      rw [← bindText_ok_iff _ v d.mode]
      cases bindText _ v d.mode <;> simp [pure, Except.pure, Bind.bind, Except.bind]
    · rename_i h
      simp only [h, Option.some.injEq]
      rw [← bindWhole_ok_iff _ v d.ttl]
      cases bindWhole _ v d.ttl <;> simp [pure, Except.pure, Bind.bind, Except.bind]
    · rename_i h
      simp only [h, Option.some.injEq]
      rw [← bindTextList_ok_iff_fits _ v d.rules]
      cases bindTextList _ v d.rules <;> simp [pure, Except.pure, Bind.bind, Except.bind]
    · rename_i h1 h2 h3
      simp only [pure, Except.pure, Except.ok.injEq, exists_eq', true_iff]
      exact ⟨fun h => (h1 h).elim, fun h => (h2 h).elim, fun h => (h3 h).elim⟩
  | _ => simp [StickyDraft.bind, Binds]

theorem StickySettings.bind_ok_iff (c : BindContext) (j : Json) (s : StickySettings) :
    (∃ r, StickySettings.bind c j s = .ok r) ↔ Binds stickyFields j := by
  rw [← StickyDraft.bind_ok_iff c j s.draft, StickySettings.bind]
  cases StickyDraft.bind c j s.draft <;> simp [Except.map]

theorem StickySettings.bind_overlay {c : BindContext} {j : Json} {s r : StickySettings}
    (h : StickySettings.bind c j s = .ok r) : s.Overlay j r := by
  simp only [StickySettings.bind] at h
  cases hd : StickyDraft.bind c j s.draft with
  | error e => simp [hd, Except.map] at h
  | ok d =>
    simp only [hd, Except.map, Except.ok.injEq] at h
    subst h
    cases j with
    | null =>
      simp only [StickyDraft.bind, Except.ok.injEq] at hd
      subst hd
      cases hrules : s.rules <;>
        simp [StickySettings.Overlay, memberValues, Json.lastSet, Json.ListOverlay,
          StickyDraft.settings, StickySettings.draft, hrules, TextList.ofItems]
    | object ms =>
      rw [StickyDraft.bind_object] at hd
      refine ⟨?_, ?_, ?_⟩
      · refine foldlM_scalar (bindText (c.enter "StickySettings" "mode")) Json.textOf
          (bindText_null _) (bindText_set _) _ _ _ ?_
        exact foldlM_field _ (·.mode)
          (fun k => fieldFor (stickyFields.map (·.1)) k == some "mode")
          (bindText (c.enter "StickySettings" "mode"))
          (fun _ _ _ hm => (StickyDraft.bind_member hm).1) ms s.draft d hd
      · refine foldlM_scalar (bindWhole (c.enter "StickySettings" "ttl")) Json.wholeOf
          (bindWhole_null _) (bindWhole_set _) _ _ _ ?_
        exact foldlM_field _ (·.ttl)
          (fun k => fieldFor (stickyFields.map (·.1)) k == some "ttl")
          (bindWhole (c.enter "StickySettings" "ttl"))
          (fun _ _ _ hm => (StickyDraft.bind_member hm).2.1) ms s.draft d hd
      · refine foldlM_textList (c.enter "StickySettings" "rules") _ _ d.rules ?_
        exact foldlM_field _ (·.rules)
          (fun k => fieldFor (stickyFields.map (·.1)) k == some "rules")
          (bindTextList (c.enter "StickySettings" "rules"))
          (fun _ _ _ hm => (StickyDraft.bind_member hm).2.2) ms s.draft d hd
    | _ => simp [StickyDraft.bind] at hd

/-! ### Reading a module -/

def moduleFields (module : String) : Option (List (String × FieldKind)) :=
  if module = selectorKey then some selectorFields
  else if module = routingKey then some routingFields
  else if module = stickyKey then some stickyFields
  else none

@[simp] theorem moduleFields_selectorKey : moduleFields selectorKey = some selectorFields := by
  simp [moduleFields]

@[simp] theorem moduleFields_routingKey : moduleFields routingKey = some routingFields := by
  have hrs : routingKey ≠ selectorKey := by decide
  simp [moduleFields, hrs]

@[simp] theorem moduleFields_stickyKey : moduleFields stickyKey = some stickyFields := by
  have hss : stickyKey ≠ selectorKey := by decide
  have hsr : stickyKey ≠ routingKey := by decide
  simp [moduleFields, hss, hsr]

/-- The settings after reading JSON onto one module of the current ones: that module overlaid
with the JSON, the other two as copied, their absent lists made empty. -/
def Overlaid (cur : RuntimeSettings) (module : String) (j : Json) (next : RuntimeSettings) : Prop :=
  (module = selectorKey ∧ ∃ c, cur.selector.Overlay j c ∧ next = { cur.copy with selector := c }) ∨
  (module = routingKey ∧ ∃ c, cur.copy.routing.Overlay j c ∧ next = { cur.copy with routing := c }) ∨
  (module = stickyKey ∧ ∃ c, cur.copy.sticky.Overlay j c ∧ next = { cur.copy with sticky := c })

namespace SettingsStore

/-- One module's branch of `readModule`: parse the text, bind it with the module's binder, and
store what was bound. -/
def readBranch {α : Type} (text m : String) (bind : Json → Except Mismatch α)
    (k : α → Payload × RuntimeSettings) : Except UpdateFault (Payload × RuntimeSettings) := do
  let s ← (bind (← (Json.parse text).mapError fun e => .unreadable m (.malformed e))).mapError
    fun e => .unreadable m (.mismatch e)
  return k s

theorem readModule_eq (cur : RuntimeSettings) (module text : String) :
    readModule cur module text =
      if module = selectorKey then
        readBranch text module (SelectorSettings.bind {} · cur.selector)
          fun c => (.selector c, { cur.copy with selector := c })
      else if module = routingKey then
        readBranch text module (RoutingSettings.bind {} · cur.copy.routing)
          fun c => (.routing c, { cur.copy with routing := c })
      else if module = stickyKey then
        readBranch text module (StickySettings.bind {} · cur.copy.sticky)
          fun c => (.sticky c, { cur.copy with sticky := c })
      else .error (.unknownModule module) := by
  unfold readModule
  simp only [beq_iff_eq]
  rfl

theorem readBranch_ok {α : Type} {text m : String} {bind : Json → Except Mismatch α}
    {k : α → Payload × RuntimeSettings} {r : Payload × RuntimeSettings} :
    readBranch text m bind k = .ok r ↔ ∃ j, Json.parse text = .ok j ∧ ∃ s, bind j = .ok s ∧ k s = r := by
  simp only [readBranch, except_bind_ok, except_mapError_ok, pure, Except.pure, Except.ok.injEq]

theorem readBranch_ok_iff {α : Type} (text m : String) (bind : Json → Except Mismatch α)
    (k : α → Payload × RuntimeSettings) (fields : List (String × FieldKind))
    (hbind : ∀ j, (∃ s, bind j = .ok s) ↔ Binds fields j) :
    (∃ r, readBranch text m bind k = .ok r) ↔ ∃ j, Json.parse text = .ok j ∧ Binds fields j := by
  simp only [readBranch_ok]
  constructor
  · rintro ⟨r, j, hj, s, hs, -⟩
    exact ⟨j, hj, (hbind j).1 ⟨s, hs⟩⟩
  · rintro ⟨j, hj, hb⟩
    obtain ⟨s, hs⟩ := (hbind j).2 hb
    exact ⟨k s, j, hj, s, hs, rfl⟩

theorem readModule_ok_iff (cur : RuntimeSettings) (module text : String) :
    (∃ r, readModule cur module text = .ok r) ↔
      ∃ fields j, moduleFields module = some fields ∧ Json.parse text = .ok j ∧ Binds fields j := by
  rw [readModule_eq]
  unfold moduleFields
  split
  · simp only [Option.some.injEq, exists_and_left, exists_eq_left']
    exact readBranch_ok_iff _ _ _ _ _ (SelectorSettings.bind_ok_iff {} · cur.selector)
  · split
    · simp only [Option.some.injEq, exists_and_left, exists_eq_left']
      exact readBranch_ok_iff _ _ _ _ _ (RoutingSettings.bind_ok_iff {} · cur.copy.routing)
    · split
      · simp only [Option.some.injEq, exists_and_left, exists_eq_left']
        exact readBranch_ok_iff _ _ _ _ _ (StickySettings.bind_ok_iff {} · cur.copy.sticky)
      · simp

theorem readModule_overlaid {cur : RuntimeSettings} {module text : String} {p : Payload}
    {next : RuntimeSettings} (h : readModule cur module text = .ok (p, next)) :
    ∃ j, Json.parse text = .ok j ∧ Overlaid cur module j next := by
  rw [readModule_eq] at h
  split at h
  · rename_i hm
    obtain ⟨j, hj, c, hc, hk⟩ := readBranch_ok.1 h
    cases hk
    exact ⟨j, hj, .inl ⟨hm, c, SelectorSettings.bind_overlay hc, rfl⟩⟩
  · split at h
    · rename_i hm
      obtain ⟨j, hj, c, hc, hk⟩ := readBranch_ok.1 h
      cases hk
      exact ⟨j, hj, .inr (.inl ⟨hm, c, RoutingSettings.bind_overlay hc, rfl⟩)⟩
    · split at h
      · rename_i hm
        obtain ⟨j, hj, c, hc, hk⟩ := readBranch_ok.1 h
        cases hk
        exact ⟨j, hj, .inr (.inr ⟨hm, c, StickySettings.bind_overlay hc, rfl⟩)⟩
      · cases h

theorem readBranch_error {α : Type} {text m : String} {bind : Json → Except Mismatch α}
    {k : α → Payload × RuntimeSettings} {g : UpdateFault} (h : readBranch text m bind k = .error g) :
    (∃ e, Json.parse text = .error e ∧ g = .unreadable m (.malformed e)) ∨
      ∃ j e, Json.parse text = .ok j ∧ bind j = .error e ∧ g = .unreadable m (.mismatch e) := by
  unfold readBranch at h
  cases hp : Json.parse text with
  | error e =>
    simp only [hp, mapError_of_error, Bind.bind, Except.bind, Except.error.injEq] at h
    exact .inl ⟨e, rfl, h.symm⟩
  | ok j =>
    cases hb : bind j with
    | error e =>
      simp only [hp, hb, mapError_of_ok, mapError_of_error, Bind.bind, Except.bind,
        Except.error.injEq] at h
      exact .inr ⟨j, e, rfl, hb, h.symm⟩
    | ok s => simp [hp, hb, Bind.bind, Except.bind, pure, Except.pure] at h

end SettingsStore

/-! ### Refused updates -/

theorem settingsFileText_error_iff (s : RuntimeSettings) (e : String) :
    settingsFileText s = .error e ↔
      (s.selector.healthyThreshold.isNaN || s.selector.healthyThreshold.isInf) = true ∧
        e = "json: unsupported value: " ++ Decimal.formatFloat .general s.selector.healthyThreshold := by
  unfold settingsFileText
  dsimp only
  split
  · rename_i hx
    simp only [Except.error.injEq, hx, true_and, eq_comm]
  · rename_i hx
    exact ⟨fun h => (nomatch h), fun h => absurd h.1 hx⟩

theorem SelectorSettings.Overlay.unique {old c c' : SelectorSettings} {j : Json}
    (h : old.Overlay j c) (h' : old.Overlay j c') : c = c' := by
  obtain ⟨hs, ht, hf⟩ := h
  obtain ⟨hs', ht', hf'⟩ := h'
  cases c
  cases c'
  simp only at hs ht hf hs' ht' hf'
  rw [hs, ht, hf, hs', ht', hf']

theorem Overlaid.selector_eq {cur next next' : RuntimeSettings} {module : String} {j : Json}
    (h : Overlaid cur module j next) (h' : Overlaid cur module j next') :
    next.selector = next'.selector := by
  have hsr : selectorKey ≠ routingKey := by decide
  have hss : selectorKey ≠ stickyKey := by decide
  have hrs : routingKey ≠ stickyKey := by decide
  rcases h with ⟨hm, c, hc, rfl⟩ | ⟨hm, c, hc, rfl⟩ | ⟨hm, c, hc, rfl⟩ <;>
    rcases h' with ⟨hm', c', hc', rfl⟩ | ⟨hm', c', hc', rfl⟩ | ⟨hm', c', hc', rfl⟩ <;>
    subst hm <;> first
      | exact (hsr hm').elim | exact (hss hm').elim | exact (hrs hm').elim
      | exact (hsr hm'.symm).elim | exact (hss hm'.symm).elim | exact (hrs hm'.symm).elim
      | exact hc.unique hc' | rfl

namespace SettingsStore

/-- Why an update of a module from a text is refused, for each fault it gives: the module is
unknown, the text is not JSON, the JSON does not bind to the module's fields, or the store has a
file and the settings it would hold have a threshold that is not a finite number. -/
def Refusal (st : SettingsStore) (module text : String) : UpdateFault → Prop
  | .unknownModule m => m = module ∧ moduleFields module = none
  | .unreadable m (.malformed e) =>
    m = module ∧ (moduleFields module).isSome ∧ Json.parse text = .error e
  | .unreadable m (.mismatch _) =>
    m = module ∧ ∃ fields j, moduleFields module = some fields ∧ Json.parse text = .ok j ∧
      ¬ Binds fields j
  | .unwritable e =>
    st.file.isSome ∧ ∃ j next, Json.parse text = .ok j ∧ Overlaid st.current module j next ∧
      settingsFileText next = .error e

theorem readBranch_refusal {α : Type} {st : SettingsStore} {module text : String}
    {bind : Json → Except Mismatch α} {k : α → Payload × RuntimeSettings} {g : UpdateFault}
    {fields : List (String × FieldKind)} (hfields : moduleFields module = some fields)
    (hbind : ∀ j, (∃ s, bind j = .ok s) ↔ Binds fields j)
    (h : readBranch text module bind k = .error g) : Refusal st module text g := by
  rcases readBranch_error h with ⟨e, he, rfl⟩ | ⟨j, e, hj, he, rfl⟩
  · exact ⟨rfl, by simp [hfields], he⟩
  · refine ⟨rfl, fields, j, hfields, hj, fun hb => ?_⟩
    obtain ⟨s, hs⟩ := (hbind j).2 hb
    rw [hs] at he
    cases he

theorem readModule_refusal {st : SettingsStore} {module text : String} {g : UpdateFault}
    (h : readModule st.current module text = .error g) : Refusal st module text g := by
  rw [readModule_eq] at h
  split at h
  · rename_i hm
    exact readBranch_refusal (by simp [hm]) (SelectorSettings.bind_ok_iff {} · _) h
  · split at h
    · rename_i hm
      exact readBranch_refusal (by simp [hm]) (RoutingSettings.bind_ok_iff {} · _) h
    · split at h
      · rename_i hm
        exact readBranch_refusal (by simp [hm]) (StickySettings.bind_ok_iff {} · _) h
      · rename_i hm'' hm' hm
        cases h
        exact ⟨rfl, by simp [moduleFields, hm, hm', hm'']⟩

theorem update_refusal {st : SettingsStore} {module text : String} {f : UpdateFault}
    (h : st.update module text = .error f) : Refusal st module text f := by
  unfold update at h
  cases hread : readModule st.current module text with
  | error g =>
    simp only [hread, Bind.bind, Except.bind, Except.error.injEq] at h
    subst h
    exact readModule_refusal hread
  | ok r =>
    obtain ⟨p, next⟩ := r
    simp only [hread, Bind.bind, Except.bind] at h
    cases hfile : st.file with
    | none => simp [hfile, pure, Except.pure] at h
    | some old =>
      cases hwrite : settingsFileText next with
      | ok fileText => simp [hfile, hwrite, pure, Except.pure] at h
      | error e =>
        simp only [hfile, hwrite, throw, throwThe, MonadExceptOf.throw, Except.error.injEq] at h
        subst h
        obtain ⟨j, hj, hover⟩ := readModule_overlaid hread
        exact ⟨by simp [hfile], j, next, hj, hover, hwrite⟩

theorem update_error_of_refusal {st : SettingsStore} {module text : String} {f : UpdateFault}
    (h : Refusal st module text f) : ∃ g, st.update module text = .error g := by
  unfold update
  cases hread : readModule st.current module text with
  | error g => exact ⟨g, by simp [Bind.bind, Except.bind]⟩
  | ok r =>
    obtain ⟨p, next⟩ := r
    obtain ⟨fields, j, hfields, hj, hb⟩ := (readModule_ok_iff _ _ _).1 ⟨_, hread⟩
    cases f with
    | unknownModule m =>
      obtain ⟨-, hnone⟩ := h
      rw [hfields] at hnone
      cases hnone
    | unreadable m cause =>
      cases cause with
      | malformed e =>
        obtain ⟨-, -, he⟩ := h
        rw [hj] at he
        cases he
      | mismatch e =>
        obtain ⟨-, fields', j', hfields', hj', hnb⟩ := h
        rw [hfields, Option.some.injEq] at hfields'
        rw [hj, Except.ok.injEq] at hj'
        subst hfields' hj'
        exact (hnb hb).elim
    | unwritable e =>
      obtain ⟨hfile, j', next', hj', hover', hwrite'⟩ := h
      obtain ⟨j'', hj'', hover⟩ := readModule_overlaid hread
      rw [hj'', Except.ok.injEq] at hj'
      subst hj'
      -- the settings the update would store have the threshold that cannot be written
      have hsel := Overlaid.selector_eq hover hover'
      have hwrite : settingsFileText next = .error e := by
        rw [settingsFileText_error_iff, hsel]
        exact (settingsFileText_error_iff next' e).1 hwrite'
      obtain ⟨old, hold⟩ := Option.isSome_iff_exists.1 hfile
      exact ⟨.unwritable e, by simp [Bind.bind, Except.bind, hold, hwrite, throw, throwThe, MonadExceptOf.throw]⟩

theorem update_overlaid {st : SettingsStore} {module text : String} {p : Payload}
    {next : SettingsStore} (h : st.update module text = .ok (p, next)) :
    ∃ j, Json.parse text = .ok j ∧ Overlaid st.current module j next.current :=
  readModule_overlaid (readModule_of_update h)

/-! ### Updates and their subscribers -/

section Subscribers

variable {σ : Type} (st : SettingsStore)
  (subscribers : List (String × (Payload → σ → Option String × σ))) (module text : String) (s : σ)

theorem updateAsync_of_error {f : UpdateFault} (h : st.update module text = .error f) :
    st.updateAsync subscribers module text s = (some f, st, s) := by
  simp [updateAsync, h]

theorem updateSync_of_error {f : UpdateFault} (h : st.update module text = .error f) :
    st.updateSync subscribers module text s = (some (.refused f), st, s) := by
  simp [updateSync, h]

end Subscribers

/-! ### What an update does not do -/

def oneRuleSettings : RuntimeSettings :=
  ⟨SelectorSettings.builtin, ⟨true, none, some ["a.example"]⟩, StickySettings.builtin⟩

def refusingSelector : List (String × (Payload → Unit → Option String × Unit)) :=
  [(selectorKey, fun _ _ => (some "selector refused", ()))]

def nullRuleText : String := "\x7b\"rules\":[null]\x7d"

theorem parse_nullRuleText :
    Json.parse nullRuleText = .ok (.object [("rules", .array [.null])]) := by
  unfold nullRuleText
  cbv

end SettingsStore

end Settings

end ProxyRouter
