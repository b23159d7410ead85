import ProxyRouter.Console.Delivery
import ProxyRouter.Proofs.StoredSettings
import Mathlib
/-!
Notifications of settings updates reach the subscribers after the update is stored. Delivered in
the order the updates were stored, they leave the live modules following the store and each
subscriber handed the last stored settings of its module; an update stored and delivered at once
is the console's own update of settings. When a notification overtakes an earlier one, the
earlier one arrives last and its subscriber ends on settings a later update replaced.
-/
namespace ProxyRouter.Settings

theorem SettingsStore.payload_of_update {st store : SettingsStore} {module text : String}
    {p : Payload} (h : st.update module text = .ok (p, store)) : store.current.payload module = p := by
  have hsr : selectorKey ≠ routingKey := by decide
  have hss : selectorKey ≠ stickyKey := by decide
  have hrs : routingKey ≠ stickyKey := by decide
  rcases SettingsStore.readModule_cases (SettingsStore.readModule_of_update h) with
    ⟨rfl, c, rfl, hcur⟩ | ⟨rfl, c, rfl, hcur⟩ | ⟨rfl, c, rfl, hcur⟩
  · simp [RuntimeSettings.payload, hcur]
  · simp [RuntimeSettings.payload, hcur, hsr.symm]
  · simp [RuntimeSettings.payload, hcur, hss.symm, hrs.symm]

end ProxyRouter.Settings

namespace ProxyRouter.Console

open Settings Selection

namespace RouterState

@[simp] theorem notify_settings (s : RouterState) (module : String) (p : Payload) :
    (s.notify module p).2.settings = s.settings := by
  unfold notify
  repeat' split
  all_goals rfl

theorem notify_withSettings (s : RouterState) (store : SettingsStore) (module : String)
    (p : Payload) :
    (({ s with settings := store } : RouterState).notify module p).2 =
      { (s.notify module p).2 with settings := store } := by
  unfold notify
  repeat' split
  all_goals first | rfl | simp_all

end RouterState

namespace Delivery

theorem run_append (d : Delivery) (a b : List DeliveryEvent) : d.run (a ++ b) = (d.run a).run b :=
  List.foldl_append

/-- What the subscribers hold once every notification in flight has reached them, in the order
the updates were stored. -/
def settle (d : Delivery) : Delivery :=
  d.inFlight.foldl (fun acc n => acc.receive n.1 n.2) { d with inFlight := [] }

@[simp] theorem receive_inFlight (d : Delivery) (module : String) (p : Payload) :
    (d.receive module p).inFlight = d.inFlight := rfl

@[simp] theorem receive_settings (d : Delivery) (module : String) (p : Payload) :
    (d.receive module p).state.settings = d.state.settings := by
  simp [receive]

theorem receive_withInFlight (d : Delivery) (l : List (String × Payload)) (module : String)
    (p : Payload) : { d.receive module p with inFlight := l } = { d with inFlight := l }.receive module p :=
  rfl

theorem foldl_receive_inFlight (ns : List (String × Payload)) (d : Delivery) :
    (ns.foldl (fun acc n => acc.receive n.1 n.2) d).inFlight = d.inFlight := by
  induction ns generalizing d with
  | nil => rfl
  | cons n ns ih => rw [List.foldl_cons, ih]; rfl

theorem foldl_receive_settings (ns : List (String × Payload)) (d : Delivery) :
    (ns.foldl (fun acc n => acc.receive n.1 n.2) d).state.settings = d.state.settings := by
  induction ns generalizing d with
  | nil => rfl
  | cons n ns ih => rw [List.foldl_cons, ih, receive_settings]

theorem foldl_receive_withSettings (ns : List (String × Payload)) (d : Delivery)
    (store : SettingsStore) :
    ns.foldl (fun acc n => acc.receive n.1 n.2) { d with state := { d.state with settings := store } } =
      let e := ns.foldl (fun acc n => acc.receive n.1 n.2) d
      { e with state := { e.state with settings := store } } := by
  induction ns generalizing d with
  | nil => rfl
  | cons n ns ih =>
    rw [List.foldl_cons, List.foldl_cons, ← ih]
    congr 1
    simp only [receive, RouterState.notify_withSettings]

@[simp] theorem settle_inFlight (d : Delivery) : d.settle.inFlight = [] :=
  foldl_receive_inFlight _ _

@[simp] theorem settle_settings (d : Delivery) : d.settle.state.settings = d.state.settings :=
  foldl_receive_settings _ _

theorem settle_of_idle {d : Delivery} (h : d.inFlight = []) : d.settle = d := by
  cases d with
  | mk state inFlight handed =>
    simp only at h
    subst h
    rfl

theorem settle_deliver_oldest (d : Delivery) : (d.step (.deliver 0)).settle = d.settle := by
  cases hd : d.inFlight with
  | nil => simp [step, hd]
  | cons n rest =>
    simp only [step, hd, List.getElem?_cons_zero, List.eraseIdx_cons_zero]
    simp only [settle, hd, List.foldl_cons, receive_withInFlight]

theorem settle_store {d : Delivery} {module text : String} {p : Payload} {store : SettingsStore}
    (h : d.state.settings.update module text = .ok (p, store)) :
    (d.step (.store module text)).settle =
      { d.settle with state := { d.settle.state with settings := store } }.receive module p := by
  simp only [step, h, settle, List.foldl_append, List.foldl_cons, List.foldl_nil]
  congr 1
  exact foldl_receive_withSettings d.inFlight { d with inFlight := [] } store

theorem followsStore_settle_step {d : Delivery} (h : RouterState.FollowsStore d.settle.state)
    (e : DeliveryEvent) (he : e = .deliver 0 ∨ ∃ module text, e = .store module text) :
    RouterState.FollowsStore (d.step e).settle.state := by
  rcases he with rfl | ⟨module, text, rfl⟩
  · rwa [settle_deliver_oldest]
  · cases hu : d.state.settings.update module text with
    | error f => simpa [step, hu] using h
    | ok out =>
      obtain ⟨p, store⟩ := out
      have hu' : d.settle.state.settings.update module text = .ok (p, store) := by
        rw [settle_settings]; exact hu
      rw [settle_store hu]
      have hnext := h.update module text
      rw [RouterState.updateSettings_of_stored hu'] at hnext
      exact hnext

theorem handed_settle_step {d : Delivery} {module : String}
    (h : d.settle.handed module = some (d.settle.state.settings.current.payload module))
    (e : DeliveryEvent) (he : e = .deliver 0 ∨ ∃ text, e = .store module text) :
    (d.step e).settle.handed module =
      some ((d.step e).settle.state.settings.current.payload module) := by
  rcases he with rfl | ⟨text, rfl⟩
  · rwa [settle_deliver_oldest]
  · cases hu : d.state.settings.update module text with
    | error f => simpa [step, hu] using h
    | ok out =>
      obtain ⟨p, store⟩ := out
      rw [settle_store hu]
      simp [receive, SettingsStore.payload_of_update hu]

end Delivery

theorem run_store_deliver (s : RouterState) (module text : String) :
    ((Delivery.start s).run [.store module text, .deliver 0]).state =
      (s.updateSettings module text).2 := by
  cases hu : s.settings.update module text with
  | error f =>
    simp [Delivery.run, Delivery.step, Delivery.start, hu, RouterState.updateSettings_of_refused hu]
  | ok out =>
    obtain ⟨p, store⟩ := out
    simp [Delivery.run, Delivery.step, Delivery.start, Delivery.receive, hu,
      RouterState.updateSettings_of_stored hu]

/-- When every notification is delivered in the order the updates were stored, updates of one
module leave, once nothing is in flight, its subscriber handed the module's last stored
settings, and the live modules following the store as `FollowsStore` says. -/
theorem in_order_delivery_settles {s : RouterState} (hs : RouterState.SettingsRun s)
    {module : String} {events : List DeliveryEvent}
    (hevents : ∀ e ∈ events, e = .deliver 0 ∨ ∃ text, e = .store module text)
    (hdone : ((Delivery.start s).run events).inFlight = []) :
    ((Delivery.start s).run events).handed module =
        some (((Delivery.start s).run events).state.settings.current.payload module) ∧
      RouterState.FollowsStore ((Delivery.start s).run events).state := by
  -- both facts hold of what the subscribers settle on, at the start and after every event
  have key : ∀ (es : List DeliveryEvent) (d : Delivery),
      (∀ e ∈ es, e = .deliver 0 ∨ ∃ text, e = .store module text) →
      d.settle.handed module = some (d.settle.state.settings.current.payload module) →
      RouterState.FollowsStore d.settle.state →
      (d.run es).settle.handed module = some ((d.run es).settle.state.settings.current.payload module) ∧
        RouterState.FollowsStore (d.run es).settle.state := by
    intro es
    induction es with
    | nil => exact fun d _ hh hf => ⟨hh, hf⟩
    | cons e es ih =>
      intro d hes hh hf
      have he := hes e List.mem_cons_self
      have he' : e = .deliver 0 ∨ ∃ module text, e = .store module text := by
        rcases he with he | ⟨text, he⟩
        · exact .inl he
        · exact .inr ⟨module, text, he⟩
      exact ih (d.step e) (fun e' h' => hes e' (List.mem_cons_of_mem e h'))
        (Delivery.handed_settle_step hh e he) (Delivery.followsStore_settle_step hf e he')
  have hstart : (Delivery.start s).inFlight = [] := rfl
  obtain ⟨hh, hf⟩ := key events (Delivery.start s) hevents
    (by rw [Delivery.settle_of_idle hstart]; rfl)
    (by rw [Delivery.settle_of_idle hstart]; exact hs.followsStore)
  rw [Delivery.settle_of_idle hdone] at hh hf
  exact ⟨hh, hf⟩

namespace RouterState

theorem update_selector_strategy (st : SettingsStore) {text strategy : String}
    (hparse : Json.parse text = .ok (.object [("strategy", .string strategy)]))
    (hfile : st.file = none) :
    st.update selectorKey text =
      .ok (.selector { st.current.selector with strategy := strategy },
        { st with current := { st.current.copy with
          selector := { st.current.selector with strategy := strategy } } }) := by
  have hfield : Json.fieldFor ["strategy", "healthy_threshold", "fallback_to_all"] "strategy" =
      some "strategy" := by decide
  simp [SettingsStore.update, SettingsStore.readModule, hparse, hfile, SelectorSettings.bind, hfield,
    Json.bindText, bind, Except.bind, pure, Except.pure]

def randomStrategyText : String := "\x7b\"strategy\":\"random\"\x7d"

def leastUsedStrategyText : String := "\x7b\"strategy\":\"least_used\"\x7d"

theorem parse_randomStrategyText :
    Json.parse randomStrategyText = .ok (.object [("strategy", .string "random")]) := by
  unfold randomStrategyText
  cbv

theorem parse_leastUsedStrategyText :
    Json.parse leastUsedStrategyText = .ok (.object [("strategy", .string "least_used")]) := by
  unfold leastUsedStrategyText
  cbv

/-- Two updates of the selector stored one after the other, their notifications delivered in the
order given. -/
def twoSelectorUpdates (first second : Nat) : List DeliveryEvent :=
  [.store selectorKey randomStrategyText, .store selectorKey leastUsedStrategyText,
    .deliver first, .deliver second]

def quietSelectorWith (strategy : String) : SelectorSettings :=
  { quietSettings.selector with strategy := strategy }

theorem run_twoSelectorStores :
    (Delivery.start quietState).run [.store selectorKey randomStrategyText,
        .store selectorKey leastUsedStrategyText] =
      { state := { quietState with settings := { current := { quietSettings.copy with
          selector := quietSelectorWith "least_used" } } },
        inFlight := [(selectorKey, .selector (quietSelectorWith "random")),
          (selectorKey, .selector (quietSelectorWith "least_used"))],
        handed := (Delivery.start quietState).handed } := by
  have h1 := update_selector_strategy quietState.settings parse_randomStrategyText rfl
  have h2 := update_selector_strategy
    { quietState.settings with current := { quietState.settings.current.copy with
      selector := { quietState.settings.current.selector with strategy := "random" } } }
    parse_leastUsedStrategyText rfl
  simp only [Delivery.run, List.foldl_cons, List.foldl_nil, Delivery.step, Delivery.start, h1]
  simp only [h2, List.nil_append, List.cons_append]
  rfl

end RouterState

open RouterState in
/-- Two overlapping updates of the selector whose notifications arrive in the order stored leave
the selector on the second. -/
theorem in_order_delivery_settles_two_updates :
    SettingsRun quietState ∧
    (∀ e ∈ twoSelectorUpdates 0 0, e = .deliver 0 ∨ ∃ text, e = .store selectorKey text) ∧
    ((Delivery.start quietState).run (twoSelectorUpdates 0 0)).inFlight = [] ∧
    ((Delivery.start quietState).run (twoSelectorUpdates 0 0)).handed selectorKey =
        some (((Delivery.start quietState).run (twoSelectorUpdates 0 0)).state.settings.current.payload
          selectorKey) ∧
      FollowsStore ((Delivery.start quietState).run (twoSelectorUpdates 0 0)).state :=
  have hrun : SettingsRun quietState := .start quietState_assembled
  have hevents : ∀ e ∈ twoSelectorUpdates 0 0, e = .deliver 0 ∨ ∃ text, e = .store selectorKey text := by
    simp [twoSelectorUpdates]
  have hdone : ((Delivery.start quietState).run (twoSelectorUpdates 0 0)).inFlight = [] := by
    rw [show twoSelectorUpdates 0 0 =
      [.store selectorKey randomStrategyText, .store selectorKey leastUsedStrategyText] ++
        [.deliver 0, .deliver 0] from rfl, Delivery.run_append, run_twoSelectorStores]
    rfl
  ⟨hrun, hevents, hdone, in_order_delivery_settles hrun hevents hdone⟩

open RouterState in
/-- When the notification of the second of two selector updates overtakes the first, nothing is
left in flight, yet the selector was handed the first update's settings last: it keeps the random
strategy while the store holds the least used one. -/
theorem overtaken_notification_leaves_superseded_settings :
    ((Delivery.start quietState).run (twoSelectorUpdates 1 0)).inFlight = [] ∧
    ((Delivery.start quietState).run (twoSelectorUpdates 1 0)).handed selectorKey =
      some (.selector (quietSelectorWith "random")) ∧
    ((Delivery.start quietState).run (twoSelectorUpdates 1 0)).state.settings.current.selector =
      quietSelectorWith "least_used" ∧
    ((Delivery.start quietState).run (twoSelectorUpdates 1 0)).state.router.selector.config.strategy =
      Strategy.random ∧
    (Strategy.parse ((Delivery.start quietState).run
      (twoSelectorUpdates 1 0)).state.settings.current.selector.strategy).1 = Strategy.leastUsed := by
  have hsplit : twoSelectorUpdates 1 0 =
      [.store selectorKey randomStrategyText, .store selectorKey leastUsedStrategyText] ++
        [.deliver 1, .deliver 0] := rfl
  rw [hsplit, Delivery.run_append, run_twoSelectorStores]
  refine ⟨rfl, rfl, rfl, ?_, ?_⟩
  · have hrandom : (Strategy.parse "random").1 = Strategy.random := by cbv
    simp [Delivery.run, Delivery.step, Delivery.receive, notify_selector, Selector.applyConfig,
      quietSelectorWith, hrandom]
  · show (Strategy.parse "least_used").1 = Strategy.leastUsed
    cbv

end ProxyRouter.Console
