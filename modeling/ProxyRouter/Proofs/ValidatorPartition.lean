import Mathlib.Data.List.Basic
import Mathlib.Data.List.Induction
import ProxyRouter.Pool.Validator
/-!
The validator partitions a roster. It looks at each proxy with its name trimmed and makes five
checks in a fixed order: the name is not empty, it is not among the names accepted before, a
proxy without server has no port, a proxy with a server has a port from 1 to 65535, and (unless
unknown protocols are allowed) the protocol is a known one. A proxy that passes all five is
accepted; any other is rejected with its position, its trimmed name and the reason of the first
check it fails.
-/
namespace ProxyRouter.Pool

def ProxyIdentity.trimmed (id : ProxyIdentity) : ProxyIdentity :=
  { id with name := Text.trimBlank id.name }

/-- The validator's checks, in the order it makes them. -/
inductive Check where
  /-- the name is not empty -/
  | name
  /-- the name was not accepted before -/
  | unique
  /-- a proxy without server has no port -/
  | serverPort
  /-- a proxy with a server has a port from 1 to 65535 -/
  | portRange
  /-- the protocol is known, unless unknown ones are allowed -/
  | protocol
deriving DecidableEq, Repr

namespace Check

def fails (allowUnknown : Bool) (seen : List String) (id : ProxyIdentity) : Check → Bool
  | .name => id.name.isEmpty
  | .unique => seen.contains id.name
  | .serverPort => id.server.isEmpty && id.port != 0
  | .portRange => !id.server.isEmpty && (id.port < 1 || id.port > 65535)
  | .protocol => !allowUnknown && !knownProtocols.contains id.protocol

def reason (id : ProxyIdentity) : Check → String
  | .name => "empty name"
  | .unique => "duplicate name"
  | .serverPort => "port without server"
  | .portRange => "invalid port"
  | .protocol => "unknown protocol \"" ++ id.protocol ++ "\""

end Check

def checks : List Check := [.name, .unique, .serverPort, .portRange, .protocol]

def firstFailure (allowUnknown : Bool) (seen : List String) (id : ProxyIdentity) : Option Check :=
  checks.find? (·.fails allowUnknown seen id)

/-- What it takes to be accepted: a non-empty name not accepted before, a port exactly when there
is a server and then from 1 to 65535, and a known protocol unless unknown ones are allowed. -/
def Acceptable (allowUnknown : Bool) (seen : List String) (id : ProxyIdentity) : Prop :=
  id.name ≠ "" ∧ id.name ∉ seen ∧
    (if id.server = "" then id.port = 0 else 1 ≤ id.port ∧ id.port ≤ 65535) ∧
    (allowUnknown = false → id.protocol ∈ knownProtocols)

instance (allowUnknown : Bool) (seen : List String) (id : ProxyIdentity) :
    Decidable (Acceptable allowUnknown seen id) :=
  inferInstanceAs (Decidable (_ ∧ _ ∧ _ ∧ _))

section Verdict

variable (allowUnknown : Bool) (seen : List String) (id : ProxyIdentity)

theorem invalidReason_eq_firstFailure :
    invalidReason allowUnknown seen id = (firstFailure allowUnknown seen id).map (·.reason id) := by
  unfold invalidReason firstFailure
  simp only [checks, List.find?_cons, List.find?_nil, Check.fails]
  -- both sides test the same five conditions in the same order
  generalize id.name.isEmpty = unnamed
  generalize seen.contains id.name = taken
  generalize (id.server.isEmpty && id.port != 0) = portless
  generalize (!id.server.isEmpty && (id.port < 1 || id.port > 65535)) = outOfRange
  generalize (!allowUnknown && !knownProtocols.contains id.protocol) = unknown
  cases unnamed <;> cases taken <;> cases portless <;> cases outOfRange <;> cases unknown <;> rfl

theorem firstFailure_eq_none_iff :
    firstFailure allowUnknown seen id = none ↔ Acceptable allowUnknown seen id := by
  simp only [firstFailure, List.find?_eq_none, checks, List.mem_cons, List.not_mem_nil,
    or_false, forall_eq_or_imp, forall_eq, Check.fails, Bool.not_eq_true, Acceptable]
  by_cases hserver : id.server = "" <;> cases allowUnknown <;>
    simp [hserver, String.isEmpty_iff]

end Verdict

/-! ### One proxy through the validator -/

theorem validateStep_eq (allowUnknown : Bool) (valid : List ProxyIdentity)
    (rejected : List Rejection) (i : Nat) (id : ProxyIdentity) :
    validateStep allowUnknown (valid, rejected, names valid, i) id =
      match firstFailure allowUnknown (names valid) id.trimmed with
      | none => (valid ++ [id.trimmed], rejected, names (valid ++ [id.trimmed]), i + 1)
      | some c => (valid, rejected ++ [⟨i, id.trimmed.name, c.reason id.trimmed⟩], names valid, i + 1) := by
  have hreason := invalidReason_eq_firstFailure allowUnknown (names valid) id.trimmed
  simp only [validateStep, ProxyIdentity.trimmed] at hreason ⊢
  cases hfirst : firstFailure allowUnknown (names valid) { id with name := Text.trimBlank id.name } <;>
    simp_all [names]

theorem foldl_validateStep_state (allowUnknown : Bool) (ids : List ProxyIdentity) :
    let acc := ids.foldl (validateStep allowUnknown) ([], [], [], 0)
    acc.2.2 = (names acc.1, ids.length) := by
  induction ids using List.reverseRecOn with
  | nil => rfl
  | append_singleton ids id ih =>
    simp only at ih ⊢
    rw [List.foldl_append]
    generalize ids.foldl (validateStep allowUnknown) ([], [], [], 0) = acc at ih ⊢
    obtain ⟨valid, rejected, seen, n⟩ := acc
    simp only [Prod.mk.injEq] at ih
    obtain ⟨rfl, rfl⟩ := ih
    simp only [List.foldl_cons, List.foldl_nil, validateStep_eq, List.length_append,
      List.length_singleton]
    split <;> rfl

theorem validate_append_singleton (allowUnknown : Bool) (ids : List ProxyIdentity)
    (id : ProxyIdentity) :
    validate allowUnknown (ids ++ [id]) =
      let (valid, rejected) := validate allowUnknown ids
      match firstFailure allowUnknown (names valid) id.trimmed with
      | none => (valid ++ [id.trimmed], rejected)
      | some c => (valid, rejected ++ [⟨ids.length, id.trimmed.name, c.reason id.trimmed⟩]) := by
  have hstate := foldl_validateStep_state allowUnknown ids
  simp only at hstate
  unfold validate
  rw [List.foldl_append]
  generalize ids.foldl (validateStep allowUnknown) ([], [], [], 0) = acc at hstate ⊢
  obtain ⟨valid, rejected, seen, n⟩ := acc
  simp only [Prod.mk.injEq] at hstate
  obtain ⟨rfl, rfl⟩ := hstate
  simp only [List.foldl_cons, List.foldl_nil, validateStep_eq]
  split <;> rfl

/-! ### The whole roster -/

def acceptedBefore (allowUnknown : Bool) (ids : List ProxyIdentity) (i : Nat) : List String :=
  names (validate allowUnknown (ids.take i)).1

theorem acceptedBefore_append_of_le {allowUnknown : Bool} {ids : List ProxyIdentity}
    {i : Nat} (more : List ProxyIdentity) (h : i ≤ ids.length) :
    acceptedBefore allowUnknown (ids ++ more) i = acceptedBefore allowUnknown ids i := by
  simp only [acceptedBefore, List.take_append_of_le_length h]

theorem filterMap_acceptedBefore_append {β : Type} (allowUnknown : Bool)
    (ids more : List ProxyIdentity) (f : List String → ProxyIdentity × Nat → Option β) :
    ids.zipIdx.filterMap (fun p => f (acceptedBefore allowUnknown (ids ++ more) p.2) p) =
      ids.zipIdx.filterMap (fun p => f (acceptedBefore allowUnknown ids p.2) p) :=
  List.filterMap_congr fun p hp => by
    have hlt := List.snd_lt_of_mem_zipIdx hp
    rw [acceptedBefore_append_of_le more (by omega)]

theorem acceptedBefore_length (allowUnknown : Bool) (ids more : List ProxyIdentity) :
    acceptedBefore allowUnknown (ids ++ more) ids.length = names (validate allowUnknown ids).1 := by
  simp only [acceptedBefore, List.take_left']

/-- The validator accepts exactly the acceptable proxies, trimmed, in input order; it rejects
every other one, in increasing position, with the reason of the first check it fails; so the
two lists together are as long as the input and the accepted names are distinct. -/
theorem validator_partition (allowUnknown : Bool) (ids : List ProxyIdentity) :
    (validate allowUnknown ids).1 = ids.zipIdx.filterMap (fun p =>
        if Acceptable allowUnknown (acceptedBefore allowUnknown ids p.2) p.1.trimmed then
          some p.1.trimmed
        else none) ∧
    (validate allowUnknown ids).2 = ids.zipIdx.filterMap (fun p =>
        (firstFailure allowUnknown (acceptedBefore allowUnknown ids p.2) p.1.trimmed).map
          fun c => ⟨p.2, p.1.trimmed.name, c.reason p.1.trimmed⟩) ∧
    (validate allowUnknown ids).1.length + (validate allowUnknown ids).2.length = ids.length ∧
    (names (validate allowUnknown ids).1).Nodup := by
  induction ids using List.reverseRecOn with
  | nil => simp [validate, names]
  | append_singleton ids id ih =>
    obtain ⟨hvalid, hrejected, hlength, hnodup⟩ := ih
    -- the verdicts on the earlier proxies see the same accepted names as before
    rw [validate_append_singleton, List.zipIdx_append, List.filterMap_append,
      List.filterMap_append, filterMap_acceptedBefore_append allowUnknown ids [id]
        (fun seen p => if Acceptable allowUnknown seen p.1.trimmed then some p.1.trimmed else none),
      filterMap_acceptedBefore_append allowUnknown ids [id]
        (fun seen p => (firstFailure allowUnknown seen p.1.trimmed).map
          fun c => (⟨p.2, p.1.trimmed.name, c.reason p.1.trimmed⟩ : Rejection)),
      ← hvalid, ← hrejected]
    simp only [List.zipIdx_cons, List.zipIdx_nil, List.filterMap_cons, List.filterMap_nil,
      Nat.zero_add, acceptedBefore_length]
    generalize validate allowUnknown ids = out at hlength hnodup ⊢
    obtain ⟨valid, rejected⟩ := out
    simp only at hlength hnodup ⊢
    cases hfirst : firstFailure allowUnknown (names valid) id.trimmed with
    | none =>
      have hok := (firstFailure_eq_none_iff _ _ _).mp hfirst
      simp only [hok, if_true, Option.map_none, List.length_append, List.length_singleton,
        List.length_append]
      refine ⟨by simp, by simp, by omega, ?_⟩
      simpa [names, List.nodup_append] using And.intro hnodup hok.2.1
    | some c =>
      have hnot : ¬ Acceptable allowUnknown (names valid) id.trimmed := fun h => by
        rw [(firstFailure_eq_none_iff _ _ _).mpr h] at hfirst
        cases hfirst
      simp only [hnot, if_false, Option.map_some, List.length_append, List.length_singleton]
      exact ⟨by simp, by simp, by omega, hnodup⟩

end ProxyRouter.Pool
