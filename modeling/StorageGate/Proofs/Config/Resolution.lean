import Mathlib.Data.List.Induction
import Mathlib.Tactic.Tauto
import StorageGate.Config.Registry
import StorageGate.Proofs.Traversal
/-!
# What a registry lacks

A registry is built by registrations, and of two under one name for one role the later stands (`Stands`).  A role lacks its
component if the configured name was never registered, or if the constructor that stands under it refuses (`Lacks`).
Resolving a configuration fails with what the first such role lacks, and only then (`resolve_eq_error_iff`).
-/
namespace StorageGate

/-- The components that fill a role. -/
def Role.Component (m : Type → Type) : Role → Type
  | .authorizer => Authorizer m
  | .urlSigner => UrlSigner m
  | .bucketLister => BucketLister m
  | .transactionIds => TransactionIds m

/-- The place of a role in the order of the roles. -/
def Role.rank : Role → Nat
  | .authorizer => 0
  | .urlSigner => 1
  | .bucketLister => 2
  | .transactionIds => 3

theorem Role.exists_iff {P : Role → Prop} :
    (∃ role, P role) ↔ P .authorizer ∨ P .urlSigner ∨ P .bucketLister ∨ P .transactionIds := by
  constructor
  · rintro ⟨role, h⟩
    cases role <;> simp [h]
  · rintro (h | h | h | h) <;> exact ⟨_, h⟩

theorem Role.forall_iff {P : Role → Prop} :
    (∀ role, P role) ↔ P .authorizer ∧ P .urlSigner ∧ P .bucketLister ∧ P .transactionIds := by
  refine ⟨fun h => ⟨h _, h _, h _, h _⟩, ?_⟩
  rintro ⟨ha, hs, hl, ht⟩ role
  cases role <;> assumption

/-- A constructor that is registered under a name for a role. -/
structure Registration (m : Type → Type) where
  role : Role
  name : String
  make : Constructor (role.Component m)

/-- What the component of a role is made from. -/
def Config.settingsFor (config : Config) (role : Role) : ComponentSettings where
  role
  name := (config.component role).name
  settings := (config.component role).settings
  shared := config.credentials

namespace Registry

variable {m : Type → Type}

/-- The registry with a registration more. -/
def register (r : Registry m) : Registration m → Registry m
  | ⟨.authorizer, name, make⟩ => r.withAuthorizer name make
  | ⟨.urlSigner, name, make⟩ => r.withUrlSigner name make
  | ⟨.bucketLister, name, make⟩ => r.withBucketLister name make
  | ⟨.transactionIds, name, make⟩ => r.withTransactionIds name make

/-- The registry that registrations build from nothing. -/
def ofRegistrations (steps : List (Registration m)) : Registry m := steps.foldl register {}

/-- The constructors of a role. -/
def table (r : Registry m) : (role : Role) → List (String × Constructor (role.Component m))
  | .authorizer => r.authorizers
  | .urlSigner => r.urlSigners
  | .bucketLister => r.bucketListers
  | .transactionIds => r.transactionIds

/-- The registrations that build the standard registry. -/
def standardRegistrations [Monad m] : List (Registration m) :=
  [⟨.authorizer, "prefix", makeKeyRules⟩, ⟨.authorizer, "deny-all", fun s => (s.read none readReason).map denyAll⟩,
   ⟨.authorizer, "default", fun _ => .ok allowAll⟩, ⟨.urlSigner, "default", makeSigner⟩,
   ⟨.bucketLister, "default", makeLister⟩, ⟨.transactionIds, "none", fun _ => .ok .untracked⟩,
   ⟨.transactionIds, "default", fun _ => .ok .ulids⟩]

theorem ofRegistrations_standard [Monad m] : ofRegistrations (standardRegistrations : List (Registration m)) = standard :=
  rfl

theorem table_empty (role : Role) : (ofRegistrations [] : Registry m).table role = [] := by
  cases role <;> rfl

theorem table_register_self (r : Registry m) (step : Registration m) :
    (r.register step).table step.role = (step.name, step.make) :: r.table step.role := by
  obtain ⟨role, name, make⟩ := step
  cases role <;> rfl

theorem table_register_of_ne (r : Registry m) {step : Registration m} {role : Role} (h : step.role ≠ role) :
    (r.register step).table role = r.table role := by
  obtain ⟨role', name, make⟩ := step
  cases role' <;> cases role <;> first | rfl | exact absurd rfl h

/-! ## What stands under a name -/

/-- Whether nothing is registered under a name for a role. -/
def Absent (steps : List (Registration m)) (role : Role) (name : String) : Prop :=
  ∀ step ∈ steps, ¬ (step.role = role ∧ step.name = name)

/-- Whether a constructor is the last that is registered under a name for a role. -/
def Stands (steps : List (Registration m)) (role : Role) (name : String) (make : Constructor (role.Component m)) : Prop :=
  ∃ before after, steps = before ++ ⟨role, name, make⟩ :: after ∧ Absent after role name

section Lookup

variable {steps : List (Registration m)} {step : Registration m} {role : Role} {name : String}
  {make : Constructor (role.Component m)}

theorem ofRegistrations_concat : ofRegistrations (steps ++ [step]) = (ofRegistrations steps).register step := by
  rw [ofRegistrations, List.foldl_append]
  rfl

theorem lookup_register (r : Registry m) (h : ¬ (step.role = role ∧ step.name = name)) :
    ((r.register step).table role).lookup name = (r.table role).lookup name := by
  by_cases hrole : step.role = role
  · subst hrole
    have hname : (name == step.name) = false := beq_false_of_ne fun he => h ⟨rfl, he.symm⟩
    rw [table_register_self, List.lookup_cons, hname]
  · rw [table_register_of_ne r hrole]

theorem absent_concat : Absent (steps ++ [step]) role name ↔
    Absent steps role name ∧ ¬ (step.role = role ∧ step.name = name) := by
  simp [Absent, or_imp, forall_and]

/-- What stands after a registration more: that one, or what stood before if it has another name or role. -/
theorem stands_concat : Stands (steps ++ [step]) role name make ↔
    step = ⟨role, name, make⟩ ∨ ¬ (step.role = role ∧ step.name = name) ∧ Stands steps role name make := by
  constructor
  · rintro ⟨before, after, heq, hafter⟩
    rcases List.eq_nil_or_concat after with rfl | ⟨others, last, rfl⟩
    · exact .inl (List.singleton_inj.1 (List.append_inj' heq rfl).2)
    · have hends : steps ++ [step] = (before ++ ⟨role, name, make⟩ :: others) ++ [last] := by simpa using heq
      obtain ⟨rfl, hlast⟩ := List.append_inj' hends rfl
      obtain rfl := List.singleton_inj.1 hlast
      obtain ⟨hothers, hstep⟩ := absent_concat.1 (List.concat_eq_append ▸ hafter)
      exact .inr ⟨hstep, before, others, rfl, hothers⟩
  · rintro (rfl | ⟨hstep, before, after, rfl, hafter⟩)
    · exact ⟨steps, [], rfl, by simp [Absent]⟩
    · exact ⟨before, after ++ [step], by simp, absent_concat.2 ⟨hafter, hstep⟩⟩

/-- **A name is looked up in vain** exactly if nothing is registered under it. -/
theorem lookup_eq_none_iff : ((ofRegistrations steps).table role).lookup name = none ↔ Absent steps role name := by
  induction steps using List.reverseRecOn with
  | nil => rw [table_empty]; simp [Absent]
  | append_singleton steps step ih =>
    rw [ofRegistrations_concat, absent_concat]
    by_cases hstep : step.role = role ∧ step.name = name
    · obtain ⟨rfl, rfl⟩ := hstep
      simp [table_register_self]
    · rw [lookup_register _ hstep, ih, and_iff_left hstep]

/-- **What is found under a name** is the constructor that stands there. -/
theorem lookup_eq_some_iff :
    ((ofRegistrations steps).table role).lookup name = some make ↔ Stands steps role name make := by
  induction steps using List.reverseRecOn with
  | nil => rw [table_empty]; simp [Stands]
  | append_singleton steps step ih =>
    rw [ofRegistrations_concat, stands_concat]
    by_cases hstep : step.role = role ∧ step.name = name
    · obtain ⟨role', name', make'⟩ := step
      obtain ⟨rfl, rfl⟩ := hstep
      rw [table_register_self (ofRegistrations steps) ⟨role', name', make'⟩, List.lookup_cons_self]
      simp
    · have hne : step ≠ ⟨role, name, make⟩ := fun he => hstep (he ▸ ⟨rfl, rfl⟩)
      rw [lookup_register _ hstep, ih, and_iff_right hstep, or_iff_right hne]

end Lookup

/-! ## Roles without a component -/

/-- Why a role has no component: nothing is registered under the configured name, or what stands there refuses. -/
inductive Lacks (steps : List (Registration m)) (config : Config) (role : Role) : InitializationError → Prop
  | unknown (h : Absent steps role (config.component role).name) :
    Lacks steps config role (.unknownComponent role (config.component role).name)
  | refused {make : Constructor (role.Component m)} {cause : InitializationError}
    (h : Stands steps role (config.component role).name make) (hcause : make (config.settingsFor role) = .error cause) :
    Lacks steps config role cause

/-- The component that a registry makes for a role. -/
def component (r : Registry m) (config : Config) (role : Role) : Except InitializationError (role.Component m) :=
  construct (r.table role) config role

variable {steps : List (Registration m)} {config : Config}

/-- **A component cannot be made** exactly if its role lacks it. -/
theorem component_eq_error_iff {role : Role} {e : InitializationError} :
    (ofRegistrations steps).component config role = .error e ↔ Lacks steps config role e := by
  unfold component construct
  dsimp only
  cases hlookup : ((ofRegistrations steps).table role).lookup (config.component role).name with
  | none =>
    have habsent := lookup_eq_none_iff.1 hlookup
    constructor
    · intro h
      cases h
      exact .unknown habsent
    · rintro (_ | ⟨hstands, _⟩)
      · rfl
      · rw [lookup_eq_some_iff.2 hstands] at hlookup
        cases hlookup
  | some make =>
    constructor
    · exact fun h => .refused (lookup_eq_some_iff.1 hlookup) h
    · rintro (habsent | ⟨hstands, hcause⟩)
      · rw [lookup_eq_none_iff.2 habsent] at hlookup
        cases hlookup
      · rw [lookup_eq_some_iff.2 hstands] at hlookup
        cases hlookup
        exact hcause

theorem exists_component_iff {role : Role} :
    (∃ x, (ofRegistrations steps).component config role = .ok x) ↔ ∀ e, ¬ Lacks steps config role e := by
  simp only [← component_eq_error_iff]
  cases (ofRegistrations steps).component config role <;> simp

theorem resolve_eq (r : Registry m) (config : Config) : r.resolve config = (do
    let authorizer ← r.component config .authorizer
    let signer ← r.component config .urlSigner
    let lister ← r.component config .bucketLister
    let transactionIds ← r.component config .transactionIds
    return { authorizer, signer, lister, transactionIds }) := rfl

/-- The roles are filled in order, so it is the first that cannot be filled whose error comes out. -/
theorem resolve_eq_error_iff_component {r : Registry m} {e : InitializationError} : r.resolve config = .error e ↔
    ∃ role, r.component config role = .error e ∧
      ∀ earlier : Role, earlier.rank < role.rank → ∃ x, r.component config earlier = .ok x := by
  have hdone (p : Policy m) : (pure p : Except InitializationError (Policy m)) ≠ .error e := nofun
  rw [resolve_eq]
  simp only [Traversal.bind_eq_error_iff, Role.exists_iff, Role.forall_iff, hdone, and_false, exists_false, or_false,
    exists_and_right]
  simp [Role.rank]
  tauto

/-- **Resolving a configuration fails** with what the first role lacks that lacks something, and only then. -/
theorem resolve_eq_error_iff {e : InitializationError} : (ofRegistrations steps).resolve config = .error e ↔
    ∃ role, Lacks steps config role e ∧
      ∀ earlier : Role, earlier.rank < role.rank → ∀ e', ¬ Lacks steps config earlier e' := by
  simp only [resolve_eq_error_iff_component, component_eq_error_iff, exists_component_iff]

theorem exists_resolve_eq_error_iff : (∃ e, (ofRegistrations steps).resolve config = .error e) ↔
    ∃ role e, Lacks steps config role e := by
  constructor
  · rintro ⟨e, h⟩
    obtain ⟨role, hlacks, -⟩ := resolve_eq_error_iff.1 h
    exact ⟨role, e, hlacks⟩
  · rintro ⟨role, e, hlacks⟩
    -- Of the roles that lack something there is a first.
    induction hrank : role.rank using Nat.strongRecOn generalizing role e with
    | ind n ih =>
      by_cases hearlier : ∃ earlier : Role, earlier.rank < role.rank ∧ ∃ e', Lacks steps config earlier e'
      · obtain ⟨earlier, hlt, e', he'⟩ := hearlier
        exact ih earlier.rank (hrank ▸ hlt) earlier e' he' rfl
      · simp only [not_exists, not_and] at hearlier
        exact ⟨e, resolve_eq_error_iff.2 ⟨role, hlacks, hearlier⟩⟩

end Registry
end StorageGate
