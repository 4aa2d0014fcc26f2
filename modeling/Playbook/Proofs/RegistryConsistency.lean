import Playbook.Proofs.Registration

/-!
# Consistent registries

A registry is built from the empty one by registering extensions, in relaxed or in strict mode.
In every registry that is built so, comparators are stored under their own names, the canonical
name of an operator belongs to a comparator and is an operator itself, and all operations have been
compiled.
-/

namespace Playbook.Registry

/-- The canonical name of an operator. -/
def canonicalName? (registry : Registry) (operator : String) : Option String :=
  Ordered.find? operator registry.operators

/-- The comparator that is stored under its name. -/
def comparatorNamed? (registry : Registry) (name : String) : Option Comparator :=
  Ordered.find? name registry.comparators

theorem comparator?_eq (registry : Registry) (operator : String) :
    registry.comparator? operator =
      (registry.canonicalName? operator).bind registry.comparatorNamed? := rfl

/-- What comes from registering extensions one after the other. -/
inductive Built : Registry → Prop where
  | empty : Built {}
  | register {registry : Registry} :
      Built registry → ∀ registration, Built (registry.register registration).1

theorem canonicalName?_addComparator (registry : Registry) (declared : Comparator)
    (source operator : String) :
    (registry.addComparator declared source).1.canonicalName? operator =
      if (declared.name :: declared.aliases).contains operator then some declared.name
      else registry.canonicalName? operator := by
  unfold canonicalName?
  rw [addComparator_eq, Ordered.find?_putAll, ← List.map_reverse, Ordered.find?_map_pair]
  simp only [List.contains_reverse]
  split <;> rfl

theorem comparatorNamed?_addComparator (registry : Registry) (declared : Comparator)
    (source name : String) :
    (registry.addComparator declared source).1.comparatorNamed? name =
      if declared.name = name then some declared else registry.comparatorNamed? name := by
  unfold comparatorNamed?
  rw [addComparator_eq]
  split
  · rename_i same
    rw [← same]
    exact Ordered.find?_put_self ..
  · rename_i other
    exact Ordered.find?_put_of_ne other ..

structure Consistent (registry : Registry) : Prop where
  compiled : ∀ kind operation, registry.operation? kind = some operation →
    ∃ declared plugin, Capability.compile declared plugin = .ok operation
  named : ∀ name declared, registry.comparatorNamed? name = some declared → declared.name = name
  canonical : ∀ operator name, registry.canonicalName? operator = some name →
    (registry.comparatorNamed? name).isSome = true ∧ (registry.canonicalName? name).isSome = true

theorem Consistent.addCapability {registry : Registry} (consistent : registry.Consistent)
    (declared : Capability) (source : String) (plugin : Option String) :
    (registry.addCapability declared source plugin).1.Consistent := by
  rw [addCapability_eq]
  cases success : declared.compile plugin with
  | error clash => exact consistent
  | ok operation =>
      refine ⟨?_, consistent.named, consistent.canonical⟩
      intro kind found member
      change Ordered.find? kind
        (Ordered.put (declared.qualifiedName plugin) operation registry.operations) = _ at member
      by_cases same : declared.qualifiedName plugin = kind
      · rw [same, Ordered.find?_put_self] at member
        cases member
        exact ⟨declared, plugin, success⟩
      · rw [Ordered.find?_put_of_ne same] at member
        exact consistent.compiled kind found member

theorem Consistent.addComparator {registry : Registry} (consistent : registry.Consistent)
    (declared : Comparator) (source : String) :
    (registry.addComparator declared source).1.Consistent := by
  refine ⟨?compiled, ?named, ?canonical⟩
  case compiled =>
    rw [addComparator_eq]
    exact consistent.compiled
  case named =>
    intro name found member
    rw [comparatorNamed?_addComparator] at member
    split at member
    · rename_i same
      cases member
      exact same
    · exact consistent.named name found member
  case canonical =>
    intro operator name member
    rw [comparatorNamed?_addComparator, canonicalName?_addComparator]
    rw [canonicalName?_addComparator] at member
    split at member
    · cases member
      simp
    · -- An older name stays stored; as an operator it may have come to mean the new comparator.
      obtain ⟨stored, operates⟩ := consistent.canonical operator name member
      constructor
      · split
        · rfl
        · exact stored
      · split
        · rfl
        · exact operates

theorem Built.consistent {registry : Registry} (built : registry.Built) :
    registry.Consistent := by
  induction built with
  | empty =>
      constructor
      · intro kind operation member
        cases member
      · intro name declared member
        cases member
      · intro operator name member
        cases member
  | register _ registration ih =>
      cases registration with
      | capability declared source plugin => exact ih.addCapability declared source plugin
      | comparator declared source => exact ih.addComparator declared source
      | issue message => exact ih

/-- Strict mode refuses registrations and makes no others. -/
theorem built_registerAll (strict : Bool) {progress : Progress}
    (built : progress.registry.Built) (registrations : List Registration) :
    (registerAll strict progress registrations).registry.Built := by
  induction registrations generalizing progress with
  | nil => exact built
  | cons registration rest ih =>
      rw [registerAll_cons]
      apply ih
      rcases progress.registry_register strict registration with same | registered
      · rw [same]
        exact built
      · rw [registered]
        exact built.register registration

theorem built_discover (strict : Bool) (points : List EntryPoint) :
    (discover strict points).registry.Built :=
  built_registerAll strict .empty _

end Playbook.Registry
