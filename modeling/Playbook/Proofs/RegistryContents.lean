import Mathlib.Data.List.Nodup
import Playbook.Proofs.LastMembers
import Playbook.Proofs.RegistryConsistency

/-!
# What a registry holds after discovery

Relaxed discovery registers the built-in extensions and then those of the plugins, one after the
other, and leaves out what cannot be used.  So a kind means the last capability of that kind which
can be compiled, the name of a comparator means the last comparator with this name, and an operator
means the last comparator that has it as its name or as an alias.  Kinds of plugins have a point, by
which they are told from each other and from the built-in ones.
-/

namespace Playbook

/-- The capability that is registered, with the plugin that it comes from. -/
def Registration.capability? : Registration → Option (Capability × Option String)
  | .capability declared _ plugin => some (declared, plugin)
  | _ => none

def Registration.comparator? : Registration → Option Comparator
  | .comparator declared _ => some declared
  | _ => none

/-- The plugin that an entry point loads. -/
def EntryPoint.plugin? (point : EntryPoint) : Option Plugin :=
  match point.loaded with
  | .plugin plugin => some plugin
  | _ => none

namespace Registry

/-- The built-in capabilities and then those of the plugins, in the order of the entry points. -/
def declaredCapabilities (points : List EntryPoint) : List (Capability × Option String) :=
  Capability.builtin.map (fun declared => (declared, none)) ++
    (points.filterMap EntryPoint.plugin?).flatMap fun plugin =>
      plugin.capabilities.map fun declared => (declared, some plugin.name)

def declaredComparators (points : List EntryPoint) : List Comparator :=
  Comparator.builtin ++ (points.filterMap EntryPoint.plugin?).flatMap Plugin.comparators

/-- Declarations of a kind that can be compiled. -/
def BuildsAs (kind : String) (declaration : Capability × Option String) : Prop :=
  declaration.1.qualifiedName declaration.2 = kind ∧
    ∃ operation, declaration.1.compile declaration.2 = .ok operation

section Declarations

variable {γ : Type} {project : Registration → Option γ} {ofPlugin : Plugin → List γ}

/-- Only plugins contribute to what leaves out issues. -/
theorem filterMap_registrations (ignores : ∀ message, project (.issue message) = none)
    (provides : ∀ (point : EntryPoint) (plugin : Plugin), point.loaded = .plugin plugin →
      point.registrations.filterMap project = ofPlugin plugin)
    (points : List EntryPoint) :
    (points.flatMap EntryPoint.registrations).filterMap project =
      (points.filterMap EntryPoint.plugin?).flatMap ofPlugin := by
  induction points with
  | nil => rfl
  | cons point rest ih =>
      rw [List.flatMap_cons, List.filterMap_append, ih]
      cases loaded : point.loaded with
      | plugin plugin =>
          rw [provides point plugin loaded]
          simp [EntryPoint.plugin?, loaded]
      | failed message => simp [EntryPoint.registrations, EntryPoint.plugin?, loaded, ignores]
      | invalid => simp [EntryPoint.registrations, EntryPoint.plugin?, loaded, ignores]
      | other kind => simp [EntryPoint.registrations, EntryPoint.plugin?, loaded, ignores]

theorem filterMap_capability? (points : List EntryPoint) :
    (builtinRegistrations ++ points.flatMap EntryPoint.registrations).filterMap
      Registration.capability? = declaredCapabilities points := by
  rw [List.filterMap_append, filterMap_registrations (fun _ => rfl)]
  · rfl
  · intro point plugin loaded
    simp [EntryPoint.registrations, loaded, Registration.capability?, List.filterMap_map,
      Function.comp_def]

theorem filterMap_comparator? (points : List EntryPoint) :
    (builtinRegistrations ++ points.flatMap EntryPoint.registrations).filterMap
      Registration.comparator? = declaredComparators points := by
  rw [List.filterMap_append, filterMap_registrations (fun _ => rfl)]
  · rfl
  · intro point plugin loaded
    simp [EntryPoint.registrations, loaded, Registration.comparator?, List.filterMap_map,
      Function.comp_def]

end Declarations

/-- The registry of relaxed discovery. -/
def discovered (points : List EntryPoint) : Registry :=
  (builtinRegistrations ++ points.flatMap EntryPoint.registrations).foldl
    (fun registry registration => (registry.register registration).1) {}

theorem discover_relaxed (points : List EntryPoint) :
    (discover false points).failure = none ∧
      (discover false points).registry = discovered points := by
  have running : (⟨{}, [], none⟩ : Progress).failure = none := rfl
  exact registerAll_relaxed running _

theorem ofEntryPoints_relaxed (points : List EntryPoint) :
    ∃ warnings, ofEntryPoints false points = .ok (discovered points, warnings) := by
  obtain ⟨running, same⟩ := discover_relaxed points
  refine ⟨(discover false points).warnings, ?_⟩
  simp only [ofEntryPoints, running, same]

theorem built_discovered (points : List EntryPoint) : (discovered points).Built := by
  rw [← (discover_relaxed points).2]
  exact built_discover false points

/-- Entry points that load no plugin leave the registry as it is. -/
theorem discovered_filter (points : List EntryPoint) :
    discovered (points.filter fun point => point.plugin?.isSome) = discovered points := by
  unfold discovered
  rw [List.foldl_append, List.foldl_append]
  generalize builtinRegistrations.foldl _ _ = registry
  induction points generalizing registry with
  | nil => rfl
  | cons point rest ih =>
      cases loads : point.plugin?.isSome with
      | true =>
          rw [List.filter_cons, if_pos loads, List.flatMap_cons, List.flatMap_cons,
            List.foldl_append, List.foldl_append, ih]
      | false =>
          have issue : ∃ message, point.registrations = [.issue message] := by
            unfold EntryPoint.plugin? at loads
            unfold EntryPoint.registrations
            cases loaded : point.loaded <;> simp [loaded] at loads ⊢
          obtain ⟨message, only⟩ := issue
          rw [List.filter_cons, if_neg (by simp [loads]), ih, List.flatMap_cons, only]
          rfl

/-- The operation that a declaration gives to a kind. -/
def operationOf (kind : String) (declaration : Capability × Option String) : Option Operation :=
  if declaration.1.qualifiedName declaration.2 = kind then
    (declaration.1.compile declaration.2).toOption
  else none

theorem isSome_operationOf (kind : String) (declaration : Capability × Option String) :
    (operationOf kind declaration).isSome = true ↔ BuildsAs kind declaration := by
  unfold operationOf BuildsAs
  cases declaration.1.compile declaration.2 <;> simp [Except.toOption]

theorem operation?_register (kind : String) (registry : Registry) (registration : Registration) :
    (registry.register registration).1.operation? kind =
      (registration.capability?.bind (operationOf kind)).or (registry.operation? kind) := by
  cases registration with
  | comparator declared source =>
      dsimp only [register]
      rw [addComparator_eq]
      rfl
  | issue message => rfl
  | capability declared source plugin =>
      dsimp only [register, Registration.capability?, Option.bind_some, operationOf]
      rw [addCapability_eq]
      cases compiled : declared.compile plugin with
      | error clash => simp [Except.toOption]
      | ok operation =>
          unfold operation?
          by_cases same : declared.qualifiedName plugin = kind
          · simp [same, Except.toOption]
          · simp [same, Ordered.find?_put_of_ne same]

/-- A capability leaves comparators and operators. -/
theorem addCapability_operators (registry : Registry) (declared : Capability) (source : String)
    (plugin : Option String) :
    (registry.addCapability declared source plugin).1.comparators = registry.comparators ∧
      (registry.addCapability declared source plugin).1.operators = registry.operators := by
  rw [addCapability_eq]
  cases declared.compile plugin <;> exact ⟨rfl, rfl⟩

theorem comparatorNamed?_register (name : String) (registry : Registry)
    (registration : Registration) :
    (registry.register registration).1.comparatorNamed? name =
      (registration.comparator?.bind fun declared =>
        if declared.name = name then some declared else none).or
          (registry.comparatorNamed? name) := by
  cases registration with
  | comparator declared source =>
      refine (comparatorNamed?_addComparator registry declared source name).trans ?_
      by_cases same : declared.name = name <;> simp [Registration.comparator?, same]
  | issue message => rfl
  | capability declared source plugin =>
      unfold comparatorNamed? register
      dsimp only
      rw [(registry.addCapability_operators declared source plugin).1]
      rfl

theorem canonicalName?_register (operator : String) (registry : Registry)
    (registration : Registration) :
    (registry.register registration).1.canonicalName? operator =
      (registration.comparator?.bind fun declared =>
        if (declared.name :: declared.aliases).contains operator then some declared.name
        else none).or (registry.canonicalName? operator) := by
  cases registration with
  | comparator declared source =>
      refine (canonicalName?_addComparator registry declared source operator).trans ?_
      dsimp only [Registration.comparator?, Option.bind_some]
      split <;> rfl
  | issue message => rfl
  | capability declared source plugin =>
      unfold canonicalName? register
      dsimp only
      rw [(registry.addCapability_operators declared source plugin).2]
      rfl

theorem operation?_discovered (kind : String) (points : List EntryPoint) :
    (discovered points).operation? kind =
      ((declaredCapabilities points).filterMap (operationOf kind)).getLast? := by
  rw [← filterMap_capability?, List.filterMap_filterMap]
  exact (view_foldl (operation? · kind) (operation?_register kind) _ _).trans Option.or_none

theorem comparatorNamed?_discovered (name : String) (points : List EntryPoint) :
    (discovered points).comparatorNamed? name =
      ((declaredComparators points).filterMap fun declared =>
        if declared.name = name then some declared else none).getLast? := by
  rw [← filterMap_comparator?, List.filterMap_filterMap]
  exact (view_foldl (comparatorNamed? · name) (comparatorNamed?_register name) _ _).trans
    Option.or_none

theorem canonicalName?_discovered (operator : String) (points : List EntryPoint) :
    (discovered points).canonicalName? operator =
      ((declaredComparators points).filterMap fun declared =>
        if (declared.name :: declared.aliases).contains operator then some declared.name
        else none).getLast? := by
  rw [← filterMap_comparator?, List.filterMap_filterMap]
  exact (view_foldl (canonicalName? · operator) (canonicalName?_register operator) _ _).trans
    Option.or_none

theorem operation?_discovered_eq_some_iff {points : List EntryPoint} {kind : String}
    {operation : Operation} :
    (discovered points).operation? kind = some operation ↔
      ∃ declaration, IsLast (declaredCapabilities points) (BuildsAs kind) declaration ∧
        declaration.1.compile declaration.2 = .ok operation := by
  rw [operation?_discovered, getLast?_filterMap_eq_some_iff (isSome_operationOf kind)]
  apply exists_congr
  intro declaration
  apply and_congr_right
  rintro ⟨_, _, _, ⟨same, _⟩, _⟩
  unfold operationOf
  rw [if_pos same]
  cases declaration.1.compile declaration.2 <;> simp [Except.toOption]

theorem isSome_operation?_discovered {points : List EntryPoint} {kind : String} :
    ((discovered points).operation? kind).isSome = true ↔
      ∃ declaration ∈ declaredCapabilities points, BuildsAs kind declaration := by
  rw [operation?_discovered, List.getLast?_filterMap, List.findSome?_isSome_iff]
  apply exists_congr
  intro declaration
  rw [List.mem_reverse, isSome_operationOf]

theorem comparatorNamed?_discovered_eq_some_iff {points : List EntryPoint} {name : String}
    {comparator : Comparator} :
    (discovered points).comparatorNamed? name = some comparator ↔
      IsLast (declaredComparators points) (fun other => other.name = name) comparator := by
  rw [comparatorNamed?_discovered,
    getLast?_filterMap_eq_some_iff fun other => by rw [Option.isSome_ite]]
  constructor
  · rintro ⟨found, last, gives⟩
    split at gives <;> cases gives
    exact last
  · intro last
    obtain ⟨_, _, _, same, _⟩ := id last
    exact ⟨comparator, last, if_pos same⟩

theorem canonicalName?_discovered_eq_some_iff {points : List EntryPoint}
    {operator name : String} :
    (discovered points).canonicalName? operator = some name ↔
      ∃ comparator, IsLast (declaredComparators points)
        (fun other => operator ∈ other.name :: other.aliases) comparator ∧
          comparator.name = name := by
  rw [canonicalName?_discovered,
    getLast?_filterMap_eq_some_iff fun other => by
      rw [Option.isSome_ite, List.contains_iff_mem]]
  apply exists_congr
  intro comparator
  apply and_congr_right
  rintro ⟨_, _, _, member, _⟩
  rw [if_pos (List.contains_iff_mem.mpr member), Option.some_inj]

theorem Built.nodup_operators {registry : Registry} (built : registry.Built) :
    (registry.operators.map Prod.fst).Nodup := by
  induction built with
  | empty => exact List.nodup_nil
  | @register registry _ registration ih =>
      cases registration with
      | capability declared source plugin =>
          change ((registry.addCapability declared source plugin).1.operators.map _).Nodup
          rw [(registry.addCapability_operators declared source plugin).2]
          exact ih
      | comparator declared source =>
          change ((registry.addComparator declared source).1.operators.map _).Nodup
          rw [addComparator_eq]
          exact Ordered.nodup_keys_putAll ih _
      | issue message => exact ih

/-- What an operator means is the name of a comparator. -/
theorem Built.isSome_comparatorNamed? {registry : Registry} (built : registry.Built)
    {entry : String × String} (member : entry ∈ registry.operators) :
    (registry.comparatorNamed? entry.2).isSome = true :=
  (built.consistent.canonical entry.1 entry.2
    (Ordered.find?_eq_some_of_mem built.nodup_operators member)).1

section Kinds

/-- The kind of a plugin's capability tells its plugin and its name. -/
theorem splitPoint?_qualifiedName (declared : Capability) {plugin : String}
    (valid : Name.isVariable plugin.toList = true) :
    Name.splitPoint? (declared.qualifiedName (some plugin)).toList =
      some (plugin.toList, declared.name.toList) := by
  have nonempty : plugin.isEmpty = false := by
    rw [Bool.eq_false_iff]
    intro empty
    rw [String.isEmpty_iff.mp empty] at valid
    cases valid
  have joined : (declared.qualifiedName (some plugin)).toList =
      plugin.toList ++ '.' :: declared.name.toList := by
    simp [Capability.qualifiedName, nonempty]
  rw [joined]
  exact Name.splitPoint?_append (Name.point_not_mem_of_isVariable valid) _

theorem splitPoint?_builtin : ∀ declared ∈ Capability.builtin,
    Name.splitPoint? declared.name.toList = none := by
  decide

theorem compile_builtin : ∀ declared ∈ Capability.builtin,
    ∃ operation, declared.compile none = .ok operation := by
  intro declared own
  simp only [Capability.builtin, List.mem_cons, List.not_mem_nil, or_false] at own
  rcases own with rfl | rfl | rfl | rfl | rfl | rfl | rfl | rfl <;> exact ⟨_, rfl⟩

theorem nodup_names_builtin : (Capability.builtin.map Capability.name).Nodup := by
  decide

variable {points : List EntryPoint}

theorem mem_declaredCapabilities {declaration : Capability × Option String}
    (member : declaration ∈ declaredCapabilities points) :
    (declaration.1 ∈ Capability.builtin ∧ declaration.2 = none) ∨
      ∃ plugin ∈ points.filterMap EntryPoint.plugin?, declaration.2 = some plugin.name := by
  rcases List.mem_append.mp member with own | ofPlugin
  · obtain ⟨declared, inside, rfl⟩ := List.mem_map.mp own
    exact .inl ⟨inside, rfl⟩
  · obtain ⟨plugin, loaded, inside⟩ := List.mem_flatMap.mp ofPlugin
    obtain ⟨declared, _, rfl⟩ := List.mem_map.mp inside
    exact .inr ⟨plugin, loaded, rfl⟩

variable (named : ∀ plugin ∈ points.filterMap EntryPoint.plugin?,
  Name.isVariable plugin.name.toList = true)

include named

theorem splitPoint?_kind {declaration : Capability × Option String}
    (member : declaration ∈ declaredCapabilities points) :
    Name.splitPoint? (declaration.1.qualifiedName declaration.2).toList =
      declaration.2.map fun plugin => (plugin.toList, declaration.1.name.toList) := by
  obtain ⟨declared, source⟩ := declaration
  rcases mem_declaredCapabilities member with ⟨own, rfl⟩ | ⟨plugin, loaded, rfl⟩
  · exact splitPoint?_builtin declared own
  · exact splitPoint?_qualifiedName declared (named plugin loaded)

/-- Kinds tell the plugins and the names of declared capabilities. -/
theorem eq_of_qualifiedName_eq {first second : Capability × Option String}
    (firstMember : first ∈ declaredCapabilities points)
    (secondMember : second ∈ declaredCapabilities points)
    (same : first.1.qualifiedName first.2 = second.1.qualifiedName second.2) :
    first.2 = second.2 ∧ first.1.name = second.1.name := by
  have splits := splitPoint?_kind named firstMember
  rw [same, splitPoint?_kind named secondMember] at splits
  obtain ⟨declared, plugin⟩ := first
  obtain ⟨other, otherPlugin⟩ := second
  cases plugin <;> cases otherPlugin <;> simp at splits
  case none.none => exact ⟨rfl, same⟩
  case some.some =>
    obtain ⟨samePlugin, sameName⟩ := splits
    exact ⟨congrArg some (String.toList_injective samePlugin.symm),
      String.toList_injective sameName.symm⟩

/-- No plugin takes a built-in kind. -/
theorem operation?_discovered_builtin {declared : Capability}
    (own : declared ∈ Capability.builtin) :
    ∃ operation, declared.compile none = .ok operation ∧
      (discovered points).operation? declared.name = some operation := by
  obtain ⟨compiled, success⟩ := compile_builtin declared own
  have declaredFirst : (declared, none) ∈ declaredCapabilities points :=
    List.mem_append_left _ (List.mem_map.mpr ⟨declared, own, rfl⟩)
  have registered := isSome_operation?_discovered.mpr
    ⟨_, declaredFirst, (rfl : _ = declared.name), compiled, success⟩
  obtain ⟨operation, found⟩ := Option.isSome_iff_exists.mp registered
  obtain ⟨⟨other, plugin⟩, last, gives⟩ := operation?_discovered_eq_some_iff.mp found
  obtain ⟨_, _, _, ⟨same, _⟩, _⟩ := id last
  obtain ⟨rfl, sameName⟩ := eq_of_qualifiedName_eq named last.mem declaredFirst same
  rcases mem_declaredCapabilities last.mem with ⟨otherOwn, _⟩ | ⟨_, _, impossible⟩
  · have equal := List.inj_on_of_nodup_map nodup_names_builtin otherOwn own sameName
    exact ⟨operation, equal ▸ gives, found⟩
  · cases impossible

end Kinds

/-- Relaxed discovery succeeds, and what its registry holds is read off the declarations. -/
theorem ofEntryPoints_contents {points : List EntryPoint}
    (named : ∀ plugin ∈ points.filterMap EntryPoint.plugin?,
      Name.isVariable plugin.name.toList = true) :
    ∃ registry warnings, ofEntryPoints false points = .ok (registry, warnings) ∧
      (∀ kind, (registry.operation? kind).isSome = true ↔
        ∃ declaration ∈ declaredCapabilities points, BuildsAs kind declaration) ∧
      (∀ kind operation, registry.operation? kind = some operation ↔
        ∃ declaration, IsLast (declaredCapabilities points) (BuildsAs kind) declaration ∧
          declaration.1.compile declaration.2 = .ok operation) ∧
      (∀ name comparator, registry.comparatorNamed? name = some comparator ↔
        IsLast (declaredComparators points) (fun other => other.name = name) comparator) ∧
      (∀ operator name, registry.canonicalName? operator = some name ↔
        ∃ comparator, IsLast (declaredComparators points)
          (fun other => operator ∈ other.name :: other.aliases) comparator ∧
            comparator.name = name) ∧
      (∀ entry ∈ registry.operators, (registry.comparatorNamed? entry.2).isSome = true) ∧
      (∃ others, ofEntryPoints false (points.filter fun point => point.plugin?.isSome) =
        .ok (registry, others)) ∧
      (∀ declared ∈ Capability.builtin, ∃ operation, declared.compile none = .ok operation ∧
        registry.operation? declared.name = some operation) ∧
      (∀ first ∈ declaredCapabilities points, ∀ second ∈ declaredCapabilities points,
        first.1.qualifiedName first.2 = second.1.qualifiedName second.2 →
          first.2 = second.2 ∧ first.1.name = second.1.name) := by
  obtain ⟨warnings, made⟩ := ofEntryPoints_relaxed points
  refine ⟨discovered points, warnings, made, ?kinds, ?operations, ?comparators, ?operators, ?values,
    ?failing, ?builtin, ?distinct⟩
  case kinds => exact fun _ => isSome_operation?_discovered
  case operations => exact fun _ _ => operation?_discovered_eq_some_iff
  case comparators => exact fun _ _ => comparatorNamed?_discovered_eq_some_iff
  case operators => exact fun _ _ => canonicalName?_discovered_eq_some_iff
  case values => exact fun _ member => (built_discovered points).isSome_comparatorNamed? member
  case failing =>
    have without := ofEntryPoints_relaxed (points.filter fun point => point.plugin?.isSome)
    rwa [discovered_filter] at without
  case builtin => exact fun _ own => operation?_discovered_builtin named own
  case distinct =>
    intro first firstMember second secondMember same
    exact eq_of_qualifiedName_eq named firstMember secondMember same

namespace Shadowing

def pause : Capability := { Capability.sleep with name := "pause" }

/-- A capability whose parameter has a reserved name. -/
def unusable : Capability := { pause with parameters := [("kind", {})] }

/-- A comparator in the place of a built-in one. -/
def same : Comparator := { Comparator.equals with aliases := ["same"] }

/-- A plugin behind an entry point that can not be loaded. -/
def points : List EntryPoint :=
  [⟨"broken", "broken:plugin", .failed "no such module"⟩,
    ⟨"tools", "tools:plugin", .plugin ⟨"tools", 1, [pause, unusable], [same]⟩⟩]

theorem ofEntryPoints_shadowing :
    (∀ plugin ∈ points.filterMap EntryPoint.plugin?, Name.isVariable plugin.name.toList = true) ∧
      ∃ registry warnings, ofEntryPoints false points = .ok (registry, warnings) ∧
        (∃ operation, registry.operation? "tools.pause" = some operation ∧
          pause.compile (some "tools") = .ok operation) ∧
        (registry.operation? "sleep").isSome = true ∧
        registry.canonicalName? "same" = some "equals" ∧
        registry.comparatorNamed? "equals" = some same := by
  have named : ∀ plugin ∈ points.filterMap EntryPoint.plugin?,
      Name.isVariable plugin.name.toList = true := by
    decide
  obtain ⟨registry, warnings, made, _, operations, comparators, operators, _, _, builtin, _⟩ :=
    ofEntryPoints_contents named
  have pauses : IsLast (declaredCapabilities points) (BuildsAs "tools.pause")
      (pause, some "tools") := by
    refine ⟨Capability.builtin.map fun declared => (declared, none),
      [(unusable, some "tools")], rfl, ⟨by decide, _, rfl⟩, ?_⟩
    intro other inside builds
    rw [List.mem_singleton.mp inside] at builds
    obtain ⟨_, operation, success⟩ := builds
    cases success
  have last : ∀ property : Comparator → Prop, property same →
      IsLast (declaredComparators points) property same := by
    intro property holds
    exact ⟨Comparator.builtin, [], rfl, holds, by simp⟩
  refine ⟨named, registry, warnings, made, ⟨_, ?found, rfl⟩, ?sleep, ?same, ?equals⟩
  case found => exact (operations "tools.pause" _).mpr ⟨_, pauses, rfl⟩
  case sleep =>
    obtain ⟨operation, _, found⟩ := builtin Capability.sleep (by simp [Capability.builtin])
    exact Option.isSome_iff_exists.mpr ⟨operation, found⟩
  case same => exact (operators "same" "equals").mpr ⟨_, last _ (by simp [same]), rfl⟩
  case equals => exact (comparators "equals" _).mpr (last _ rfl)

end Shadowing

end Registry

end Playbook
