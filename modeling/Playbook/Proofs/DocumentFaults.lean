import Playbook.Proofs.Fallible
import Playbook.Yaml.Document

/-!
# Faults of building values

The documents of a stream are built one after the other, and the failure of the stream itself
comes behind them.  Building a document ends with a fault only if the text of a scalar has no
value under its tag.
-/

namespace Playbook.Yaml

/-- A scalar that has no value. -/
inductive ScalarFault (text : String) : Fault → Prop where
  | truth {fault : Fault} : readTruthScalar text = .error fault → ScalarFault text fault
  | integer {fault : Fault} : readIntegerScalar text = .error fault → ScalarFault text fault
  | float {fault : Fault} : readFloatScalar text = .error fault → ScalarFault text fault
  | time {fault : Fault} : readTimeScalar text = .error fault → ScalarFault text fault

namespace Node

/-- Ending with a fault only because of a scalar. -/
def FaultsByScalar {α : Type} (built : Built α) : Prop :=
  ∀ level fault, built = .error ⟨level, .fault fault⟩ → ∃ text, ScalarFault text fault

section

variable {α β : Type}

theorem faultsByScalar_ok (a : α) : FaultsByScalar (.ok a) := by
  intro level fault failed
  cases failed

theorem faultsByScalar_problem (level : Nat) (kind : Problem) (place : Position) :
    FaultsByScalar (problem level kind place : Built α) := by
  intro other fault failed
  cases failed

theorem FaultsByScalar.bind {first : Built α} {following : α → Built β}
    (firstFaults : FaultsByScalar first) (rest : ∀ a, FaultsByScalar (following a)) :
    FaultsByScalar (first >>= following) := by
  intro level fault failed
  rcases Fallible.bind_eq_error_iff.mp failed with failed | ⟨a, _, failed⟩
  · exact firstFaults level fault failed
  · exact rest a level fault failed

theorem FaultsByScalar.map {built : Built α} (faults : FaultsByScalar built) (f : α → β) :
    FaultsByScalar (built.map f) := by
  intro level fault failed
  exact faults level fault (Fallible.map_eq_error_iff.mp failed)

theorem FaultsByScalar.together {first : Built α} {second : Built β}
    (firstFaults : FaultsByScalar first) (secondFaults : FaultsByScalar second) :
    FaultsByScalar (together first second) := by
  intro level fault failed
  unfold Node.together at failed
  split at failed
  · cases failed
  · cases failed
    exact firstFaults level fault rfl
  · cases failed
    exact secondFaults level fault rfl
  · split at failed
    · cases failed
      exact secondFaults level fault rfl
    · cases failed
      exact firstFaults level fault rfl

theorem faultsByScalar_allTogether {results : List (Built α)}
    (each : ∀ built ∈ results, FaultsByScalar built) : FaultsByScalar (allTogether results) := by
  induction results with
  | nil => exact faultsByScalar_ok []
  | cons first rest ih =>
      have firstFaults := each first List.mem_cons_self
      have restFaults := ih fun built member => each built (List.mem_cons_of_mem _ member)
      exact (firstFaults.together restFaults).map _

end

theorem faultsByScalar_scalarText (level fuel : Nat) (node : Node) :
    FaultsByScalar (scalarText level fuel node) := by
  induction fuel generalizing node with
  | zero =>
      cases node with
      | scalar tag text start => exact faultsByScalar_ok text
      | _ => exact faultsByScalar_problem _ _ _
  | succ fuel ih =>
      cases node with
      | scalar tag text start => exact faultsByScalar_ok text
      | mapping tag pairs start =>
          unfold scalarText
          dsimp only
          cases pairs.find? fun pair => pair.1.tag = standardTag "value" with
          | some pair => exact ih pair.2
          | none => exact faultsByScalar_problem _ _ _
      | _ => exact faultsByScalar_problem _ _ _

theorem faultsByScalar_scalarValue (level : Nat) {read : String → Except Fault Value}
    (reads : ∀ text fault, read text = .error fault → ScalarFault text fault) (node : Node) :
    FaultsByScalar (scalarValue level read node) := by
  apply (faultsByScalar_scalarText level node.size node).bind
  intro text other fault failed
  obtain ⟨original, readFailed, same⟩ := Fallible.mapError_eq_error_iff.mp failed
  cases same
  exact ⟨text, reads text fault readFailed⟩

theorem faultsByScalar_binaryValue (level : Nat) (node : Node) :
    FaultsByScalar (binaryValue level node) := by
  apply (faultsByScalar_scalarText level node.size node).bind
  intro text
  split
  · exact faultsByScalar_problem _ _ _
  · split
    · exact faultsByScalar_ok _
    · exact faultsByScalar_problem _ _ _

theorem faultsByScalar_standardScalar? {level : Nat} {node : Node} {name : String}
    {built : Built Value} (found : standardScalar? level node name = some built) :
    FaultsByScalar built := by
  have never : ∀ {v : String → Value} text fault,
      (Except.ok (v text) : Except Fault Value) = .error fault → ScalarFault text fault := by
    intro v text fault failed
    cases failed
  unfold standardScalar? at found
  split at found
  · cases found
    exact faultsByScalar_scalarValue level never node
  · cases found
    apply faultsByScalar_scalarValue
    intro text fault failed
    exact .truth (Fallible.map_eq_error_iff.mp failed)
  · cases found
    apply faultsByScalar_scalarValue
    intro text fault failed
    exact .integer (Fallible.map_eq_error_iff.mp failed)
  · cases found
    apply faultsByScalar_scalarValue
    intro text fault failed
    exact .float (Fallible.map_eq_error_iff.mp failed)
  · cases found
    apply faultsByScalar_scalarValue
    intro text fault failed
    exact .time failed
  · cases found
    exact faultsByScalar_scalarValue level never node
  · cases found
    exact faultsByScalar_binaryValue level node
  · cases found

theorem faultsByScalar_standardScalar (level : Nat) (node : Node) (name : String) :
    FaultsByScalar ((standardScalar? level node name).getD
      (problem level (.unknownTag node.tag) node.start)) := by
  cases found : standardScalar? level node name with
  | some built => exact faultsByScalar_standardScalar? found
  | none => exact faultsByScalar_problem _ _ _

/-- Merging fails only on nodes of the wrong kind. -/
theorem merging_ne_fault (fault : Fault) (fuel : Nat) :
    (∀ start pairs, mergedPairs start fuel pairs ≠ .error (.fault fault)) ∧
      (∀ start node, mergeSource start fuel node ≠ .error (.fault fault)) ∧
      ∀ start nodes, mergeSources start fuel nodes ≠ .error (.fault fault) := by
  induction fuel with
  | zero =>
      refine ⟨?_, ?_, ?_⟩
      all_goals
        intro start subject failed
        cases failed
  | succ fuel ih =>
      obtain ⟨pairsSafe, sourceSafe, sourcesSafe⟩ := ih
      refine ⟨?pairs, ?source, ?sources⟩
      case pairs =>
        intro start pairs failed
        cases pairs with
        | nil => cases failed
        | cons pair rest =>
            obtain ⟨key, value⟩ := pair
            unfold mergedPairs at failed
            split at failed
            · rcases Fallible.bind_eq_error_iff.mp failed with failed | ⟨merged, _, failed⟩
              · exact sourceSafe start value failed
              · rcases Fallible.bind_eq_error_iff.mp failed with failed | ⟨_, _, failed⟩
                · exact pairsSafe start rest failed
                · cases failed
            · rcases Fallible.bind_eq_error_iff.mp failed with failed | ⟨_, _, failed⟩
              · exact pairsSafe start rest failed
              · cases failed
      case source =>
        intro start node failed
        cases node with
        | mapping tag pairs place =>
            rcases Fallible.bind_eq_error_iff.mp failed with failed | ⟨_, _, failed⟩
            · exact pairsSafe place pairs failed
            · cases failed
        | sequence tag items place => exact sourcesSafe start items failed
        | scalar tag text place => cases failed
        | enclosing place => cases failed
      case sources =>
        intro start nodes failed
        cases nodes with
        | nil => cases failed
        | cons node rest =>
            cases node with
            | mapping tag pairs place =>
                rcases Fallible.bind_eq_error_iff.mp failed with failed | ⟨own, _, failed⟩
                · exact pairsSafe place pairs failed
                · rcases Fallible.bind_eq_error_iff.mp failed with failed | ⟨_, _, failed⟩
                  · exact sourcesSafe start rest failed
                  · cases failed
            | _ => cases failed

theorem flattened_ne_fault (pairs : List (Node × Node)) (start : Position) (fault : Fault) :
    flattened pairs start ≠ .error (.fault fault) := by
  intro failed
  rcases Fallible.bind_eq_error_iff.mp failed with failed | ⟨_, _, failed⟩
  · exact (merging_ne_fault fault _).1 start pairs failed
  · cases failed

theorem faultsByScalar_keyOf (level : Nat) (node : Node) {built : Built Value}
    (faults : FaultsByScalar built) : FaultsByScalar (keyOf level node built) := by
  unfold keyOf
  split
  · exact faultsByScalar_problem _ _ _
  · apply faults.bind
    intro key
    split
    · exact faultsByScalar_ok key
    · exact faultsByScalar_problem _ _ _

/-- All functions that build values at once, by the fuel that they share. -/
theorem faultsByScalar_building (fuel : Nat) :
    (∀ level node, FaultsByScalar (build fuel level node)) ∧
      (∀ level nodes, ∀ built ∈ buildItems fuel level nodes, FaultsByScalar built) ∧
      (∀ level node, FaultsByScalar (buildEntries fuel level node)) ∧
      (∀ level pairs, ∀ built ∈ buildPairs fuel level pairs, FaultsByScalar built) ∧
      (∀ level what node, FaultsByScalar (buildOrdered fuel level what node)) ∧
      ∀ level nodes, ∀ built ∈ buildSingles fuel level nodes, FaultsByScalar built := by
  -- The functions call each other, and each call uses up fuel: one induction serves them all.
  induction fuel with
  | zero =>
      refine ⟨?_, ?_, ?_, ?_, ?_, ?_⟩
      · intro level node
        rw [build]
        exact faultsByScalar_problem _ _ _
      · intro level nodes built member
        simp [buildItems] at member
      · intro level node
        rw [buildEntries]
        exact faultsByScalar_ok []
      · intro level pairs built member
        simp [buildPairs] at member
      · intro level what node
        rw [buildOrdered]
        exact faultsByScalar_problem _ _ _
      · intro level nodes built member
        simp [buildSingles] at member
  | succ fuel ih =>
      obtain ⟨nodeFaults, itemFaults, entryFaults, pairFaults, orderedFaults, singleFaults⟩ := ih
      refine ⟨?build, ?items, ?entries, ?pairs, ?ordered, ?singles⟩
      case build =>
        intro level node
        unfold build
        dsimp only
        split
        · exact faultsByScalar_problem _ _ _
        · exact faultsByScalar_problem _ _ _
        · rename_i same _
          cases same
          split
          · exact faultsByScalar_problem _ _ _
          · split
            · exact (faultsByScalar_allTogether (itemFaults _ _)).map _
            · exact faultsByScalar_problem _ _ _
          · exact (entryFaults _ _).map _
          · exact (entryFaults _ _).map _
          · exact orderedFaults _ _ _
          · exact orderedFaults _ _ _
          · exact faultsByScalar_standardScalar _ _ _
      case items =>
        intro level nodes built member
        cases nodes with
        | nil => simp [buildItems] at member
        | cons first rest =>
            rw [buildItems] at member
            rcases List.mem_cons.mp member with same | later
            · rw [same]
              exact nodeFaults level first
            · exact itemFaults level rest built later
      case entries =>
        intro level node
        cases node with
        | mapping tag pairs start =>
            rw [buildEntries]
            cases merged : flattened pairs start with
            | error failure =>
                -- Merging stands outside of what is built, so its failure is looked at itself.
                intro other fault failed
                cases failed
                exact absurd merged (flattened_ne_fault pairs start fault)
            | ok pairs =>
                exact (faultsByScalar_allTogether (pairFaults level pairs)).map _
        | _ =>
            unfold buildEntries
            exact faultsByScalar_problem _ _ _
      case pairs =>
        intro level pairs built member
        cases pairs with
        | nil => simp [buildPairs] at member
        | cons first rest =>
            obtain ⟨key, value⟩ := first
            rw [buildPairs] at member
            rcases List.mem_cons.mp member with same | later
            · rw [same]
              exact (faultsByScalar_keyOf level key (nodeFaults level key)).together
                (nodeFaults level value)
            · exact pairFaults level rest built later
      case ordered =>
        intro level what node
        cases node with
        | sequence tag nodes start =>
            rw [buildOrdered]
            exact (faultsByScalar_allTogether (singleFaults level nodes)).map _
        | _ =>
            unfold buildOrdered
            exact faultsByScalar_problem _ _ _
      case singles =>
        intro level nodes built member
        cases nodes with
        | nil => simp [buildSingles] at member
        | cons first rest =>
            unfold buildSingles at member
            rcases List.mem_cons.mp member with same | later
            · rw [same]
              split
              · exact ((nodeFaults level _).together (nodeFaults level _)).map _
              · exact faultsByScalar_problem _ _ _
              · exact faultsByScalar_problem _ _ _
            · exact singleFaults level rest built later

/-- A document of which a value cannot be built holds a scalar that has none. -/
theorem scalarFault_of_toValue {node : Node} {fault : Fault}
    (failed : node.toValue = .error (.fault fault)) : ∃ text, ScalarFault text fault := by
  obtain ⟨⟨level, failure⟩, failed, same⟩ := Fallible.mapError_eq_error_iff.mp failed
  cases same
  exact (faultsByScalar_building _).1 0 node level fault failed

end Node

/-- What keeps the values of the documents of a stream from being built. -/
inductive StreamFault (stream : DocumentStream) : Fault → Prop where
  /-- The first document without a value has a scalar without one. -/
  | value {earlier later : List Node} {node : Node} {values : List Value} {text : String}
      {fault : Fault} :
      stream.documents = earlier ++ node :: later → earlier.mapM Node.toValue = .ok values →
      node.toValue = .error (.fault fault) → ScalarFault text fault → StreamFault stream fault
  /-- All documents have values, but a fault is met behind them. -/
  | behind {values : List Value} {fault : Fault} :
      stream.documents.mapM Node.toValue = .ok values → stream.failure = some (.fault fault) →
      StreamFault stream fault

theorem valuesOf_eq_fault_iff {stream : DocumentStream} {fault : Fault} :
    valuesOf stream = .error (.fault fault) ↔ StreamFault stream fault := by
  unfold valuesOf
  rw [Fallible.bind_eq_error_iff]
  constructor
  · intro failed
    rcases failed with failed | ⟨values, built, failed⟩
    · obtain ⟨earlier, node, later, values, whole, before, failed⟩ :=
        Fallible.mapM_eq_error_iff.mp failed
      obtain ⟨text, scalar⟩ := Node.scalarFault_of_toValue failed
      exact .value whole before failed scalar
    · cases behind : stream.failure with
      | none =>
          rw [behind] at failed
          cases failed
      | some failure =>
          rw [behind] at failed
          cases failed
          exact .behind built behind
  · intro faulty
    cases faulty with
    | value whole before failed _ =>
        left
        exact Fallible.mapM_eq_error_iff.mpr ⟨_, _, _, _, whole, before, failed⟩
    | behind built behind =>
        right
        refine ⟨_, built, ?_⟩
        rw [behind]
        rfl

end Playbook.Yaml
