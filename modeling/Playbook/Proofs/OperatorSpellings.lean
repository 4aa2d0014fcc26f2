import Playbook.Proofs.IdleKeys
import Playbook.Proofs.StepFaults
import Playbook.Proofs.TextKeys

/-!
# Operators of assertions

An assertion names its operator under a key of its own or by the only key that has no other meaning.
A document that names none, several or an unknown one breaks a rule.  All documents that name one
operator by any of its names, and have the same fields otherwise, are read as the same assertion.
-/

namespace Playbook.Step

open Fallible Playbook.Field PropertySet

variable {operators : OperatorNames} {document fields : List (String × Value)}

/-- The keys of an assertion that have no meaning of their own. -/
def freeKeys (document : List (String × Value)) : List String :=
  (document.map Prod.fst).filter fun key => !assertionKeys.contains key

/-- A document names an operator under the key for it, with no free keys beside it, or by its only
free key. -/
inductive NamesOperator (document : List (String × Value)) : String → Prop where
  | explicit {name : String} (given : Ordered.find? "operator" document = some (.text name))
      (alone : freeKeys document = []) : NamesOperator document name
  | asKey {name : String} (absent : Ordered.find? "operator" document = none)
      (only : freeKeys document = [name]) : NamesOperator document name

/-- What is wrong with the operator of an assertion, as its message says it. -/
inductive OperatorFault (operators : OperatorNames) (document : List (String × Value)) :
    String → Prop where
  | beside {name : String} (given : Ordered.find? "operator" document = some (.text name))
      (others : freeKeys document ≠ []) : OperatorFault operators document
        ("unexpected keys next to explicit operator: " ++ Text.join ", " (freeKeys document))
  | missing (absent : Ordered.find? "operator" document = none) (none : freeKeys document = []) :
      OperatorFault operators document "assertion has no operator"
  | several (absent : Ordered.find? "operator" document = none)
      (others : 2 ≤ (freeKeys document).length) : OperatorFault operators document
        ("assertion has several operators: " ++ Text.join ", " (freeKeys document))
  | unknown {name : String} (names : NamesOperator document name)
      (unknown : Ordered.find? name operators = none) :
      OperatorFault operators document ("unknown operator " ++ Text.quoted name)

/-! ## Faults -/

theorem unnamedKeys_keyed (document : List (String × Value)) :
    (((keyed document).map Prod.fst).filter fun key => !isNamed assertionKeys key) =
      (freeKeys document).map .text := by
  unfold freeKeys
  rw [map_fst_keyed, List.filter_map]
  rfl

theorem operatorKeys_keyed (document : List (String × Value)) :
    operatorKeys (keyed document) = (freeKeys document).map .text :=
  unnamedKeys_keyed document

theorem severalMessage_texts (explicit : Bool) (names : List String) :
    severalMessage explicit (names.map .text) =
      .ok ((if explicit then "unexpected keys next to explicit operator: "
        else "assertion has several operators: ") ++ Text.join ", " names) := by
  unfold severalMessage
  rw [keyTexts_texts]
  rfl

/-- The operator that a document names is a text. -/
theorem givenOperator?_keyed {v : Value} (texts : ∀ v, Ordered.find? "operator" document = some v →
    ∃ name, v = .text name) (given : givenOperator? (keyed document) = some v) :
    ∃ name, v = .text name := by
  unfold givenOperator? at given
  rw [field?_keyed] at given
  cases held : Ordered.find? "operator" document with
  | some operator =>
      rw [held] at given
      exact texts v (held.trans given)
  | none =>
      rw [held, unnamedKeys_keyed] at given
      dsimp only at given
      split at given
      · rename_i key only
        obtain ⟨name, _, isKey⟩ := List.mem_map.mp (only ▸ List.mem_singleton_self key)
        exact ⟨name, (Option.some.inj given).symm.trans isKey.symm⟩
      · cases given

namespace NamesOperator

variable {name : String} (names : NamesOperator document name)
include names

theorem givenOperator?_eq : givenOperator? (keyed document) = some (.text name) := by
  unfold givenOperator?
  rw [field?_keyed, unnamedKeys_keyed]
  cases names with
  | explicit given alone => rw [given]
  | asKey absent only =>
      rw [absent, only]
      rfl

/-- The operator can be made explicit. -/
theorem exists_collected : ∃ explicit, collectOperator (keyed document) = .ok explicit ∧
    Value.field? "operator" explicit = some (.text name) := by
  have collected : ∃ explicit, collectOperator (keyed document) = .ok explicit := by
    simp only [collectOperator_eq_ok_iff, Value.hasField_eq_isSome, field?_keyed,
      operatorKeys_keyed]
    cases names with
    | explicit given alone => exact ⟨_, .inl ⟨by rw [given]; rfl, by rw [alone]; rfl, rfl⟩⟩
    | asKey absent only => exact ⟨_, .inr ⟨by rw [absent]; rfl, .text name, by rw [only]; rfl, rfl⟩⟩
  obtain ⟨explicit, collected⟩ := collected
  refine ⟨explicit, collected, ?_⟩
  rw [field?_of_collectOperator collected]
  exact names.givenOperator?_eq

end NamesOperator

theorem canonicalOperator_of_known {name canonical : String}
    (known : Ordered.find? name operators = some canonical) :
    canonicalOperator operators (.text name) = .ok canonical := by
  unfold canonicalOperator
  simp only [Value.unhashable?, Value.text?, Option.bind_some, known]

theorem canonicalOperator_of_unknown {name : String}
    (unknown : Ordered.find? name operators = none) :
    canonicalOperator operators (.text name) =
      .error (.issue ⟨.rule ("unknown operator " ++ Text.quoted name), []⟩) := by
  unfold canonicalOperator
  simp only [Value.unhashable?, Value.text?, Option.bind_some, unknown]
  rfl

/-- A document with a wrong operator breaks a rule. -/
theorem readAssertion_of_fault {message : String}
    (fault : OperatorFault operators document message) :
    readAssertion (some operators) (keyed document) = .error (.issue ⟨.rule message, []⟩) := by
  -- All faults but an unknown name are found before names are looked up.
  have stops {failure : Failure} (failed : collectOperator (keyed document) = .error failure) :
      readAssertion (some operators) (keyed document) = .error failure := by
    unfold readAssertion
    rw [failed]
    rfl
  cases fault with
  | beside given others =>
      apply stops
      have some : (freeKeys document).map Value.text ≠ [] := by simpa using others
      unfold collectOperator
      dsimp only
      rw [unnamedKeys_keyed, Value.hasField_eq_isSome, field?_keyed, given,
        if_pos Option.isSome_some, if_neg (fun nothing => some (List.isEmpty_iff.mp nothing)),
        severalMessage_texts]
      rfl
  | missing absent none =>
      apply stops
      unfold collectOperator
      dsimp only
      rw [unnamedKeys_keyed, Value.hasField_eq_isSome, field?_keyed, absent, none]
      rfl
  | several absent others =>
      apply stops
      have message := severalMessage_texts false (freeKeys document)
      unfold collectOperator
      dsimp only
      rw [unnamedKeys_keyed, Value.hasField_eq_isSome, field?_keyed, absent]
      -- The match on the keys goes on only once two of them are there to be seen.
      generalize freeKeys document = names at others message
      match names, others with
      | first :: second :: rest, _ =>
          change brokenRule (severalMessage false ((first :: second :: rest).map .text)) = _
          rw [message]
          rfl
  | @unknown name names unknown =>
      obtain ⟨explicit, collected, given⟩ := names.exists_collected
      unfold readAssertion
      rw [collected]
      change (canonicalize (some operators) explicit >>= _) = _
      unfold canonicalize
      dsimp only
      rw [given, Option.getD_some, canonicalOperator_of_unknown unknown]
      rfl

/-- A document of an assertion.  Its operator is a text if it has a key of its own. -/
structure AssertionDocument (document : List (String × Value)) : Prop where
  kind : Ordered.find? "kind" document = some (.text assertKind)
  operator : ∀ v, Ordered.find? "operator" document = some v → ∃ name, v = .text name

namespace AssertionDocument

variable (asserts : AssertionDocument document)
include asserts

theorem isAssertion_keyed : isAssertion (keyed document) = true := by
  unfold isAssertion
  rw [field?_keyed, asserts.kind]
  rfl

/-- Without a fault, a document names one operator, and it is known. -/
theorem exists_operator (usable : ¬∃ message, OperatorFault operators document message) :
    ∃ name canonical, NamesOperator document name ∧
      Ordered.find? name operators = some canonical := by
  have named : ∃ name, NamesOperator document name := by
    cases held : Ordered.find? "operator" document with
    | some v =>
        obtain ⟨name, rfl⟩ := asserts.operator v held
        by_cases alone : freeKeys document = []
        · exact ⟨name, .explicit held alone⟩
        · exact absurd ⟨_, .beside held alone⟩ usable
    | none =>
        match only : freeKeys document with
        | [] => exact absurd ⟨_, .missing held only⟩ usable
        | [name] => exact ⟨name, .asKey held only⟩
        | first :: second :: rest =>
            have several : 2 ≤ (freeKeys document).length := by simp [only]
            exact absurd ⟨_, .several held several⟩ usable
  obtain ⟨name, names⟩ := named
  cases known : Ordered.find? name operators with
  | some canonical => exact ⟨name, canonical, names, known⟩
  | none => exact absurd ⟨_, .unknown names known⟩ usable

theorem read_eq_ok_iff {step : Step} : read (some operators) (.record document) = .ok step ↔
    ∃ check, step = .assertion check ∧
      readAssertion (some operators) (keyed document) = .ok check :=
  read_assertion_eq_ok_iff asserts.isAssertion_keyed

theorem read_of_fault {message : String} (fault : OperatorFault operators document message) :
    read (some operators) (.record document) =
      .error (.issue ⟨.rule message, [.name "assertion"]⟩) := by
  have reading : read (some operators) (.record document) =
      ((readAssertion (some operators) (keyed document)).map .assertion).mapError
        (underTag "assertion") := read_of_assertion asserts.isAssertion_keyed
  rw [reading, readAssertion_of_fault fault]
  rfl

/-- A document that is not read has an issue. -/
theorem exists_issue (fails : ∀ step, read (some operators) (.record document) ≠ .ok step) :
    ∃ issue, read (some operators) (.record document) = .error (.issue issue) := by
  -- A fault takes an operator that can be no key of a mapping, and texts can.
  have noFault : ∀ fault, ¬ReadFault (.map (keyed document)) fault := by
    intro fault faulty
    rcases faulty with ⟨action, _⟩ | ⟨_, explicit, kind, collected, unhashable, _⟩
    · rw [asserts.isAssertion_keyed] at action
      cases action
    · rw [field?_of_collectOperator collected] at unhashable
      cases given : givenOperator? (keyed document) with
      | none =>
          rw [given] at unhashable
          cases unhashable
      | some v =>
          obtain ⟨name, rfl⟩ := givenOperator?_keyed asserts.operator given
          rw [given] at unhashable
          cases unhashable
  cases reading : read (some operators) (.record document) with
  | ok step => exact absurd reading (fails step)
  | error failure =>
      have law := fails_read operators (.map (keyed document))
      rcases law.fault_or_usual failure reading with ⟨fault, rfl⟩ | ⟨issue, rfl⟩
      · exact absurd ((law.fault_iff fault).mp reading) (noFault fault)
      · exact ⟨issue, rfl⟩

end AssertionDocument

/-! ## Spellings -/

/-- The fields of an assertion beside its operator and what is expected. -/
structure Remaining (fields : List (String × Value)) : Prop where
  distinct : (fields.map Prod.fst).Nodup
  kind : Ordered.find? "kind" fields = some (.text assertKind)
  noOperator : "operator" ∉ fields.map Prod.fst
  noExpected : "expected" ∉ fields.map Prod.fst

/-- A document that adds an operator and an expected value to some fields, in any order. -/
inductive Spelling (fields : List (String × Value)) (name : String) (expected : Value) :
    List (String × Value) → Prop where
  | asKey {document : List (String × Value)} (free : name ∉ assertionKeys)
      (absent : name ∉ fields.map Prod.fst) (same : document.Perm ((name, expected) :: fields)) :
      Spelling fields name expected document
  | explicit {document : List (String × Value)}
      (same : document.Perm (("operator", .text name) :: ("expected", expected) :: fields)) :
      Spelling fields name expected document

/-- The assertion that some fields make with an operator and an expected value. -/
structure Makes (fields : List (String × Value)) (canonical : String) (value : Value)
    (check : AssertionStep) : Prop where
  values : ReadsValues (keyed fields) check
  operator : check.operator = canonical
  named : Name.isVariable canonical.toList = true
  expected : check.expected = value
  single : ¬(Value.hasField "ignoreCase" (keyed fields) = true ∧
    Value.hasField "ignore_case" (keyed fields) = true)
  alone : freeKeys fields = []

theorem freeKeys_perm {other : List (String × Value)} (same : document.Perm other) :
    (freeKeys document).Perm (freeKeys other) :=
  (same.map _).filter _

namespace Remaining

variable {name : String} {expected : Value} (remaining : Remaining fields)
include remaining

/-- A document with the operator as a key. -/
theorem find?_asKey (absent : name ∉ fields.map Prod.fst)
    (same : document.Perm ((name, expected) :: fields)) (key : String) :
    Ordered.find? key document =
      if name = key then some expected else Ordered.find? key fields := by
  have distinct : (((name, expected) :: fields).map Prod.fst).Nodup :=
    List.nodup_cons.mpr ⟨absent, remaining.distinct⟩
  rw [← Ordered.find?_perm distinct same.symm]
  simp [Ordered.find?]

theorem find?_asKey_of_mem (free : name ∉ assertionKeys) (absent : name ∉ fields.map Prod.fst)
    (same : document.Perm ((name, expected) :: fields)) {key : String}
    (known : key ∈ assertionKeys) : Ordered.find? key document = Ordered.find? key fields := by
  have other : name ≠ key := by
    rintro rfl
    exact free known
  rw [remaining.find?_asKey absent same, if_neg other]

/-- A document with an explicit operator. -/
theorem find?_explicit
    (same : document.Perm (("operator", .text name) :: ("expected", expected) :: fields))
    (key : String) : Ordered.find? key document = if "operator" = key then some (.text name)
      else if "expected" = key then some expected else Ordered.find? key fields := by
  have distinct : ((("operator", Value.text name) :: ("expected", expected) :: fields).map
      Prod.fst).Nodup := by
    simp [remaining.distinct, remaining.noOperator, remaining.noExpected]
  rw [← Ordered.find?_perm distinct same.symm]
  simp [Ordered.find?]

theorem find?_operator : Ordered.find? "operator" fields = none :=
  Ordered.find?_eq_none_iff.mpr remaining.noOperator

end Remaining

/-! ## Choosing the operator -/

theorem chooses_of_given {held operator v : Value}
    (given : Ordered.find? "operator" document = some held) :
    Chooses (keyed document) operator v ↔
      operator = held ∧ freeKeys document = [] ∧ Ordered.find? "expected" document = some v := by
  have noKeys : operatorKeys (keyed document) = [] ↔ freeKeys document = [] := by
    rw [operatorKeys_keyed, List.map_eq_nil_iff]
  constructor
  · intro chooses
    cases chooses with
    | explicit found alone expects =>
        rw [field?_keyed] at found expects
        exact ⟨Option.some.inj (found.symm.trans given), noKeys.mp alone, expects⟩
    | asKey absent _ =>
        rw [field?_keyed, given] at absent
        cases absent
  · rintro ⟨rfl, alone, expects⟩
    rw [← field?_keyed] at given expects
    exact .explicit given (noKeys.mpr alone) expects

theorem chooses_of_absent {operator v : Value}
    (absent : Ordered.find? "operator" document = none) :
    Chooses (keyed document) operator v ↔ ∃ name, freeKeys document = [name] ∧
      operator = .text name ∧ v = (Ordered.find? name document).getD .null := by
  constructor
  · intro chooses
    cases chooses with
    | explicit found _ _ =>
        rw [field?_keyed, absent] at found
        cases found
    | asKey _ only =>
        rw [operatorKeys_keyed, List.map_eq_singleton_iff] at only
        obtain ⟨name, only, rfl⟩ := only
        exact ⟨name, only, rfl, congrArg (Option.getD · Value.null) (field?_keyed name document)⟩
  · rintro ⟨name, only, rfl, rfl⟩
    rw [← field?_keyed] at absent ⊢
    exact .asKey absent (by rw [operatorKeys_keyed, only]; rfl)

namespace Spelling

variable {name : String} {expected : Value} (remaining : Remaining fields)
  (spelling : Spelling fields name expected document)
include remaining spelling

theorem find?_eq {key : String} (known : key ∈ assertionKeys) (notOperator : key ≠ "operator")
    (notExpected : key ≠ "expected") :
    Ordered.find? key document = Ordered.find? key fields := by
  cases spelling with
  | asKey free absent same => exact remaining.find?_asKey_of_mem free absent same known
  | explicit same =>
      rw [remaining.find?_explicit same, if_neg notOperator.symm, if_neg notExpected.symm]

theorem find?_operator : Ordered.find? "operator" document = none ∨
    Ordered.find? "operator" document = some (.text name) := by
  cases spelling with
  | asKey free absent same =>
      left
      rw [remaining.find?_asKey_of_mem free absent same (by decide), remaining.find?_operator]
  | explicit same =>
      right
      rw [remaining.find?_explicit same, if_pos rfl]

theorem assertionDocument : AssertionDocument document where
  kind := (spelling.find?_eq remaining (by decide) (by decide) (by decide)).trans remaining.kind
  operator v held := by
    rcases spelling.find?_operator remaining with absent | given
    · cases absent.symm.trans held
    · exact ⟨name, Option.some.inj (held.symm.trans given)⟩

/-- The operator and the expected value are the ones that were added, if the other fields have no
free keys. -/
theorem chooses_iff {operator v : Value} : Chooses (keyed document) operator v ↔
    freeKeys fields = [] ∧ operator = .text name ∧ v = expected := by
  cases spelling with
  | asKey free absent same =>
      have noOperator : Ordered.find? "operator" document = none := by
        rw [remaining.find?_asKey_of_mem free absent same (by decide), remaining.find?_operator]
      have held : Ordered.find? name document = some expected := by
        rw [remaining.find?_asKey absent same, if_pos rfl]
      have keys : (freeKeys document).Perm (name :: freeKeys fields) := by
        have added : freeKeys ((name, expected) :: fields) = name :: freeKeys fields := by
          simp [freeKeys, free]
        exact added ▸ freeKeys_perm same
      rw [chooses_of_absent noOperator]
      constructor
      · rintro ⟨key, only, rfl, rfl⟩
        rw [only, List.singleton_perm] at keys
        obtain ⟨rfl, alone⟩ := List.cons.inj keys
        exact ⟨alone.symm, rfl, by rw [held]; rfl⟩
      · rintro ⟨alone, rfl, rfl⟩
        rw [alone, List.perm_singleton] at keys
        exact ⟨name, keys, rfl, by rw [held]; rfl⟩
  | explicit same =>
      have given : Ordered.find? "operator" document = some (.text name) := by
        rw [remaining.find?_explicit same, if_pos rfl]
      have held : Ordered.find? "expected" document = some expected := by
        rw [remaining.find?_explicit same, if_neg (by decide), if_pos rfl]
      have keys : freeKeys document = [] ↔ freeKeys fields = [] := by
        rw [← List.perm_nil, ← List.perm_nil]
        exact (freeKeys_perm same).congr_left []
      rw [chooses_of_given given, keys, held, Option.some.injEq, and_left_comm, @eq_comm _ v]

theorem readsValues_iff {check : AssertionStep} :
    ReadsValues (keyed document) check ↔ ReadsValues (keyed fields) check := by
  have values : ∀ key ∈ valueNames,
      Value.field? key (keyed document) = Value.field? key (keyed fields) := by
    intro key member
    have known : valueNames ⊆ assertionKeys := by decide
    rw [field?_keyed, field?_keyed]
    apply spelling.find?_eq remaining (known member)
    · rintro rfl
      exact absurd member (by decide)
    · rintro rfl
      exact absurd member (by decide)
  exact ⟨ReadsValues.congr values, ReadsValues.congr fun key member => (values key member).symm⟩

theorem readAssertion_eq_ok_iff {canonical : String}
    (known : Ordered.find? name operators = some canonical) {check : AssertionStep} :
    readAssertion (some operators) (keyed document) = .ok check ↔
      Makes fields canonical expected check := by
  have single : (Value.hasField "ignoreCase" (keyed document) = true ∧
      Value.hasField "ignore_case" (keyed document) = true) ↔
      Value.hasField "ignoreCase" (keyed fields) = true ∧
        Value.hasField "ignore_case" (keyed fields) = true := by
    simp only [Value.hasField_eq_isSome, field?_keyed,
      spelling.find?_eq remaining (by decide : "ignoreCase" ∈ assertionKeys) (by decide)
        (by decide),
      spelling.find?_eq remaining (by decide : "ignore_case" ∈ assertionKeys) (by decide)
        (by decide)]
  rw [Step.readAssertion_eq_ok_iff]
  simp only [spelling.chooses_iff remaining]
  constructor
  · rintro ⟨_, _, ⟨alone, rfl, rfl⟩, reads⟩
    obtain ⟨given, same, found⟩ := canonicalOperator_eq_ok reads.operator
    cases same
    have isCanonical := Option.some.inj (found.symm.trans known)
    exact {
      values := (spelling.readsValues_iff remaining).mp reads.values
      operator := isCanonical
      named := isCanonical ▸ reads.named
      expected := reads.expected
      single := fun both => reads.single (single.mpr both)
      alone := alone }
  · intro makes
    refine ⟨_, _, ⟨makes.alone, rfl, rfl⟩, ?_⟩
    exact {
      values := (spelling.readsValues_iff remaining).mpr makes.values
      operator := by rw [makes.operator, canonicalOperator_of_known known]
      named := makes.operator ▸ makes.named
      expected := makes.expected
      single := fun both => makes.single (single.mp both) }

end Spelling

/-! ## Steps -/

/-- A document of an assertion breaks a rule if it names no operator, several ones, one beside free
keys or an unknown one.  Otherwise it is read with the canonical name of the one that it names.  All
documents that add an expected value and any name of one operator to the same fields are read as one
assertion, or none of them is read. -/
theorem read_operator_spellings (operators : OperatorNames) :
    (∀ document, AssertionDocument document →
      (∀ message, OperatorFault operators document message →
        read (some operators) (.record document) =
          .error (.issue ⟨.rule message, [.name "assertion"]⟩)) ∧
      ((¬∃ message, OperatorFault operators document message) →
        ∃ name canonical, NamesOperator document name ∧
          Ordered.find? name operators = some canonical ∧
          ∀ step, read (some operators) (.record document) = .ok step →
            ∃ check, step = .assertion check ∧ check.operator = canonical)) ∧
    ∀ fields expected canonical, Remaining fields →
      (∃ check : AssertionStep, check.operator = canonical ∧ check.expected = expected ∧
        ∀ name document, Ordered.find? name operators = some canonical →
          Spelling fields name expected document →
            read (some operators) (.record document) = .ok (.assertion check)) ∨
      ∀ name document, Ordered.find? name operators = some canonical →
        Spelling fields name expected document →
          ∃ issue, read (some operators) (.record document) = .error (.issue issue) := by
  refine ⟨?documents, ?spellings⟩
  case documents =>
    intro document asserts
    refine ⟨fun message => asserts.read_of_fault, ?_⟩
    intro usable
    obtain ⟨name, canonical, names, known⟩ := asserts.exists_operator usable
    refine ⟨name, canonical, names, known, ?_⟩
    intro step success
    obtain ⟨check, rfl, reading⟩ := asserts.read_eq_ok_iff.mp success
    obtain ⟨given, isGiven, found⟩ := operator_of_readAssertion reading
    cases names.givenOperator?_eq.symm.trans isGiven
    exact ⟨check, rfl, Option.some.inj (found.symm.trans known)⟩
  case spellings =>
    intro fields expected canonical remaining
    -- Every spelling is read as an assertion that the fields make, so one decides for all.
    by_cases made : ∃ check, Makes fields canonical expected check
    · left
      obtain ⟨check, makes⟩ := made
      refine ⟨check, makes.operator, makes.expected, ?_⟩
      intro name document known spelling
      have reading := (spelling.readAssertion_eq_ok_iff remaining known).mpr makes
      exact (spelling.assertionDocument remaining).read_eq_ok_iff.mpr ⟨check, rfl, reading⟩
    · right
      intro name document known spelling
      apply (spelling.assertionDocument remaining).exists_issue
      intro step success
      obtain ⟨check, _, reading⟩ :=
        (spelling.assertionDocument remaining).read_eq_ok_iff.mp success
      exact made ⟨check, (spelling.readAssertion_eq_ok_iff remaining known).mp reading⟩

/-- One assertion in three spellings, and a document with two operators. -/
theorem read_operator_spellings_equals :
    let operators : OperatorNames := [("eq", "equals"), ("equals", "equals")]
    let fields : List (String × Value) := [("kind", .text "assert"), ("value", .text "1")]
    let several := ("eq", Value.int 1) :: ("equals", .int 1) :: fields
    Remaining fields ∧ AssertionDocument several ∧
      OperatorFault operators several "assertion has several operators: eq, equals" ∧
      read (some operators) (.record several) = .error
        (.issue ⟨.rule "assertion has several operators: eq, equals", [.name "assertion"]⟩) ∧
      ∃ check : AssertionStep, check.operator = "equals" ∧ check.expected = .int 1 ∧
        ∀ document ∈ [fields ++ [("eq", .int 1)],
            fields ++ [("expected", .int 1), ("operator", .text "eq")],
            ("operator", .text "equals") :: fields ++ [("expected", .int 1)]],
          read (some operators) (.record document) = .ok (.assertion check) := by
  intro operators fields several
  have remaining : Remaining fields := ⟨by decide, rfl, by decide, by decide⟩
  have asserts : AssertionDocument several := ⟨rfl, nofun⟩
  have fault : OperatorFault operators several "assertion has several operators: eq, equals" :=
    .several rfl (by decide)
  obtain ⟨documents, spellings⟩ := read_operator_spellings operators
  refine ⟨remaining, asserts, fault, (documents several asserts).1 _ fault, ?_⟩
  have asKey : Spelling fields "eq" (.int 1) (fields ++ [("eq", .int 1)]) :=
    .asKey (by decide) (by decide) (List.perm_append_singleton _ _)
  have explicit : Spelling fields "eq" (.int 1)
      (fields ++ [("expected", .int 1), ("operator", .text "eq")]) :=
    .explicit (List.perm_append_comm.trans (.swap ..))
  have canonical : Spelling fields "equals" (.int 1)
      (("operator", .text "equals") :: fields ++ [("expected", .int 1)]) :=
    .explicit ((List.perm_append_singleton _ _).cons _)
  rcases spellings fields (.int 1) "equals" remaining with ⟨check, isEquals, expects, alike⟩ | none
  · refine ⟨check, isEquals, expects, ?_⟩
    simp only [List.forall_mem_cons, List.not_mem_nil, false_imp_iff, implies_true, and_true]
    exact ⟨alike _ _ rfl asKey, alike _ _ rfl explicit, alike _ _ rfl canonical⟩
  · obtain ⟨issue, failed⟩ := none _ _ rfl asKey
    cases failed

end Playbook.Step
