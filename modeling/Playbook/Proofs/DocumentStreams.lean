import Playbook.Proofs.Fallible
import Playbook.Scenario.Reader

/-!
# Streams of documents

A stream is its header, if the first document is one, and the documents behind it, which are
flattened into step documents: null documents have none, a list has its items.  Step documents are
numbered from one on, in the order of the stream and across its documents.  Either all of them are
read as steps, or the first one that cannot be read is the failure, unless a header stands out of
place before it.  So it makes no difference how step documents are grouped.
-/

namespace Playbook.Scenario

open Fallible

/-- The step documents of a document that is no header. -/
def stepsOf : Value → List Value
  | .null => []
  | .list documents => documents
  | document => [document]

def stepDocuments (documents : List Value) : List Value := documents.flatMap stepsOf

/-- Step documents are read as steps one by one, numbered from a first number on. -/
def StepsRead (registry : Registry) (filename : Option String) (first : Nat)
    (documents : List Value) (steps : List Step) : Prop :=
  steps.length = documents.length ∧ ∀ position document step,
    documents[position]? = some document → steps[position]? = some step →
      readStep registry filename (first + position) document = .ok step

section

variable {registry : Registry} {filename : Option String}

theorem stepsRead_nil {first : Nat} {steps : List Step} :
    StepsRead registry filename first [] steps ↔ steps = [] := by
  constructor
  · intro read
    exact List.eq_nil_of_length_eq_zero read.1
  · intro empty
    subst empty
    exact ⟨rfl, by simp⟩

theorem stepsRead_cons {first : Nat} {document : Value} {documents : List Value}
    {steps : List Step} :
    StepsRead registry filename first (document :: documents) steps ↔
      ∃ step rest, steps = step :: rest ∧ readStep registry filename first document = .ok step ∧
        StepsRead registry filename (first + 1) documents rest := by
  constructor
  · intro ⟨length, read⟩
    cases steps with
    | nil => cases length
    | cons step rest =>
        refine ⟨step, rest, rfl, read 0 document step rfl rfl, Nat.succ.inj length, ?_⟩
        intro position other found otherFound foundStep
        rw [Nat.add_assoc, Nat.add_comm 1]
        exact read (position + 1) other found otherFound foundStep
  · intro ⟨step, rest, same, here, length, later⟩
    subst same
    refine ⟨congrArg Nat.succ length, ?_⟩
    intro position other found otherFound foundStep
    cases position with
    | zero =>
        cases otherFound
        cases foundStep
        exact here
    | succ position =>
        rw [Nat.add_comm position, ← Nat.add_assoc]
        exact later position other found otherFound foundStep

/-! ## Items of a stream -/

theorem readItems_eq_ok_iff {number : Nat} {items : List Item} {steps : List Step} :
    readItems registry filename number items = .ok steps ↔
      ∃ documents, items = documents.map .step ∧
        StepsRead registry filename number documents steps := by
  induction items generalizing number steps with
  | nil =>
      rw [readItems]
      constructor
      · intro success
        cases success
        exact ⟨[], rfl, stepsRead_nil.mpr rfl⟩
      · intro ⟨documents, same, read⟩
        cases documents with
        | nil => rw [stepsRead_nil.mp read]
        | cons document documents => cases same
  | cons item items ih =>
      constructor
      · intro success
        cases item with
        | header document => cases success
        | step document =>
            obtain ⟨step, here, success⟩ := bind_eq_ok_iff.mp success
            obtain ⟨rest, later, same⟩ := bind_eq_ok_iff.mp success
            cases same
            obtain ⟨documents, shape, read⟩ := ih.mp later
            refine ⟨document :: documents, congrArg (List.cons _) shape, ?_⟩
            exact stepsRead_cons.mpr ⟨step, rest, rfl, here, read⟩
      · intro ⟨documents, shape, read⟩
        cases documents with
        | nil => cases shape
        | cons document documents =>
            obtain ⟨same, tail⟩ := List.cons_eq_cons.mp shape
            subst same
            obtain ⟨step, rest, same, here, later⟩ := stepsRead_cons.mp read
            subst same
            have others := ih.mpr ⟨documents, tail, later⟩
            exact bind_eq_ok_iff.mpr ⟨step, here, bind_eq_ok_iff.mpr ⟨rest, others, rfl⟩⟩

/-- Why an item of a stream cannot be read under a number. -/
inductive ItemFails (registry : Registry) (filename : Option String) (number : Nat) :
    Item → Failure → Prop where
  | header (document : Value) :
      ItemFails registry filename number (.header document)
        (schemaError "Header must be at first position" filename none document)
  | step {document : Value} {failure : Failure} :
      readStep registry filename number document = .error failure →
      ItemFails registry filename number (.step document) failure

theorem readItems_eq_error_iff {number : Nat} {items : List Item} {failure : Failure} :
    readItems registry filename number items = .error failure ↔
      ∃ earlier item later steps, items = earlier.map .step ++ item :: later ∧
        StepsRead registry filename number earlier steps ∧
        ItemFails registry filename (number + earlier.length) item failure := by
  induction items generalizing number with
  | nil =>
      rw [readItems]
      constructor
      · intro failed
        cases failed
      · intro ⟨earlier, item, later, steps, shape, _⟩
        simp at shape
  | cons item items ih =>
      constructor
      · intro failed
        cases item with
        | header document =>
            cases failed
            exact ⟨[], .header document, items, [], rfl, stepsRead_nil.mpr rfl, .header document⟩
        | step document =>
            rcases bind_eq_error_iff.mp failed with failed | ⟨step, here, failed⟩
            · exact ⟨[], .step document, items, [], rfl, stepsRead_nil.mpr rfl, .step failed⟩
            · rcases bind_eq_error_iff.mp failed with failed | ⟨_, _, failed⟩
              · obtain ⟨earlier, item, later, steps, shape, read, fails⟩ := ih.mp failed
                refine ⟨document :: earlier, item, later, step :: steps, by simp [shape],
                  stepsRead_cons.mpr ⟨step, steps, rfl, here, read⟩, ?_⟩
                rw [List.length_cons, Nat.add_comm earlier.length, ← Nat.add_assoc]
                exact fails
              · cases failed
      · intro ⟨earlier, other, later, steps, shape, read, fails⟩
        cases earlier with
        | nil =>
            cases shape
            cases fails with
            | header document => rfl
            | step failed => exact bind_eq_error_iff.mpr (.inl failed)
        | cons document earlier =>
            obtain ⟨same, tail⟩ := List.cons_eq_cons.mp shape
            subst same
            obtain ⟨step, rest, _, here, read⟩ := stepsRead_cons.mp read
            rw [List.length_cons, Nat.add_comm earlier.length, ← Nat.add_assoc] at fails
            have others := ih.mpr ⟨earlier, other, later, rest, tail, read, fails⟩
            exact bind_eq_error_iff.mpr
              (.inr ⟨step, here, bind_eq_error_iff.mpr (.inl others)⟩)

/-! ## Documents and their items -/

theorem itemsOf_of_isHeader {document : Value} (header : isHeader document = true) :
    itemsOf document = [.header document] := by
  cases document with
  | map entries => simp [itemsOf, header]
  | _ => cases header

theorem itemsOf_of_not_isHeader {document : Value} (noHeader : isHeader document = false) :
    itemsOf document = (stepsOf document).map .step := by
  cases document with
  | map entries => simp [itemsOf, noHeader, stepsOf]
  | _ => rfl

theorem flatMap_itemsOf {documents : List Value}
    (noHeader : ∀ document ∈ documents, isHeader document = false) :
    documents.flatMap itemsOf = (stepDocuments documents).map .step := by
  induction documents with
  | nil => rfl
  | cons document documents ih =>
      have here := itemsOf_of_not_isHeader (noHeader document List.mem_cons_self)
      have later := ih fun other member => noHeader other (List.mem_cons_of_mem _ member)
      simp only [stepDocuments, List.flatMap_cons, List.map_append] at later ⊢
      rw [here, later]

theorem noHeader_of_flatMap_itemsOf {documents earlier : List Value}
    (shape : documents.flatMap itemsOf = earlier.map .step) :
    (∀ document ∈ documents, isHeader document = false) ∧ stepDocuments documents = earlier := by
  have noHeader : ∀ document ∈ documents, isHeader document = false := by
    intro document member
    cases header : isHeader document with
    | false => rfl
    | true =>
        have inside : Item.header document ∈ documents.flatMap itemsOf := by
          apply List.mem_flatMap.mpr
          exact ⟨document, member, by simp [itemsOf_of_isHeader header]⟩
        rw [shape] at inside
        obtain ⟨_, _, same⟩ := List.mem_map.mp inside
        cases same
  refine ⟨noHeader, ?_⟩
  rw [flatMap_itemsOf noHeader] at shape
  exact (List.map_inj_right fun _ _ => Item.step.inj).mp shape

/-- What stands at a place of a flattened list comes from one of its members. -/
theorem exists_of_flatMap_eq_append {α β : Type} {f : α → List β} {members : List α}
    {earlier later : List β} {item : β}
    (shape : members.flatMap f = earlier ++ item :: later) :
    ∃ front member back before after, members = front ++ member :: back ∧
      f member = before ++ item :: after ∧ earlier = front.flatMap f ++ before := by
  induction members generalizing earlier with
  | nil => simp at shape
  | cons first members ih =>
      rw [List.flatMap_cons] at shape
      rcases List.append_eq_append_iff.mp shape with ⟨rest, same, shape⟩ | ⟨rest, same, shape⟩
      · obtain ⟨front, member, back, before, after, rfl, inside, rfl⟩ := ih shape
        exact ⟨first :: front, member, back, before, after, rfl, inside, by simp [same]⟩
      · cases rest with
        | nil =>
            rw [List.append_nil] at same
            have tail : members.flatMap f = [] ++ item :: later := shape.symm
            obtain ⟨front, member, back, before, after, rfl, inside, empty⟩ := ih tail
            refine ⟨first :: front, member, back, before, after, rfl, inside, ?_⟩
            rw [List.flatMap_cons, List.append_assoc, ← empty, same, List.append_nil]
        | cons other rest =>
            obtain ⟨here, _⟩ := List.cons_eq_cons.mp shape
            subst here
            exact ⟨[], first, members, earlier, rest, rfl, same, by simp⟩

/-! ## Streams -/

/-- The first document behind the header that cannot be read, or its first item that cannot be. -/
inductive BodyFails (registry : Registry) (filename : Option String) :
    List Value → Failure → Prop where
  | header {front later : List Value} {document : Value} {steps : List Step} :
      (∀ earlier ∈ front, isHeader earlier = false) →
      StepsRead registry filename 1 (stepDocuments front) steps →
      isHeader document = true →
      BodyFails registry filename (front ++ document :: later)
        (schemaError "Header must be at first position" filename none document)
  | step {front later before after : List Value} {document item : Value} {steps : List Step}
      {failure : Failure} :
      (∀ earlier ∈ front, isHeader earlier = false) →
      isHeader document = false → stepsOf document = before ++ item :: after →
      StepsRead registry filename 1 (stepDocuments front ++ before) steps →
      readStep registry filename (1 + (stepDocuments front ++ before).length) item =
        .error failure →
      BodyFails registry filename (front ++ document :: later) failure

theorem readItems_flatMap_eq_ok_iff {body : List Value} {steps : List Step} :
    readItems registry filename 1 (body.flatMap itemsOf) = .ok steps ↔
      (∀ document ∈ body, isHeader document = false) ∧
        StepsRead registry filename 1 (stepDocuments body) steps := by
  rw [readItems_eq_ok_iff]
  constructor
  · intro ⟨documents, shape, read⟩
    obtain ⟨noHeader, same⟩ := noHeader_of_flatMap_itemsOf shape
    rw [same]
    exact ⟨noHeader, read⟩
  · intro ⟨noHeader, read⟩
    exact ⟨stepDocuments body, flatMap_itemsOf noHeader, read⟩

theorem readItems_flatMap_eq_error_iff {body : List Value} {failure : Failure} :
    readItems registry filename 1 (body.flatMap itemsOf) = .error failure ↔
      BodyFails registry filename body failure := by
  rw [readItems_eq_error_iff]
  constructor
  · intro ⟨earlier, item, later, steps, shape, read, fails⟩
    obtain ⟨front, document, back, before, after, rfl, inside, split⟩ :=
      exists_of_flatMap_eq_append shape
    obtain ⟨frontItems, beforeItems, rfl, frontSame, beforeSame⟩ := List.map_eq_append_iff.mp split
    obtain ⟨noHeader, rfl⟩ := noHeader_of_flatMap_itemsOf frontSame.symm
    cases header : isHeader document with
    | true =>
        rw [itemsOf_of_isHeader header] at inside
        cases before with
        | nil =>
            cases inside
            rw [List.map_eq_nil_iff.mp beforeSame, List.append_nil] at read
            cases fails
            exact .header noHeader read header
        | cons first before =>
            obtain ⟨_, empty⟩ := List.cons_eq_cons.mp inside
            simp at empty
    | false =>
        rw [itemsOf_of_not_isHeader header] at inside
        obtain ⟨steps', rest, same, beforeMap, restMap⟩ := List.map_eq_append_iff.mp inside
        obtain ⟨found, after, rfl, isStep, _⟩ := List.map_eq_cons_iff.mp restMap
        subst isStep
        have sameBefore : steps' = beforeItems :=
          (List.map_inj_right fun _ _ => Item.step.inj).mp (beforeMap.trans beforeSame.symm)
        subst sameBefore
        cases fails with
        | step failed => exact .step noHeader header same read failed
  · intro fails
    cases fails with
    | @header front later document steps noHeader read header =>
        refine ⟨stepDocuments front, .header document, later.flatMap itemsOf, steps, ?_, read,
          .header document⟩
        rw [List.flatMap_append, flatMap_itemsOf noHeader, List.flatMap_cons,
          itemsOf_of_isHeader header]
        rfl
    | @step front later before after document item steps _ noHeader header inside read failed =>
        refine ⟨stepDocuments front ++ before, .step item,
          after.map .step ++ later.flatMap itemsOf, steps, ?_, read, .step failed⟩
        rw [List.flatMap_append, flatMap_itemsOf noHeader, List.flatMap_cons,
          itemsOf_of_not_isHeader header, inside]
        simp

/-- The header of a stream, if its first document is one, and the documents behind it. -/
inductive Opens (filename : Option String) :
    List Value → Option Header → List Value → Prop where
  | headed {first : Value} {body : List Value} {header : Header} :
      isHeader first = true → readHeader filename first = .ok header →
      Opens filename (first :: body) (some header) body
  | plain {documents : List Value} :
      (∀ first ∈ documents.head?, isHeader first = false) →
      Opens filename documents none documents

/-- A stream is read: its header, and all step documents behind it. -/
def StreamRead (registry : Registry) (filename : Option String) (documents : List Value)
    (header : Option Header) (steps : List Step) : Prop :=
  ∃ body, Opens filename documents header body ∧
    (∀ document ∈ body, isHeader document = false) ∧
    StepsRead registry filename 1 (stepDocuments body) steps

/-- What keeps a stream from being read, in the order of its documents. -/
inductive StreamFails (registry : Registry) (filename : Option String) :
    List Value → Failure → Prop where
  | header {first : Value} {body : List Value} {failure : Failure} :
      isHeader first = true → readHeader filename first = .error failure →
      StreamFails registry filename (first :: body) failure
  | body {documents body : List Value} {header : Option Header} {failure : Failure} :
      Opens filename documents header body → BodyFails registry filename body failure →
      StreamFails registry filename documents failure

theorem readDocuments_of_isHeader {first : Value} (header : isHeader first = true)
    (body : List Value) :
    readDocuments registry filename (first :: body) = do
      let header ← readHeader filename first
      let steps ← readItems registry filename 1 (body.flatMap itemsOf)
      return (some header, steps) := by
  unfold readDocuments
  simp only [header, if_true]

theorem readDocuments_of_plain {documents : List Value}
    (plain : ∀ first ∈ documents.head?, isHeader first = false) :
    readDocuments registry filename documents = do
      let steps ← readItems registry filename 1 (documents.flatMap itemsOf)
      return (none, steps) := by
  unfold readDocuments
  cases documents with
  | nil => rfl
  | cons first rest =>
      simp only [plain first rfl, Bool.false_eq_true, if_false]

theorem headed_or_plain (documents : List Value) :
    (∃ first body, documents = first :: body ∧ isHeader first = true) ∨
      ∀ first ∈ documents.head?, isHeader first = false := by
  cases documents with
  | nil => exact .inr (by simp)
  | cons first body =>
      cases header : isHeader first with
      | true => exact .inl ⟨first, body, rfl, header⟩
      | false =>
          right
          intro other same
          cases same
          exact header

theorem readDocuments_eq_ok_iff {documents : List Value} {header : Option Header}
    {steps : List Step} :
    readDocuments registry filename documents = .ok (header, steps) ↔
      StreamRead registry filename documents header steps := by
  constructor
  · intro success
    rcases headed_or_plain documents with ⟨first, body, rfl, isHeader⟩ | plain
    · rw [readDocuments_of_isHeader isHeader] at success
      obtain ⟨_, header, success⟩ := bind_eq_ok_iff.mp success
      obtain ⟨_, read, same⟩ := bind_eq_ok_iff.mp success
      cases same
      exact ⟨body, .headed isHeader header, readItems_flatMap_eq_ok_iff.mp read⟩
    · rw [readDocuments_of_plain plain] at success
      obtain ⟨_, read, same⟩ := bind_eq_ok_iff.mp success
      cases same
      exact ⟨documents, .plain plain, readItems_flatMap_eq_ok_iff.mp read⟩
  · intro ⟨body, opens, accepted⟩
    have read := readItems_flatMap_eq_ok_iff.mpr accepted
    cases opens with
    | headed isHeader header =>
        rw [readDocuments_of_isHeader isHeader, header, read]
        rfl
    | plain plain =>
        rw [readDocuments_of_plain plain, read]
        rfl

theorem readDocuments_eq_error_iff {documents : List Value} {failure : Failure} :
    readDocuments registry filename documents = .error failure ↔
      StreamFails registry filename documents failure := by
  constructor
  · intro failed
    rcases headed_or_plain documents with ⟨first, body, rfl, isHeader⟩ | plain
    · rw [readDocuments_of_isHeader isHeader] at failed
      rcases bind_eq_error_iff.mp failed with failed | ⟨_, header, failed⟩
      · exact .header isHeader failed
      · rcases bind_eq_error_iff.mp failed with failed | ⟨_, _, failed⟩
        · exact .body (.headed isHeader header) (readItems_flatMap_eq_error_iff.mp failed)
        · cases failed
    · rw [readDocuments_of_plain plain] at failed
      rcases bind_eq_error_iff.mp failed with failed | ⟨_, _, failed⟩
      · exact .body (.plain plain) (readItems_flatMap_eq_error_iff.mp failed)
      · cases failed
  · intro fails
    cases fails with
    | header isHeader failed =>
        rw [readDocuments_of_isHeader isHeader, failed]
        rfl
    | body opens fails =>
        have failed := readItems_flatMap_eq_error_iff.mpr fails
        cases opens with
        | headed isHeader header =>
            rw [readDocuments_of_isHeader isHeader, header, failed]
            rfl
        | plain plain =>
            rw [readDocuments_of_plain plain, failed]
            rfl

/-! ## Groupings -/

/-- A mapping with a kind, which is a step wherever it stands. -/
def HasKind (document : Value) : Prop :=
  ∃ entries, document = .map entries ∧ Value.hasField "kind" entries = true

/-- Step documents grouped into documents of their own and lists, with null documents between
them. -/
inductive Groups : List Value → List Value → Prop where
  | nil : Groups [] []
  | null {documents steps : List Value} : Groups documents steps → Groups (.null :: documents) steps
  | single {documents steps : List Value} (step : Value) :
      Groups documents steps → Groups (step :: documents) (step :: steps)
  | list {documents steps : List Value} (group : List Value) :
      Groups documents steps → Groups (.list group :: documents) (group ++ steps)

theorem HasKind.isHeader {document : Value} (kind : HasKind document) :
    isHeader document = false := by
  obtain ⟨entries, same, present⟩ := kind
  subst same
  simp [Scenario.isHeader, present]

theorem Groups.flatMap_itemsOf {documents steps : List Value} (groups : Groups documents steps)
    (kinds : ∀ step ∈ steps, HasKind step) :
    documents.flatMap itemsOf = steps.map .step ∧
      ∀ document ∈ documents, Scenario.isHeader document = false := by
  induction groups with
  | nil => exact ⟨rfl, by simp⟩
  | null groups ih =>
      obtain ⟨items, noHeader⟩ := ih kinds
      refine ⟨items, ?_⟩
      intro document member
      rcases List.mem_cons.mp member with rfl | later
      · rfl
      · exact noHeader document later
  | single step groups ih =>
      have kind := kinds step List.mem_cons_self
      obtain ⟨items, noHeader⟩ := ih fun other member => kinds other (List.mem_cons_of_mem _ member)
      constructor
      · have alone : stepsOf step = [step] := by
          obtain ⟨entries, rfl, _⟩ := kind
          rfl
        rw [List.flatMap_cons, itemsOf_of_not_isHeader kind.isHeader, alone, items]
        rfl
      · intro document member
        rcases List.mem_cons.mp member with rfl | later
        · exact kind.isHeader
        · exact noHeader document later
  | list group groups ih =>
      obtain ⟨items, noHeader⟩ :=
        ih fun other member => kinds other (List.mem_append_right _ member)
      constructor
      · rw [List.flatMap_cons, items, List.map_append]
        rfl
      · intro document member
        rcases List.mem_cons.mp member with rfl | later
        · rfl
        · exact noHeader document later

theorem Groups.readDocuments_eq {documents steps : List Value} (groups : Groups documents steps)
    (kinds : ∀ step ∈ steps, HasKind step) :
    readDocuments registry filename documents =
      (readItems registry filename 1 (steps.map .step)).map fun read => (none, read) := by
  obtain ⟨items, noHeader⟩ := groups.flatMap_itemsOf kinds
  have plain : ∀ first ∈ documents.head?, Scenario.isHeader first = false := by
    intro first member
    exact noHeader first (List.mem_of_head? member)
  rw [readDocuments_of_plain plain, items]
  rfl

theorem readFrom_of_load {content : String} {documents : List Value}
    (loaded : Yaml.load content = .ok documents) (markup : Diagnostic.MarkupSource)
    (source : Option FilePath) :
    readFrom registry markup source content =
      (readDocuments registry markup.filename documents).map fun read =>
        ⟨nameFor read.1 source, source, read.1, read.2⟩ := by
  unfold readFrom ofDocuments
  rw [loaded]
  change (readDocuments registry markup.filename documents >>= _) = _
  cases readDocuments registry markup.filename documents <;> rfl

end

/-- The documents of a stream are read as a header, if the first of them is one, and as steps that
are numbered in their order; or the first document or item that cannot be read is the failure.
However step documents are grouped, they are read alike, and with them the text that they come
from. -/
theorem readDocuments_stream (registry : Registry) (filename : Option String)
    (documents : List Value) :
    (∀ header steps, readDocuments registry filename documents = .ok (header, steps) ↔
      StreamRead registry filename documents header steps) ∧
    (∀ failure, readDocuments registry filename documents = .error failure ↔
      StreamFails registry filename documents failure) ∧
    (∀ others steps, (∀ step ∈ steps, HasKind step) → Groups documents steps →
      Groups others steps →
      readDocuments registry filename documents = readDocuments registry filename others) ∧
    ∀ (markup : Diagnostic.MarkupSource) (source : Option FilePath) (content : String),
      markup.filename = filename → Yaml.load content = .ok documents →
      readFrom registry markup source content =
        (readDocuments registry filename documents).map fun (header, steps) =>
          ⟨nameFor header source, source, header, steps⟩ := by
  refine ⟨?accepted, ?refused, ?grouped, ?loaded⟩
  case accepted =>
    intro header steps
    exact readDocuments_eq_ok_iff
  case refused =>
    intro failure
    exact readDocuments_eq_error_iff
  case grouped =>
    intro others steps kinds groups otherGroups
    rw [groups.readDocuments_eq kinds, otherGroups.readDocuments_eq kinds]
  case loaded =>
    intro markup source content same loaded
    subst same
    exact readFrom_of_load loaded markup source

/-- Steps alone and in lists, with an empty list and null documents between them. -/
theorem readDocuments_stream_grouped :
    let document : Value :=
      .map [(.text "kind", .text "assert"), (.text "value", .text "abc"), (.text "eq", .text "abc")]
    let step : Step :=
      .assertion ⟨none, none, .text "abc", "equals", .text "abc", false, false, none⟩
    let documents : List Value := [.null, document, .list [document, document]]
    let others : List Value := [.list [document, document], .list [], .null, .list [document]]
    (∀ step ∈ [document, document, document], HasKind step) ∧
      Groups documents [document, document, document] ∧
      Groups others [document, document, document] ∧
      readDocuments .builtin none documents = readDocuments .builtin none others ∧
      StreamRead .builtin none others none [step, step, step] := by
  intro document step documents others
  have kinds : ∀ step ∈ [document, document, document], HasKind step := by
    intro step member
    have same : step = document := by simpa using member
    exact ⟨_, same, rfl⟩
  have groups : Groups documents [document, document, document] :=
    .null (.single document (.list [document, document] .nil))
  have otherGroups : Groups others [document, document, document] :=
    .list [document, document] (.list [] (.null (.list [document] .nil)))
  have laws := readDocuments_stream .builtin none documents
  have same := laws.2.2.1 others _ kinds groups otherGroups
  have read : readDocuments .builtin none documents = .ok (none, [step, step, step]) := rfl
  refine ⟨kinds, groups, otherGroups, same, ?_⟩
  exact ((readDocuments_stream .builtin none others).1 none _).mp (same.symm.trans read)

end Playbook.Scenario
