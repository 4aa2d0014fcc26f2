import Playbook.Proofs.DocumentFaults
import Playbook.Proofs.PortionReading
import Playbook.Proofs.StepFaults

/-!
# Faults of loading

Loading ends with a diagnostic that a runner reports, unless it meets a fault: a name that is too
long, bytes that are no text, a value that cannot be built or shown, or a step that cannot be
read.  Files are read as far as they are needed, so what is reported in front of such bytes counts
before them; a file that is a text is read like the whole text.
-/

namespace Playbook

open Fallible

namespace Files

theorem isFile_eq_error_iff {files : Files} {path : FilePath} {fault : Fault} :
    files.isFile path = .error fault ↔
      files.entry path = .error .nameTooLong ∧
        fault = AccessFault.nameTooLong.at (Text.quoted path.text) := by
  unfold isFile
  split
  · rename_i reached
    simp [reached]
  · rename_i reached
    simp [reached]
  · rename_i reached
    simp [reached, eq_comm]
  · rename_i inner other reached
    have apart : inner ≠ .nameTooLong := other
    simp [reached, apart]

theorem isFile_eq_true_iff {files : Files} {path : FilePath} :
    files.isFile path = .ok true ↔ ∃ content, files.entry path = .ok (.file content) := by
  unfold isFile
  split
  · rename_i reached
    simp [reached]
  · rename_i reached
    simp [reached]
  · rename_i reached
    simp [reached]
  · rename_i reached
    simp [reached]

theorem bytes_of_entry {files : Files} {path : FilePath} {content : List UInt8}
    (reached : files.entry path = .ok (.file content)) : files.bytes path = .ok content := by
  unfold bytes
  rw [reached]

/-- Reading a file that must be there, and going on with its bytes. -/
theorem fails_reading {α : Type} (files : Files) (path : FilePath) {missing : Failure}
    (reported : missing.Reported) {following : List UInt8 → Fallible α}
    (others : List UInt8 → Fault → Prop)
    (rest : ∀ content, Fails (following content) Failure.Reported (others content)) :
    Fails (do
        if ← (files.isFile path).mapError Failure.fault then
          let content ← (files.bytes path).mapError Failure.fault
          following content
        else throw missing) Failure.Reported fun fault =>
      (files.entry path = .error .nameTooLong ∧
          fault = AccessFault.nameTooLong.at (Text.quoted path.text)) ∨
        ∃ content, files.entry path = .ok (.file content) ∧ others content fault := by
  have branches : ∀ present, (files.isFile path).mapError Failure.fault = .ok present →
      Fails (if present then do
          let content ← (files.bytes path).mapError Failure.fault
          following content
        else throw missing) Failure.Reported fun fault =>
          ∃ content, files.entry path = .ok (.file content) ∧ others content fault := by
    intro present success
    have known := mapError_eq_ok_iff.mp success
    cases present with
    | false =>
        apply Fails.error reported
        · intro fault same
          subst same
          exact Failure.not_reported_fault fault reported
        · intro fault ⟨content, reached, _⟩
          rw [isFile_eq_true_iff.mpr ⟨content, reached⟩] at known
          cases known
    | true =>
        obtain ⟨content, reached⟩ := isFile_eq_true_iff.mp known
        rw [if_pos rfl, bytes_of_entry reached]
        apply (rest content).congr
        intro fault
        constructor
        · intro later
          exact ⟨content, reached, later⟩
        · intro ⟨other, otherReached, later⟩
          rw [reached] at otherReached
          cases otherReached
          exact later
  apply Fails.congr
  · exact (Fails.ofFault _).bind branches
  · intro fault
    rw [isFile_eq_error_iff]
    constructor
    · intro faulty
      rcases faulty with reached | ⟨present, _, later⟩
      · exact .inl reached
      · exact .inr later
    · intro faulty
      rcases faulty with reached | ⟨content, reached, later⟩
      · exact .inl reached
      · right
        have present := isFile_eq_true_iff.mpr ⟨content, reached⟩
        exact ⟨true, mapError_eq_ok_iff.mpr present, content, reached, later⟩

end Files

namespace Properties

/-- What keeps a properties file from being read, other than what is reported. -/
inductive FileFault (files : Files) (path : FilePath) : Fault → Prop where
  | nameTooLong :
      files.entry path = .error .nameTooLong →
      FileFault files path (Files.AccessFault.nameTooLong.at (Text.quoted path.text))
  /-- All lines in front of bytes that are no text are well-formed. -/
  | undecodable {content : List UInt8} {layer : Layer} {fault : Fault} :
      files.entry path = .ok (.file content) →
      readLines (Text.readLines content).lines = .ok layer →
      (Text.readLines content).fault = some fault → FileFault files path fault

theorem fails_parse (filename : Option String) (lines : List String) :
    Fails (parse filename lines) Failure.Reported fun _ => False := by
  apply Fails.ofUsual
  · intro line
    exact ⟨_, rfl, rfl⟩
  · intro line fault same
    cases same

theorem fails_unlessFaulty (layer : Layer) (met : Option Fault) :
    Fails (unlessFaulty layer met) Failure.Reported fun fault => met = some fault := by
  cases met with
  | none => exact Fails.ok layer nofun
  | some found =>
      apply (Fails.fault found).congr
      intro fault
      simp [eq_comm]

theorem fails_parseBytes (filename : Option String) (content : List UInt8) :
    Fails (parseBytes filename content) Failure.Reported fun fault =>
      (∃ layer, readLines (Text.readLines content).lines = .ok layer) ∧
        (Text.readLines content).fault = some fault := by
  unfold parseBytes
  apply Fails.congr
  · exact (fails_parse filename _).bind fun layer _ => fails_unlessFaulty layer _
  · intro fault
    unfold parse
    simp [mapError_eq_ok_iff]

theorem fails_load (files : Files) (path : FilePath) :
    Fails (load files path) Failure.Reported (FileFault files path) := by
  unfold load
  apply (Files.fails_reading files path ⟨_, rfl, rfl⟩ _
    fun content => fails_parseBytes (some path.text) content).congr
  intro fault
  constructor
  · intro faulty
    rcases faulty with ⟨reached, rfl⟩ | ⟨content, reached, ⟨layer, wellFormed⟩, met⟩
    · exact .nameTooLong reached
    · exact .undecodable reached wellFormed met
  · intro faulty
    rcases faulty with reached | ⟨reached, wellFormed, met⟩
    · exact .inl ⟨reached, rfl⟩
    · exact .inr ⟨_, reached, ⟨_, wellFormed⟩, met⟩

/-- The first of several files that cannot be read. -/
def firstFault (files : Files) (layer : Layer) (paths : List FilePath) (fault : Fault) : Prop :=
  ∃ earlier path later reached, paths = earlier ++ path :: later ∧
    loadOnto files layer earlier = .ok reached ∧ FileFault files path fault

theorem fails_loadOnto (files : Files) (layer : Layer) (paths : List FilePath) :
    Fails (loadOnto files layer paths) Failure.Reported (firstFault files layer paths) := by
  induction paths generalizing layer with
  | nil =>
      apply Fails.ok
      intro fault ⟨earlier, path, later, _, same, _⟩
      simp at same
  | cons first rest ih =>
      unfold loadOnto
      apply Fails.congr
      · apply Fails.bind (fails_load files first)
        intro above _
        exact ih _
      · intro fault
        constructor
        · intro faulty
          rcases faulty with faulty |
            ⟨above, success, earlier, path, later, reached, rfl, before, faulty⟩
          · exact ⟨[], first, rest, layer, rfl, rfl, faulty⟩
          · refine ⟨first :: earlier, path, later, reached, rfl, ?_, faulty⟩
            exact bind_eq_ok_iff.mpr ⟨above, success, before⟩
        · intro ⟨earlier, path, later, reached, same, before, faulty⟩
          cases earlier with
          | nil =>
              cases same
              exact .inl faulty
          | cons head earlier =>
              cases same
              obtain ⟨above, success, before⟩ := bind_eq_ok_iff.mp before
              exact .inr ⟨above, success, earlier, path, later, reached, rfl, before, faulty⟩

end Properties

namespace Scenario

/-- The first of several steps that cannot be read. -/
def firstStepFault (registry : Registry) (filename : Option String) (number : Nat)
    (items : List Item) (fault : Fault) : Prop :=
  ∃ earlier document later steps, items = earlier ++ .step document :: later ∧
    readItems registry filename number earlier = .ok steps ∧ StepFault registry document fault

theorem fails_headerError {α : Type} {faults : Fault → Prop} (message : String)
    (filename : Option String) (element : Value) (safe : ∀ fault, ¬faults fault) :
    Fails (.error (schemaError message filename none element) : Fallible α) Failure.Reported
      faults :=
  (fails_schemaError ⟨message, String.empty_append.symm⟩ filename element safe).mono fun _ =>
    Failure.SchemaOf.reported

theorem fails_readItems (registry : Registry) (filename : Option String) (number : Nat)
    (items : List Item) :
    Fails (readItems registry filename number items) Failure.Reported
      (firstStepFault registry filename number items) := by
  induction items generalizing number with
  | nil =>
      apply Fails.ok
      intro fault ⟨earlier, document, later, _, same, _⟩
      simp at same
  | cons first rest ih =>
      cases first with
      | header document =>
          apply fails_headerError
          intro fault ⟨earlier, step, later, steps, same, before, _⟩
          cases earlier with
          | nil => cases same
          | cons head earlier =>
              cases same
              cases before
      | step document =>
          unfold readItems
          apply Fails.congr
          · apply Fails.bind ((fails_readStep registry filename number document).mono fun _ =>
              Failure.SchemaOf.reported)
            intro step _
            apply Fails.bind_of_safe (ih (number + 1))
            intro steps _
            exact Fails.ok _ fun _ => id
          · intro fault
            constructor
            · intro faulty
              rcases faulty with faulty | ⟨step, success, later⟩
              · exact ⟨[], document, rest, [], rfl, rfl, faulty⟩
              · obtain ⟨earlier, other, later, steps, rfl, before, faulty⟩ := later
                refine ⟨.step document :: earlier, other, later, step :: steps, rfl, ?_, faulty⟩
                exact bind_eq_ok_iff.mpr ⟨step, success, bind_eq_ok_iff.mpr ⟨steps, before, rfl⟩⟩
            · intro ⟨earlier, other, later, steps, same, before, faulty⟩
              cases earlier with
              | nil =>
                  cases same
                  exact .inl faulty
              | cons head earlier =>
                  cases same
                  obtain ⟨step, success, before⟩ := bind_eq_ok_iff.mp before
                  obtain ⟨others, before, _⟩ := bind_eq_ok_iff.mp before
                  exact .inr ⟨step, success, earlier, other, later, others, rfl, before, faulty⟩

/-- A header that is none of this kind of document, and does not even say so. -/
def unshownSpec (document : Value) (fault : Fault) : Prop :=
  let spec := (Value.field? "spec" ((document.entries?).getD [])).getD .null
  (spec == .text headerSpec) = false ∧ spec.literal = .error fault

theorem fails_readHeader (filename : Option String) (document : Value) :
    Fails (readHeader filename document) Failure.Reported (unshownSpec document) := by
  unfold readHeader unshownSpec
  dsimp only
  generalize (Value.field? "spec" ((document.entries?).getD [])).getD .null = spec
  by_cases right : (spec == .text headerSpec) = true
  · rw [if_pos right]
    apply ((Diagnostic.fails_checked _ _ _ _).mono fun _ => Failure.SchemaOf.reported).congr
    intro fault
    simp [right]
  · rw [if_neg right]
    apply Fails.congr
    · apply Fails.bind (Fails.ofFault _)
      intro shown _
      exact fails_headerError _ _ _ fun _ => id
    · intro fault
      simp [right]

/-- What keeps the documents of a stream from being read as a scenario. -/
inductive DocumentsFault (registry : Registry) (filename : Option String) :
    List Value → Fault → Prop where
  | header {first : Value} {rest : List Value} {fault : Fault} :
      isHeader first = true → unshownSpec first fault →
      DocumentsFault registry filename (first :: rest) fault
  | behindHeader {first : Value} {rest : List Value} {header : Header} {fault : Fault} :
      isHeader first = true → readHeader filename first = .ok header →
      firstStepFault registry filename 1 (rest.flatMap itemsOf) fault →
      DocumentsFault registry filename (first :: rest) fault
  | steps {first : Value} {rest : List Value} {fault : Fault} :
      isHeader first = false →
      firstStepFault registry filename 1 ((first :: rest).flatMap itemsOf) fault →
      DocumentsFault registry filename (first :: rest) fault

theorem fails_readDocuments (registry : Registry) (filename : Option String)
    (documents : List Value) :
    Fails (readDocuments registry filename documents) Failure.Reported
      (DocumentsFault registry filename documents) := by
  unfold readDocuments
  cases documents with
  | nil =>
      apply Fails.ok
      intro fault faulty
      cases faulty
  | cons first rest =>
      dsimp only
      by_cases starts : isHeader first = true
      · rw [if_pos starts]
        apply Fails.congr
        · apply Fails.bind (fails_readHeader filename first)
          intro header _
          apply Fails.bind_of_safe (fails_readItems registry filename 1 _)
          intro steps _
          exact Fails.ok _ fun _ => id
        · intro fault
          constructor
          · intro faulty
            rcases faulty with unshown | ⟨header, success, faulty⟩
            · exact .header starts unshown
            · exact .behindHeader starts success faulty
          · intro faulty
            rcases faulty with ⟨_, unshown⟩ | ⟨_, success, faulty⟩ | ⟨plain, _⟩
            · exact .inl unshown
            · exact .inr ⟨_, success, faulty⟩
            · rw [starts] at plain
              cases plain
      · rw [if_neg starts]
        apply Fails.congr
        · apply Fails.bind_of_safe (fails_readItems registry filename 1 _)
          intro steps _
          exact Fails.ok _ fun _ => id
        · intro fault
          constructor
          · exact .steps (by simpa using starts)
          · intro faulty
            rcases faulty with ⟨isFirst, _⟩ | ⟨isFirst, _⟩ | ⟨_, faulty⟩
            · exact absurd isFirst starts
            · exact absurd isFirst starts
            · exact faulty

/-- What keeps the bytes of a file from being read as a scenario. -/
inductive BytesFault (registry : Registry) (ahead : Yaml.Lookahead) (filename : Option String)
    (content : List UInt8) : Fault → Prop where
  /-- The bytes are no text as far as they are read, or a scalar has no value. -/
  | markup {fault : Fault} :
      Yaml.StreamFault ((Yaml.Supply.ofBytes content).stream ahead) fault →
      BytesFault registry ahead filename content fault
  | documents {documents : List Value} {fault : Fault} :
      (Yaml.Supply.ofBytes content).load ahead = .ok documents →
      DocumentsFault registry filename documents fault →
      BytesFault registry ahead filename content fault

theorem fails_markup {α : Type} (source : Diagnostic.MarkupSource) (text : String)
    (computation : Except Yaml.Failure α) :
    Fails (computation.mapError (Diagnostic.ofMarkupFailure source text)) Failure.Reported
      fun fault => computation = .error (.fault fault) where
  fault_or_usual failure failed := by
    obtain ⟨original, _, rfl⟩ := mapError_eq_error_iff.mp failed
    cases original with
    | unreadable c index => exact .inr ⟨_, rfl, rfl⟩
    | problem problem place =>
        right
        refine ⟨_, rfl, ?_⟩
        unfold Diagnostic.markup
        dsimp only
        split <;> rfl
    | fault fault => exact .inl ⟨fault, rfl⟩
  fault_iff fault := by
    rw [mapError_eq_error_iff]
    constructor
    · intro ⟨original, failed, same⟩
      cases original with
      | unreadable c index => cases same
      | problem problem place => cases same
      | fault inner =>
          cases same
          exact failed
    · intro failed
      exact ⟨.fault fault, failed, rfl⟩

theorem fails_readBytes (registry : Registry) (ahead : Yaml.Lookahead) (file : FilePath)
    (content : List UInt8) :
    Fails (readBytes registry ahead file content) Failure.Reported
      (BytesFault registry ahead (some file.text) content) := by
  unfold readBytes ofDocuments
  apply Fails.congr
  · apply Fails.bind (fails_markup _ _ _)
    intro documents _
    apply Fails.bind_of_safe (fails_readDocuments registry (some file.text) documents)
    intro parts _
    exact Fails.ok _ fun _ => id
  · intro fault
    constructor
    · intro faulty
      rcases faulty with failed | ⟨documents, success, faulty⟩
      · exact .markup (Yaml.valuesOf_eq_fault_iff.mp failed)
      · exact .documents (mapError_eq_ok_iff.mp success) faulty
    · intro faulty
      rcases faulty with faulty | ⟨success, faulty⟩
      · exact .inl (Yaml.valuesOf_eq_fault_iff.mpr faulty)
      · exact .inr ⟨_, mapError_eq_ok_iff.mpr success, faulty⟩

/-- What keeps a file from being loaded as a scenario, other than what is reported. -/
inductive FileFault (registry : Registry) (ahead : Yaml.Lookahead) (files : Files)
    (file : FilePath) : Fault → Prop where
  | nameTooLong :
      files.entry file = .error .nameTooLong →
      FileFault registry ahead files file (Files.AccessFault.nameTooLong.at (Text.quoted file.text))
  | content {content : List UInt8} {fault : Fault} :
      files.entry file = .ok (.file content) →
      BytesFault registry ahead (some file.text) content fault →
      FileFault registry ahead files file fault

theorem fails_load (registry : Registry) (ahead : Yaml.Lookahead) (files : Files)
    (workspace path : FilePath) :
    Fails (load registry ahead files workspace path) Failure.Reported
      (FileFault registry ahead files (workspace.join path)) := by
  unfold load
  apply (Files.fails_reading files (workspace.join path) ⟨_, rfl, rfl⟩ _
    fun content => fails_readBytes registry ahead (workspace.join path) content).congr
  intro fault
  constructor
  · intro faulty
    rcases faulty with ⟨reached, rfl⟩ | ⟨content, reached, faulty⟩
    · exact .nameTooLong reached
    · exact .content reached faulty
  · intro faulty
    rcases faulty with reached | ⟨reached, faulty⟩
    · exact .inl ⟨reached, rfl⟩
    · exact .inr ⟨_, reached, faulty⟩

end Scenario

namespace Runner

/-- What keeps properties from being loaded. -/
inductive PropertiesFault (runner : Runner) : Fault → Prop where
  | localName :
      runner.engine.files.entry runner.localFile = .error .nameTooLong →
      PropertiesFault runner
        (Files.AccessFault.nameTooLong.at (Text.quoted runner.localFile.text))
  | file {paths : List FilePath} {fault : Fault} :
      runner.propertiesPaths = .ok paths →
      Properties.firstFault runner.engine.files [] paths fault → PropertiesFault runner fault

theorem fails_loadProperties (runner : Runner) :
    Fails runner.loadProperties Failure.Reported runner.PropertiesFault := by
  unfold loadProperties propertiesPaths PropertySet.ofFiles
  apply Fails.congr
  · apply Fails.bind
    · apply Fails.bind_of_safe (Fails.ofFault _)
      intro present _
      exact Fails.ok _ fun _ => id
    · intro paths _
      apply Fails.bind_of_safe (Properties.fails_loadOnto runner.engine.files [] paths)
      intro layer _
      exact Fails.ok _ fun _ => id
  · intro fault
    constructor
    · intro faulty
      rcases faulty with failed | ⟨paths, success, faulty⟩
      · obtain ⟨reached, rfl⟩ := Files.isFile_eq_error_iff.mp failed
        exact .localName reached
      · exact .file success faulty
    · intro faulty
      rcases faulty with reached | ⟨success, faulty⟩
      · exact .inl (Files.isFile_eq_error_iff.mpr ⟨reached, rfl⟩)
      · exact .inr ⟨_, success, faulty⟩

/-- What keeps properties and scenario of a run from being loaded, other than what is reported. -/
inductive LoadFault (runner : Runner) (path : FilePath) : Fault → Prop where
  | properties {fault : Fault} : runner.PropertiesFault fault → LoadFault runner path fault
  | scenario {properties : PropertySet} {fault : Fault} :
      runner.loadProperties = .ok properties →
      Scenario.FileFault runner.engine.registry runner.ahead runner.engine.files
        (runner.engine.workspace.join path) fault →
      LoadFault runner path fault

theorem fails_load (runner : Runner) (path : FilePath) :
    Fails (runner.load path) Failure.Reported (runner.LoadFault path) := by
  unfold load
  apply Fails.congr
  · apply Fails.bind runner.fails_loadProperties
    intro properties _
    apply Fails.bind_of_safe (Scenario.fails_load runner.engine.registry runner.ahead
      runner.engine.files runner.engine.workspace path)
    intro scenario _
    exact Fails.ok _ fun _ => id
  · intro fault
    constructor
    · intro faulty
      rcases faulty with faulty | ⟨properties, success, faulty⟩
      · exact .properties faulty
      · exact .scenario success faulty
    · intro faulty
      rcases faulty with faulty | ⟨success, faulty⟩
      · exact .inl faulty
      · exact .inr ⟨_, success, faulty⟩

end Runner

end Playbook
