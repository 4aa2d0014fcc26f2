import Playbook.Proofs.Exports
import Playbook.Proofs.References
import Playbook.Properties.File

/-!
# Properties behind a history of exports

Exports are accepted or rejected as a whole, whatever the properties are, and a rejected one changes
nothing.  So a key stands for its value in the last accepted export that has the key, or else for
its value in the mapping or in the files that the properties began with.  All ways to look a key up
agree on this.
-/

namespace Playbook

namespace PropertySet

/-- The properties behind exports that are made one after the other, some of which may be
rejected. -/
def after (start : PropertySet) (history : List (List (Value × Value))) : PropertySet :=
  history.foldl
    (fun properties values => ((Procedure.exportValues values).run properties).properties) start

/-- An export that is accepted and has a key. -/
def Gives (key : String) (values : List (Value × Value)) : Prop :=
  Exportable values ∧ ∃ v, (.text key, v) ∈ values

/-- A mapping with text keys. -/
def keyed (fields : List (String × Value)) : List (Value × Value) :=
  fields.map fun field => (.text field.1, field.2)

/-- What a key stands for, behind exports from a mapping that the properties began with. -/
inductive Stored (file : List (String × Value)) (history : List (List (Value × Value)))
    (key : String) (v : Value) : Prop where
  | exported (values : List (Value × Value)) (last : IsLast history (Gives key) values)
      (entry : IsLast values (fun entry => entry.1 = .text key) (.text key, v))
  | read (never : ∀ values ∈ history, ¬Gives key values) (member : (key, v) ∈ file)

section History

variable {key text : String}

/-- The text that an export writes under a key. -/
def exportedText (key : String) (values : List (Value × Value)) : Option String :=
  (exportLayer values).toOption.bind fun layer => Ordered.find? key layer.reverse

theorem exportedText_eq_some_iff {values : List (Value × Value)} :
    exportedText key values = some text ↔
      Exportable values ∧ ∃ v, IsLast values (fun entry => entry.1 = .text key) (.text key, v) ∧
        v.stringify = .ok text := by
  rw [← exists_exportLayer_iff]
  unfold exportedText
  cases success : exportLayer values with
  | error failure => simp [Except.toOption]
  | ok layer =>
      obtain ⟨_, shown⟩ := exportLayer_eq_ok_iff.mp success
      rw [and_iff_right ⟨layer, rfl⟩]
      exact find?_reverse_of_shown shown

theorem isSome_exportedText_iff {values : List (Value × Value)} :
    (exportedText key values).isSome = true ↔ Gives key values := by
  unfold Gives
  rw [← exists_exportLayer_iff]
  unfold exportedText
  cases success : exportLayer values with
  | error failure => simp [Except.toOption]
  | ok layer =>
      obtain ⟨_, shown⟩ := exportLayer_eq_ok_iff.mp success
      rw [and_iff_right ⟨layer, rfl⟩, ← mem_keys_of_shown shown]
      change (Ordered.find? key layer.reverse).isSome = true ↔ _
      rw [Ordered.isSome_find?_iff, List.map_reverse, List.mem_reverse]

theorem find?_run_exportValues (properties : PropertySet) (values : List (Value × Value)) :
    ((Procedure.exportValues values).run properties).properties.find? key =
      (exportedText key values).or (properties.find? key) := by
  rw [Procedure.run_exportValues]
  unfold exportedText
  cases exportLayer values with
  | error failure => rfl
  | ok layer => exact properties.find?_write layer key

theorem find?_after_eq_some_iff {start : PropertySet} {history : List (List (Value × Value))} :
    (start.after history).find? key = some text ↔
      (∃ values, IsLast history (Gives key) values ∧ exportedText key values = some text) ∨
        (∀ values ∈ history, ¬Gives key values) ∧ start.find? key = some text :=
  view_foldl_eq_some_iff (find? key) find?_run_exportValues fun _ => isSome_exportedText_iff

@[simp] theorem file_run_exportValues (properties : PropertySet) (values : List (Value × Value)) :
    ((Procedure.exportValues values).run properties).properties.file = properties.file := by
  rw [Procedure.run_exportValues]
  cases exportLayer values <;> rfl

@[simp] theorem file_after (start : PropertySet) (history : List (List (Value × Value))) :
    (start.after history).file = start.file := by
  induction history generalizing start with
  | nil => rfl
  | cons values rest ih => exact (ih _).trans (file_run_exportValues start values)

/-- What accepted exports keep of the upper layer holds behind a history. -/
theorem runtime_after (holds : Layer → Prop) {start : PropertySet} (begins : holds start.runtime)
    (kept : ∀ below values layer, holds below → exportLayer values = .ok layer →
      holds (Ordered.putAll below layer))
    (history : List (List (Value × Value))) : holds (start.after history).runtime := by
  induction history generalizing start with
  | nil => exact begins
  | cons values rest ih =>
      apply ih
      dsimp only
      rw [Procedure.run_exportValues]
      cases success : exportLayer values with
      | error failure => exact begins
      | ok layer => exact kept start.runtime values layer begins success

/-- Exports repeat no key. -/
theorem nodup_runtime_after {start : PropertySet} (distinct : (start.runtime.map Prod.fst).Nodup)
    (history : List (List (Value × Value))) :
    ((start.after history).runtime.map Prod.fst).Nodup := by
  apply runtime_after (fun layer => (layer.map Prod.fst).Nodup) distinct
  intro below values layer distinctBelow _
  exact Ordered.nodup_keys_putAll distinctBelow layer

end History

section Beginning

variable {file : List (String × Value)} {layer : Layer}

theorem exists_text_of_mem_keyed : ∀ entry ∈ keyed file, ∃ name, entry.1 = .text name := by
  intro entry member
  obtain ⟨field, _, rfl⟩ := List.mem_map.mp member
  exact ⟨field.1, rfl⟩

theorem exists_shown_keyed_iff :
    (∃ layer, List.Forall₂ ShownAs (keyed file) layer) ↔
      ∀ field ∈ file, ∃ text, field.2.stringify = .ok text := by
  rw [exists_shown_iff exists_text_of_mem_keyed]
  exact List.forall_mem_map

theorem map_fst_of_shown_keyed (shown : List.Forall₂ ShownAs (keyed file) layer) :
    layer.map Prod.fst = file.map Prod.fst := by
  induction file generalizing layer with
  | nil =>
      cases shown
      rfl
  | cons field rest ih =>
      obtain ⟨⟨name, shown⟩, others, ⟨same, _⟩, later, rfl⟩ := List.forall₂_cons_left_iff.mp shown
      cases same
      exact congrArg (field.1 :: ·) (ih later)

theorem mem_of_shown_keyed (shown : List.Forall₂ ShownAs (keyed file) layer) {key text : String} :
    (key, text) ∈ layer ↔ ∃ v, (key, v) ∈ file ∧ v.stringify = .ok text := by
  induction file generalizing layer with
  | nil =>
      cases shown
      simp
  | cons field rest ih =>
      obtain ⟨⟨name, stored⟩, others, ⟨same, here⟩, later, rfl⟩ :=
        List.forall₂_cons_left_iff.mp shown
      cases same
      simp only [List.mem_cons, ih later, or_and_right, exists_or]
      apply or_congr_left
      constructor
      · intro same
        cases same
        exact ⟨field.2, rfl, here⟩
      · rintro ⟨v, rfl, isText⟩
        rw [here] at isText
        cases isText
        rfl

theorem ofValues_keyed_eq_ok_iff {start : PropertySet} :
    ofValues (keyed file) = .ok start ↔
      ∃ layer, List.Forall₂ ShownAs (keyed file) layer ∧ start = ofFile layer := by
  unfold ofValues
  constructor
  · intro success
    obtain ⟨layer, texts, same⟩ := Fallible.bind_eq_ok_iff.mp success
    cases same
    exact ⟨layer, (exportTexts_eq_ok_iff exists_text_of_mem_keyed).mp texts, rfl⟩
  · rintro ⟨layer, shown, rfl⟩
    rw [(exportTexts_eq_ok_iff exists_text_of_mem_keyed).mpr shown]
    rfl

/-- What a key stands for has a text, and a lookup finds it. -/
theorem find?_after_eq_some_iff_stored {start : PropertySet}
    (began : ofValues (keyed file) = .ok start)
    (distinct : (file.map Prod.fst).Nodup) {history : List (List (Value × Value))}
    {key text : String} :
    (start.after history).find? key = some text ↔
      ∃ v, Stored file history key v ∧ v.stringify = .ok text := by
  obtain ⟨layer, shown, rfl⟩ := ofValues_keyed_eq_ok_iff.mp began
  have found : (ofFile layer).find? key = some text ↔
      ∃ v, (key, v) ∈ file ∧ v.stringify = .ok text := by
    have distinctLayer : (layer.map Prod.fst).Nodup := by rwa [map_fst_of_shown_keyed shown]
    rw [← mem_of_shown_keyed shown]
    exact Ordered.find?_eq_some_iff distinctLayer
  rw [find?_after_eq_some_iff, found]
  constructor
  · rintro (⟨values, last, written⟩ | ⟨never, v, member, isText⟩)
    · obtain ⟨_, v, entry, isText⟩ := exportedText_eq_some_iff.mp written
      exact ⟨v, .exported values last entry, isText⟩
    · exact ⟨v, .read never member, isText⟩
  · rintro ⟨v, stored, isText⟩
    cases stored with
    | exported values last entry =>
        obtain ⟨_, _, _, ⟨exportable, _⟩, _⟩ := id last
        exact .inl ⟨values, last, exportedText_eq_some_iff.mpr ⟨exportable, v, entry, isText⟩⟩
    | read never member => exact .inr ⟨never, v, member, isText⟩

theorem exists_text_of_stored {start : PropertySet} (began : ofValues (keyed file) = .ok start)
    {history : List (List (Value × Value))} {key : String} {v : Value}
    (stored : Stored file history key v) : ∃ text, v.stringify = .ok text := by
  cases stored with
  | exported values last entry =>
      obtain ⟨_, _, _, ⟨exportable, _⟩, _⟩ := last
      exact exportable.texts _ entry.mem
  | read never member =>
      obtain ⟨layer, shown, _⟩ := ofValues_keyed_eq_ok_iff.mp began
      exact exists_shown_keyed_iff.mp ⟨layer, shown⟩ _ member

theorem find?_after_eq_none_iff {start : PropertySet} (began : ofValues (keyed file) = .ok start)
    (distinct : (file.map Prod.fst).Nodup) {history : List (List (Value × Value))} {key : String} :
    (start.after history).find? key = none ↔ ¬∃ v, Stored file history key v := by
  constructor
  · rintro missing ⟨v, stored⟩
    obtain ⟨text, isText⟩ := exists_text_of_stored began stored
    have found := (find?_after_eq_some_iff_stored began distinct).mpr ⟨v, stored, isText⟩
    rw [missing] at found
    cases found
  · intro nothing
    rw [Option.eq_none_iff_forall_ne_some]
    intro text found
    obtain ⟨v, stored, _⟩ := (find?_after_eq_some_iff_stored began distinct).mp found
    exact nothing ⟨v, stored⟩

theorem exists_ofValues_keyed_iff :
    (∃ start, ofValues (keyed file) = .ok start) ↔
      ∀ field ∈ file, ∃ text, field.2.stringify = .ok text := by
  rw [← exists_shown_keyed_iff]
  constructor
  · rintro ⟨start, began⟩
    obtain ⟨layer, shown, _⟩ := ofValues_keyed_eq_ok_iff.mp began
    exact ⟨layer, shown⟩
  · rintro ⟨layer, shown⟩
    exact ⟨_, ofValues_keyed_eq_ok_iff.mpr ⟨layer, shown, rfl⟩⟩

/-- Neither layer repeats a key. -/
theorem nodup_after_of_ofValues {start : PropertySet} (began : ofValues (keyed file) = .ok start)
    (distinct : (file.map Prod.fst).Nodup) (history : List (List (Value × Value))) :
    ((start.after history).runtime.map Prod.fst).Nodup ∧
      ((start.after history).file.map Prod.fst).Nodup := by
  obtain ⟨layer, shown, rfl⟩ := ofValues_keyed_eq_ok_iff.mp began
  have empty : ((ofFile layer).runtime.map Prod.fst).Nodup := List.nodup_nil
  refine ⟨nodup_runtime_after empty history, ?_⟩
  rw [file_after]
  change (layer.map Prod.fst).Nodup
  rwa [map_fst_of_shown_keyed shown]

end Beginning

section Lookups

variable {properties : PropertySet} (step : Option Int) (key : String)

theorem resolve_eq_ok_iff {step : Option Int} {key text : String} :
    properties.resolve step key = .ok text ↔ properties.find? key = some text := by
  unfold resolve
  cases properties.find? key <;> simp

theorem resolve_eq_error_iff {step : Option Int} {key : String} :
    properties.resolve step key = .error (unresolved key step) ↔ properties.find? key = none := by
  unfold resolve
  cases properties.find? key <;> simp

theorem toOption_resolve :
    (properties.resolve step key).toOption = properties.find? key := by
  unfold resolve
  cases properties.find? key <;> rfl

/-- Where no layer repeats a key, the map of all properties says what a lookup finds. -/
theorem find?_snapshot (runtime : (properties.runtime.map Prod.fst).Nodup)
    (file : (properties.file.map Prod.fst).Nodup) :
    Ordered.find? key properties.snapshot = properties.find? key := by
  unfold snapshot find?
  rw [Ordered.find?_putAll, Ordered.find?_putAll, Ordered.find?_reverse runtime,
    Ordered.find?_reverse file, Ordered.find?_nil, Option.or_none]

end Lookups

end PropertySet

namespace Properties

/-- Reading lines repeats no key. -/
theorem nodup_readLinesFrom {number : Nat} {layer result : Layer} {lines : List String}
    (distinct : (layer.map Prod.fst).Nodup)
    (success : readLinesFrom number layer lines = .ok result) : (result.map Prod.fst).Nodup := by
  induction lines generalizing number layer with
  | nil =>
      cases success
      exact distinct
  | cons line rest ih =>
      rw [readLinesFrom] at success
      obtain ⟨entry, _, success⟩ := Fallible.bind_eq_ok_iff.mp success
      cases entry with
      | none => exact ih distinct success
      | some entry => exact ih (Ordered.nodup_keys_put distinct entry.1 entry.2) success

/-- A file is read if all its lines are well-formed and all of it is a text. -/
theorem parseBytes_eq_ok_iff {filename : Option String} {content : List UInt8} {layer : Layer} :
    parseBytes filename content = .ok layer ↔
      readLines (Text.readLines content).lines = .ok layer ∧
        (Text.readLines content).fault = none := by
  constructor
  · intro success
    obtain ⟨above, parsed, rest⟩ := Fallible.bind_eq_ok_iff.mp success
    cases behind : (Text.readLines content).fault with
    | none =>
        rw [behind] at rest
        cases rest
        exact ⟨Fallible.mapError_eq_ok_iff.mp parsed, rfl⟩
    | some fault =>
        rw [behind] at rest
        cases rest
  · intro ⟨parsed, nothing⟩
    refine Fallible.bind_eq_ok_iff.mpr ⟨layer, Fallible.mapError_eq_ok_iff.mpr parsed, ?_⟩
    rw [nothing]
    rfl

/-- A file that is read is parsed from its lines. -/
theorem exists_lines_of_load {files : Files} {path : FilePath} {layer : Layer}
    (success : load files path = .ok layer) : ∃ lines, readLines lines = .ok layer := by
  unfold load at success
  obtain ⟨present, _, success⟩ := Fallible.bind_eq_ok_iff.mp success
  cases present with
  | false => cases success
  | true =>
      obtain ⟨content, _, success⟩ := Fallible.bind_eq_ok_iff.mp success
      exact ⟨(Text.readLines content).lines, (parseBytes_eq_ok_iff.mp success).1⟩

theorem nodup_load {files : Files} {path : FilePath} {layer : Layer}
    (success : load files path = .ok layer) : (layer.map Prod.fst).Nodup := by
  have empty : (([] : Layer).map Prod.fst).Nodup := List.nodup_nil
  obtain ⟨lines, read⟩ := exists_lines_of_load success
  exact nodup_readLinesFrom empty read

/-- The properties of a file, none if it cannot be read. -/
def loaded (files : Files) (path : FilePath) : Layer := (load files path).toOption.getD []

theorem loadOnto_eq_ok_iff {files : Files} {base layer : Layer} {paths : List FilePath} :
    loadOnto files base paths = .ok layer ↔
      (∀ path ∈ paths, ∃ above, load files path = .ok above) ∧
        paths.foldl (fun below path => Ordered.putAll below (loaded files path)) base = layer := by
  induction paths generalizing base with
  | nil => simp [loadOnto]
  | cons path rest ih =>
      rw [loadOnto, List.forall_mem_cons, List.foldl_cons]
      cases success : load files path with
      | error failure =>
          constructor
          · intro loads
            cases loads
          · rintro ⟨⟨⟨above, loads⟩, _⟩, _⟩
            cases loads
      | ok above =>
          have same : loaded files path = above := by simp [loaded, success, Except.toOption]
          have loads : ∃ read, (Except.ok above : Fallible Layer) = .ok read := ⟨above, rfl⟩
          rw [same, and_iff_right loads]
          exact ih

/-- A file that has a key. -/
def Defines (files : Files) (key : String) (path : FilePath) : Prop :=
  ∃ layer, load files path = .ok layer ∧ key ∈ layer.map Prod.fst

theorem isSome_find?_loaded {files : Files} {key : String} (path : FilePath) :
    (Ordered.find? key (loaded files path).reverse).isSome = true ↔ Defines files key path := by
  rw [Ordered.isSome_find?_iff, List.map_reverse, List.mem_reverse]
  unfold loaded Defines
  cases load files path <;> simp [Except.toOption]

/-- Of several files, the last one that has a key counts. -/
theorem find?_loadOnto {files : Files} {layer : Layer} {paths : List FilePath}
    (success : loadOnto files [] paths = .ok layer) {key text : String} :
    Ordered.find? key layer = some text ↔
      ∃ path above, IsLast paths (Defines files key) path ∧ load files path = .ok above ∧
        (key, text) ∈ above := by
  obtain ⟨_, rfl⟩ := loadOnto_eq_ok_iff.mp success
  rw [view_foldl_eq_some_iff (Ordered.find? key)
    (fun below path => Ordered.find?_putAll key below (loaded files path)) isSome_find?_loaded]
  constructor
  · rintro (⟨path, last, found⟩ | ⟨_, found⟩)
    · obtain ⟨_, _, _, ⟨above, loads, _⟩, _⟩ := id last
      refine ⟨path, above, last, loads, ?_⟩
      have same : loaded files path = above := by simp [loaded, loads, Except.toOption]
      rw [same] at found
      exact List.mem_reverse.mp (Ordered.mem_of_find?_eq_some found)
    · cases found
  · rintro ⟨path, above, last, loads, member⟩
    have same : loaded files path = above := by simp [loaded, loads, Except.toOption]
    refine .inl ⟨path, last, ?_⟩
    rw [same, Ordered.find?_reverse (nodup_load loads)]
    exact Ordered.find?_eq_some_of_mem (nodup_load loads) member

theorem nodup_loadOnto {files : Files} {base layer : Layer} {paths : List FilePath}
    (distinct : (base.map Prod.fst).Nodup) (success : loadOnto files base paths = .ok layer) :
    (layer.map Prod.fst).Nodup := by
  induction paths generalizing base with
  | nil =>
      cases success
      exact distinct
  | cons path rest ih =>
      obtain ⟨above, _, success⟩ := Fallible.bind_eq_ok_iff.mp success
      exact ih (Ordered.nodup_keys_putAll distinct above) success

end Properties

namespace PropertySet

/-- All ways to look a key up agree with resolving it. -/
structure LookupsAgree (properties : PropertySet) (step : Option Int) (key : String) : Prop where
  contains : properties.contains key = true ↔ ∃ text, properties.resolve step key = .ok text
  get : ∀ default, properties.get key default = (properties.resolve step key).toOption.or default
  snapshot : Ordered.find? key properties.snapshot = (properties.resolve step key).toOption

theorem lookupsAgree {properties : PropertySet}
    (runtime : (properties.runtime.map Prod.fst).Nodup)
    (file : (properties.file.map Prod.fst).Nodup) (step : Option Int) (key : String) :
    properties.LookupsAgree step key where
  contains := by
    simp only [← isSome_find?, Option.isSome_iff_exists, resolve_eq_ok_iff]
  get := by
    intro default
    rw [toOption_resolve, PropertySet.get]
  snapshot := by
    rw [toOption_resolve, find?_snapshot key runtime file]

theorem result_run_exportValues_iff (properties : PropertySet) (values : List (Value × Value)) :
    ((Procedure.exportValues values).run properties).result = .ok () ↔ Exportable values := by
  rw [Procedure.run_exportValues, ← exists_exportLayer_iff]
  cases exportLayer values <;> simp

/-- An export that is rejected changes nothing. -/
theorem run_exportValues_of_rejected {properties : PropertySet} {values : List (Value × Value)}
    (rejected : ¬Exportable values) :
    ((Procedure.exportValues values).run properties).properties = properties := by
  rw [← exists_exportLayer_iff] at rejected
  rw [Procedure.run_exportValues]
  cases success : exportLayer values with
  | error failure => rfl
  | ok layer => exact absurd ⟨layer, success⟩ rejected

/-- A mapping of texts is stored as it is. -/
theorem ofValues_texts (layer : Layer) :
    ofValues (keyed (layer.map fun entry => (entry.1, .text entry.2))) = .ok (ofFile layer) := by
  apply ofValues_keyed_eq_ok_iff.mpr
  refine ⟨layer, ?_, rfl⟩
  induction layer with
  | nil => exact .nil
  | cons entry rest ih => exact .cons ⟨rfl, rfl⟩ ih

/-- A key is resolved to the text of its value in the last accepted export that has it, or else of
its value in the mapping that the properties began with; without any it is unresolved.  Of several
properties files, the last one that has the key counts. -/
theorem resolve_after_exports :
    (∀ file : List (String × Value), (file.map Prod.fst).Nodup →
      ((∃ start, ofValues (keyed file) = .ok start) ↔
        ∀ field ∈ file, ∃ text, field.2.stringify = .ok text) ∧
      ∀ start, ofValues (keyed file) = .ok start →
        ∀ (history : List (List (Value × Value))) (step : Option Int) (key : String),
          let properties := start.after history
          (∀ text, properties.resolve step key = .ok text ↔
            ∃ v, Stored file history key v ∧ v.stringify = .ok text) ∧
          (properties.resolve step key = .error (unresolved key step) ↔
            ¬∃ v, Stored file history key v) ∧
          properties.LookupsAgree step key ∧
          properties.file = start.file) ∧
    (∀ (properties : PropertySet) (values : List (Value × Value)),
      let made := (Procedure.exportValues values).run properties
      (made.result = .ok () ↔ Exportable values) ∧
        (made.result ≠ .ok () → made.properties = properties)) ∧
    ∀ (files : Files) (paths : List FilePath) (start : PropertySet),
      ofFiles files paths = .ok start →
        ∃ merged : List (String × String), (merged.map Prod.fst).Nodup ∧
          ofValues (keyed (merged.map fun entry => (entry.1, .text entry.2))) = .ok start ∧
          ∀ key text, (key, text) ∈ merged ↔
            ∃ path layer, IsLast paths (Properties.Defines files key) path ∧
              Properties.load files path = .ok layer ∧ (key, text) ∈ layer := by
  refine ⟨?histories, ?rejected, ?files⟩
  case histories =>
    intro file distinct
    refine ⟨exists_ofValues_keyed_iff, ?_⟩
    intro start began history step key properties
    obtain ⟨runtime, layer⟩ := nodup_after_of_ofValues began distinct history
    refine ⟨?_, ?_, lookupsAgree runtime layer step key, file_after start history⟩
    · intro text
      rw [resolve_eq_ok_iff]
      exact find?_after_eq_some_iff_stored began distinct
    · rw [resolve_eq_error_iff]
      exact find?_after_eq_none_iff began distinct
  case rejected =>
    intro properties values
    refine ⟨result_run_exportValues_iff properties values, ?_⟩
    intro failed
    apply run_exportValues_of_rejected
    rwa [← result_run_exportValues_iff properties values]
  case files =>
    intro files paths start made
    obtain ⟨layer, loads, same⟩ := Fallible.bind_eq_ok_iff.mp made
    cases same
    have empty : (([] : Layer).map Prod.fst).Nodup := List.nodup_nil
    have distinct := Properties.nodup_loadOnto empty loads
    refine ⟨layer, distinct, ofValues_texts layer, ?_⟩
    intro key text
    rw [← Ordered.find?_eq_some_iff distinct]
    exact Properties.find?_loadOnto loads

namespace Histories

def file : List (String × Value) := [("host", .text "a"), ("secure", .bool true)]

def accepted : List (Value × Value) := [(.text "host", .text "b")]

/-- The second key has a blank. -/
def rejected : List (Value × Value) := [(.text "host", .text "c"), (.text "a b", .null)]

def files : Files :=
  (((⟨[], []⟩ : Files).add (.ofText "low") "host=a\nport=1".toUTF8.toList).add (.ofText "high")
    "host: z".toUTF8.toList)

/-- A rejected export does not count, and neither does a file before another one that has the
key. -/
theorem resolve_after_exports_rejected :
    (∃ start, ofValues (keyed file) = .ok start ∧
      (start.after [accepted, rejected]).resolve none "host" = .ok "b" ∧
      (start.after [accepted, rejected]).resolve none "secure" = .ok "true") ∧
    ∃ start path layer, ofFiles files [.ofText "low", .ofText "high"] = .ok start ∧
      start.resolve none "host" = .ok "z" ∧
      IsLast [.ofText "low", .ofText "high"] (Properties.Defines files "host") path ∧
      Properties.load files path = .ok layer ∧ ("host", "z") ∈ layer := by
  have refused : ¬Exportable rejected := by
    intro exportable
    have isKey := exportable.keys (.text "a b", .null) (by simp [rejected])
    revert isKey
    decide
  have exportable : Exportable accepted := by
    constructor <;> intro entry member <;> rw [List.mem_singleton.mp member]
    · decide
    · exact ⟨"b", rfl⟩
  refine ⟨?exports, ?files⟩
  case exports =>
    have began : ofValues (keyed file) = .ok (ofFile [("host", "a"), ("secure", "true")]) := rfl
    have laws := (resolve_after_exports.1 file (by decide)).2 _ began [accepted, rejected] none
    have last : IsLast [accepted, rejected] (Gives "host") accepted := by
      refine ⟨[], [rejected], rfl, ⟨exportable, .text "b", List.mem_singleton.mpr rfl⟩, ?_⟩
      intro other member gives
      rw [List.mem_singleton.mp member] at gives
      exact refused gives.1
    have entry : IsLast accepted (fun entry => entry.1 = .text "host")
        (.text "host", .text "b") := ⟨[], [], rfl, rfl, by simp⟩
    have never : ∀ values ∈ [accepted, rejected], ¬Gives "secure" values := by
      rintro values member ⟨_, v, inside⟩
      simp only [List.mem_cons, List.not_mem_nil, or_false] at member
      rcases member with rfl | rfl <;> simp [accepted, rejected] at inside
    have member : ("secure", Value.bool true) ∈ file := by simp [file]
    exact ⟨_, began, ((laws "host").1 "b").mpr ⟨_, .exported accepted last entry, rfl⟩,
      ((laws "secure").1 "true").mpr ⟨_, .read never member, rfl⟩⟩
  case files =>
    have read : ofFiles files [.ofText "low", .ofText "high"] =
        .ok (ofFile [("host", "z"), ("port", "1")]) :=
      Fallible.toOption_eq_some_iff.mp (by decide +kernel)
    obtain ⟨merged, _, same, entries⟩ := resolve_after_exports.2.2 _ _ _ read
    have began := ofValues_texts merged
    rw [same] at began
    cases began
    obtain ⟨path, layer, last, loads, member⟩ := (entries "host" "z").mp (by simp)
    exact ⟨_, path, layer, read, rfl, last, loads, member⟩

end Histories

end PropertySet

end Playbook
