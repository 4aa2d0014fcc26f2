import Playbook.Diagnostic
import Playbook.Name
import Playbook.Ordered
import Playbook.Template
import Playbook.Text.Lines
import Playbook.Value.Entries
import Playbook.Value.Plain

/-!
# Properties

Texts stored under keys in two layers: values read from properties files, and above them the
values exported by steps. A lookup finds the uppermost value. Placeholders in the text leaves
of a value are replaced by the values of their keys.
-/

namespace Playbook

/-- A layer of properties, in order of insertion. -/
abbrev Layer := List (String × String)

/-- The properties of one run. -/
structure PropertySet where
  runtime : Layer
  file : Layer
deriving DecidableEq, Repr, Inhabited

namespace PropertySet

/-- Properties read from files, with nothing exported yet. -/
def ofFile (file : Layer) : PropertySet := ⟨[], file⟩

/-- The uppermost value of a key. -/
def find? (key : String) (properties : PropertySet) : Option String :=
  (Ordered.find? key properties.runtime).or (Ordered.find? key properties.file)

/-- The uppermost value of a key, or else a default. -/
def get (key : String) (default : Option String) (properties : PropertySet) : Option String :=
  (properties.find? key).or default

/-- Whether some layer has a key. -/
def contains (key : String) (properties : PropertySet) : Bool :=
  Ordered.contains key properties.runtime || Ordered.contains key properties.file

/-- The error for a key without a value. -/
def unresolved (key : String) (step : Option Int) : Failure :=
  .diagnostic ⟨.unresolved, "unresolved property \"" ++ key ++ "\"",
    step.map fun n => ⟨none, none, none, some n, .nothing⟩⟩

/-- The value of a key that must have one. -/
def resolve (properties : PropertySet) (step : Option Int) (key : String) : Fallible String :=
  match properties.find? key with
  | some value => .ok value
  | none => .error (unresolved key step)

/-- A text with its placeholders replaced. -/
def resolveTemplate (properties : PropertySet) (step : Option Int) (s : String) :
    Fallible String :=
  match Template.fill properties.find? (Template.pieces s) with
  | .ok cs => .ok (String.ofList cs)
  | .error key => .error (unresolved key step)

mutual

/-- A value with the placeholders of its text leaves replaced. Keys stay as they are; tuples
and sets become lists. -/
def resolveValue (properties : PropertySet) (step : Option Int) : Value → Fallible Value
  | .text s => do return .text (← properties.resolveTemplate step s)
  | .list items | .tuple items | .set items => do
      return .list (← resolveItems properties step items)
  | .map entries => do return .map (← resolveEntries properties step entries)
  | v => .ok v

/-- Items with their placeholders replaced. -/
def resolveItems (properties : PropertySet) (step : Option Int) :
    List Value → Fallible (List Value)
  | [] => .ok []
  | v :: rest => do
      let first ← resolveValue properties step v
      return first :: (← resolveItems properties step rest)

/-- Entries with the placeholders of their values replaced. -/
def resolveEntries (properties : PropertySet) (step : Option Int) :
    List (Value × Value) → Fallible (List (Value × Value))
  | [] => .ok []
  | (k, v) :: rest => do
      let value ← resolveValue properties step v
      return (k, value) :: (← resolveEntries properties step rest)

end

def isExportKey : Value → Bool
  | .text key => (Name.matchPropertyKey? key.toList).isSome
  | _ => false

/-- The error for a key that may not be exported. -/
def invalidKey (key : Value) : Failure :=
  match key.literal with
  | .ok shown => .plain .capability ("invalid property key " ++ shown ++ " in exports")
  | .error fault => .fault fault

/-- Property texts of entries, whose keys are texts. -/
def exportTexts : List (Value × Value) → Fallible Layer
  | [] => .ok []
  | (key, v) :: rest => do
      let name := match key with
        | .text s => s
        | _ => ""
      let value ← (v.stringify.mapError Failure.fault)
      return (name, value) :: (← exportTexts rest)

/-- Properties given as values, with nothing exported yet. -/
def ofValues (values : List (Value × Value)) : Fallible PropertySet := do
  return ofFile (← exportTexts values)

/-- Checks all keys, then makes all texts. -/
def exportLayer (values : List (Value × Value)) : Fallible Layer :=
  match values.find? fun entry => !isExportKey entry.1 with
  | some (key, _) => .error (invalidKey key)
  | none => exportTexts values

/-- Writes texts above all others. -/
def write (properties : PropertySet) (layer : Layer) : PropertySet :=
  { properties with runtime := Ordered.putAll properties.runtime layer }

@[simp] theorem write_nil (properties : PropertySet) : properties.write [] = properties := rfl

/-- Writing leaves what was read from files as it is. -/
@[simp] theorem file_write (properties : PropertySet) (layer : Layer) :
    (properties.write layer).file = properties.file := rfl

/-- Writing puts texts, one after the other, into the upper layer. -/
@[simp] theorem runtime_write (properties : PropertySet) (layer : Layer) :
    (properties.write layer).runtime = Ordered.putAll properties.runtime layer := rfl

/-- Writes values above all others; nothing is written unless all of them can be. -/
def exportValues (properties : PropertySet) (values : List (Value × Value)) :
    Fallible PropertySet := do
  return properties.write (← exportLayer values)

/-- A key has a value if and only if some layer has the key. -/
theorem isSome_find? (properties : PropertySet) (key : String) :
    (properties.find? key).isSome = properties.contains key := by
  simp [find?, contains, Ordered.contains_eq_isSome_find?, Option.isSome_or]

/-- One map of all properties, upper values winning. -/
def snapshot (properties : PropertySet) : Layer :=
  Ordered.putAll (Ordered.putAll [] properties.file) properties.runtime

end PropertySet

namespace Properties

/-- A malformed line of a properties file, counted from zero. -/
inductive LineFault where
  | noSeparator (line : Nat)
  | invalidKey (line : Nat) (key : String)
deriving DecidableEq, Repr

def LineFault.message : LineFault → String
  | .noSeparator line => "Missing separator in properties line " ++ toString (line + 1)
  | .invalidKey line key =>
      "Invalid property key " ++ Text.quoted key ++ " in properties line " ++ toString (line + 1)

/-- The line that is malformed. -/
def LineFault.line : LineFault → Nat
  | .noSeparator line | .invalidKey line _ => line

/-- Characters between a key and its value. -/
def isSeparator (c : Char) : Bool := c == '=' || c == ':'

/-- Whether a stripped line has nothing to say. -/
def isIgnored : List Char → Bool
  | [] => true
  | c :: _ => c == '#' || c == '!'

/-- The entry of one line, if it has one. -/
def readLine (number : Nat) (raw : List Char) : Except LineFault (Option (String × String)) :=
  let line := Text.trim raw
  if isIgnored line then .ok none
  else
    match line.dropWhile fun c => !isSeparator c with
    | [] => .error (.noSeparator number)
    | _ :: value =>
        let key := Text.trim (line.takeWhile fun c => !isSeparator c)
        if (Name.matchPropertyKey? key).isSome then
          .ok (some (String.ofList key, String.ofList (Text.trim value)))
        else .error (.invalidKey number (String.ofList key))

/-- Reads lines from one on, adding their entries to a layer. -/
def readLinesFrom : Nat → Layer → List String → Except LineFault Layer
  | _, layer, [] => .ok layer
  | number, layer, line :: rest => do
      match ← readLine number line.toList with
      | none => readLinesFrom (number + 1) layer rest
      | some (key, value) => readLinesFrom (number + 1) (Ordered.put key value layer) rest

/-- Reads the lines of a properties file; a repeated key keeps its place and takes the last
value. -/
def readLines (lines : List String) : Except LineFault Layer := readLinesFrom 0 [] lines

/-- The error for a malformed line. -/
def failure (filename : Option String) (fault : LineFault) : Failure :=
  .diagnostic ⟨.properties, fault.message,
    some ⟨filename, some (fault.line : Int), none, none, .nothing⟩⟩

/-- Reads properties from lines of a named file. -/
def parse (filename : Option String) (lines : List String) : Fallible Layer :=
  (readLines lines).mapError (failure filename)

end Properties

end Playbook
