import Playbook.Fault
import Playbook.Number.Numeral
import Playbook.Number.Shortest
import Playbook.Text.Quoted
import Playbook.Value.Basic

/-!
# Values in messages

The literal form that messages show a value in, and the plain form of scalars. Both fail only
on integers with too many digits.
-/

namespace Playbook

/-- Text of an integer. -/
def intText (n : Int) : Except Fault String :=
  match Numeral.intText? n with
  | some text => .ok text
  | none => .error .digitsWritten

/-- Literal of a duration: its parts that are not zero. -/
def Duration.literal (d : Duration) : String :=
  let parts :=
    (if d.days = 0 then [] else ["days=" ++ toString d.days]) ++
    (if d.seconds = 0 then [] else ["seconds=" ++ toString d.seconds]) ++
    (if d.microseconds = 0 then [] else ["microseconds=" ++ toString d.microseconds])
  "datetime.timedelta(" ++ (if parts.isEmpty then "0" else Text.join ", " parts) ++ ")"

def Date.literal (d : Date) : String :=
  "datetime.date(" ++ toString d.year ++ ", " ++ toString d.month ++ ", " ++ toString d.day ++ ")"

/-- Literal of a time; seconds and microseconds are left out while they are zero. -/
def DateTime.literal (t : DateTime) : String :=
  let clock := [t.date.year, t.date.month, t.date.day, t.hour, t.minute] ++
    (if t.microsecond ≠ 0 then [t.second, t.microsecond]
     else if t.second ≠ 0 then [t.second] else [])
  let zone := match t.offset with
    | none => []
    | some 0 => ["tzinfo=datetime.timezone.utc"]
    | some o =>
        ["tzinfo=datetime.timezone(" ++ (Duration.ofMicroseconds (o * 1000000)).literal ++ ")"]
  "datetime.datetime(" ++ Text.join ", " (clock.map (fun (n : Nat) => toString n) ++ zone) ++ ")"

namespace Value

mutual

def literal : Value → Except Fault String
  | .null => .ok "None"
  | .bool b => .ok (if b then "True" else "False")
  | .int n => intText n
  | .float x => .ok x.text
  | .text s => .ok (Text.quoted s)
  | .bytes b => .ok (Text.quotedBytes b)
  | .date d => .ok d.literal
  | .datetime t => .ok t.literal
  | .duration d => .ok d.literal
  | .list items => do return "[" ++ Text.join ", " (← literals items) ++ "]"
  | .tuple items => do
      match ← literals items with
      | [single] => return "(" ++ single ++ ",)"
      | texts => return "(" ++ Text.join ", " texts ++ ")"
  | .set items => do
      match ← literals items with
      | [] => return "set()"
      | texts => return "\x7b" ++ Text.join ", " texts ++ "\x7d"
  | .map entries => do return "\x7b" ++ Text.join ", " (← entryLiterals entries) ++ "\x7d"
  | .foreign _ shown => .ok shown

def literals : List Value → Except Fault (List String)
  | [] => .ok []
  | v :: rest => do
      let first ← literal v
      return first :: (← literals rest)

/-- The literal forms of entries. -/
def entryLiterals : List (Value × Value) → Except Fault (List String)
  | [] => .ok []
  | (k, v) :: rest => do
      let key ← literal k
      let value ← literal v
      return (key ++ ": " ++ value) :: (← entryLiterals rest)

end

/-- The plain form of a value: texts and calendar values as themselves, all else as its
literal. -/
def plainText : Value → Except Fault String
  | .text s => .ok s
  | .date d => .ok d.text
  | .datetime t => .ok t.text
  | .duration d => .ok d.text
  | v => literal v

end Value

end Playbook
