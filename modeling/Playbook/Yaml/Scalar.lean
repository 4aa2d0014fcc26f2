import Playbook.Name
import Playbook.Number.Numeral
import Playbook.Text.Case
import Playbook.Text.Lines
import Playbook.Value.Basic
import Playbook.Yaml.Problem

/-!
# Scalars of plain form

The text of a plain scalar decides on its tag: words for null and truth values, numbers in
several bases, numbers in base sixty, dates and times. A tag in turn decides how a text is read
as a value.
-/

namespace Playbook.Yaml

open Playbook.Text

/-- The tag of a kind of value. -/
def standardTag (name : String) : String := "tag:yaml.org,2002:" ++ name

def truthWords : List String :=
  ["yes", "Yes", "YES", "no", "No", "NO", "true", "True", "TRUE", "false", "False", "FALSE",
    "on", "On", "ON", "off", "Off", "OFF"]

def nullWords : List String := ["", "~", "null", "Null", "NULL"]

/-- What follows an optional sign. -/
def dropSign : List Char → List Char
  | c :: rest => if c == '-' || c == '+' then rest else c :: rest
  | [] => []

/-- Digits and underscores. -/
def isDigitOrBlank (c : Char) : Bool := isAsciiDigit c || c == '_'

/-- Digits and underscores that do not begin with zero. -/
def isPlainInteger : List Char → Bool
  | c :: rest => '1' ≤ c && c ≤ '9' && rest.all isDigitOrBlank
  | [] => false

/-- One or two digits below sixty. -/
def isSixtieth : List Char → Bool
  | [c] => isAsciiDigit c
  | [c, d] => '0' ≤ c && c ≤ '5' && isAsciiDigit d
  | _ => false

/-- Whether a text has the form of an integer. -/
def isInteger (cs : List Char) : Bool :=
  let body := dropSign cs
  match body with
  | '0' :: 'b' :: rest => !rest.isEmpty && rest.all fun c => c == '0' || c == '1' || c == '_'
  | '0' :: 'x' :: rest => !rest.isEmpty && rest.all fun c => isHexDigit c || c == '_'
  | ['0'] => true
  | '0' :: rest => rest.all fun c => ('0' ≤ c && c ≤ '7') || c == '_'
  | _ =>
      match splitOnChar ':' body with
      | [] => false
      | [single] => isPlainInteger single
      | first :: rest => isPlainInteger first && rest.all isSixtieth

/-- An optional exponent, whose sign must be given. -/
def isExponent : List Char → Bool
  | [] => true
  | c :: sign :: rest =>
      (c == 'e' || c == 'E') && (sign == '-' || sign == '+') && !rest.isEmpty &&
        rest.all isAsciiDigit
  | _ => false

/-- Digits and underscores, then an exponent. -/
def isFraction (cs : List Char) : Bool := isExponent (cs.dropWhile isDigitOrBlank)

/-- Whether a text has the form of a number with a fraction. -/
def isFloat (cs : List Char) : Bool :=
  let body := dropSign cs
  let startsWithDigit (cs : List Char) : Bool := match cs with
    | c :: _ => isAsciiDigit c
    | [] => false
  let ordinary := startsWithDigit body &&
    (match body.dropWhile isDigitOrBlank with
      | '.' :: rest => isFraction rest
      | _ => false)
  let bare := match cs with
    | '.' :: rest => startsWithDigit rest && isFraction rest
    | _ => false
  let sixties := match splitOnChar ':' body with
    | first :: second :: more =>
        let rest := second :: more
        let last := rest.getLast?.getD []
        let whole := last.takeWhile (· != '.')
        startsWithDigit first && first.all isDigitOrBlank && rest.dropLast.all isSixtieth &&
          isSixtieth whole &&
          (match last.dropWhile (· != '.') with
            | '.' :: fraction => fraction.all isDigitOrBlank
            | _ => false)
    | _ => false
  let infinite := [".inf", ".Inf", ".INF"].contains (String.ofList body)
  let undefined := [".nan", ".NaN", ".NAN"].contains (String.ofList cs)
  ordinary || bare || sixties || infinite || undefined

/-- A date or time as written. -/
structure TimeText where
  year : List Char
  month : List Char
  day : List Char
  /-- Hour, minute, second and fraction. -/
  clock : Option (List Char × List Char × List Char × List Char)
  /-- Sign, hours and minutes of an offset; no sign stands for universal time. -/
  zone : Option (Option (Char × List Char × List Char))

/-- At least and at most so many digits, as many as there are, and what follows them. -/
def takeDigits (least most : Nat) (cs : List Char) : Option (List Char × List Char) :=
  let digits := (cs.take most).takeWhile isAsciiDigit
  if digits.length < least then none else some (digits, cs.drop digits.length)

/-- What follows a character. -/
def dropChar (c : Char) : List Char → Option (List Char)
  | d :: rest => if c = d then some rest else none
  | [] => none

def isTabOrBlank (c : Char) : Bool := c == ' ' || c == '\t'

/-- An offset from universal time. -/
def readZone (cs : List Char) : Option (Option (Option (Char × List Char × List Char))) :=
  match cs with
  | [] => some none
  | cs =>
      match cs.dropWhile isTabOrBlank with
      | ['Z'] => some (some none)
      | sign :: rest =>
          if sign == '-' || sign == '+' then do
            let (hours, rest) ← takeDigits 1 2 rest
            match rest with
            | [] => some (some (some (sign, hours, [])))
            | ':' :: rest => do
                let (minutes, rest) ← takeDigits 2 2 rest
                if rest.isEmpty then some (some (some (sign, hours, minutes))) else none
            | _ => none
          else none
      | [] => none

def readTime (cs : List Char) : Option TimeText := do
  let (year, rest) ← takeDigits 4 4 cs
  let (month, rest) ← takeDigits 1 2 (← dropChar '-' rest)
  let (day, rest) ← takeDigits 1 2 (← dropChar '-' rest)
  match rest with
  | [] => return ⟨year, month, day, none, none⟩
  | c :: more => do
      let rest ←
        if c == 'T' || c == 't' then some more
        else if isTabOrBlank c then some (more.dropWhile isTabOrBlank)
        else none
      let (hour, rest) ← takeDigits 1 2 rest
      let (minute, rest) ← takeDigits 2 2 (← dropChar ':' rest)
      let (second, rest) ← takeDigits 2 2 (← dropChar ':' rest)
      let (fraction, rest) := match rest with
        | '.' :: rest => (rest.takeWhile isAsciiDigit, rest.dropWhile isAsciiDigit)
        | rest => ([], rest)
      let zone ← readZone rest
      return ⟨year, month, day, some (hour, minute, second, fraction), zone⟩

/-- Whether a text has the form of a date or time. A date alone has two digits for month and
day. -/
def isTime (cs : List Char) : Bool :=
  match readTime cs with
  | some time => time.clock.isSome || (time.month.length == 2 && time.day.length == 2)
  | none => false

/-- The tag that the text of a plain scalar decides on. -/
def implicitTag (s : String) : String :=
  let cs := Name.dropFinalNewline s.toList
  let word := String.ofList cs
  standardTag <|
    if truthWords.contains word then "bool"
    else if isFloat cs then "float"
    else if isInteger cs then "int"
    else if word = "<<" then "merge"
    else if nullWords.contains word && s != "\n" then "null"
    else if isTime cs then "timestamp"
    else if word = "=" then "value"
    else "str"

def withoutUnderscores (s : String) : List Char := s.toList.filter (· != '_')

/-- An integer in a base, or the fault of its text. -/
def readBase (base : Nat) (cs : List Char) : Except Fault Int :=
  match Numeral.readInt base cs with
  | .ok n => .ok n
  | .error .malformed => .error (.integerText base (quoted (String.ofList cs)))
  | .error (.tooLong digits) => .error (.digitsRead digits)

def readDouble (cs : List Char) : Except Fault Binary64 :=
  match Numeral.readBinary64 cs with
  | some x => .ok x
  | none => .error (.numberText (quoted (String.ofList cs)))

/-- A sign and the text after it; a numeral has at least one character. -/
def signOf (cs : List Char) : Except Fault (Bool × List Char) :=
  match cs with
  | [] => .error .emptyNumeral
  | '-' :: rest => .ok (true, rest)
  | '+' :: rest => .ok (false, rest)
  | cs => .ok (false, cs)

/-- An integer: binary, hexadecimal, octal, in base sixty or decimal. -/
def readIntegerScalar (s : String) : Except Fault Int := do
  let (negative, body) ← signOf (withoutUnderscores s)
  let size ← match body with
    | [] => .error .emptyNumeral
    | ['0'] => .ok 0
    | '0' :: 'b' :: rest => readBase 2 rest
    | '0' :: 'x' :: rest => readBase 16 rest
    | '0' :: rest => readBase 8 ('0' :: rest)
    | body =>
        if body.contains ':' then do
          let parts ← (splitOnChar ':' body).mapM (readBase 10)
          pure (parts.foldl (fun value part => value * 60 + part) 0)
        else readBase 10 body
  return if negative then -size else size

/-- Adds up digits in base sixty, the lowest first. -/
def sumSixties : Binary64 → Nat → List Binary64 → Binary64
  | total, _, [] => total
  | total, base, digit :: rest =>
      sumSixties (total.add (digit.mul (.ofRatio false base 1))) (base * 60) rest

/-- A double: an infinity, not a number, in base sixty or decimal. -/
def readFloatScalar (s : String) : Except Fault Binary64 := do
  let (negative, body) ← signOf (withoutUnderscores s |>.map lowerChar)
  let size ← match String.ofList body with
    | ".inf" => pure (.infinite false)
    | ".nan" => return .nan
    | _ =>
        if body.contains ':' then do
          let parts ← (splitOnChar ':' body).mapM readDouble
          pure (sumSixties (.zero false) 1 parts.reverse)
        else readDouble body
  return if negative then size.neg else size

/-- A truth value by its word, in any case. -/
def readTruthScalar (s : String) : Except Fault Bool :=
  match lower s with
  | "yes" | "true" | "on" => .ok true
  | "no" | "false" | "off" => .ok false
  | word => .error (.unknownWord (quoted word))

def decimalValue (digits : List Char) : Nat :=
  digits.foldl (fun value c => value * 10 + (c.toNat - 48)) 0

/-- A date that exists. -/
def checkDate (year month day : Nat) : Except Fault Date :=
  if year = 0 then .error (.calendar "year 0 is out of range")
  else if month = 0 || month > 12 then .error (.calendar "month must be in 1..12")
  else if day = 0 || day > Calendar.daysInMonth year month then
    .error (.calendar "day is out of range for month")
  else .ok ⟨year, month, day⟩

/-- An offset of less than a day, in seconds. -/
def checkOffset (seconds : Int) : Except Fault Int :=
  if seconds.natAbs < 86400 then .ok seconds
  else
    let d := Duration.ofMicroseconds (seconds * 1000000)
    let parts := (if d.days = 0 then [] else ["days=" ++ toString d.days]) ++
      (if d.seconds = 0 then [] else ["seconds=" ++ toString d.seconds])
    .error (.calendar ("offset must be a timedelta strictly between -timedelta(hours=24) and " ++
      "timedelta(hours=24), not datetime.timedelta(" ++ join ", " parts ++ ")."))

/-- A date or time. -/
def readTimeScalar (s : String) : Except Fault Value := do
  match readTime (Name.dropFinalNewline s.toList) with
  | none => throw .notATime
  | some time =>
      let year := decimalValue time.year
      let month := decimalValue time.month
      let day := decimalValue time.day
      match time.clock with
      | none => return .date (← checkDate year month day)
      | some (hour, minute, second, fraction) => do
          let digits := fraction.take 6
          let micro := decimalValue (digits ++ List.replicate (6 - digits.length) '0')
          let offset ← match time.zone with
            | none => pure none
            | some none => pure (some 0)
            | some (some (sign, hours, minutes)) => do
                let size : Int := decimalValue hours * 3600 + decimalValue minutes * 60
                (checkOffset (if sign == '-' then -size else size)).map some
          let date ← checkDate year month day
          let hour := decimalValue hour
          let minute := decimalValue minute
          let second := decimalValue second
          if hour > 23 then throw (.calendar "hour must be in 0..23")
          else if minute > 59 then throw (.calendar "minute must be in 0..59")
          else if second > 59 then throw (.calendar "second must be in 0..59")
          else return .datetime ⟨date, hour, minute, second, micro, offset⟩

end Playbook.Yaml
