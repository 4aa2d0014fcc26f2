/-!
# Faults

Failures of elementary operations on values. A fault has a label, the word that a report
shows for its class, and a message.
-/

namespace Playbook

/-- Why an elementary operation failed. Texts named `shown` are literals as messages show
them. -/
inductive Fault where
  /-- An integer with too many digits was to be written. -/
  | digitsWritten
  /-- An integer with too many digits was to be read. -/
  | digitsRead (digits : Nat)
  /-- A text that is not an integer in a base. -/
  | integerText (base : Nat) (shown : String)
  /-- A text that is not a number. -/
  | numberText (shown : String)
  /-- An integer beyond the range of doubles. -/
  | doubleRange
  /-- A quotient beyond the range of doubles. -/
  | quotientRange
  /-- A mapping with a key that is not a text. -/
  | keyNotText (shown : String)
  /-- An object that is not plain data. -/
  | notPlain (kind shown : String)
  /-- A mapping key that has no written form. -/
  | keyKind (kind : String)
  /-- A value that cannot be a key. -/
  | unhashable (kind : String)
  /-- Two keys that have no order. -/
  | unordered (left right : String)
  /-- Two times that are to be ordered, of which only one has an offset. -/
  | mixedOffsets
  /-- A time and a day that are to be ordered. -/
  | timeAndDay
  /-- A numeral without any character. -/
  | emptyNumeral
  /-- A word that is not one of the accepted ones. -/
  | unknownWord (shown : String)
  /-- A text that is no time. -/
  | notATime
  /-- An impossible date or time. -/
  | calendar (message : String)
  /-- Bytes that are no text. -/
  | undecodable (message : String)
  /-- A malformed pattern. -/
  | pattern (message : String)
  /-- A comparison that cannot be made. -/
  | assertion (message : String)
  /-- A value without a document form. -/
  | unrepresentable (shown : String)
  /-- A file that cannot be used. -/
  | system (label message : String)
  /-- A failure of an extension, with its own label and message. -/
  | raised (label message : String)
deriving DecidableEq, Repr, Inhabited

namespace Fault

/-- The word for the class of a fault. -/
def label : Fault → String
  | .digitsWritten | .digitsRead _ | .integerText .. | .numberText _ | .calendar _ => "ValueError"
  | .doubleRange | .quotientRange => "OverflowError"
  | .keyNotText _ | .notPlain .. | .keyKind _ | .unhashable _ | .unordered .. | .mixedOffsets
  | .timeAndDay => "TypeError"
  | .emptyNumeral => "IndexError"
  | .unknownWord _ => "KeyError"
  | .notATime => "AttributeError"
  | .undecodable _ => "UnicodeDecodeError"
  | .pattern _ => "error"
  | .assertion _ => "AssertionError"
  | .unrepresentable _ => "RepresenterError"
  | .system label _ | .raised label _ => label

/-- The end of both messages on integers with too many digits. -/
def limitAdvice : String := "use sys.set_int_max_str_digits() to increase the limit"

def message : Fault → String
  | .digitsWritten =>
      "Exceeds the limit (4300 digits) for integer string conversion; " ++ limitAdvice
  | .digitsRead digits =>
      "Exceeds the limit (4300 digits) for integer string conversion: value has " ++
        toString digits ++ " digits; " ++ limitAdvice
  | .integerText base shown =>
      "invalid literal for int() with base " ++ toString base ++ ": " ++ shown
  | .numberText shown => "could not convert string to float: " ++ shown
  | .doubleRange => "int too large to convert to float"
  | .quotientRange => "integer division result too large for a float"
  | .keyNotText shown => "mapping key " ++ shown ++ " is not a string"
  | .notPlain kind shown => "can not use " ++ kind ++ " object " ++ shown ++ " as a value"
  | .keyKind kind => "keys must be str, int, float, bool or None, not " ++ kind
  | .unhashable kind => "unhashable type: '" ++ kind ++ "'"
  | .unordered left right =>
      "'<' not supported between instances of '" ++ left ++ "' and '" ++ right ++ "'"
  | .mixedOffsets => "can't compare offset-naive and offset-aware datetimes"
  | .timeAndDay => "can't compare datetime.datetime to datetime.date"
  | .emptyNumeral => "string index out of range"
  | .unknownWord shown => shown
  | .notATime => "'NoneType' object has no attribute 'groupdict'"
  | .unrepresentable shown => "('cannot represent an object', " ++ shown ++ ")"
  | .calendar message | .undecodable message | .pattern message | .assertion message
  | .system _ message | .raised _ message => message

end Fault

end Playbook
