import Playbook.Json.Reader
import Playbook.Proofs.Signs

/-!
# The grammar of JSON

Which texts spell which values, as relations between a value and exactly the characters that spell
it.  The words for numbers that are not finite belong to the grammar.  A predicate says with how
many digits an integer may be written.  Under such a bound a text that is JSON without it is still
JSON, or it is cut off: it goes on like JSON as far as an integer that is too long.
-/

namespace Playbook.Json

open Text

/-! ## Numbers -/

/-- At least one digit, and nothing else. -/
structure IsDigits (cs : List Char) : Prop where
  nonempty : cs ≠ []
  digits : ∀ c ∈ cs, isAsciiDigit c = true

/-- The whole part of a number.  Only zero has a leading zero. -/
structure IsWhole (cs : List Char) : Prop extends IsDigits cs where
  leading : ∀ rest, cs = '0' :: rest → rest = []

/-- A point with the digits behind it, or none. -/
inductive SpellsFraction : List Char → List Char → Prop where
  | none : SpellsFraction [] []
  | pointed {digits : List Char} : IsDigits digits → SpellsFraction digits ('.' :: digits)

theorem SpellsFraction.eq_nil {front : List Char} (spells : SpellsFraction [] front) :
    front = [] := by
  cases spells with
  | none => rfl
  | pointed isDigits => exact absurd rfl isDigits.nonempty

def IsPowerMark (c : Char) : Prop := c = 'e' ∨ c = 'E'

/-- A power of ten behind its mark, or none. -/
inductive SpellsPower : Option Int → List Char → Prop where
  | none : SpellsPower none []
  | marked {mark : Char} {sign digits : List Char} :
      IsPowerMark mark → Numeral.IsSign sign → IsDigits digits →
      SpellsPower
        (some (if Numeral.isNegative sign then -(asciiValue digits : Int) else asciiValue digits))
        (mark :: (sign ++ digits))

theorem SpellsPower.eq_nil {front : List Char} (spells : SpellsPower Option.none front) :
    front = [] := by
  cases spells
  rfl

/-- Nothing at the beginning of a text would go on with a number in front of it. -/
structure EndsNumber (cs : List Char) : Prop where
  noDigit : ∀ c ∈ cs.head?, isAsciiDigit c = false
  noFraction : ∀ digits front rest, SpellsFraction digits front → cs = front ++ rest → digits = []
  noPower : ∀ power front rest, SpellsPower power front → cs = front ++ rest → power = none

/-! ## Texts -/

/-- The inside of a text in quotes, by its code units. -/
inductive SpellsUnits : List Nat → List Char → Prop where
  | nil : SpellsUnits [] []
  | plain {c : Char} {units : List Nat} {cs : List Char} :
      c ≠ '"' → c ≠ '\\' → 0x20 ≤ c.toNat → SpellsUnits units cs →
      SpellsUnits (c.toNat :: units) (c :: cs)
  | escape {c : Char} {unit : Nat} {units : List Nat} {cs : List Char} :
      escapeValue? c = some unit → SpellsUnits units cs →
      SpellsUnits (unit :: units) ('\\' :: c :: cs)
  | number {a b c d : Char} {unit : Nat} {units : List Nat} {cs : List Char} :
      hexValue? a b c d = some unit → SpellsUnits units cs →
      SpellsUnits (unit :: units) ('\\' :: 'u' :: a :: b :: c :: d :: cs)

inductive SpellsText : String → List Char → Prop where
  | quoted {units : List Nat} {cs : List Char} :
      SpellsUnits units cs → SpellsText (String.ofList (joinUnits units)) ('"' :: (cs ++ ['"']))

/-! ## Values -/

/-- Blanks between the parts of a value, or nothing. -/
def AreSpaces (cs : List Char) : Prop := ∀ c ∈ cs, isSpace c = true

theorem areSpaces_nil : AreSpaces [] := by
  intro c member
  cases member

/-- The comma between two parts, with the blanks around it. -/
inductive IsComma : List Char → Prop where
  | comma {behind before : List Char} :
      AreSpaces behind → AreSpaces before → IsComma (behind ++ ',' :: before)

/-- A key of an object with its colon, and the blanks around the colon. -/
inductive SpellsKey : String → List Char → Prop where
  | colon {name : String} {cs behind before : List Char} :
      SpellsText name cs → AreSpaces behind → AreSpaces before →
      SpellsKey name (cs ++ (behind ++ ':' :: before))

/-- A value that is spelled by a word of its own. -/
inductive SpellsWord : Value → List Char → Prop where
  | null : SpellsWord .null ['n', 'u', 'l', 'l']
  | true : SpellsWord (.bool true) ['t', 'r', 'u', 'e']
  | false : SpellsWord (.bool false) ['f', 'a', 'l', 's', 'e']
  | nan : SpellsWord (.float .nan) ['N', 'a', 'N']
  | infinity : SpellsWord (.float (.infinite false)) ['I', 'n', 'f', 'i', 'n', 'i', 't', 'y']
  | negativeInfinity :
      SpellsWord (.float (.infinite true)) ['-', 'I', 'n', 'f', 'i', 'n', 'i', 't', 'y']

section

variable (allowed : Nat → Prop)

/-- A number behind its sign: an integer, or a double if there is a fraction or a power. -/
inductive SpellsMagnitude (negative : Bool) : Value → List Char → Prop where
  | integer {whole : List Char} :
      IsWhole whole → allowed whole.length →
      SpellsMagnitude negative
        (.int (if negative then -(asciiValue whole : Int) else asciiValue whole)) whole
  | double {whole digits fraction exponent : List Char} {power : Option Int} :
      IsWhole whole → SpellsFraction digits fraction → SpellsPower power exponent →
      digits ≠ [] ∨ power ≠ none →
      SpellsMagnitude negative
        (.float (.ofDecimal negative (asciiValue (whole ++ digits))
          (power.getD 0 - (digits.length : Int))))
        (whole ++ (fraction ++ exponent))

mutual

inductive Spells : Value → List Char → Prop where
  | word {v : Value} {cs : List Char} : SpellsWord v cs → Spells v cs
  | number {v : Value} {cs : List Char} : SpellsMagnitude allowed false v cs → Spells v cs
  | negative {v : Value} {cs : List Char} :
      SpellsMagnitude allowed true v cs → Spells v ('-' :: cs)
  | text {s : String} {cs : List Char} : SpellsText s cs → Spells (.text s) cs
  | emptyList {inside : List Char} :
      AreSpaces inside → Spells (.list []) ('[' :: (inside ++ [']']))
  | list {items : List Value} {before cs : List Char} :
      AreSpaces before → SpellsItems items cs →
      Spells (.list items) ('[' :: (before ++ (cs ++ [']'])))
  | emptyMap {inside : List Char} :
      AreSpaces inside → Spells (.map []) ('\x7b' :: (inside ++ ['\x7d']))
  | map {members : List (Value × Value)} {before cs : List Char} :
      AreSpaces before → SpellsMembers members cs →
      Spells (.map (Ordered.ofEntries members)) ('\x7b' :: (before ++ (cs ++ ['\x7d'])))

/-- The items of a list that has some, with the blanks behind each. -/
inductive SpellsItems : List Value → List Char → Prop where
  | last {v : Value} {cs behind : List Char} :
      Spells v cs → AreSpaces behind → SpellsItems [v] (cs ++ behind)
  | more {v : Value} {others : List Value} {cs comma later : List Char} :
      Spells v cs → IsComma comma → SpellsItems others later →
      SpellsItems (v :: others) (cs ++ (comma ++ later))

/-- The members of an object that has some, with the blanks behind each. -/
inductive SpellsMembers : List (Value × Value) → List Char → Prop where
  | last {name : String} {v : Value} {key cs behind : List Char} :
      SpellsKey name key → Spells v cs → AreSpaces behind →
      SpellsMembers [(.text name, v)] (key ++ (cs ++ behind))
  | more {name : String} {v : Value} {others : List (Value × Value)}
      {key cs comma later : List Char} :
      SpellsKey name key → Spells v cs → IsComma comma → SpellsMembers others later →
      SpellsMembers ((.text name, v) :: others) (key ++ (cs ++ (comma ++ later)))

end

/-- A whole text, with blanks around its value. -/
inductive SpellsWhole : Value → List Char → Prop where
  | around {v : Value} {before cs behind : List Char} :
      AreSpaces before → Spells allowed v cs → AreSpaces behind →
      SpellsWhole v (before ++ (cs ++ behind))

/-! ## Texts that are cut off -/

/-- An integer with that many digits, which are not allowed, and anything behind it. -/
inductive IntegerCutOff : Nat → List Char → Prop where
  | integer {whole rest : List Char} :
      IsWhole whole → ¬allowed whole.length → EndsNumber rest →
      IntegerCutOff whole.length (whole ++ rest)

mutual

/-- The beginning of a value up to an integer that is not allowed, and anything behind it. -/
inductive CutOff : Nat → List Char → Prop where
  | number {digits : Nat} {cs : List Char} : IntegerCutOff allowed digits cs → CutOff digits cs
  | negative {digits : Nat} {cs : List Char} :
      IntegerCutOff allowed digits cs → CutOff digits ('-' :: cs)
  | list {digits : Nat} {before cs : List Char} :
      AreSpaces before → ItemsCutOff digits cs → CutOff digits ('[' :: (before ++ cs))
  | map {digits : Nat} {before cs : List Char} :
      AreSpaces before → MembersCutOff digits cs → CutOff digits ('\x7b' :: (before ++ cs))

inductive ItemsCutOff : Nat → List Char → Prop where
  | here {digits : Nat} {cs : List Char} : CutOff digits cs → ItemsCutOff digits cs
  | later {digits : Nat} {v : Value} {cs comma rest : List Char} :
      Spells allowed v cs → IsComma comma → ItemsCutOff digits rest →
      ItemsCutOff digits (cs ++ (comma ++ rest))

inductive MembersCutOff : Nat → List Char → Prop where
  | here {digits : Nat} {name : String} {key cs : List Char} :
      SpellsKey name key → CutOff digits cs → MembersCutOff digits (key ++ cs)
  | later {digits : Nat} {name : String} {v : Value} {key cs comma rest : List Char} :
      SpellsKey name key → Spells allowed v cs → IsComma comma → MembersCutOff digits rest →
      MembersCutOff digits (key ++ (cs ++ (comma ++ rest)))

end

end

/-! ## What ends a number -/

/-- What stands behind a value inside a list or an object: a blank, or what separates or closes. -/
def Delimits (c : Char) : Prop := isSpace c = true ∨ c = ',' ∨ c = ']' ∨ c = '\x7d'

theorem Delimits.not_in_number {c : Char} (delimits : Delimits c) :
    isAsciiDigit c = false ∧ c ≠ '.' ∧ ¬IsPowerMark c := by
  unfold IsPowerMark
  rcases delimits with space | rfl | rfl | rfl
  · simp only [isSpace, Bool.or_eq_true, beq_iff_eq] at space
    rcases space with ((rfl | rfl) | rfl) | rfl <;> decide
  all_goals decide

theorem endsNumber_of_delimits {cs : List Char} (delimited : ∀ c ∈ cs.head?, Delimits c) :
    EndsNumber cs where
  noDigit := by
    intro c first
    exact (delimited c first).not_in_number.1
  noFraction := by
    intro digits front rest spells same
    cases spells with
    | none => rfl
    | pointed _ =>
        rw [same] at delimited
        exact absurd rfl (delimited '.' rfl).not_in_number.2.1
  noPower := by
    intro power front rest spells same
    cases spells with
    | none => rfl
    | marked isMark _ _ =>
        rw [same] at delimited
        exact absurd isMark (delimited _ rfl).not_in_number.2.2

theorem delimited_append {front rest : List Char} (spaces : AreSpaces front)
    (delimited : ∀ c ∈ rest.head?, Delimits c) : ∀ c ∈ (front ++ rest).head?, Delimits c := by
  cases front with
  | nil => exact delimited
  | cons space others =>
      intro c first
      cases first
      exact .inl (spaces space List.mem_cons_self)

theorem AreSpaces.endsNumber {cs : List Char} (spaces : AreSpaces cs) : EndsNumber cs := by
  have delimited : ∀ c ∈ (cs ++ []).head?, Delimits c := delimited_append spaces (by simp)
  rw [List.append_nil] at delimited
  exact endsNumber_of_delimits delimited

theorem IsComma.delimited {comma : List Char} (isComma : IsComma comma) (rest : List Char) :
    ∀ c ∈ (comma ++ rest).head?, Delimits c := by
  obtain ⟨behindSpaces, _⟩ := isComma
  rw [List.append_assoc]
  apply delimited_append behindSpaces
  intro c first
  cases first
  exact .inr (.inl rfl)

theorem IsComma.length_pos {comma : List Char} (isComma : IsComma comma) : 0 < comma.length := by
  obtain ⟨_, _⟩ := isComma
  rw [List.length_append, List.length_cons]
  omega

/-! ## Bounds on integers -/

section

variable {allowed others : Nat → Prop}

theorem SpellsMagnitude.mono (wider : ∀ digits, allowed digits → others digits) {negative : Bool}
    {v : Value} {cs : List Char} (spells : SpellsMagnitude allowed negative v cs) :
    SpellsMagnitude others negative v cs := by
  cases spells with
  | integer isWhole isAllowed => exact .integer isWhole (wider _ isAllowed)
  | double isWhole fraction power some_ => exact .double isWhole fraction power some_

mutual

/-- What is JSON under a bound on integers is JSON under a wider one. -/
theorem Spells.mono {v : Value} {cs : List Char}
    (wider : ∀ digits, allowed digits → others digits) (spells : Spells allowed v cs) :
    Spells others v cs :=
  match spells with
  | .word spelled => .word spelled
  | .number spelled => .number (spelled.mono wider)
  | .negative spelled => .negative (spelled.mono wider)
  | .text spelled => .text spelled
  | .emptyList inside => .emptyList inside
  | .list before items => .list before (items.mono wider)
  | .emptyMap inside => .emptyMap inside
  | .map before members => .map before (members.mono wider)

theorem SpellsItems.mono {items : List Value} {cs : List Char}
    (wider : ∀ digits, allowed digits → others digits) (spells : SpellsItems allowed items cs) :
    SpellsItems others items cs :=
  match spells with
  | .last spelled behind => .last (spelled.mono wider) behind
  | .more spelled comma later => .more (spelled.mono wider) comma (later.mono wider)

theorem SpellsMembers.mono {members : List (Value × Value)} {cs : List Char}
    (wider : ∀ digits, allowed digits → others digits)
    (spells : SpellsMembers allowed members cs) : SpellsMembers others members cs :=
  match spells with
  | .last key spelled behind => .last key (spelled.mono wider) behind
  | .more key spelled comma later => .more key (spelled.mono wider) comma (later.mono wider)

end

theorem SpellsMagnitude.bounded_or_cutOff {negative : Bool} {v : Value} {cs : List Char}
    (spells : SpellsMagnitude others negative v cs) {rest : List Char} (ends : EndsNumber rest) :
    SpellsMagnitude allowed negative v cs ∨
      ∃ digits, IntegerCutOff allowed digits (cs ++ rest) := by
  cases spells with
  | integer isWhole _ =>
      by_cases isAllowed : allowed cs.length
      · exact .inl (.integer isWhole isAllowed)
      · exact .inr ⟨_, .integer isWhole isAllowed ends⟩
  | double isWhole fraction power some_ => exact .inl (.double isWhole fraction power some_)

mutual

/-- What is JSON under some bound on integers is JSON under any other one too, or it is cut off. -/
theorem Spells.bounded_or_cutOff {v : Value} {cs : List Char} (spells : Spells others v cs)
    {rest : List Char} (ends : EndsNumber rest) :
    Spells allowed v cs ∨ ∃ digits, CutOff allowed digits (cs ++ rest) := by
  match spells with
  | .word spelled => exact .inl (.word spelled)
  | .number spelled =>
      rcases spelled.bounded_or_cutOff ends with spelled | ⟨digits, cutOff⟩
      · exact .inl (.number spelled)
      · exact .inr ⟨digits, .number cutOff⟩
  | .negative spelled =>
      rcases spelled.bounded_or_cutOff ends with spelled | ⟨digits, cutOff⟩
      · exact .inl (.negative spelled)
      · exact .inr ⟨digits, .negative cutOff⟩
  | .text spelled => exact .inl (.text spelled)
  | .emptyList inside => exact .inl (.emptyList inside)
  | .list before items =>
      -- The bracket that closes the list ends a number that is the last of its items.
      rcases items.bounded_or_cutOff (']' :: rest) (by simp [Delimits]) with
        items | ⟨digits, cutOff⟩
      · exact .inl (.list before items)
      · exact .inr ⟨digits, by simpa using CutOff.list before cutOff⟩
  | .emptyMap inside => exact .inl (.emptyMap inside)
  | .map before members =>
      rcases members.bounded_or_cutOff ('\x7d' :: rest) (by simp [Delimits]) with
        members | ⟨digits, cutOff⟩
      · exact .inl (.map before members)
      · exact .inr ⟨digits, by simpa using CutOff.map before cutOff⟩

theorem SpellsItems.bounded_or_cutOff {items : List Value} {cs : List Char}
    (spells : SpellsItems others items cs) (rest : List Char)
    (delimited : ∀ c ∈ rest.head?, Delimits c) :
    SpellsItems allowed items cs ∨ ∃ digits, ItemsCutOff allowed digits (cs ++ rest) := by
  match spells with
  | .last spelled behind =>
      have ends := endsNumber_of_delimits (delimited_append behind delimited)
      rcases spelled.bounded_or_cutOff ends with spelled | ⟨digits, cutOff⟩
      · exact .inl (.last spelled behind)
      · exact .inr ⟨digits, by simpa using ItemsCutOff.here cutOff⟩
  | @SpellsItems.more _ _ _ _ _ later spelled comma more =>
      have ends := endsNumber_of_delimits (comma.delimited (later ++ rest))
      rcases spelled.bounded_or_cutOff ends with spelled | ⟨digits, cutOff⟩
      · rcases more.bounded_or_cutOff rest delimited with more | ⟨digits, cutOff⟩
        · exact .inl (.more spelled comma more)
        · exact .inr ⟨digits, by simpa using ItemsCutOff.later spelled comma cutOff⟩
      · exact .inr ⟨digits, by simpa using ItemsCutOff.here cutOff⟩

theorem SpellsMembers.bounded_or_cutOff {members : List (Value × Value)} {cs : List Char}
    (spells : SpellsMembers others members cs) (rest : List Char)
    (delimited : ∀ c ∈ rest.head?, Delimits c) :
    SpellsMembers allowed members cs ∨ ∃ digits, MembersCutOff allowed digits (cs ++ rest) := by
  match spells with
  | .last key spelled behind =>
      have ends := endsNumber_of_delimits (delimited_append behind delimited)
      rcases spelled.bounded_or_cutOff ends with spelled | ⟨digits, cutOff⟩
      · exact .inl (.last key spelled behind)
      · exact .inr ⟨digits, by simpa using MembersCutOff.here key cutOff⟩
  | @SpellsMembers.more _ _ _ _ _ _ _ later key spelled comma more =>
      have ends := endsNumber_of_delimits (comma.delimited (later ++ rest))
      rcases spelled.bounded_or_cutOff ends with spelled | ⟨digits, cutOff⟩
      · rcases more.bounded_or_cutOff rest delimited with more | ⟨digits, cutOff⟩
        · exact .inl (.more key spelled comma more)
        · exact .inr ⟨digits, by simpa using MembersCutOff.later key spelled comma cutOff⟩
      · exact .inr ⟨digits, by simpa using MembersCutOff.here key cutOff⟩

end

end

end Playbook.Json
