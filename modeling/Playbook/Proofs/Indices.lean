import Mathlib.Data.List.Basic
import Playbook.Lookup
import Playbook.Proofs.JsonRoundTrip

/-!
# Indices in paths

A segment that is made of dashes and digits, of any script, is taken for an index.  It is the
integer it looks like if it has at most one dash and not too many digits, and a fault otherwise.
-/

namespace Playbook

namespace Text

theorem exists_range_of_isDigit {c : Char} (digit : isDigit c = true) :
    ∃ range ∈ decimalRanges, range.1 ≤ c.toNat ∧ c.toNat ≤ range.2 := by
  unfold isDigit digitValue? at digit
  split at digit
  · split at digit
    · rename_i ascii
      simp only [isAsciiDigit, Bool.and_eq_true, decide_eq_true_eq] at ascii
      exact ⟨(0x30, 0x39), by decide, ascii⟩
    · cases digit
  · rw [Option.isSome_map, List.find?_isSome] at digit
    obtain ⟨range, member, inside⟩ := digit
    exact ⟨range, member, by simpa using inside⟩

theorem isBlank_eq_false_of_isDigit {c : Char} (digit : isDigit c = true) : isBlank c = false := by
  -- The two classes have tables of their own, so they are compared character by character.
  have noBlank : ∀ range ∈ decimalRanges,
      ∀ code ∈ List.range' range.1 (range.2 + 1 - range.1), isBlank (Char.ofNat code) = false := by
    decide +kernel
  obtain ⟨range, member, lower, upper⟩ := exists_range_of_isDigit digit
  have inside : c.toNat ∈ List.range' range.1 (range.2 + 1 - range.1) := by
    rw [List.mem_range'_1]
    omega
  rw [← Char.ofNat_toNat c]
  exact noBlank range member c.toNat inside

theorem digitValue?_lt {c : Char} {d : Nat} (value : digitValue? c = some d) : d < 10 := by
  unfold digitValue? at value
  split at value
  · split at value
    · rename_i digit
      simp only [isAsciiDigit, Bool.and_eq_true, decide_eq_true_eq] at digit
      have upper : c.toNat ≤ 57 := digit.2
      cases value
      omega
    · cases value
  · obtain ⟨range, _, rfl⟩ := Option.map_eq_some_iff.mp value
    exact Nat.mod_lt _ (by decide)

theorem trim_eq_self {cs : List Char} (inside : ∀ c ∈ cs, isBlank c = false) : trim cs = cs := by
  have stays {cs : List Char} (inside : ∀ c ∈ cs, isBlank c = false) :
      cs.dropWhile isBlank = cs := by
    cases cs with
    | nil => rfl
    | cons c rest => simp [inside c List.mem_cons_self]
  unfold trim trimWhile
  rw [stays inside, stays fun c member => inside c (List.mem_reverse.mp member),
    List.reverse_reverse]

end Text

namespace Numeral

open Text

/-- The number that digits of any script stand for. -/
def number (digits : List Char) : Nat :=
  digits.foldl (fun value c => value * 10 + (digitValue? c).getD 0) 0

/-- Whether a text is made of digits. -/
def isNumber (cs : List Char) : Bool := !cs.isEmpty && cs.all isDigit

section Digits

variable {digits : List Char}

theorem isNumber_iff : isNumber digits = true ↔ digits ≠ [] ∧ ∀ c ∈ digits, isDigit c = true := by
  simp [isNumber]

/-- Digits with nothing between them are read to their end. -/
theorem readDigits_go_eq (all : ∀ c ∈ digits, isDigit c = true) (value count : Nat)
    {afterDigit : Bool} (ends : digits = [] → afterDigit = true) :
    readDigits.go digitIn 10 value count afterDigit digits =
      some (digits.foldl (fun value c => value * 10 + (digitValue? c).getD 0) value,
        count + digits.length) := by
  induction digits generalizing value count afterDigit with
  | nil =>
      rw [readDigits.go, ends rfl]
      rfl
  | cons c rest ih =>
      have digit := all c List.mem_cons_self
      obtain ⟨d, isValue⟩ := Option.isSome_iff_exists.mp digit
      have notUnderscore : c ≠ '_' := by
        intro same
        subst same
        cases digit
      have later := ih (fun c member => all c (List.mem_cons_of_mem _ member)) (value * 10 + d)
        (count + 1) fun _ => rfl
      rw [readDigits.go]
      · rw [digitIn, isValue]
        dsimp only
        rw [if_pos (digitValue?_lt isValue), later, List.foldl_cons, isValue, Option.getD_some,
          List.length_cons, Nat.add_right_comm, Nat.add_assoc]
      · exact notUnderscore

theorem dropBaseMark_ten (cs : List Char) : dropBaseMark 10 cs = cs := by
  unfold dropBaseMark
  split
  · simp
  · rfl

theorem readSign_of_isDigit {c : Char} (digit : isDigit c = true) (rest : List Char) :
    readSign (c :: rest) = (false, c :: rest) := by
  unfold readSign
  split
  · rename_i same
    cases same
    cases digit
  · rename_i same
    cases same
    cases digit
  · rfl

/-- A sign and digits are an integer, unless there are too many of them. -/
theorem readInt_of_signed {cs : List Char} {negative : Bool}
    (signed : readSign cs = (negative, digits)) (outer : ∀ c ∈ cs, isBlank c = false)
    (isNumber : isNumber digits = true) :
    readInt 10 cs =
      if digitLimit < digits.length then .error (.tooLong digits.length)
      else .ok (if negative then -(number digits : Int) else number digits) := by
  obtain ⟨nonempty, all⟩ := isNumber_iff.mp isNumber
  unfold readInt
  rw [trim_eq_self outer, signed]
  dsimp only
  rw [dropBaseMark_ten, readDigits, readDigits_go_eq all 0 0 fun empty => absurd empty nonempty]
  simp [number]

end Digits

theorem digitValue?_of_isAsciiDigit {c : Char} (ascii : isAsciiDigit c = true) :
    digitValue? c = some (c.toNat - 48) := by
  have small : c.toNat < 128 := by
    simp only [isAsciiDigit, Bool.and_eq_true, decide_eq_true_eq] at ascii
    have upper : c.toNat ≤ 57 := ascii.2
    omega
  unfold digitValue?
  rw [if_pos small, if_pos ascii]

theorem isNumber_toDigits (n : Nat) : isNumber (Nat.toDigits 10 n) = true := by
  apply isNumber_iff.mpr
  refine ⟨Nat.toDigits_ne_nil, ?_⟩
  intro c member
  unfold isDigit
  rw [digitValue?_of_isAsciiDigit (Json.isAsciiDigit_of_mem_toDigits member)]
  rfl

theorem number_toDigits (n : Nat) : number (Nat.toDigits 10 n) = n := by
  calc
    number (Nat.toDigits 10 n) = Json.asciiValue (Nat.toDigits 10 n) := by
      apply List.foldl_ext
      intro value c member
      rw [digitValue?_of_isAsciiDigit (Json.isAsciiDigit_of_mem_toDigits member), Option.getD_some]
    _ = n := Json.asciiValue_toDigits n

end Numeral

namespace Lookup

open Numeral

/-- An index with at most one dash and not too many digits, or no index at all. -/
def IsReadable (segment : String) : Prop :=
  isIndex segment = true →
    (segment.toList.takeWhile (· == '-')).length ≤ 1 ∧
      (segment.toList.dropWhile (· == '-')).length ≤ Numeral.digitLimit

instance (segment : String) : Decidable (IsReadable segment) :=
  inferInstanceAs (Decidable (_ → _))

/-- The integer that a segment is written for: digits, behind a dash if it is negative. -/
def integer? (segment : String) : Option Int :=
  match segment.toList with
  | '-' :: digits => if isNumber digits then some (-(number digits : Int)) else none
  | digits => if isNumber digits then some (number digits : Int) else none

/-- What reading an index that is not readable fails with. -/
def indexFault (segment : String) : Fault :=
  if (segment.toList.takeWhile (· == '-')).length ≤ 1 then
    .digitsRead (segment.toList.dropWhile (· == '-')).length
  else .integerText 10 (Text.quoted segment)

section Segments

variable {segment : String} {digits : List Char}

/-- Digits are no dash and no blank. -/
theorem isNumber_head_ne {c : Char} {rest : List Char} (isNumber : isNumber (c :: rest) = true) :
    c ≠ '-' := by
  rintro rfl
  cases (isNumber_iff.mp isNumber).2 '-' List.mem_cons_self

theorem integer?_of_digits (parts : segment.toList = digits) (isNumber : isNumber digits = true) :
    integer? segment = some (number digits : Int) := by
  unfold integer?
  rw [parts]
  split
  · exact absurd rfl (isNumber_head_ne isNumber)
  · rw [if_pos isNumber]

theorem integer?_of_dash (parts : segment.toList = '-' :: digits)
    (isNumber : isNumber digits = true) : integer? segment = some (-(number digits : Int)) := by
  unfold integer?
  rw [parts]
  exact if_pos isNumber

theorem isIndex_of_integer? {n : Int} (written : integer? segment = some n) :
    isIndex segment = true := by
  unfold integer? at written
  unfold isIndex
  split at written
  · rename_i digits parts
    split at written
    · rename_i isNumber
      obtain ⟨nonempty, all⟩ := isNumber_iff.mp isNumber
      obtain ⟨c, rest, rfl⟩ := List.exists_cons_of_ne_nil nonempty
      rw [parts, List.dropWhile_cons_of_pos (by rfl), List.dropWhile_cons_of_neg]
      · exact isNumber
      · simpa using isNumber_head_ne isNumber
    · cases written
  · split at written
    · rename_i isNumber
      obtain ⟨nonempty, all⟩ := isNumber_iff.mp isNumber
      obtain ⟨c, rest, parts⟩ := List.exists_cons_of_ne_nil nonempty
      rw [parts] at isNumber ⊢
      rw [List.dropWhile_cons_of_neg]
      · exact isNumber
      · simpa using isNumber_head_ne isNumber
    · cases written

/-- What reading a segment as an index comes to. -/
theorem index_of_isIndex (isIndex : isIndex segment = true) :
    (IsReadable segment ∧ ∃ n, integer? segment = some n ∧ index segment = .ok n) ∨
      (¬IsReadable segment ∧ index segment = .error (indexFault segment)) := by
  have parts := List.takeWhile_append_dropWhile (p := (· == '-')) (l := segment.toList)
  have readable : IsReadable segment ↔
      (segment.toList.takeWhile (· == '-')).length ≤ 1 ∧
        (segment.toList.dropWhile (· == '-')).length ≤ digitLimit :=
    ⟨fun readable => readable isIndex, fun bounds _ => bounds⟩
  have dash : ∀ c ∈ segment.toList.takeWhile (· == '-'), c = '-' := by
    intro c member
    simpa using List.all_eq_true.mp List.all_takeWhile c member
  have isNumber : isNumber (segment.toList.dropWhile (· == '-')) = true := isIndex
  rw [readable]
  unfold indexFault
  generalize segment.toList.takeWhile (· == '-') = dashes at *
  generalize segment.toList.dropWhile (· == '-') = digits at *
  have noBlank : ∀ c ∈ digits, Text.isBlank c = false := by
    intro c member
    exact Text.isBlank_eq_false_of_isDigit ((isNumber_iff.mp isNumber).2 c member)
  have outer : ∀ c ∈ segment.toList, Text.isBlank c = false := by
    rw [← parts]
    intro c member
    rcases List.mem_append.mp member with front | back
    · rw [dash c front]
      rfl
    · exact noBlank c back
  unfold index
  match dashes with
  | [] =>
      obtain ⟨c, rest, same⟩ := List.exists_cons_of_ne_nil (isNumber_iff.mp isNumber).1
      have digit := (isNumber_iff.mp isNumber).2 c (same ▸ List.mem_cons_self)
      have signed : readSign segment.toList = (false, digits) := by
        rw [← parts, List.nil_append, same]
        exact readSign_of_isDigit digit rest
      rw [readInt_of_signed signed outer isNumber]
      by_cases long : digitLimit < digits.length
      · right
        rw [if_pos long]
        exact ⟨by simp [long], rfl⟩
      · left
        rw [if_neg long]
        exact ⟨⟨Nat.zero_le 1, Nat.not_lt.mp long⟩, _, integer?_of_digits parts.symm isNumber, rfl⟩
  | [c] =>
      rw [dash c List.mem_cons_self] at parts
      have signed : readSign segment.toList = (true, digits) := by
        rw [← parts]
        rfl
      rw [readInt_of_signed signed outer isNumber]
      by_cases long : digitLimit < digits.length
      · right
        rw [if_pos long]
        exact ⟨by simp [long], rfl⟩
      · left
        rw [if_neg long]
        exact ⟨⟨Nat.le_refl 1, Nat.not_lt.mp long⟩, _, integer?_of_dash parts.symm isNumber, rfl⟩
  | c :: d :: more =>
      right
      rw [dash c List.mem_cons_self, dash d (List.mem_cons_of_mem _ List.mem_cons_self)] at parts
      -- A second dash is no digit.
      have malformed : readInt 10 segment.toList = .error .malformed := by
        unfold readInt
        rw [Text.trim_eq_self outer, ← parts]
        rfl
      rw [malformed]
      exact ⟨by simp, rfl⟩

theorem toList_toString (position : Nat) :
    (toString position).toList = Nat.toDigits 10 position := by
  rw [Nat.toString_eq_repr, Nat.toList_repr]

theorem isAsciiDigit_of_mem_toString {position : Nat} {c : Char}
    (member : c ∈ (toString position).toList) : Text.isAsciiDigit c = true := by
  rw [toList_toString] at member
  exact Json.isAsciiDigit_of_mem_toDigits member

/-- Positions are written as indices. -/
theorem integer?_toString (position : Nat) :
    integer? (toString position) = some (position : Int) := by
  rw [integer?_of_digits (toList_toString position) (isNumber_toDigits position), number_toDigits]

theorem toString_injective : Function.Injective (toString : Nat → String) := by
  intro first second same
  have read := integer?_toString first
  rw [same, integer?_toString] at read
  exact (Int.ofNat_inj.mp (Option.some.inj read)).symm

end Segments

end Lookup

end Playbook
