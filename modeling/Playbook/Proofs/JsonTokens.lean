import Mathlib.Logic.Basic
import Playbook.Proofs.Fallible
import Playbook.Proofs.JsonGrammar

/-!
# Reading numbers and texts of JSON

What a reader answers is compared with the grammar: it has taken off a first part that the grammar
spells, or it has met an integer beyond the limit of digits.  Each reader of a number or of a text
is first shown to take off what the grammar calls a part, and then to take off every such part that
nothing behind it goes on with.
-/

namespace Playbook.Json

open Text Fallible

/-- The numbers of digits that an integer is read with. -/
def InLimit (digits : Nat) : Prop := digits ≤ Numeral.digitLimit

/-- What a reader answers on a text: it has read a first part of it, or it has met an integer that
is too long, or it fails for another reason. -/
def Answers {α : Type} (spells : α → List Char → Prop) (cutOff : Nat → List Char → Prop)
    (cs : List Char) : Except ReadFault (α × List Char) → Prop
  | .ok (a, rest) => ∃ front, spells a front ∧ cs = front ++ rest
  | .error (.integerTooLong digits) => cutOff digits cs
  | .error _ => True

theorem Answers.bind {α β : Type} {spells : α → List Char → Prop} {others : β → List Char → Prop}
    {cutOff cutOffBehind : Nat → List Char → Prop} {cs behind : List Char}
    {first : Except ReadFault (α × List Char)}
    {following : α × List Char → Except ReadFault (β × List Char)}
    (answers : Answers spells cutOffBehind behind first)
    (cuts : ∀ digits, cutOffBehind digits behind → cutOff digits cs)
    (continues : ∀ a front rest, spells a front → behind = front ++ rest →
      Answers others cutOff cs (following (a, rest))) :
    Answers others cutOff cs (first >>= following) := by
  cases first with
  | error fault =>
      cases fault with
      | integerTooLong digits => exact cuts digits answers
      | _ => trivial
  | ok result =>
      obtain ⟨front, spelled, same⟩ := answers
      exact continues _ front _ spelled same

/-- What a reader answers behind some characters that belong to what it reads. -/
theorem Answers.behind {α : Type} {spells others : α → List Char → Prop}
    {cutOff cutOffBehind : Nat → List Char → Prop} {cs : List Char}
    {result : Except ReadFault (α × List Char)} (answers : Answers others cutOffBehind cs result)
    (before : List Char) (spelled : ∀ a front, others a front → spells a (before ++ front))
    (cuts : ∀ digits, cutOffBehind digits cs → cutOff digits (before ++ cs)) :
    Answers spells cutOff (before ++ cs) result := by
  rw [← bind_pure result]
  apply answers.bind cuts
  rintro a front rest spells rfl
  exact ⟨before ++ front, spelled a front spells, (List.append_assoc ..).symm⟩

/-! ## Blanks -/

theorem exists_skipped (cs : List Char) :
    ∃ before behind, AreSpaces before ∧ cs = before ++ behind ∧ skipSpace cs = behind := by
  refine ⟨cs.takeWhile isSpace, cs.dropWhile isSpace, ?_, List.takeWhile_append_dropWhile.symm, rfl⟩
  intro c member
  exact List.all_eq_true.mp List.all_takeWhile c member

theorem skipSpace_append {before rest : List Char} (spaces : AreSpaces before)
    (stops : ∀ c ∈ rest.head?, isSpace c = false) : skipSpace (before ++ rest) = rest :=
  dropWhile_append_of_stop spaces stops

/-! ## Numbers -/

section Numbers

variable {cs digits front rest : List Char}

theorem spanAscii_append (all : ∀ c ∈ digits, isAsciiDigit c = true)
    (stops : ∀ c ∈ rest.head?, isAsciiDigit c = false) :
    spanAscii (digits ++ rest) = (digits, rest) := by
  unfold spanAscii
  rw [takeWhile_append_of_stop all stops, dropWhile_append_of_stop all stops]

theorem exists_of_spanAscii (span : spanAscii cs = (digits, rest)) :
    cs = digits ++ rest ∧ (∀ c ∈ digits, isAsciiDigit c = true) ∧
      ∀ c ∈ rest.head?, isAsciiDigit c = false := by
  cases span
  refine ⟨List.takeWhile_append_dropWhile.symm, ?_, ?_⟩
  · intro c member
    exact List.all_eq_true.mp List.all_takeWhile c member
  · intro c first
    have stops := List.head?_dropWhile_not isAsciiDigit cs
    rw [first] at stops
    simpa using stops

/-- Digits at the beginning of a text go on as far as there are digits. -/
theorem exists_all_digits (isDigits : IsDigits digits) (rest : List Char) :
    ∃ all after, IsDigits all ∧ digits ++ rest = all ++ after ∧
      ∀ c ∈ after.head?, isAsciiDigit c = false := by
  obtain ⟨same, all, stops⟩ := exists_of_spanAscii (rfl : spanAscii (digits ++ rest) = (_, _))
  refine ⟨_, _, ⟨?_, all⟩, same, stops⟩
  obtain ⟨c, others, rfl⟩ := List.exists_cons_of_ne_nil isDigits.nonempty
  simp [isDigits.digits c List.mem_cons_self]

theorem exists_of_readFraction (read : readFraction cs = (digits, rest)) :
    ∃ front, SpellsFraction digits front ∧ cs = front ++ rest := by
  unfold readFraction at read
  split at read
  · split at read
    · cases read
      exact ⟨[], .none, rfl⟩
    · rename_i some_
      obtain ⟨same, all, _⟩ := exists_of_spanAscii read
      refine ⟨'.' :: digits, .pointed ⟨?_, all⟩, congrArg ('.' :: ·) same⟩
      rintro rfl
      exact some_ _ read
  · cases read
    exact ⟨[], .none, rfl⟩

theorem readFraction_pointed (isDigits : IsDigits digits)
    (stops : ∀ c ∈ rest.head?, isAsciiDigit c = false) :
    readFraction ('.' :: (digits ++ rest)) = (digits, rest) := by
  unfold readFraction
  split
  · rename_i same
    cases same
    rw [spanAscii_append isDigits.digits stops]
    split
    · rename_i empty
      exact absurd (Prod.mk.inj empty).1 isDigits.nonempty
    · rfl
  · rename_i other
    exact absurd rfl (other _)

theorem readFraction_append (spells : SpellsFraction digits front)
    (stops : ∀ c ∈ rest.head?, isAsciiDigit c = false)
    (noFraction : ∀ others front behind, SpellsFraction others front →
      rest = front ++ behind → others = []) :
    readFraction (front ++ rest) = (digits, rest) := by
  cases spells with
  | none =>
      cases read : readFraction rest with
      | mk others after =>
          obtain ⟨front, spelled, same⟩ := exists_of_readFraction read
          obtain rfl := noFraction others front after spelled same
          rw [spelled.eq_nil, List.nil_append] at same
          rw [List.nil_append, read, same]
  | pointed isDigits => exact readFraction_pointed isDigits stops

theorem exists_of_readPower {power : Option Int} (read : readPower cs = (power, rest)) :
    ∃ front, SpellsPower power front ∧ cs = front ++ rest := by
  have absent (same : (Option.none, cs) = (power, rest)) :
      ∃ front, SpellsPower power front ∧ cs = front ++ rest := by
    cases same
    exact ⟨[], .none, rfl⟩
  cases cs with
  | nil => exact absent read
  | cons mark behind =>
      unfold readPower at read
      dsimp only at read
      split at read
      · rename_i marks
        have isMark : IsPowerMark mark := by simpa [IsPowerMark] using marks
        cases signed : Numeral.readSign behind with
        | mk negative body =>
            rw [signed] at read
            dsimp only at read
            split at read
            · exact absent read
            · rename_i found _ some_ span
              cases read
              obtain ⟨rfl, all, _⟩ := exists_of_spanAscii span
              obtain ⟨sign, isSign, rfl, rfl⟩ := Numeral.exists_of_readSign signed
              refine ⟨_, .marked isMark isSign ⟨some_, all⟩, ?_⟩
              rw [List.cons_append, List.append_assoc]
      · exact absent read

theorem IsDigits.unsigned (isDigits : IsDigits digits) (rest : List Char) :
    ∀ c ∈ (digits ++ rest).head?, c ≠ '+' ∧ c ≠ '-' := by
  obtain ⟨first, others, rfl⟩ := List.exists_cons_of_ne_nil isDigits.nonempty
  have digit := isDigits.digits first List.mem_cons_self
  rintro _ ⟨⟩
  constructor
  · rintro rfl
    cases digit
  · rintro rfl
    cases digit

/-- A power that is spelled is read with all the digits that it has. -/
theorem readPower_marked {mark : Char} {sign : List Char} (isMark : IsPowerMark mark)
    (isSign : Numeral.IsSign sign) (isDigits : IsDigits digits)
    (stops : ∀ c ∈ rest.head?, isAsciiDigit c = false) :
    readPower (mark :: (sign ++ (digits ++ rest))) =
      (some (if Numeral.isNegative sign then -(asciiValue digits : Int) else asciiValue digits),
        rest) := by
  have marks : (mark = 'e' || mark = 'E') = true := by simpa [IsPowerMark] using isMark
  unfold readPower
  dsimp only
  rw [if_pos marks, Numeral.readSign_append isSign (isDigits.unsigned rest)]
  dsimp only
  rw [spanAscii_append isDigits.digits stops]
  split
  · rename_i empty
    exact absurd (Prod.mk.inj empty).1 isDigits.nonempty
  · rename_i same
    cases same
    rfl

theorem readPower_append {power : Option Int} (spells : SpellsPower power front)
    (stops : ∀ c ∈ rest.head?, isAsciiDigit c = false)
    (noPower : ∀ others front behind, SpellsPower others front →
      rest = front ++ behind → others = none) :
    readPower (front ++ rest) = (power, rest) := by
  cases spells with
  | none =>
      cases read : readPower rest with
      | mk others after =>
          obtain ⟨front, spelled, same⟩ := exists_of_readPower read
          obtain rfl := noPower others front after spelled same
          rw [spelled.eq_nil, List.nil_append] at same
          rw [List.nil_append, read, same]
  | marked isMark sign isDigits =>
      rw [List.cons_append, List.append_assoc]
      exact readPower_marked isMark sign isDigits stops

/-- What no digit stands behind is the whole part of a number that begins with it. -/
theorem readMagnitude_append (negative : Bool) {whole fraction exponent : List Char}
    {power : Option Int} (isWhole : IsWhole whole)
    (spelledFraction : SpellsFraction digits fraction)
    (spelledPower : SpellsPower power exponent) (ends : EndsNumber rest) :
    readMagnitude negative (whole ++ (fraction ++ (exponent ++ rest))) =
      if digits.isEmpty && power.isNone then
        if whole.length > Numeral.digitLimit then .error (.integerTooLong whole.length)
        else .ok (.int (if negative then -(asciiValue whole : Int) else asciiValue whole), rest)
      else
        .ok (.float (.ofDecimal negative (asciiValue (whole ++ digits))
          (power.getD 0 - (digits.length : Int))), rest) := by
  have behindFraction : ∀ c ∈ (exponent ++ rest).head?, isAsciiDigit c = false := by
    cases spelledPower with
    | none => exact ends.noDigit
    | marked isMark _ _ =>
        rintro _ ⟨⟩
        rcases isMark with rfl | rfl <;> rfl
  have behindWhole : ∀ c ∈ (fraction ++ (exponent ++ rest)).head?, isAsciiDigit c = false := by
    cases spelledFraction with
    | none => exact behindFraction
    | pointed _ =>
        rintro _ ⟨⟩
        rfl
  -- Where no fraction is spelled, the power that follows must not be taken for one.
  have noFraction : ∀ others front behind, SpellsFraction others front →
      exponent ++ rest = front ++ behind → others = [] := by
    intro others front behind spelled same
    cases spelledPower with
    | none => exact ends.noFraction others front behind spelled same
    | marked isMark _ _ =>
        cases spelled with
        | none => rfl
        | pointed _ =>
            have point := (List.cons_eq_cons.mp same).1
            rcases isMark with rfl | rfl <;> cases point
  have readsFraction := readFraction_append spelledFraction behindFraction noFraction
  have readsPower := readPower_append spelledPower ends.noDigit ends.noPower
  unfold readMagnitude
  split
  rename_i found after shape
  have parts : (found, after) = (whole, fraction ++ (exponent ++ rest)) := by
    rw [← shape]
    split
    · rename_i others same
      obtain ⟨c, more, rfl⟩ := List.exists_cons_of_ne_nil isWhole.nonempty
      cases same
      rw [isWhole.leading more rfl]
      rfl
    · exact spanAscii_append isWhole.digits behindWhole
  cases parts
  rw [if_neg (by simpa using isWhole.nonempty), readsFraction]
  dsimp only
  rw [readsPower]

/-- Where no fraction and no power is read, a text does not begin with one. -/
theorem endsNumber_of_reads (stops : ∀ c ∈ cs.head?, isAsciiDigit c = false)
    (noFraction : readFraction cs = ([], cs)) (noPower : readPower cs = (none, cs)) :
    EndsNumber cs where
  noDigit := stops
  noFraction := by
    intro digits front rest spells same
    cases spells with
    | none => rfl
    | pointed isDigits =>
        -- The fraction may go on behind the digits that are spelled, and it is read to its end.
        obtain ⟨all, after, allDigits, longest, stops⟩ := exists_all_digits isDigits rest
        have read := readFraction_pointed allDigits stops
        rw [← longest, ← List.cons_append, ← same, noFraction] at read
        exact absurd (Prod.mk.inj read).1.symm allDigits.nonempty
  noPower := by
    intro power front rest spells same
    cases spells with
    | none => rfl
    | marked isMark sign isDigits =>
        obtain ⟨all, after, allDigits, longest, stops⟩ := exists_all_digits isDigits rest
        have read := readPower_marked isMark sign allDigits stops
        rw [← longest, ← List.append_assoc, ← List.cons_append, ← same, noPower] at read
        cases read

/-- The first part of a number that a reader takes off.  Behind a leading zero further digits may
stand, but no whole part that is too long is of that kind. -/
theorem whole_of_shape {whole after : List Char}
    (shape : (match cs with
      | '0' :: rest => (['0'], rest)
      | cs => spanAscii cs) = (whole, after)) (nonempty : whole ≠ []) :
    IsWhole whole ∧ cs = whole ++ after ∧
      (¬InLimit whole.length → ∀ c ∈ after.head?, isAsciiDigit c = false) := by
  split at shape
  · cases shape
    refine ⟨⟨⟨nonempty, ?_⟩, ?_⟩, rfl, ?_⟩
    · exact List.forall_mem_singleton.mpr rfl
    · rintro _ ⟨⟩
      rfl
    · intro long
      exact absurd (by decide : 1 ≤ Numeral.digitLimit) long
  · rename_i notZero
    obtain ⟨same, all, stops⟩ := exists_of_spanAscii shape
    refine ⟨⟨⟨nonempty, all⟩, ?_⟩, same, fun _ => stops⟩
    rintro rest rfl
    exact absurd same (notZero _)

theorem answers_readMagnitude (negative : Bool) (cs : List Char) :
    Answers (SpellsMagnitude InLimit negative) (IntegerCutOff InLimit) cs
      (readMagnitude negative cs) := by
  unfold readMagnitude
  split
  rename_i whole afterWhole shape
  split
  · trivial
  rename_i nonempty
  obtain ⟨isWhole, rfl, stops⟩ := whole_of_shape shape (by simpa using nonempty)
  cases readsFraction : readFraction afterWhole with
  | mk digits afterFraction =>
  cases readsPower : readPower afterFraction with
  | mk power after =>
  obtain ⟨fraction, spelledFraction, sameFraction⟩ := exists_of_readFraction readsFraction
  obtain ⟨exponent, spelledPower, samePower⟩ := exists_of_readPower readsPower
  dsimp only
  rw [readsPower]
  dsimp only
  split
  · rename_i integer
    simp only [Bool.and_eq_true, List.isEmpty_iff, Option.isNone_iff_eq_none] at integer
    obtain ⟨rfl, rfl⟩ := integer
    rw [spelledFraction.eq_nil, List.nil_append] at sameFraction
    rw [spelledPower.eq_nil, List.nil_append] at samePower
    subst sameFraction samePower
    split
    · rename_i long
      have long : ¬InLimit whole.length := Nat.not_le.mpr long
      exact .integer isWhole long (endsNumber_of_reads (stops long) readsFraction readsPower)
    · rename_i short
      exact ⟨whole, .integer isWhole (Nat.not_lt.mp short), rfl⟩
  · rename_i double
    refine ⟨whole ++ (fraction ++ exponent), ?_, ?_⟩
    · apply SpellsMagnitude.double isWhole spelledFraction spelledPower
      simpa [or_iff_not_imp_left] using double
    · rw [sameFraction, samePower, List.append_assoc, List.append_assoc]

theorem readMagnitude_of_spells {negative : Bool} {v : Value}
    (spells : SpellsMagnitude InLimit negative v front) (ends : EndsNumber rest) :
    readMagnitude negative (front ++ rest) = .ok (v, rest) := by
  cases spells with
  | integer isWhole short =>
      have read := readMagnitude_append negative isWhole .none .none ends
      rw [List.nil_append, List.nil_append] at read
      exact read.trans ((if_pos rfl).trans (if_neg (Nat.not_lt.mpr short)))
  | double isWhole fraction power some_ =>
      have read := readMagnitude_append negative isWhole fraction power ends
      rw [List.append_assoc, List.append_assoc, read, if_neg]
      simpa [or_iff_not_imp_left] using some_

theorem readMagnitude_of_cutOff {length : Nat} (cutOff : IntegerCutOff InLimit length cs)
    (negative : Bool) : readMagnitude negative cs = .error (.integerTooLong length) := by
  cases cutOff with
  | integer isWhole long ends =>
      have read := readMagnitude_append negative isWhole .none .none ends
      rw [List.nil_append, List.nil_append] at read
      exact read.trans ((if_pos rfl).trans (if_pos (Nat.not_le.mp long)))

end Numbers

/-! ## Texts -/

section Strings

variable {units : List Nat} {rest after : List Char}

theorem readUnits_quote (rest : List Char) : readUnits ('"' :: rest) = .ok ([], rest) := by
  rw [readUnits.eq_def]
  rfl

theorem readUnits_plain {c : Char} (read : readUnits rest = .ok (units, after))
    (notQuote : c ≠ '"') (notBackslash : c ≠ '\\') (noControl : 0x20 ≤ c.toNat) :
    readUnits (c :: rest) = .ok (c.toNat :: units, after) := by
  have printed : ¬c.toNat < 0x20 := Nat.not_lt.mpr noControl
  rw [readUnits.eq_def]
  dsimp only
  rw [if_neg notQuote, if_neg notBackslash, if_neg printed, read]
  rfl

theorem readUnits_escape {c : Char} {unit : Nat} (read : readUnits rest = .ok (units, after))
    (stands : escapeValue? c = some unit) :
    readUnits ('\\' :: c :: rest) = .ok (unit :: units, after) := by
  have notQuote : '\\' ≠ '"' := by decide
  have notNumber : c ≠ 'u' := by
    intro same
    subst same
    cases stands
  rw [readUnits.eq_def]
  dsimp only
  rw [if_neg notQuote, if_pos rfl, if_neg notNumber, stands, read]
  rfl

theorem readUnits_number {a b c d : Char} {unit : Nat} (read : readUnits rest = .ok (units, after))
    (value : hexValue? a b c d = some unit) :
    readUnits ('\\' :: 'u' :: a :: b :: c :: d :: rest) = .ok (unit :: units, after) := by
  have notQuote : '\\' ≠ '"' := by decide
  cases rest with
  | nil => cases read
  | cons next rest =>
      rw [readUnits.eq_def]
      dsimp only
      rw [if_neg notQuote, if_pos rfl, if_pos rfl, value, read]
      rfl

theorem readUnits_of_spells {inside : List Char} (spells : SpellsUnits units inside)
    (rest : List Char) : readUnits (inside ++ '"' :: rest) = .ok (units, rest) := by
  induction spells with
  | nil => exact readUnits_quote rest
  | plain notQuote notBackslash noControl _ ih =>
      exact readUnits_plain ih notQuote notBackslash noControl
  | escape stands _ ih => exact readUnits_escape ih stands
  | number value _ ih => exact readUnits_number ih value

/-- Code units up to the quote that closes them. -/
def SpellsUnitsTo (units : List Nat) (front : List Char) : Prop :=
  ∃ inside, SpellsUnits units inside ∧ front = inside ++ ['"']

theorem answers_unit {unit : Nat} (spelled : List Char)
    (answers : Answers SpellsUnitsTo (fun _ _ => False) rest (readUnits rest))
    (spells : ∀ units inside, SpellsUnits units inside →
      SpellsUnits (unit :: units) (spelled ++ inside)) :
    Answers SpellsUnitsTo (fun _ _ => False) (spelled ++ rest) (do
      let (units, after) ← readUnits rest
      return (unit :: units, after)) := by
  apply answers.bind fun _ never => never.elim
  rintro units _ after ⟨inside, spelledInside, rfl⟩ rfl
  refine ⟨_, ⟨spelled ++ inside, spells _ inside spelledInside, rfl⟩, ?_⟩
  simp

theorem answers_readUnits (cs : List Char) :
    Answers SpellsUnitsTo (fun _ _ => False) cs (readUnits cs) := by
  fun_induction readUnits cs with
  | case2 rest => exact ⟨['"'], ⟨[], .nil, rfl⟩, rfl⟩
  | case4 a b c d rest unit _ value _ ih =>
      exact answers_unit ['\\', 'u', a, b, c, d] ih fun _ _ spells => .number value spells
  | case7 mark rest _ unit stands _ ih =>
      exact answers_unit ['\\', mark] ih fun _ _ spells => .escape stands spells
  | case10 c rest notQuote notBackslash noControl ih =>
      exact answers_unit [c] ih fun _ _ spells =>
        .plain notQuote notBackslash (Nat.not_lt.mp noControl) spells
  | _ => trivial

/-- A text up to its closing quote. -/
def SpellsTextFrom (s : String) (front : List Char) : Prop := SpellsText s ('"' :: front)

theorem answers_readString (cs : List Char) :
    Answers SpellsTextFrom (fun _ _ => False) cs (readString cs) := by
  apply (answers_readUnits cs).bind fun _ never => never.elim
  rintro units _ rest ⟨inside, spells, rfl⟩ same
  exact ⟨_, .quoted spells, same⟩

theorem readString_of_spells {s : String} {front : List Char} (spells : SpellsText s front)
    (rest : List Char) :
    ∃ inside, front = '"' :: inside ∧ readString (inside ++ rest) = .ok (s, rest) := by
  obtain ⟨spells⟩ := spells
  refine ⟨_, rfl, ?_⟩
  unfold readString
  rw [List.append_assoc, List.singleton_append, readUnits_of_spells spells]
  rfl

end Strings

end Playbook.Json
