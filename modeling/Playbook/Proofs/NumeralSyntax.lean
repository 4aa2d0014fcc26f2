import Playbook.Proofs.Indices
import Playbook.Proofs.Signs
import Playbook.Range

/-!
# How numbers are written

The texts of numbers as a grammar: a sign, digits around a point, an exponent.  A text is read as a
number if and only if it is one of them, blanks around it aside.  A bound of a range has no
exponent, and digits on both sides of its point; what reading it takes off a longer text is the
longest part that is a bound.
-/

namespace Playbook

namespace Numeral

open Text

/-- Digits of any script, or nothing. -/
def AreDigits (cs : List Char) : Prop := ∀ c ∈ cs, isDigit c = true

/-- Digits with a point behind, between or in front of them, or without one. -/
inductive IsMagnitude : List Char → Prop where
  | whole {digits : List Char} : digits ≠ [] → AreDigits digits → IsMagnitude digits
  | pointed {digits fraction : List Char} :
      digits ≠ [] → AreDigits digits → AreDigits fraction →
      IsMagnitude (digits ++ '.' :: fraction)
  | fraction {fraction : List Char} :
      fraction ≠ [] → AreDigits fraction → IsMagnitude ('.' :: fraction)

/-- A power of ten behind its mark, or none. -/
inductive IsExponent : List Char → Prop where
  | none : IsExponent []
  | marked {mark : Char} {sign digits : List Char} :
      mark = 'e' ∨ mark = 'E' → IsSign sign → digits ≠ [] → AreDigits digits →
      IsExponent (mark :: (sign ++ digits))

/-- Numbers as they are written. -/
inductive IsDecimal : List Char → Prop where
  | parts {sign magnitude exponent : List Char} :
      IsSign sign → IsMagnitude magnitude → IsExponent exponent →
      IsDecimal (sign ++ (magnitude ++ exponent))

/-- Numbers without an exponent and with digits on both sides of their point, if they have one. -/
inductive IsPlain : List Char → Prop where
  | whole {sign digits : List Char} :
      IsSign sign → digits ≠ [] → AreDigits digits → IsPlain (sign ++ digits)
  | pointed {sign digits fraction : List Char} :
      IsSign sign → digits ≠ [] → AreDigits digits → fraction ≠ [] → AreDigits fraction →
      IsPlain (sign ++ (digits ++ '.' :: fraction))

/-! ## Digits -/

section Parts

variable {cs digits after rest : List Char}

/-- No digit follows. -/
def Stops (after : List Char) : Prop := ∀ c ∈ after.head?, isDigit c = false

theorem Stops.nil : Stops [] := nofun

theorem Stops.cons {c : Char} (other : isDigit c = false) : Stops (c :: rest) := by
  intro first same
  cases same
  exact other

/-- The values of digits. -/
def values (digits : List Char) : List Nat := digits.filterMap digitValue?

theorem values_eq_nil_iff (all : AreDigits digits) : values digits = [] ↔ digits = [] := by
  constructor
  · intro empty
    cases digits with
    | nil => rfl
    | cons c rest =>
        obtain ⟨d, value⟩ := Option.isSome_iff_exists.mp (all c List.mem_cons_self)
        simp [values, value] at empty
  · rintro rfl
    rfl

theorem spanDigits_append (all : AreDigits digits) (stops : Stops after) :
    spanDigits (digits ++ after) = (values digits, after) := by
  induction digits with
  | nil =>
      cases after with
      | nil => rfl
      | cons c rest =>
          have noValue : digitValue? c = none :=
            Option.not_isSome_iff_eq_none.mp (Bool.eq_false_iff.mp (stops c rfl))
          simp [spanDigits, noValue, values]
  | cons c rest ih =>
      obtain ⟨digit, later⟩ := List.forall_mem_cons.mp all
      obtain ⟨d, value⟩ := Option.isSome_iff_exists.mp digit
      simp [spanDigits, value, ih later, values]

theorem exists_of_spanDigits {found : List Nat} (span : spanDigits cs = (found, after)) :
    ∃ digits, cs = digits ++ after ∧ AreDigits digits ∧ found = values digits ∧ Stops after := by
  induction cs generalizing found with
  | nil =>
      cases span
      exact ⟨[], rfl, List.forall_mem_nil _, rfl, .nil⟩
  | cons c rest ih =>
      unfold spanDigits at span
      cases value : digitValue? c with
      | none =>
          rw [value] at span
          cases span
          refine ⟨[], rfl, List.forall_mem_nil _, rfl, .cons ?_⟩
          rw [isDigit, value]
          rfl
      | some d =>
          rw [value] at span
          cases span
          obtain ⟨digits, split, all, same, stops⟩ := ih rfl
          have digit : isDigit c = true := by
            rw [isDigit, value]
            rfl
          refine ⟨c :: digits, congrArg (c :: ·) split, ?_, ?_, stops⟩
          · exact List.forall_mem_cons.mpr ⟨digit, all⟩
          · rw [same]
            simp [values, value]

theorem unsigned_of_isDigit (nonempty : digits ≠ []) (all : AreDigits digits) :
    ∀ c ∈ (digits ++ rest).head?, c ≠ '+' ∧ c ≠ '-' := by
  obtain ⟨first, others, rfl⟩ := List.exists_cons_of_ne_nil nonempty
  intro c same
  cases same
  have digit := all first List.mem_cons_self
  constructor
  · rintro rfl
    cases digit
  · rintro rfl
    cases digit

end Parts

/-! ## Exponents -/

theorem stops_of_isExponent {exponent : List Char} (isExponent : IsExponent exponent) :
    Stops exponent := by
  cases isExponent with
  | none => exact .nil
  | marked mark isSign nonempty all =>
      rcases mark with rfl | rfl <;> exact .cons rfl

theorem isSome_readExponent_iff {cs : List Char} :
    (readExponent cs).isSome = true ↔ IsExponent cs := by
  constructor
  · intro success
    cases cs with
    | nil => exact .none
    | cons c rest =>
        unfold readExponent at success
        dsimp only at success
        split at success
        · rename_i mark
          cases signed : readSign rest with
          | mk negative body =>
              obtain ⟨sign, isSign, rfl, _⟩ := exists_of_readSign signed
              rw [signed] at success
              dsimp only at success
              split at success
              · cases success
              · rename_i found nonempty span
                obtain ⟨digits, whole, all, same, _⟩ := exists_of_spanDigits span
                rw [List.append_nil] at whole
                subst whole
                refine .marked (by simpa using mark) isSign ?_ all
                intro empty
                exact nonempty (same.trans ((values_eq_nil_iff all).mpr empty))
              · cases success
        · cases success
  · intro isExponent
    cases isExponent with
    | none => rfl
    | @marked mark sign digits isMark isSign nonempty all =>
        have span : spanDigits digits = (values digits, []) := by
          simpa using spanDigits_append all .nil
        have unsigned : ∀ c ∈ (digits ++ []).head?, c ≠ '+' ∧ c ≠ '-' :=
          unsigned_of_isDigit nonempty all
        rw [List.append_nil] at unsigned
        unfold readExponent
        dsimp only
        rw [if_pos (by simpa using isMark), readSign_append isSign unsigned, span]
        dsimp only
        split
        · rename_i empty
          rw [Prod.mk.injEq, values_eq_nil_iff all] at empty
          exact absurd empty.1 nonempty
        · rfl
        · rename_i same
          cases same

/-! ## Numbers -/

theorem noPoint_of_isExponent {exponent : List Char} (isExponent : IsExponent exponent)
    (rest : List Char) : exponent ≠ '.' :: rest := by
  rintro rfl
  cases isExponent with
  | marked mark => rcases mark with same | same <;> cases same

section Numbers

variable {sign digits fraction after : List Char}

theorem readDecimal_whole (isSign : IsSign sign) (nonempty : digits ≠ []) (all : AreDigits digits)
    (stops : Stops after) (noPoint : ∀ rest, after ≠ '.' :: rest) :
    readDecimal (sign ++ (digits ++ after)) =
      (readExponent after).map fun e => ⟨isNegative sign, values digits, [], e⟩ := by
  have some_ : values digits ≠ [] := mt (values_eq_nil_iff all).mp nonempty
  unfold readDecimal
  rw [readSign_append isSign (unsigned_of_isDigit nonempty all)]
  dsimp only
  rw [spanDigits_append all stops]
  split
  · rename_i same
    exact absurd (Prod.mk.inj same).1 some_
  · rename_i same
    exact absurd (Prod.mk.inj same).1 some_
  · rename_i same
    exact absurd (Prod.mk.inj same).2 (noPoint _)
  · rename_i same
    cases same
    rfl

theorem readDecimal_pointed (isSign : IsSign sign) (nonempty : digits ≠ [])
    (all : AreDigits digits) (fractionAll : AreDigits fraction) (stops : Stops after) :
    readDecimal (sign ++ (digits ++ '.' :: (fraction ++ after))) =
      (readExponent after).map fun e =>
        ⟨isNegative sign, values digits, values fraction, e⟩ := by
  have some_ : values digits ≠ [] := mt (values_eq_nil_iff all).mp nonempty
  have point : Stops ('.' :: (fraction ++ after)) := .cons rfl
  unfold readDecimal
  rw [readSign_append isSign (unsigned_of_isDigit nonempty all)]
  dsimp only
  rw [spanDigits_append all point]
  split
  · rename_i same
    exact absurd (Prod.mk.inj same).1 some_
  · rename_i same
    exact absurd (Prod.mk.inj same).1 some_
  · rename_i same
    cases same
    rw [spanDigits_append fractionAll stops]
  · rename_i other same
    cases same
    exact absurd rfl (other _)

theorem readDecimal_fraction (isSign : IsSign sign) (nonempty : fraction ≠ [])
    (all : AreDigits fraction) (stops : Stops after) :
    readDecimal (sign ++ '.' :: (fraction ++ after)) =
      (readExponent after).map fun e => ⟨isNegative sign, [], values fraction, e⟩ := by
  have some_ : values fraction ≠ [] := mt (values_eq_nil_iff all).mp nonempty
  have point : Stops ('.' :: (fraction ++ after)) := .cons rfl
  have unsigned : ∀ c ∈ ('.' :: (fraction ++ after)).head?, c ≠ '+' ∧ c ≠ '-' := by
    intro c same
    cases same
    decide
  have none_ : spanDigits ('.' :: (fraction ++ after)) = ([], '.' :: (fraction ++ after)) :=
    spanDigits_append (List.forall_mem_nil _) point
  unfold readDecimal
  rw [readSign_append isSign unsigned]
  dsimp only
  rw [none_]
  split
  · rename_i same
    cases same
    rw [spanDigits_append all stops]
    split
    · rename_i same
      exact absurd (Prod.mk.inj same).1 some_
    · rename_i same
      cases same
      rfl
  · rename_i other same
    cases same
    exact absurd rfl (other _)
  · rename_i none_ same
    cases same
    exact absurd rfl none_
  · rename_i none_ _ same
    cases same
    exact absurd rfl none_

/-- A text is read as a number if and only if it is written as one. -/
theorem isSome_readDecimal_iff {cs : List Char} :
    (readDecimal cs).isSome = true ↔ IsDecimal cs := by
  constructor
  · intro success
    cases signed : readSign cs with
    | mk negative body =>
        obtain ⟨sign, isSign, rfl, _⟩ := exists_of_readSign signed
        unfold readDecimal at success
        rw [signed] at success
        dsimp only at success
        split at success
        · rename_i rest whole
          obtain ⟨digits, rfl, all, none_, _⟩ := exists_of_spanDigits whole
          cases (values_eq_nil_iff all).mp none_.symm
          split at success
          · cases success
          · rename_i found after nonempty span
            obtain ⟨fraction, rfl, fractionAll, rfl, _⟩ := exists_of_spanDigits span
            rw [Option.isSome_map, isSome_readExponent_iff] at success
            have some_ : fraction ≠ [] := by
              rintro rfl
              exact nonempty rfl
            have parts := IsDecimal.parts isSign (.fraction some_ fractionAll) success
            simpa using parts
        · cases success
        · rename_i found rest nonempty whole
          obtain ⟨digits, rfl, all, rfl, _⟩ := exists_of_spanDigits whole
          cases span : spanDigits rest with
          | mk _ after =>
              obtain ⟨fraction, rfl, fractionAll, rfl, _⟩ := exists_of_spanDigits span
              rw [span] at success
              rw [Option.isSome_map, isSome_readExponent_iff] at success
              have some_ : digits ≠ [] := by
                rintro rfl
                exact nonempty rfl
              have parts := IsDecimal.parts isSign (.pointed some_ all fractionAll) success
              simpa using parts
        · rename_i _ nonempty _ whole
          obtain ⟨digits, rfl, all, rfl, _⟩ := exists_of_spanDigits whole
          rw [Option.isSome_map, isSome_readExponent_iff] at success
          have some_ : digits ≠ [] := by
            rintro rfl
            exact nonempty rfl
          exact .parts isSign (.whole some_ all) success
  · rintro ⟨isSign, isMagnitude, isExponent⟩
    have stops := stops_of_isExponent isExponent
    have noPoint := noPoint_of_isExponent isExponent
    have reads := isSome_readExponent_iff.mpr isExponent
    cases isMagnitude with
    | whole nonempty all =>
        rwa [readDecimal_whole isSign nonempty all stops noPoint, Option.isSome_map]
    | pointed nonempty all fractionAll =>
        rw [List.append_assoc, List.cons_append]
        rwa [readDecimal_pointed isSign nonempty all fractionAll stops, Option.isSome_map]
    | fraction nonempty all =>
        rw [List.cons_append]
        rwa [readDecimal_fraction isSign nonempty all stops, Option.isSome_map]

end Numbers

/-! ## Characters of numbers -/

section Characters

variable {cs front back : List Char}

/-- Characters that numbers are written with. -/
def IsFigureChar (c : Char) : Prop := isDigit c = true ∨ c ∈ ['+', '-', '.', 'e', 'E']

theorem isFigureChar_of_mem_isDecimal (decimal : IsDecimal cs) : ∀ c ∈ cs, IsFigureChar c := by
  have ofDigits {digits : List Char} (all : AreDigits digits) : ∀ c ∈ digits, IsFigureChar c :=
    fun c member => .inl (all c member)
  have ofSign {sign : List Char} (isSign : IsSign sign) : ∀ c ∈ sign, IsFigureChar c := by
    cases isSign <;> simp [IsFigureChar]
  have point : IsFigureChar '.' := .inr (by simp)
  obtain ⟨isSign, isMagnitude, isExponent⟩ := decimal
  rw [List.forall_mem_append, List.forall_mem_append]
  refine ⟨ofSign isSign, ?_, ?_⟩
  · cases isMagnitude with
    | whole _ all => exact ofDigits all
    | pointed _ all fractionAll =>
        rw [List.forall_mem_append, List.forall_mem_cons]
        exact ⟨ofDigits all, point, ofDigits fractionAll⟩
    | fraction _ all =>
        rw [List.forall_mem_cons]
        exact ⟨point, ofDigits all⟩
  · cases isExponent with
    | none => exact List.forall_mem_nil _
    | marked mark isSign _ all =>
        rw [List.forall_mem_cons, List.forall_mem_append]
        refine ⟨?_, ofSign isSign, ofDigits all⟩
        rcases mark with rfl | rfl <;> simp [IsFigureChar]

theorem isBlank_eq_false_of_isFigureChar {c : Char} (figureChar : IsFigureChar c) :
    isBlank c = false := by
  rcases figureChar with digit | sign
  · exact isBlank_eq_false_of_isDigit digit
  · simp only [List.mem_cons, List.not_mem_nil, or_false] at sign
    rcases sign with rfl | rfl | rfl | rfl | rfl <;> decide

/-- No sign stands at the end of a text. -/
def Unsigned (cs : List Char) : Prop := ∀ c ∈ cs.getLast?, c ≠ '+' ∧ c ≠ '-'

theorem Unsigned.append (nonempty : back ≠ []) (unsigned : Unsigned back) :
    Unsigned (front ++ back) := by
  intro c last
  rw [List.getLast?_append_of_ne_nil _ nonempty] at last
  exact unsigned c last

theorem Unsigned.of_areDigits {digits : List Char} (all : AreDigits digits) : Unsigned digits := by
  intro c last
  have digit := all c (List.mem_of_getLast? last)
  constructor
  · rintro rfl
    cases digit
  · rintro rfl
    cases digit

theorem Unsigned.of_fraction {fraction : List Char} (all : AreDigits fraction) :
    Unsigned ('.' :: fraction) := by
  cases fraction with
  | nil =>
      intro c last
      cases last
      decide
  | cons first rest =>
      have behind : Unsigned (['.'] ++ first :: rest) :=
        .append (List.cons_ne_nil first rest) (.of_areDigits all)
      exact behind

theorem IsMagnitude.unsigned (isMagnitude : IsMagnitude cs) : cs ≠ [] ∧ Unsigned cs := by
  cases isMagnitude with
  | whole nonempty all => exact ⟨nonempty, .of_areDigits all⟩
  | pointed _ all fractionAll =>
      exact ⟨by simp, .append (List.cons_ne_nil _ _) (.of_fraction fractionAll)⟩
  | fraction _ all => exact ⟨List.cons_ne_nil _ _, .of_fraction all⟩

theorem IsDecimal.unsigned (decimal : IsDecimal cs) : cs ≠ [] ∧ Unsigned cs := by
  obtain ⟨isSign, isMagnitude, isExponent⟩ := decimal
  obtain ⟨nonempty, unsigned⟩ := isMagnitude.unsigned
  refine ⟨by simp [nonempty], ?_⟩
  cases isExponent with
  | none =>
      rw [List.append_nil]
      exact .append nonempty unsigned
  | marked _ _ digitsNonempty all =>
      rw [← List.cons_append, ← List.append_assoc, ← List.append_assoc]
      exact .append digitsNonempty (.of_areDigits all)

theorem trimmed_of_isDecimal (decimal : IsDecimal cs) : Trimmed cs :=
  .of_forall fun c member =>
    isBlank_eq_false_of_isFigureChar (isFigureChar_of_mem_isDecimal decimal c member)

end Characters

theorem isSome_ofText?_iff {cs : List Char} :
    (ofText? cs).isSome = true ↔ IsDecimal (trim cs) := by
  unfold ofText?
  rw [Option.isSome_map, isSome_readDecimal_iff]

end Numeral

end Playbook
