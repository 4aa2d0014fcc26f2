import Playbook.Number.Numeral

/-!
# Signs of numbers

What is taken off a text as a sign, and every sign that nothing behind it goes on with is taken off.
-/

namespace Playbook.Numeral

/-- A sign, or none. -/
inductive IsSign : List Char → Prop where
  | none : IsSign []
  | plus : IsSign ['+']
  | minus : IsSign ['-']

/-- Whether a sign is the one of negative numbers. -/
def isNegative (sign : List Char) : Bool := sign == ['-']

section

variable {cs sign rest : List Char}

theorem readSign_append (isSign : IsSign sign)
    (unsigned : ∀ c ∈ rest.head?, c ≠ '+' ∧ c ≠ '-') :
    readSign (sign ++ rest) = (isNegative sign, rest) := by
  cases isSign with
  | none =>
      cases rest with
      | nil => rfl
      | cons c others =>
          obtain ⟨notPlus, notMinus⟩ := unsigned c rfl
          unfold readSign
          split
          · rename_i same
            cases same
            exact absurd rfl notMinus
          · rename_i same
            cases same
            exact absurd rfl notPlus
          · rfl
  | plus | minus => rfl

theorem exists_of_readSign {negative : Bool} (signed : readSign cs = (negative, rest)) :
    ∃ sign, IsSign sign ∧ cs = sign ++ rest ∧ negative = isNegative sign := by
  unfold readSign at signed
  split at signed
  · cases signed
    exact ⟨['-'], .minus, rfl, rfl⟩
  · cases signed
    exact ⟨['+'], .plus, rfl, rfl⟩
  · cases signed
    exact ⟨[], .none, rfl, rfl⟩

end

end Playbook.Numeral
