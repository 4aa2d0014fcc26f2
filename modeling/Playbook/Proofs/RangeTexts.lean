import Playbook.Proofs.RangeSyntax

/-!
# Texts that are ranges

A text that is read as ranges has no other characters than those that numbers are written with,
the signs behind and between them, blanks and commas.
-/

namespace Playbook

namespace Range

open Numeral Text

/-- Characters of one range. -/
def isPart (c : Char) : Bool :=
  isDigit c || isBlank c || ['+', '-', '.', 'e', 'E'].contains c

theorem isPart_of_isBlank {c : Char} (blank : isBlank c = true) : isPart c = true := by
  simp [isPart, blank]

theorem isPart_of_isFigureChar {c : Char} (figureChar : IsFigureChar c) : isPart c = true := by
  rcases figureChar with digit | sign
  · simp [isPart, digit]
  · unfold isPart
    rw [List.contains_iff_mem.mpr sign, Bool.or_true]

theorem isPart_of_mem_chars (entry : Entry) : ∀ c ∈ entry.chars, isPart c = true := by
  have plus : isPart '+' = true := by decide
  have minus : isPart '-' = true := by decide
  have inBlanks (blanks : Blanks) : ∀ c ∈ blanks.chars, isPart c = true :=
    fun c member => isPart_of_isBlank (blanks.blank c member)
  have inFigure (n : Figure) : ∀ c ∈ n.chars, isPart c = true :=
    fun c member => isPart_of_isFigureChar (isFigureChar_of_mem_isDecimal n.isDecimal c member)
  unfold Entry.chars
  simp only [List.forall_mem_append]
  refine ⟨inBlanks _, ?_, inBlanks _⟩
  cases entry.item with
  | upward n blanks =>
      simp only [Item.chars, List.forall_mem_append, List.forall_mem_singleton]
      exact ⟨inFigure n, inBlanks blanks, plus⟩
  | downward n blanks =>
      simp only [Item.chars, List.forall_mem_append, List.forall_mem_singleton]
      exact ⟨inFigure n, inBlanks blanks, minus⟩
  | between low before after high =>
      simp only [Item.chars, List.forall_mem_append, List.forall_mem_cons]
      exact ⟨inFigure _, inBlanks before, minus, inBlanks after, inFigure _⟩
  | exactly n => exact inFigure n

/-- Every character of a text is a separator or stands in one of the pieces. -/
theorem eq_or_exists_mem_splitOnChar (separator : Char) {cs : List Char} {c : Char}
    (member : c ∈ cs) : c = separator ∨ ∃ piece ∈ splitOnChar separator cs, c ∈ piece := by
  induction cs with
  | nil => cases member
  | cons first rest ih =>
      unfold splitOnChar
      split
      · rename_i separates
        rcases List.mem_cons.mp member with rfl | later
        · exact .inl separates
        · obtain same | ⟨piece, pieceMember, within⟩ := ih later
          · exact .inl same
          · exact .inr ⟨piece, List.mem_cons_of_mem _ pieceMember, within⟩
      · cases split : splitOnChar separator rest with
        | nil => exact absurd split (splitOnChar_ne_nil separator rest)
        | cons piece pieces =>
            rw [split] at ih
            rcases List.mem_cons.mp member with rfl | later
            · exact .inr ⟨c :: piece, List.mem_cons_self, List.mem_cons_self⟩
            · obtain same | ⟨found, foundMember, within⟩ := ih later
              · exact .inl same
              · rcases List.mem_cons.mp foundMember with rfl | behind
                · exact .inr ⟨first :: found, List.mem_cons_self, List.mem_cons_of_mem _ within⟩
                · exact .inr ⟨found, List.mem_cons_of_mem _ behind, within⟩

/-- A text of ranges has no other characters than those of ranges and commas. -/
theorem isPart_of_parse {text : String} {ranges : List Range} (success : parse text = .ok ranges)
    {c : Char} (member : c ∈ text.toList) : isPart c = true ∨ c = ',' := by
  have read := Fallible.mapError_eq_ok_iff.mp success
  rcases entries_or_other (splitOnChar ',' text.toList) with
    ⟨entries, pieces⟩ | ⟨earlier, raw, later, pieces, other⟩
  · rcases eq_or_exists_mem_splitOnChar ',' member with same | ⟨piece, pieceMember, within⟩
    · exact .inr same
    · rw [pieces] at pieceMember
      obtain ⟨entry, _, rfl⟩ := List.mem_map.mp pieceMember
      exact .inl (isPart_of_mem_chars entry c within)
  · rw [pieces, readItems_eq_error other] at read
    cases read

end Range

end Playbook
