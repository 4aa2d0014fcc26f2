import Mathlib.Data.List.TakeWhile
import Playbook.Proofs.Fallible
import Playbook.Yaml.Supply

/-!
# Reading in portions

However the bytes of a text are cut into portions, the characters are those of the whole text.
Bytes that are no text in UTF-8 lead to a fault, whatever is read before it.
-/

namespace Playbook.Text

namespace Utf8

/-- The characters that bytes spell behind a character that is not complete. -/
inductive Decodes : Option (Pending × UInt8) → List UInt8 → List Char → Prop where
  | nil : Decodes none [] []
  | char {byte : UInt8} {rest : List UInt8} {c : Char} {cs : List Char} :
      start byte = .char c → Decodes none rest cs → Decodes none (byte :: rest) (c :: cs)
  | opens {byte : UInt8} {rest : List UInt8} {state : Pending} {cs : List Char} :
      start byte = .pending state → Decodes (some (state, byte)) rest cs →
      Decodes none (byte :: rest) cs
  | closes {state : Pending} {first byte : UInt8} {rest : List UInt8} {c : Char}
      {cs : List Char} :
      state.next byte = .char c → Decodes none rest cs →
      Decodes (some (state, first)) (byte :: rest) (c :: cs)
  | continues {state next : Pending} {first byte : UInt8} {rest : List UInt8}
      {cs : List Char} :
      state.next byte = .pending next → Decodes (some (next, first)) rest cs →
      Decodes (some (state, first)) (byte :: rest) cs

/-- The first bytes of a text can be decoded by themselves. -/
theorem Decodes.split {state : Option (Pending × UInt8)} {front back : List UInt8}
    {cs : List Char} (decodes : Decodes state (front ++ back) cs) (position : Nat) :
    ∃ early last late, decodePart position state front = .ok (early, last) ∧
      Decodes last back late ∧ cs = early ++ late := by
  induction front generalizing position state cs with
  | nil =>
      refine ⟨[], state, cs, ?_, decodes, rfl⟩
      cases state <;> rfl
  | cons byte front ih =>
      cases decodes with
      | char meaning rest =>
          obtain ⟨early, last, late, part, decodes, rfl⟩ := ih rest (position + 1)
          exact ⟨_ :: early, last, late, by simp [decodePart, meaning, part, Except.map],
            decodes, rfl⟩
      | opens meaning rest =>
          obtain ⟨early, last, late, part, decodes, rfl⟩ := ih rest (position + 1)
          exact ⟨early, last, late, by simp [decodePart, meaning, part], decodes, rfl⟩
      | closes meaning rest =>
          obtain ⟨early, last, late, part, decodes, rfl⟩ := ih rest (position + 1)
          exact ⟨_ :: early, last, late, by simp [decodePart, meaning, part, Except.map],
            decodes, rfl⟩
      | continues meaning rest =>
          obtain ⟨early, last, late, part, decodes, rfl⟩ := ih rest (position + 1)
          exact ⟨early, last, late, by simp [decodePart, meaning, part], decodes, rfl⟩

end Utf8

/-- Line ends are unified piece by piece, unless a piece ends within a line end. -/
theorem unifyLineEnds_append {front back : List Char}
    (apart : front.getLast? = some '\r' → back.head? ≠ some '\n') :
    unifyLineEnds (front ++ back) = unifyLineEnds front ++ unifyLineEnds back := by
  fun_induction unifyLineEnds front with
  | case1 => rfl
  | case2 rest ih =>
      have later : rest.getLast? = some '\r' → back.head? ≠ some '\n' := by
        intro last
        apply apart
        rw [List.getLast?_cons_cons, List.getLast?_cons, last]
        rfl
      change '\n' :: unifyLineEnds (rest ++ back) = _
      rw [ih later]
      rfl
  | case3 rest alone ih =>
      have later : rest.getLast? = some '\r' → back.head? ≠ some '\n' := by
        intro last
        apply apart
        rw [List.getLast?_cons, last]
        rfl
      have noFeed : ∀ tail, rest ++ back ≠ '\n' :: tail := by
        intro tail same
        cases rest with
        | nil =>
            rw [List.nil_append] at same
            exact apart rfl (by rw [same]; rfl)
        | cons c rest =>
            injection same with here
            exact alone rest (by rw [here])
      rw [List.cons_append, unifyLineEnds.eq_3 _ noFeed, ih later]
      rfl
  | case4 c rest notPair notReturn ih =>
      have later : rest.getLast? = some '\r' → back.head? ≠ some '\n' := by
        intro last
        apply apart
        rw [List.getLast?_cons, last]
        rfl
      rw [List.cons_append, unifyLineEnds.eq_4, ih later]
      · rfl
      · intro tail isReturn
        exact absurd isReturn notReturn
      · exact notReturn

namespace Reader

/-- All characters that a reader still hands out, given those that its bytes spell. -/
def whole (reader : Reader) (raw : List Char) : List Char :=
  reader.ready ++ unifyLineEnds (waiting reader.held ++ raw)

theorem hold_eq (cs : List Char) : (hold cs).1 ++ waiting (hold cs).2 = cs := by
  unfold hold
  split
  · rename_i last
    obtain ⟨front, rfl⟩ := List.getLast?_eq_some_iff.mp last
    simp [waiting]
  · simp [waiting]

theorem not_held_of_hold {cs : List Char} (notHeld : (hold cs).2 = false) :
    (hold cs).1.getLast? ≠ some '\r' := by
  unfold hold at notHeld ⊢
  split at notHeld
  · cases notHeld
  · rename_i other
    rw [if_neg other]
    exact other

/-- What waits goes in front of what follows it, and nothing else depends on it. -/
theorem unifyLineEnds_hold (cs later : List Char) :
    unifyLineEnds (hold cs).1 ++ unifyLineEnds (waiting (hold cs).2 ++ later) =
      unifyLineEnds (cs ++ later) := by
  rw [← unifyLineEnds_append, ← List.append_assoc, hold_eq]
  intro last
  cases held : (hold cs).2 with
  | true => simp [waiting]
  | false => exact absurd last (not_held_of_hold held)

variable {reader : Reader}

theorem decodePortion_of_decodes {pending : Option (Utf8.Pending × UInt8)}
    {portion back : List UInt8} {raw : List Char}
    (decodes : Utf8.Decodes pending (portion ++ back) raw)
    (taken : portion = [] → back = []) :
    ∃ early last late, decodePortion pending portion = .ok (early, last) ∧
      Utf8.Decodes last back late ∧ raw = early ++ late := by
  obtain ⟨early, last, late, part, rest, rfl⟩ := decodes.split (Utf8.openBytes pending)
  refine ⟨early, last, late, ?_, rest, rfl⟩
  unfold decodePortion
  split
  · rw [taken rfl] at decodes
    cases decodes
  · rw [part]

theorem leastPortion_le_portionSize (reader : Reader) (asked : Nat) :
    leastPortion ≤ reader.portionSize asked := Nat.le_max_left ..

theorem take_portionSize_eq_nil {asked : Nat}
    (nothing : reader.rest.take (reader.portionSize asked) = []) : reader.rest = [] := by
  have positive : 0 < leastPortion := by decide
  have least := reader.leastPortion_le_portionSize asked
  rcases List.take_eq_nil_iff.mp nothing with zero | empty
  · omega
  · exact empty

theorem fill_eq_ok_iff {asked : Nat} {next : Reader} :
    reader.fill asked = .ok next ↔ ∃ decoded pending,
      decodePortion reader.pending (reader.rest.take (reader.portionSize asked)) =
        .ok (decoded, pending) ∧
      next = reader.behind (reader.rest.take (reader.portionSize asked)) decoded pending := by
  constructor
  · intro success
    obtain ⟨⟨decoded, pending⟩, decodes, same⟩ := Fallible.bind_eq_ok_iff.mp success
    exact ⟨decoded, pending, decodes, (Except.ok.inj same).symm⟩
  · intro ⟨decoded, pending, decodes, same⟩
    exact Fallible.bind_eq_ok_iff.mpr ⟨(decoded, pending), decodes, congrArg _ same.symm⟩

theorem rest_behind (reader : Reader) (size : Nat) (decoded : List Char)
    (pending : Option (Utf8.Pending × UInt8)) :
    (reader.behind (reader.rest.take size) decoded pending).rest = reader.rest.drop size := by
  change reader.rest.drop (reader.rest.take size).length = _
  simp

/-- A portion hands out the first of the characters that are to come. -/
theorem whole_behind {portion : List UInt8} {decoded later : List Char}
    (ends : portion = [] → later = []) (pending : Option (Utf8.Pending × UInt8)) :
    (reader.behind portion decoded pending).whole later = reader.whole (decoded ++ later) := by
  unfold whole behind
  dsimp only
  cases portion with
  | nil => simp [ends rfl, waiting, unifyLineEnds]
  | cons byte rest =>
      rw [List.isEmpty_cons, if_neg Bool.false_ne_true, List.append_assoc, unifyLineEnds_hold,
        List.append_assoc]

theorem eq_nil_of_decodes_nil {pending : Option (Utf8.Pending × UInt8)} {raw : List Char}
    (decodes : Utf8.Decodes pending [] raw) : pending = none ∧ raw = [] := by
  cases decodes
  exact ⟨rfl, rfl⟩

/-- The next portion of a text can be decoded, and leaves the characters as they are. -/
theorem exists_fill (reader : Reader) {raw : List Char}
    (decodes : Utf8.Decodes reader.pending reader.rest raw) (asked : Nat) :
    ∃ next later, reader.fill asked = .ok next ∧
      Utf8.Decodes next.pending next.rest later ∧ next.whole later = reader.whole raw ∧
      next.rest.length ≤ reader.rest.length - 1 ∧ (reader.rest = [] → next.ended = true) := by
  have parts := List.take_append_drop (reader.portionSize asked) reader.rest
  have positive : 0 < leastPortion := by decide
  have least := reader.leastPortion_le_portionSize asked
  have ends : reader.rest.take (reader.portionSize asked) = [] →
      reader.rest.drop (reader.portionSize asked) = [] := by
    intro nothing
    rw [take_portionSize_eq_nil nothing, List.drop_nil]
  have whole := decodes
  rw [← parts] at whole
  obtain ⟨early, last, late, decoded, rest, rfl⟩ := decodePortion_of_decodes whole ends
  refine ⟨_, late, fill_eq_ok_iff.mpr ⟨early, last, decoded, rfl⟩, ?_, ?_, ?_, ?_⟩
  · rw [rest_behind]
    exact rest
  · apply whole_behind
    intro nothing
    rw [ends nothing] at rest
    exact (eq_nil_of_decodes_nil rest).2
  · rw [rest_behind, List.length_drop]
    omega
  · intro empty
    rw [empty, List.drop_nil] at rest
    obtain ⟨rfl, _⟩ := eq_nil_of_decodes_nil rest
    simp [behind, ended, empty]

/-- Characters that a reader can hand out at most. -/
def left (reader : Reader) : Nat :=
  reader.ready.length + reader.rest.length + reader.pending.toList.length +
    (waiting reader.held).length

end Reader

end Playbook.Text

namespace Playbook.Yaml

open Playbook.Text

namespace Supply

end Supply

end Playbook.Yaml
