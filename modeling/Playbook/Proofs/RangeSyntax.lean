import Playbook.Proofs.Fallible
import Playbook.Proofs.NumeralSyntax

/-!
# How ranges are written

Ranges are items with commas between them.  A dash is a sign, the sign of an exponent, the end of an
item or the middle of one, but no item can be read in two ways: what an item is written for is what
it is read as, and a text that is no item is refused.
-/

namespace Playbook

namespace Range

open Numeral Text

/-! ## Bounds -/

section Bounds

variable {cs after : List Char}

/-- A plain number is read as far as it goes, with an exponent behind it or as a bound. -/
theorem exists_decimal_of_isPlain {text : List Char} (plain : IsPlain text) :
    ∃ decimal : Int → Decimal, ∀ after, Stops after → (∀ rest, after ≠ '.' :: rest) →
      readDecimal (text ++ after) = (readExponent after).map decimal ∧
        readBound (text ++ after) = some ((decimal 0).toBinary64, after) := by
  cases plain with
  | @whole sign digits isSign nonempty all =>
      refine ⟨fun e => ⟨isNegative sign, values digits, [], e⟩, ?_⟩
      intro after stops noPoint
      rw [List.append_assoc]
      refine ⟨readDecimal_whole isSign nonempty all stops noPoint, ?_⟩
      have some_ : values digits ≠ [] := mt (values_eq_nil_iff all).mp nonempty
      unfold readBound
      rw [readSign_append isSign (unsigned_of_isDigit nonempty all)]
      dsimp only
      rw [spanDigits_append all stops]
      split
      · rename_i same
        exact absurd (Prod.mk.inj same).1 some_
      · rename_i same
        exact absurd (Prod.mk.inj same).2 (noPoint _)
      · rename_i same
        cases same
        rfl
  | @pointed sign digits fraction isSign nonempty all fractionNonempty fractionAll =>
      refine ⟨fun e => ⟨isNegative sign, values digits, values fraction, e⟩, ?_⟩
      intro after stops noPoint
      rw [List.append_assoc, List.append_assoc, List.cons_append]
      refine ⟨readDecimal_pointed isSign nonempty all fractionAll stops, ?_⟩
      have some_ : values digits ≠ [] := mt (values_eq_nil_iff all).mp nonempty
      have fractionSome : values fraction ≠ [] :=
        mt (values_eq_nil_iff fractionAll).mp fractionNonempty
      have point : Stops ('.' :: (fraction ++ after)) := .cons rfl
      unfold readBound
      rw [readSign_append isSign (unsigned_of_isDigit nonempty all)]
      dsimp only
      rw [spanDigits_append all point]
      split
      · rename_i same
        exact absurd (Prod.mk.inj same).1 some_
      · rename_i same
        cases same
        rw [spanDigits_append fractionAll stops]
        split
        · rename_i same
          exact absurd (Prod.mk.inj same).1 fractionSome
        · rename_i same
          cases same
          rfl
      · rename_i other same
        cases same
        exact absurd rfl (other _)

theorem exists_of_readBound {x : Binary64} (success : readBound cs = some (x, after)) :
    ∃ text, cs = text ++ after ∧ IsPlain text := by
  cases signed : readSign cs with
  | mk negative body =>
      obtain ⟨sign, isSign, rfl, _⟩ := exists_of_readSign signed
      unfold readBound at success
      rw [signed] at success
      dsimp only at success
      split at success
      · cases success
      · rename_i nonempty whole
        obtain ⟨digits, rfl, all, rfl, _⟩ := exists_of_spanDigits whole
        have some_ : digits ≠ [] := by
          rintro rfl
          exact nonempty rfl
        split at success
        · cases success
          exact ⟨sign ++ digits, by simp, .whole isSign some_ all⟩
        · rename_i fractionNonempty span
          obtain ⟨fraction, rfl, fractionAll, rfl, _⟩ := exists_of_spanDigits span
          have fractionSome : fraction ≠ [] := by
            rintro rfl
            exact fractionNonempty rfl
          cases success
          exact ⟨sign ++ (digits ++ '.' :: fraction), by simp,
            .pointed isSign some_ all fractionSome fractionAll⟩
      · rename_i nonempty _ whole
        obtain ⟨digits, rfl, all, rfl, _⟩ := exists_of_spanDigits whole
        have some_ : digits ≠ [] := by
          rintro rfl
          exact nonempty rfl
        cases success
        exact ⟨sign ++ digits, by simp, .whole isSign some_ all⟩

end Bounds

/-! ## Figures -/

/-- A number as it is written. -/
structure Figure where
  chars : List Char
  isDecimal : IsDecimal chars

/-- A number without an exponent and with digits on both sides of its point. -/
structure Bound extends Figure where
  isPlain : IsPlain chars

theorem isDecimal_of_isPlain {cs : List Char} (plain : IsPlain cs) : IsDecimal cs := by
  obtain ⟨decimal, reads⟩ := exists_decimal_of_isPlain plain
  have whole := (reads [] .nil nofun).1
  rw [List.append_nil] at whole
  rw [← isSome_readDecimal_iff, whole]
  rfl

namespace Figure

theorem trimmed (figure : Figure) : Trimmed figure.chars :=
  trimmed_of_isDecimal figure.isDecimal

theorem nonempty (figure : Figure) : figure.chars ≠ [] := figure.isDecimal.unsigned.1

theorem isSome_ofText? (figure : Figure) : (ofText? figure.chars).isSome = true := by
  rw [isSome_ofText?_iff, figure.trimmed.trim_self]
  exact figure.isDecimal

/-- The number that a figure is read as. -/
def value (figure : Figure) : Binary64 := (ofText? figure.chars).get figure.isSome_ofText?

theorem ofText?_eq (figure : Figure) : ofText? figure.chars = some figure.value :=
  (Option.some_get _).symm

theorem ofText?_append (figure : Figure) (blanks : Blanks) :
    ofText? (figure.chars ++ blanks.chars) = some figure.value := by
  have trims := figure.trimmed.trim_eq .none blanks
  rw [Blanks.none, List.nil_append] at trims
  rw [← figure.ofText?_eq, ofText?, ofText?, trims, figure.trimmed.trim_self]

end Figure

/-- What is read as a bound, with what follows it. -/
theorem Bound.readBound_append (bound : Bound) {after : List Char} (stops : Stops after)
    (noPoint : ∀ rest, after ≠ '.' :: rest) :
    readBound (bound.chars ++ after) = some (bound.value, after) := by
  obtain ⟨decimal, reads⟩ := exists_decimal_of_isPlain bound.isPlain
  have alone := (reads [] .nil nofun).1
  rw [List.append_nil] at alone
  have value : ofText? bound.chars = some (decimal 0).toBinary64 := by
    unfold ofText?
    rw [bound.trimmed.trim_self, alone]
    rfl
  rw [bound.ofText?_eq, Option.some_inj] at value
  rw [(reads after stops noPoint).2, value]

/-! ## Items -/

/-- A range as it is written. -/
inductive Item where
  /-- From a number up: `n+`. -/
  | upward (n : Figure) (blanks : Blanks)
  /-- Down from a number: `n-`. -/
  | downward (n : Figure) (blanks : Blanks)
  /-- Between two numbers: `l-h`. -/
  | between (low : Bound) (before after : Blanks) (high : Bound)
  /-- A number alone. -/
  | exactly (n : Figure)

namespace Item

def chars : Item → List Char
  | upward n blanks => n.chars ++ (blanks.chars ++ ['+'])
  | downward n blanks => n.chars ++ (blanks.chars ++ ['-'])
  | between low before after high =>
      low.chars ++ (before.chars ++ '-' :: (after.chars ++ high.chars))
  | exactly n => n.chars

/-- The range that an item is written for. -/
def range : Item → Range
  | upward n _ => ⟨n.value, .infinite false⟩
  | downward n _ => ⟨.infinite true, n.value⟩
  | between low _ _ high => ⟨low.value, high.value⟩
  | exactly n => ⟨n.value, n.value⟩

end Item

section Reading

variable {cs : List Char}

theorem readBefore_concat (final : Char) (front : List Char) :
    readBefore final (front ++ [final]) = ofText? front := by
  simp [readBefore]

theorem exists_of_readBefore {final : Char} {x : Binary64}
    (success : readBefore final cs = some x) :
    ∃ front, cs = front ++ [final] ∧ ofText? front = some x := by
  unfold readBefore at success
  split at success
  · rename_i c last
    split at success
    · rename_i same
      subst same
      exact ⟨cs.dropLast, (List.dropLast_append_getLast? c last).symm, success⟩
    · cases success
  · cases success

theorem readBefore_eq_none {final : Char} (other : ∀ c ∈ cs.getLast?, c ≠ final) :
    readBefore final cs = none := by
  cases read : readBefore final cs with
  | none => rfl
  | some x =>
      obtain ⟨front, rfl, _⟩ := exists_of_readBefore read
      exact absurd rfl (other final List.getLast?_concat)

theorem stops_of_blank_or_dash (blanks : Blanks) (rest : List Char) :
    Stops (blanks.chars ++ '-' :: rest) ∧
      (∀ other, blanks.chars ++ '-' :: rest ≠ '.' :: other) ∧
      readExponent (blanks.chars ++ '-' :: rest) = none := by
  cases shape : blanks.chars with
  | nil => exact ⟨.cons rfl, nofun, rfl⟩
  | cons c others =>
      have blank := blanks.blank c (by simp [shape])
      have notMark : ¬(c = 'e' ∨ c = 'E') := by
        rintro (rfl | rfl) <;> cases blank
      refine ⟨.cons ?_, ?_, ?_⟩
      · cases digit : isDigit c with
        | false => rfl
        | true =>
            rw [isBlank_eq_false_of_isDigit digit] at blank
            cases blank
      · intro other same
        cases same
        cases blank
      · rw [List.cons_append, readExponent]
        simp [notMark]

/-- What is written between two bounds is read from the first of them on. -/
theorem readBetween_append (low : Bound) (blanks : Blanks) (rest : List Char) :
    readBetween (low.chars ++ (blanks.chars ++ '-' :: rest)) =
      (readBound (rest.dropWhile isBlank)).bind fun (high, after) =>
        if after.isEmpty then some ⟨low.value, high⟩ else none := by
  obtain ⟨stops, noPoint, _⟩ := stops_of_blank_or_dash blanks rest
  have dash : (blanks.chars ++ '-' :: rest).dropWhile isBlank = '-' :: rest := by
    apply dropWhile_append_of_stop blanks.blank
    intro c same
    cases same
    rfl
  unfold readBetween
  rw [low.readBound_append stops noPoint]
  simp only [Option.bind_eq_bind, Option.bind_some, dash]

theorem exists_of_readBetween {range : Range} (read : readBetween cs = some range) :
    ∃ low before after high, cs = (Item.between low before after high).chars := by
  obtain ⟨⟨low, afterLow⟩, lowRead, success⟩ := Option.bind_eq_some_iff.mp read
  obtain ⟨lowText, rfl, lowPlain⟩ := exists_of_readBound lowRead
  dsimp only at success
  have blankBefore : ∀ c ∈ afterLow.takeWhile isBlank, isBlank c = true :=
    fun c member => List.all_eq_true.mp List.all_takeWhile c member
  split at success
  · rename_i rest dash
    obtain ⟨⟨high, afterHigh⟩, highRead, success⟩ := Option.bind_eq_some_iff.mp success
    obtain ⟨highText, highSplit, highPlain⟩ := exists_of_readBound highRead
    have blankAfter : ∀ c ∈ rest.takeWhile isBlank, isBlank c = true :=
      fun c member => List.all_eq_true.mp List.all_takeWhile c member
    dsimp only at success
    split at success
    · rename_i empty
      rw [List.isEmpty_iff.mp empty, List.append_nil] at highSplit
      refine ⟨⟨⟨lowText, isDecimal_of_isPlain lowPlain⟩, lowPlain⟩, ⟨_, blankBefore⟩,
        ⟨_, blankAfter⟩, ⟨⟨highText, isDecimal_of_isPlain highPlain⟩, highPlain⟩, ?_⟩
      subst highSplit
      change lowText ++ afterLow = lowText ++ (afterLow.takeWhile isBlank ++
        '-' :: (rest.takeWhile isBlank ++ rest.dropWhile isBlank))
      rw [List.takeWhile_append_dropWhile, ← dash, List.takeWhile_append_dropWhile]
    · cases success
  · cases success

/-- No number has a dash behind a bound, so none is read as two numbers. -/
theorem readBetween_figure (figure : Figure) : readBetween figure.chars = none := by
  cases read : readBetween figure.chars with
  | none => rfl
  | some range =>
      obtain ⟨low, before, after, high, same⟩ := exists_of_readBetween read
      obtain ⟨stops, noPoint, noExponent⟩ :=
        stops_of_blank_or_dash before (after.chars ++ high.chars)
      obtain ⟨decimal, reads⟩ := exists_decimal_of_isPlain low.isPlain
      have unread := (reads _ stops noPoint).1
      have decimalRead := isSome_readDecimal_iff.mpr figure.isDecimal
      rw [same, Item.chars, unread, noExponent] at decimalRead
      cases decimalRead

theorem readItem_chars (item : Item) : readItem item.chars = some item.range := by
  unfold readItem
  cases item with
  | upward n blanks =>
      have last : readBefore '+' (n.chars ++ (blanks.chars ++ ['+'])) = some n.value := by
        rw [← List.append_assoc, readBefore_concat, n.ofText?_append]
      rw [Item.chars, last]
      rfl
  | downward n blanks =>
      have notPlus : readBefore '+' (n.chars ++ (blanks.chars ++ ['-'])) = none := by
        apply readBefore_eq_none
        simp
      have last : readBefore '-' (n.chars ++ (blanks.chars ++ ['-'])) = some n.value := by
        rw [← List.append_assoc, readBefore_concat, n.ofText?_append]
      rw [Item.chars, notPlus, last]
      rfl
  | between low before after high =>
      have highUnsigned : Unsigned high.chars := high.isDecimal.unsigned.2
      have unsigned : Unsigned (Item.between low before after high).chars := by
        rw [Item.chars, ← List.cons_append, ← List.append_assoc, ← List.append_assoc]
        exact .append high.nonempty highUnsigned
      have notPlus := readBefore_eq_none fun c last => (unsigned c last).1
      have notMinus := readBefore_eq_none fun c last => (unsigned c last).2
      have read : readBetween (Item.between low before after high).chars =
          some ⟨low.value, high.value⟩ := by
        have highStart : (after.chars ++ high.chars).dropWhile isBlank = high.chars :=
          dropWhile_append_of_stop after.blank high.trimmed.head
        have highRead := high.readBound_append .nil nofun
        rw [List.append_nil] at highRead
        rw [Item.chars, readBetween_append, highStart, highRead]
        rfl
      rw [notPlus, notMinus, read]
      rfl
  | exactly n =>
      have unsigned : Unsigned n.chars := n.isDecimal.unsigned.2
      have notPlus := readBefore_eq_none fun c last => (unsigned c last).1
      have notMinus := readBefore_eq_none fun c last => (unsigned c last).2
      rw [Item.chars, notPlus, notMinus, readBetween_figure, n.ofText?_eq]
      rfl

/-- Nothing but items is read. -/
theorem exists_item_of_readItem {range : Range} (trimmed : Trimmed cs)
    (success : readItem cs = some range) : ∃ item : Item, cs = item.chars := by
  have signed {final : Char} {x : Binary64} (read : readBefore final cs = some x) :
      ∃ (n : Figure) (blanks : Blanks), cs = n.chars ++ (blanks.chars ++ [final]) := by
    obtain ⟨front, rfl, number⟩ := exists_of_readBefore read
    obtain ⟨before, after, split⟩ := exists_blanks front
    have decimal : IsDecimal (trim front) := isSome_ofText?_iff.mp (by rw [number]; rfl)
    -- The text has no blank in front, so neither has its first part.
    have start : before.chars = [] := by
      cases shape : before.chars with
      | nil => rfl
      | cons c rest =>
          have blank := before.blank c (by simp [shape])
          have notBlank := trimmed.head c (by rw [split, shape]; rfl)
          rw [blank] at notBlank
          cases notBlank
    rw [start, List.nil_append] at split
    refine ⟨⟨trim front, decimal⟩, after, ?_⟩
    rw [← List.append_assoc, ← split]
  unfold readItem at success
  simp only [Option.or_eq_some_iff, Option.map_eq_some_iff] at success
  rcases success with ((⟨low, read, _⟩ | ⟨_, high, read, _⟩) | ⟨_, read⟩) | ⟨_, number, read, _⟩
  · obtain ⟨n, blanks, same⟩ := signed read
    exact ⟨.upward n blanks, same⟩
  · obtain ⟨n, blanks, same⟩ := signed read
    exact ⟨.downward n blanks, same⟩
  · obtain ⟨low, before, after, high, same⟩ := exists_of_readBetween read
    exact ⟨.between low before after high, same⟩
  · have decimal : IsDecimal (trim cs) := isSome_ofText?_iff.mp (by rw [read]; rfl)
    rw [trimmed.trim_self] at decimal
    exact ⟨.exactly ⟨cs, decimal⟩, rfl⟩

end Reading

/-! ## Texts -/

/-- An item with blanks around it. -/
structure Entry where
  before : Blanks
  item : Item
  after : Blanks

namespace Entry

def chars (entry : Entry) : List Char :=
  entry.before.chars ++ (entry.item.chars ++ entry.after.chars)

/-- The range that an entry is written for. -/
def range (entry : Entry) : Range := entry.item.range

end Entry

/-- Entries with commas between them. -/
def written (entries : List Entry) : String :=
  String.ofList ([','].intercalate (entries.map Entry.chars))

section Entries

theorem trimmed_chars (item : Item) : Trimmed item.chars := by
  have plus : Trimmed ['+'] := .of_forall (List.forall_mem_singleton.mpr (by decide))
  have minus : Trimmed ['-'] := .of_forall (List.forall_mem_singleton.mpr (by decide))
  cases item with
  | upward n blanks =>
      exact n.trimmed.append n.nonempty (by simp) plus blanks.chars
  | downward n blanks =>
      exact n.trimmed.append n.nonempty (by simp) minus blanks.chars
  | between low before after high =>
      rw [Item.chars, ← List.cons_append, ← List.append_assoc before.chars]
      exact low.trimmed.append low.nonempty high.nonempty high.trimmed _
  | exactly n => exact n.trimmed

theorem comma_not_mem_chars (entry : Entry) : ',' ∉ entry.chars := by
  have inBlanks (blanks : Blanks) : ',' ∉ blanks.chars := by
    intro member
    have blank := blanks.blank _ member
    cases blank
  have inFigure (n : Figure) : ',' ∉ n.chars := by
    intro member
    rcases isFigureChar_of_mem_isDecimal n.isDecimal _ member with digit | sign
    · cases digit
    · simp at sign
  unfold Entry.chars
  cases entry.item <;> simp [Item.chars, inBlanks, inFigure]

theorem trim_entry (entry : Entry) : trim entry.chars = entry.item.chars :=
  (trimmed_chars entry.item).trim_eq entry.before entry.after

/-- A piece of a text is read if and only if it is an entry. -/
theorem exists_entry_iff {raw : List Char} :
    (∃ range, readItem (trim raw) = some range) ↔ ∃ entry : Entry, raw = entry.chars := by
  constructor
  · rintro ⟨range, success⟩
    obtain ⟨item, same⟩ := exists_item_of_readItem (trimmed_trim raw) success
    obtain ⟨before, after, split⟩ := exists_blanks raw
    rw [same] at split
    exact ⟨⟨before, item, after⟩, split⟩
  · rintro ⟨entry, rfl⟩
    rw [trim_entry]
    exact ⟨_, readItem_chars entry.item⟩

theorem readItems_map_chars (entries : List Entry) (rest : List (List Char)) :
    readItems (entries.map Entry.chars ++ rest) = do
      let ranges ← readItems rest
      return entries.map Entry.range ++ ranges := by
  induction entries with
  | nil =>
      change readItems rest = _
      cases readItems rest <;> rfl
  | cons entry others ih =>
      rw [List.map_cons, List.cons_append, readItems, trim_entry, readItem_chars]
      dsimp only
      rw [ih]
      cases readItems rest <;> rfl

theorem readItems_eq_error {earlier : List Entry} {raw : List Char} {later : List (List Char)}
    (other : ∀ entry : Entry, raw ≠ entry.chars) :
    readItems (earlier.map Entry.chars ++ raw :: later) = .error (trim raw) := by
  have unread : readItem (trim raw) = none := by
    rw [Option.eq_none_iff_forall_ne_some]
    intro range read
    obtain ⟨entry, same⟩ := exists_entry_iff.mp ⟨range, read⟩
    exact other entry same
  rw [readItems_map_chars, readItems, unread]
  rfl

/-- Pieces are entries up to the first one that is not. -/
theorem entries_or_other (pieces : List (List Char)) :
    (∃ entries : List Entry, pieces = entries.map Entry.chars) ∨
      ∃ (earlier : List Entry) (raw : List Char) (later : List (List Char)),
        pieces = earlier.map Entry.chars ++ raw :: later ∧ ∀ entry : Entry, raw ≠ entry.chars := by
  induction pieces with
  | nil => exact .inl ⟨[], rfl⟩
  | cons piece rest ih =>
      by_cases isEntry : ∃ entry : Entry, piece = entry.chars
      · obtain ⟨entry, rfl⟩ := isEntry
        rcases ih with ⟨entries, rfl⟩ | ⟨earlier, raw, later, rfl, other⟩
        · exact .inl ⟨entry :: entries, rfl⟩
        · exact .inr ⟨entry :: earlier, raw, later, rfl, other⟩
      · exact .inr ⟨[], piece, rest, rfl, fun entry same => isEntry ⟨entry, same⟩⟩

theorem splitOnChar_written (first : Entry) (rest : List Entry) :
    splitOnChar ',' (written (first :: rest)).toList = (first :: rest).map Entry.chars := by
  rw [written, String.toList_ofList]
  induction rest generalizing first with
  | nil =>
      have alone : [','].intercalate ([first].map Entry.chars) = first.chars := by
        simp [List.intercalate]
      rw [alone, splitOnChar_of_not_mem (comma_not_mem_chars first)]
      rfl
  | cons second others ih =>
      have more : [','].intercalate ((first :: second :: others).map Entry.chars) =
          first.chars ++ ',' :: [','].intercalate ((second :: others).map Entry.chars) := by
        simp [List.intercalate]
      rw [more, splitOnChar_append (comma_not_mem_chars first), ih second]
      rfl

theorem anyOf_eq_ok_true_iff {test : Range → Bool} {text : String} :
    anyOf test text = .ok true ↔
      ∃ ranges, parse text = .ok ranges ∧ ∃ range ∈ ranges, test range = true := by
  unfold anyOf
  cases parse text <;> simp

theorem anyOf_eq_error_iff {test : Range → Bool} {text : String} {fault : Fault} :
    anyOf test text = .error fault ↔
      ∃ message, parse text = .error message ∧ fault = .assertion message := by
  unfold anyOf
  cases parse text <;> simp [eq_comm]

end Entries

/-- Ranges are read as they are written, and nothing else is read.  Each number in them is what its
text is read as; a text that is not a list of entries fails with its first piece that is none; and a
number lies in the ranges of a text if it lies between the ends of one of them, a malformed text
being a failed assertion. -/
theorem parse_exactly_written :
    (∀ figure : Figure,
      (Value.text (String.ofList figure.chars)).asNumber = .ok (some figure.value)) ∧
    (∀ first rest, parse (written (first :: rest)) = .ok ((first :: rest).map Entry.range)) ∧
    (∀ text, (∃ first rest, text = written (first :: rest)) ∨
      ∃ (earlier : List Entry) (raw : List Char) (later : List (List Char)),
        splitOnChar ',' text.toList = earlier.map Entry.chars ++ raw :: later ∧
          (∀ entry : Entry, raw ≠ entry.chars) ∧
          parse text = .error (faultMessage (trim raw) text)) ∧
    (∀ x text,
      (anyContains x text = .ok true ↔ ∃ ranges, parse text = .ok ranges ∧
        ∃ range ∈ ranges, range.low.le x = true ∧ x.le range.high = true) ∧
      ∀ fault, anyContains x text = .error fault ↔
        ∃ message, parse text = .error message ∧ fault = .assertion message) ∧
    (∀ n text,
      (anyContainsInt n text = .ok true ↔ ∃ ranges, parse text = .ok ranges ∧
        ∃ range ∈ ranges, range.low.leInt n = true ∧ Binary64.intLe n range.high = true) ∧
      ∀ fault, anyContainsInt n text = .error fault ↔
        ∃ message, parse text = .error message ∧ fault = .assertion message) := by
  refine ⟨?figures, ?entries, ?others, ?numbers, ?integers⟩
  case figures =>
    intro figure
    rw [Value.asNumber, String.toList_ofList, figure.ofText?_eq]
  case entries =>
    intro first rest
    have reads := readItems_map_chars (first :: rest) []
    rw [List.append_nil, ← splitOnChar_written] at reads
    unfold parse
    rw [reads, readItems, Fallible.ok_bind, List.append_nil]
    rfl
  case others =>
    intro text
    rcases entries_or_other (splitOnChar ',' text.toList) with
      ⟨entries, pieces⟩ | ⟨earlier, raw, later, pieces, other⟩
    · left
      have text_ := intercalate_splitOnChar ',' text.toList
      rw [pieces] at text_
      cases entries with
      | nil => exact absurd pieces (splitOnChar_ne_nil ',' text.toList)
      | cons first rest =>
          refine ⟨first, rest, ?_⟩
          rw [written, text_, String.ofList_toList]
    · right
      refine ⟨earlier, raw, later, pieces, other, ?_⟩
      unfold parse
      rw [pieces, readItems_eq_error other]
      rfl
  case numbers =>
    intro x text
    refine ⟨?_, fun fault => anyOf_eq_error_iff⟩
    unfold anyContains
    simp only [anyOf_eq_ok_true_iff, contains, Bool.and_eq_true]
  case integers =>
    intro n text
    refine ⟨?_, fun fault => anyOf_eq_error_iff⟩
    unfold anyContainsInt
    simp only [anyOf_eq_ok_true_iff, containsInt, Bool.and_eq_true]

end Range

end Playbook
