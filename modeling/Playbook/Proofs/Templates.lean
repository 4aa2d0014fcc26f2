import Mathlib.Data.List.TakeWhile
import Playbook.Proofs.References

/-!
# Templates are filled exactly

A template is laid out as literals with placeholders between them.  Reading it from the left finds
these placeholders and no others: a match that began inside a literal and went on into the next
placeholder would hold a brace behind its first two characters.  So filling a template replaces its
placeholders by values, which are not read again, and leaves its literals as they are.
-/

namespace Playbook

namespace Template

open Text

/-- A placeholder as it is written: a key between doubled braces, with blanks around it. -/
structure Slot where
  before : List Char
  key : List Char
  after : List Char
  blankBefore : ∀ c ∈ before, isBlank c = true
  blankAfter : ∀ c ∈ after, isBlank c = true
  keyChars : ∀ c ∈ key, isKeyChar c = true
  nonempty : key ≠ []

namespace Slot

def name (slot : Slot) : String := String.ofList slot.key

/-- What follows the opening braces. -/
def body (slot : Slot) : List Char := slot.before ++ (slot.key ++ (slot.after ++ ['\x7d', '\x7d']))

def written (slot : Slot) : List Char := '\x7b' :: '\x7b' :: slot.body

theorem openingBrace_not_mem_body (slot : Slot) : '\x7b' ∉ slot.body := by
  have notBlank : isBlank '\x7b' = false := by decide
  have notKey : isKeyChar '\x7b' = false := by decide
  intro member
  rcases List.mem_append.mp member with before | member
  · rw [slot.blankBefore _ before] at notBlank
    cases notBlank
  · rcases List.mem_append.mp member with key | member
    · rw [slot.keyChars _ key] at notKey
      cases notKey
    · rcases List.mem_append.mp member with after | closing
      · rw [slot.blankAfter _ after] at notBlank
        cases notBlank
      · simp at closing

theorem body_append_ne_cons (slot : Slot) (rest others : List Char) :
    slot.body ++ rest ≠ '\x7b' :: others := by
  have nonempty : slot.body ≠ [] := by simp [body]
  obtain ⟨c, later, shape⟩ := List.exists_cons_of_ne_nil nonempty
  intro opens
  rw [shape] at opens
  obtain ⟨same, _⟩ := List.cons_eq_cons.mp opens
  apply slot.openingBrace_not_mem_body
  rw [shape, same]
  exact List.mem_cons_self

/-- Behind its first character a placeholder has one opening brace, which comes next. -/
theorem eq_body_of_written_eq {slot : Slot} {first : Char} {back inside : List Char}
    (split : slot.written = first :: back ++ '\x7b' :: inside) : inside = slot.body := by
  obtain ⟨_, tail⟩ := List.cons_eq_cons.mp split
  cases back with
  | nil =>
      obtain ⟨_, same⟩ := List.cons_eq_cons.mp tail
      exact same.symm
  | cons second back =>
      obtain ⟨_, same⟩ := List.cons_eq_cons.mp tail
      exfalso
      apply slot.openingBrace_not_mem_body
      rw [same]
      exact List.mem_append_right _ List.mem_cons_self

end Slot

theorem isBlank_eq_false_of_isKeyChar {c : Char} (keyChar : isKeyChar c = true) :
    isBlank c = false := by
  unfold isKeyChar at keyChar
  cases blank : isBlank c with
  | true => simp [blank] at keyChar
  | false => rfl

theorem isKeyChar_eq_false_of_isBlank {c : Char} (blank : isBlank c = true) :
    isKeyChar c = false := by
  simp [isKeyChar, blank]

theorem placeholder?_written (slot : Slot) (rest : List Char) :
    placeholder? (slot.written ++ rest) = some (slot.key, slot.written.length) := by
  have keyStops : ∀ c ∈ (slot.key ++ (slot.after ++ '\x7d' :: '\x7d' :: rest)).head?,
      isBlank c = false := by
    obtain ⟨first, others, shape⟩ := List.exists_cons_of_ne_nil slot.nonempty
    intro c member
    rw [shape] at member
    cases member
    exact isBlank_eq_false_of_isKeyChar (slot.keyChars first (by simp [shape]))
  have afterStops : ∀ c ∈ (slot.after ++ '\x7d' :: '\x7d' :: rest).head?,
      isKeyChar c = false := by
    intro c member
    cases shape : slot.after with
    | nil =>
        rw [shape] at member
        cases member
        decide
    | cons first others =>
        rw [shape] at member
        cases member
        exact isKeyChar_eq_false_of_isBlank (slot.blankAfter c (by simp [shape]))
  have closingStops : ∀ c ∈ ('\x7d' :: '\x7d' :: rest).head?, isBlank c = false := by
    intro c member
    cases member
    decide
  have layout : slot.written ++ rest = '\x7b' :: '\x7b' ::
      (slot.before ++ (slot.key ++ (slot.after ++ '\x7d' :: '\x7d' :: rest))) := by
    simp [Slot.written, Slot.body]
  rw [layout, placeholder?]
  simp only [dropWhile_append_of_stop slot.blankBefore keyStops,
    takeWhile_append_of_stop slot.keyChars afterStops,
    dropWhile_append_of_stop slot.keyChars afterStops,
    dropWhile_append_of_stop slot.blankAfter closingStops]
  split
  · rename_i empty
    exact absurd empty slot.nonempty
  · rename_i same _
    cases same
    simp only [Option.some.injEq, Prod.mk.injEq, true_and, Slot.written, Slot.body,
      List.length_append, List.length_cons, List.length_nil]
    omega
  · rename_i other
    exact absurd rfl (other rest)

/-- Whatever is read as a placeholder is written as one. -/
theorem exists_slot_of_placeholder? {cs : List Char} (found : (placeholder? cs).isSome = true) :
    ∃ (slot : Slot) (rest : List Char), cs = slot.written ++ rest := by
  unfold placeholder? at found
  split at found
  · rename_i rest
    dsimp only at found
    split at found
    · cases found
    · rename_i tail closing nonempty
      let slot : Slot :=
        { before := rest.takeWhile isBlank
          key := (rest.dropWhile isBlank).takeWhile isKeyChar
          after := ((rest.dropWhile isBlank).dropWhile isKeyChar).takeWhile isBlank
          blankBefore := fun c member => List.mem_takeWhile_imp member
          blankAfter := fun c member => List.mem_takeWhile_imp member
          keyChars := fun c member => List.mem_takeWhile_imp member
          nonempty := nonempty }
      refine ⟨slot, tail, ?_⟩
      have last : slot.after ++ '\x7d' :: '\x7d' :: tail =
          (rest.dropWhile isBlank).dropWhile isKeyChar := by
        rw [← closing]
        exact List.takeWhile_append_dropWhile
      have middle : slot.key ++ (slot.after ++ '\x7d' :: '\x7d' :: tail) =
          rest.dropWhile isBlank := by
        rw [last]
        exact List.takeWhile_append_dropWhile
      have whole : slot.before ++ (slot.key ++ (slot.after ++ '\x7d' :: '\x7d' :: tail)) =
          rest := by
        rw [middle]
        exact List.takeWhile_append_dropWhile
      simp only [Slot.written, Slot.body, List.cons_append, List.append_assoc, List.nil_append,
        whole]
    · cases found
  · cases found

/-- A text that no placeholder occurs in. -/
structure Literal where
  chars : List Char
  plain : ∀ slot : Slot, ¬slot.written <:+: chars

/-- A placeholder has at least five characters. -/
def Literal.ofShort (cs : List Char) (short : cs.length < 5) : Literal where
  chars := cs
  plain := by
    intro slot inside
    have fits := inside.length_le
    have keyLength : 0 < slot.key.length := List.length_pos_iff.mpr slot.nonempty
    simp only [Slot.written, Slot.body, List.length_cons, List.length_append,
      List.length_nil] at fits
    omega

def Literal.empty : Literal := .ofShort [] (by decide)

theorem Literal.placeholder?_eq_none (literal : Literal) {back : List Char}
    (isEnd : back <:+ literal.chars) : placeholder? back = none := by
  rw [← Option.not_isSome_iff_eq_none]
  intro found
  obtain ⟨slot, rest, rfl⟩ := exists_slot_of_placeholder? found
  apply literal.plain slot
  exact (List.infix_append [] slot.written rest).trans isEnd.isInfix

/-- No placeholder begins inside a literal and ends behind it. -/
theorem Literal.placeholder?_append_eq_none (literal : Literal) {back : List Char}
    (isEnd : back <:+ literal.chars) (nonempty : back ≠ []) (next : Slot) (rest : List Char) :
    placeholder? (back ++ (next.written ++ rest)) = none := by
  rw [← Option.not_isSome_iff_eq_none]
  intro found
  obtain ⟨slot, others, split⟩ := exists_slot_of_placeholder? found
  rcases List.append_eq_append_iff.mp split with ⟨inside, written, goesOn⟩ | ⟨inside, same, _⟩
  · cases inside with
    | nil =>
        apply literal.plain slot
        rw [written, List.append_nil]
        exact isEnd.isInfix
    | cons c inside =>
        -- What the placeholder has behind the literal begins as the next one does, with a brace.
        obtain ⟨first, back, rfl⟩ := List.exists_cons_of_ne_nil nonempty
        obtain ⟨opening, behind⟩ := List.cons_eq_cons.mp goesOn
        rw [← opening] at written
        rw [Slot.eq_body_of_written_eq written] at behind
        exact slot.body_append_ne_cons _ _ behind.symm
  · apply literal.plain slot
    rw [same] at isEnd
    exact (List.infix_append [] slot.written inside).trans isEnd.isInfix

theorem piecesFrom_append_of_none (cs rest : List Char)
    (plain : ∀ back, back <:+ cs → back ≠ [] → placeholder? (back ++ rest) = none) :
    piecesFrom 0 (cs ++ rest) = cs.map .char ++ piecesFrom 0 rest := by
  induction cs with
  | nil => rfl
  | cons c cs ih =>
      have here : placeholder? (c :: (cs ++ rest)) = none :=
        plain (c :: cs) (List.suffix_refl _) (by simp)
      have later : piecesFrom 0 (cs ++ rest) = cs.map .char ++ piecesFrom 0 rest := by
        apply ih
        intro back isEnd
        exact plain back (isEnd.trans (List.suffix_cons c cs))
      rw [List.cons_append, piecesFrom, here]
      simp [later]

theorem piecesFrom_length_append (cs rest : List Char) :
    piecesFrom cs.length (cs ++ rest) = piecesFrom 0 rest := by
  induction cs with
  | nil => rfl
  | cons c cs ih => exact ih

theorem piecesFrom_written (slot : Slot) (rest : List Char) :
    piecesFrom 0 (slot.written ++ rest) = .placeholder slot.key :: piecesFrom 0 rest := by
  have found := placeholder?_written slot rest
  have skipped := piecesFrom_length_append ('\x7b' :: slot.body) rest
  unfold Slot.written at found ⊢
  rw [List.cons_append] at found ⊢
  rw [piecesFrom, found]
  simpa using skipped

/-- A text laid out as literals with placeholders between them. -/
inductive Layout where
  | last (literal : Literal)
  | more (literal : Literal) (slot : Slot) (rest : Layout)

namespace Layout

def written : Layout → List Char
  | last literal => literal.chars
  | more literal slot rest => literal.chars ++ (slot.written ++ rest.written)

/-- Keys of the placeholders, from left to right. -/
def keys : Layout → List String
  | last _ => []
  | more _ slot rest => slot.name :: rest.keys

/-- The literals, with values in the places of the placeholders. -/
def filled (valueOf : String → String) : Layout → List Char
  | last literal => literal.chars
  | more literal slot rest =>
      literal.chars ++ ((valueOf slot.name).toList ++ rest.filled valueOf)

def pieces : Layout → List Piece
  | last literal => literal.chars.map .char
  | more literal slot rest => literal.chars.map .char ++ .placeholder slot.key :: rest.pieces

theorem piecesFrom_written (layout : Layout) : piecesFrom 0 layout.written = layout.pieces := by
  induction layout with
  | last literal =>
      have plain := piecesFrom_append_of_none literal.chars [] (by
        intro back isEnd _
        rw [List.append_nil]
        exact literal.placeholder?_eq_none isEnd)
      rw [List.append_nil, piecesFrom, List.append_nil] at plain
      exact plain
  | more literal slot rest ih =>
      have plain := piecesFrom_append_of_none literal.chars (slot.written ++ rest.written) (by
        intro back isEnd nonempty
        exact literal.placeholder?_append_eq_none isEnd nonempty slot rest.written)
      rw [written, plain, Template.piecesFrom_written, ih]
      rfl

end Layout

theorem fill_map_char_append (valueOf : String → Option String) (cs : List Char)
    (rest : List Piece) :
    fill valueOf (cs.map .char ++ rest) = (fill valueOf rest).map (cs ++ ·) := by
  induction cs with
  | nil =>
      change fill valueOf rest = (fill valueOf rest).map id
      cases fill valueOf rest <;> rfl
  | cons c cs ih =>
      rw [List.map_cons, List.cons_append, fill, ih]
      cases fill valueOf rest <;> rfl

theorem pieces_of_keys_eq_nil {s : String} (plain : keys s = []) :
    pieces s = s.toList.map .char := by
  have noSlot (name : List Char) : Piece.placeholder name ∉ pieces s := by
    intro member
    have shown : String.ofList name ∈ keys s := mem_keys_iff.mpr ⟨name, member, rfl⟩
    rw [plain] at shown
    cases shown
  unfold pieces at noSlot ⊢
  generalize s.toList = cs at noSlot ⊢
  induction cs with
  | nil => rfl
  | cons c cs ih =>
      rw [piecesFrom] at noSlot ⊢
      split
      · rename_i key length found
        rw [found] at noSlot
        exact absurd List.mem_cons_self (noSlot key)
      · rename_i absent
        rw [absent] at noSlot
        have rest := ih fun name member => noSlot name (List.mem_cons_of_mem _ member)
        rw [rest, List.map_cons]

theorem keys_eq_nil_of_not_mem {s : String} (without : '\x7b' ∉ s.toList) : keys s = [] := by
  have noSlot : ∀ back, back <:+ s.toList → back ≠ [] → placeholder? (back ++ []) = none := by
    intro back isEnd _
    rw [List.append_nil]
    unfold placeholder?
    split
    · exact absurd (isEnd.subset List.mem_cons_self) without
    · rfl
  have plain := piecesFrom_append_of_none s.toList [] noSlot
  rw [List.append_nil] at plain
  unfold keys pieces
  rw [plain]
  simp [piecesFrom]

namespace Layout

theorem fill_pieces_of_defined {found : String → Option String} {valueOf : String → String}
    {layout : Layout} (defined : ∀ key ∈ layout.keys, found key = some (valueOf key)) :
    fill found layout.pieces = .ok (layout.filled valueOf) := by
  induction layout with
  | last literal => exact fill_chars found literal.chars
  | more literal slot rest ih =>
      have value : found (String.ofList slot.key) = some (valueOf slot.name) :=
        defined slot.name List.mem_cons_self
      have others : fill found rest.pieces = .ok (rest.filled valueOf) := by
        apply ih
        intro key member
        exact defined key (List.mem_cons_of_mem _ member)
      rw [pieces, fill_map_char_append, fill, value]
      simp only [others]
      rfl

theorem fill_pieces_of_undefined {found : String → Option String} {layout : Layout}
    {front later : List String} {key : String} (keys : layout.keys = front ++ key :: later)
    (defined : ∀ earlier ∈ front, (found earlier).isSome = true) (undefined : found key = none) :
    fill found layout.pieces = .error key := by
  induction layout generalizing front with
  | last literal => simp [Layout.keys] at keys
  | more literal slot rest ih =>
      rw [pieces, fill_map_char_append, fill]
      cases front with
      | nil =>
          cases keys
          have missing : found (String.ofList slot.key) = none := undefined
          rw [missing]
          rfl
      | cons first front =>
          obtain ⟨same, others⟩ := List.cons_eq_cons.mp keys
          subst same
          obtain ⟨value, present⟩ := Option.isSome_iff_exists.mp (defined _ List.mem_cons_self)
          have failed : fill found rest.pieces = .error key := by
            apply ih others
            intro earlier member
            exact defined earlier (List.mem_cons_of_mem _ member)
          have shown : found (String.ofList slot.key) = some value := present
          rw [shown, failed]
          rfl

end Layout

end Template

namespace PropertySet

open Template

theorem resolveTemplate_ofList (properties : PropertySet) (step : Option Int) (layout : Layout) :
    properties.resolveTemplate step (String.ofList layout.written) =
      match fill (fun key => properties.find? key) layout.pieces with
      | .ok cs => .ok (String.ofList cs)
      | .error key => .error (unresolved key step) := by
  have pieces : Template.pieces (String.ofList layout.written) = layout.pieces := by
    unfold Template.pieces
    rw [String.toList_ofList]
    exact layout.piecesFrom_written
  exact congrArg (fun pieces => match fill (fun key => properties.find? key) pieces with
    | .ok cs => Except.ok (String.ofList cs)
    | .error key => .error (unresolved key step)) pieces

theorem resolveTemplate_of_keys_eq_nil {s : String} (plain : Template.keys s = [])
    (properties : PropertySet) (step : Option Int) : properties.resolveTemplate step s = .ok s := by
  unfold resolveTemplate
  rw [pieces_of_keys_eq_nil plain, fill_chars]
  simp

/-- A placeholder stands for the value of its key. -/
theorem resolveTemplate_slot (properties : PropertySet) (step : Option Int) (slot : Slot) :
    properties.resolveTemplate step (String.ofList slot.written) =
      properties.resolve step slot.name := by
  have alone := resolveTemplate_ofList properties step (.more .empty slot (.last .empty))
  have written : (Layout.more .empty slot (.last .empty)).written = slot.written := by
    simp [Layout.written, Literal.empty, Literal.ofShort]
  have pieces : (Layout.more .empty slot (.last .empty)).pieces = [.placeholder slot.key] := rfl
  rw [written, pieces] at alone
  rw [alone, resolve]
  simp only [fill, Slot.name]
  cases properties.find? (String.ofList slot.key) with
  | none => rfl
  | some value =>
      have whole : String.ofList (value.toList ++ []) = value := by simp
      exact congrArg Except.ok whole

/-- A key between doubled braces stands for its value. -/
theorem resolveTemplate_placeholder {properties : PropertySet} {key value : String}
    (keyChars : ∀ c ∈ key.toList, isKeyChar c = true) (nonempty : key ≠ "")
    (found : properties.find? key = some value) (step : Option Int) :
    properties.resolveTemplate step ("\x7b\x7b" ++ key ++ "\x7d\x7d") = .ok value := by
  let slot : Slot :=
    { before := []
      key := key.toList
      after := []
      blankBefore := by simp
      blankAfter := by simp
      keyChars := keyChars
      nonempty := by simpa using nonempty }
  have name : slot.name = key := String.ofList_toList
  have written : String.ofList slot.written = "\x7b\x7b" ++ key ++ "\x7d\x7d" := by
    apply String.toList_inj.mp
    simp [slot, Slot.written, Slot.body]
  rw [← written, resolveTemplate_slot, name, resolve, found]

/-- A template with values for all its keys becomes its literals and these values; the leftmost key
without a value is the failure.  A text that no placeholder occurs in stays as it is. -/
theorem resolveTemplate_layout (properties : PropertySet) (step : Option Int) :
    (∀ (layout : Layout) (valueOf : String → String),
      (∀ key ∈ layout.keys, properties.find? key = some (valueOf key)) →
        properties.resolveTemplate step (String.ofList layout.written) =
          .ok (String.ofList (layout.filled valueOf))) ∧
    (∀ (layout : Layout) (front later : List String) (key : String),
      layout.keys = front ++ key :: later →
      (∀ earlier ∈ front, (properties.find? earlier).isSome = true) →
      properties.find? key = none →
        properties.resolveTemplate step (String.ofList layout.written) =
          .error (unresolved key step)) ∧
    ∀ literal : Literal, properties.resolveTemplate step (String.ofList literal.chars) =
      .ok (String.ofList literal.chars) := by
  refine ⟨?filled, ?failed, ?fixed⟩
  case filled =>
    intro layout valueOf defined
    rw [resolveTemplate_ofList, Layout.fill_pieces_of_defined defined]
  case failed =>
    intro layout front later key keys defined undefined
    rw [resolveTemplate_ofList, Layout.fill_pieces_of_undefined keys defined undefined]
  case fixed =>
    intro literal
    have plain := resolveTemplate_ofList properties step (.last literal)
    rw [Layout.pieces, fill_chars] at plain
    exact plain

namespace Braces

def brace : Literal := .ofShort ['\x7b'] (by decide)

def braces : Literal := .ofShort ['\x7d', '\x7d'] (by decide)

/-- A placeholder with a blank before its key and a tab behind it. -/
def slot (key : List Char) (keyChars : key.all isKeyChar = true) (nonempty : key ≠ []) : Slot where
  before := [' ']
  key := key
  after := ['\t']
  blankBefore := List.all_eq_true.mp rfl
  blankAfter := List.all_eq_true.mp rfl
  keyChars := List.all_eq_true.mp keyChars
  nonempty := nonempty

def host : Slot := slot ['h', 'o', 's', 't'] rfl (List.cons_ne_nil _ _)

def port : Slot := slot ['p', 'o', 'r', 't'] rfl (List.cons_ne_nil _ _)

/-- The value of the only key is itself written as a placeholder. -/
def properties : PropertySet := ⟨[], [("host", "\x7b\x7bport\x7d\x7d\\1")]⟩

def known : Layout := .more brace host (.last braces)

def unknown : Layout := .more brace host (.more braces port (.last brace))

/-- Braces next to a placeholder stay, and so does a placeholder that a value brings in. -/
theorem resolveTemplate_layout_braces :
    String.ofList known.written = "\x7b\x7b\x7b host\t\x7d\x7d\x7d\x7d" ∧
      properties.resolveTemplate none (String.ofList known.written) =
        .ok "\x7b\x7b\x7bport\x7d\x7d\\1\x7d\x7d" ∧
      properties.resolveTemplate none (String.ofList unknown.written) =
        .error (unresolved "port" none) := by
  have laws := resolveTemplate_layout properties none
  have filled : String.ofList (known.filled fun _ => "\x7b\x7bport\x7d\x7d\\1") =
      "\x7b\x7b\x7bport\x7d\x7d\\1\x7d\x7d" := by decide
  refine ⟨by decide, ?_, ?_⟩
  · rw [← filled]
    exact laws.1 known _ (by decide)
  · exact laws.2.1 unknown ["host"] [] "port" (by decide) (by decide) (by decide)

end Braces

end PropertySet

end Playbook
