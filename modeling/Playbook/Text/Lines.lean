import Playbook.Text.Classes

/-!
# Stripping, searching and splitting

Operations on texts that count in characters. Each works on the list of characters; the
versions on `String` only wrap it.
-/

namespace Playbook.Text

/-- Drops outer characters of a class on both sides. -/
def trimWhile (test : Char → Bool) (cs : List Char) : List Char :=
  ((cs.dropWhile test).reverse.dropWhile test).reverse

/-- Drops outer blanks. -/
def trim (cs : List Char) : List Char := trimWhile isBlank cs

/-- A text without its outer blanks. -/
def strip (s : String) : String := String.ofList (trim s.toList)

/-- A text without trailing characters of a class. -/
def dropEndWhile (test : Char → Bool) (s : String) : String :=
  String.ofList (s.toList.reverse.dropWhile test).reverse

/-- Splits at every occurrence of a character; there is always at least one piece. -/
def splitOnChar (separator : Char) : List Char → List (List Char)
  | [] => [[]]
  | c :: rest =>
      if c = separator then [] :: splitOnChar separator rest
      else match splitOnChar separator rest with
        | [] => [[c]]
        | piece :: pieces => (c :: piece) :: pieces

/-- There is always a piece. -/
theorem splitOnChar_ne_nil (separator : Char) (cs : List Char) : splitOnChar separator cs ≠ [] := by
  cases cs with
  | nil => simp [splitOnChar]
  | cons c rest =>
      unfold splitOnChar
      split
      · simp
      · split <;> simp

theorem not_mem_of_mem_splitOnChar {separator : Char} {cs piece : List Char}
    (member : piece ∈ splitOnChar separator cs) : separator ∉ piece := by
  induction cs generalizing piece with
  | nil => simp_all [splitOnChar]
  | cons c rest ih =>
      unfold splitOnChar at member
      split at member
      · rcases List.mem_cons.mp member with empty | later
        · simp [empty]
        · exact ih later
      · rename_i other
        have apart : separator ≠ c := fun equality => other equality.symm
        split at member
        · simp_all
        · rename_i first pieces split
          rcases List.mem_cons.mp member with front | later
          · have absent := ih (split ▸ List.mem_cons_self)
            simp [front, apart, absent]
          · exact ih (split ▸ List.mem_cons_of_mem _ later)

theorem splitOnChar_of_not_mem {separator : Char} {piece : List Char} (free : separator ∉ piece) :
    splitOnChar separator piece = [piece] := by
  induction piece with
  | nil => rfl
  | cons c rest ih =>
      rw [List.mem_cons, not_or] at free
      rw [splitOnChar, if_neg (Ne.symm free.1), ih free.2]

theorem splitOnChar_append {separator : Char} {piece : List Char} (free : separator ∉ piece)
    (rest : List Char) :
    splitOnChar separator (piece ++ separator :: rest) = piece :: splitOnChar separator rest := by
  induction piece with
  | nil => simp [splitOnChar]
  | cons c more ih =>
      rw [List.mem_cons, not_or] at free
      rw [List.cons_append, splitOnChar, if_neg (Ne.symm free.1), ih free.2]

/-- The pieces with the separator between them are the text. -/
theorem intercalate_splitOnChar (separator : Char) (cs : List Char) :
    [separator].intercalate (splitOnChar separator cs) = cs := by
  induction cs with
  | nil => simp [splitOnChar, List.intercalate]
  | cons c rest ih =>
      unfold splitOnChar
      split
      · rename_i same
        cases pieces : splitOnChar separator rest with
        | nil => exact absurd pieces (splitOnChar_ne_nil separator rest)
        | cons first others =>
            rw [pieces] at ih
            simpa [List.intercalate, same] using ih
      · cases pieces : splitOnChar separator rest with
        | nil => exact absurd pieces (splitOnChar_ne_nil separator rest)
        | cons first others =>
            rw [pieces] at ih
            cases others with
            | nil => simpa [List.intercalate] using ih
            | cons second more => simpa [List.intercalate] using ih

/-- Splits a text into lines without their ends; an end at the very end opens no new line.
A carriage return and a line feed together end one line. -/
def splitLinesAux : List Char → List Char → List (List Char)
  | [], [] => []
  | [], line => [line.reverse]
  | '\r' :: '\n' :: rest, line => line.reverse :: splitLinesAux rest []
  | c :: rest, line =>
      if isLineEnd c then line.reverse :: splitLinesAux rest []
      else splitLinesAux rest (c :: line)

/-- The lines of a text. -/
def splitLines (s : String) : List String :=
  (splitLinesAux s.toList []).map String.ofList

/-- Whether one list of characters begins with another, and what follows it. -/
def stripStart? : List Char → List Char → Option (List Char)
  | [], rest => some rest
  | _ :: _, [] => none
  | c :: cs, d :: rest => if c = d then stripStart? cs rest else none

def occursIn (needle : List Char) : List Char → Bool
  | [] => needle.isEmpty
  | c :: rest => (stripStart? needle (c :: rest)).isSome || occursIn needle rest

/-- Replaces every character that has a replacement text. -/
def replaceChars (replacement : Char → Option String) (s : String) : String :=
  String.ofList (s.toList.flatMap fun c =>
    match replacement c with
    | some text => text.toList
    | none => [c])

def join (separator : String) (texts : List String) : String :=
  String.intercalate separator texts

def repeated (text : String) : Nat → String
  | 0 => ""
  | n + 1 => text ++ repeated text n

/-- Number of characters of a text. -/
def count (s : String) : Nat := s.toList.length

/-- A text of blanks. -/
def spaces (width : Nat) : String := String.ofList (List.replicate width ' ')

/-- Reads line ends of every kind as a line feed. -/
def unifyLineEnds : List Char → List Char
  | [] => []
  | '\r' :: '\n' :: rest => '\n' :: unifyLineEnds rest
  | '\r' :: rest => '\n' :: unifyLineEnds rest
  | c :: rest => c :: unifyLineEnds rest

theorem takeWhile_append_of_stop {test : Char → Bool} {cs tail : List Char}
    (inside : ∀ c ∈ cs, test c = true) (stop : ∀ c ∈ tail.head?, test c = false) :
    (cs ++ tail).takeWhile test = cs := by
  rw [List.takeWhile_append_of_pos inside]
  cases tail with
  | nil => simp
  | cons c rest => simp [stop c rfl]

theorem dropWhile_append_of_stop {test : Char → Bool} {cs tail : List Char}
    (inside : ∀ c ∈ cs, test c = true) (stop : ∀ c ∈ tail.head?, test c = false) :
    (cs ++ tail).dropWhile test = tail := by
  rw [List.dropWhile_append_of_pos inside]
  cases tail with
  | nil => rfl
  | cons c rest => simp [stop c rfl]

/-! ## Outer blanks -/

/-- Blanks only, or nothing. -/
structure Blanks where
  chars : List Char
  blank : ∀ c ∈ chars, isBlank c = true

def Blanks.none : Blanks := ⟨[], List.forall_mem_nil _⟩

/-- Having no blank at either end. -/
structure Trimmed (cs : List Char) : Prop where
  head : ∀ c ∈ cs.head?, isBlank c = false
  last : ∀ c ∈ cs.getLast?, isBlank c = false

theorem Trimmed.nil : Trimmed [] := ⟨nofun, nofun⟩

theorem Trimmed.reverse {cs : List Char} (trimmed : Trimmed cs) : Trimmed cs.reverse where
  head := by simpa using trimmed.last
  last := by simpa using trimmed.head

theorem Trimmed.of_forall {cs : List Char} (notBlank : ∀ c ∈ cs, isBlank c = false) :
    Trimmed cs where
  head c first := notBlank c (List.mem_of_head? first)
  last c last := notBlank c (List.mem_of_getLast? last)

theorem Trimmed.append {front back : List Char} (frontTrimmed : Trimmed front)
    (frontNonempty : front ≠ []) (backNonempty : back ≠ []) (backTrimmed : Trimmed back)
    (middle : List Char) : Trimmed (front ++ (middle ++ back)) where
  head c first := by
    rw [List.head?_append, List.head?_eq_some_head frontNonempty, Option.some_or,
      ← List.head?_eq_some_head frontNonempty] at first
    exact frontTrimmed.head c first
  last c last := by
    rw [← List.append_assoc, List.getLast?_append, List.getLast?_eq_some_getLast backNonempty,
      Option.some_or, ← List.getLast?_eq_some_getLast backNonempty] at last
    exact backTrimmed.last c last

theorem dropWhile_isBlank_eq_nil {cs : List Char} (blank : ∀ c ∈ cs, isBlank c = true) :
    cs.dropWhile isBlank = [] := by
  have dropped : (cs ++ []).dropWhile isBlank = [] := dropWhile_append_of_stop blank nofun
  rwa [List.append_nil] at dropped

/-- Blanks around a text that has none at its ends are trimmed off. -/
theorem Trimmed.trim_eq {core : List Char} (trimmed : Trimmed core) (before after : Blanks) :
    trim (before.chars ++ (core ++ after.chars)) = core := by
  cases core with
  | nil =>
      have blank : ∀ c ∈ before.chars ++ after.chars, isBlank c = true :=
        List.forall_mem_append.mpr ⟨before.blank, after.blank⟩
      rw [List.nil_append, trim, trimWhile, dropWhile_isBlank_eq_nil blank]
      rfl
  | cons c rest =>
      have start : (before.chars ++ (c :: rest ++ after.chars)).dropWhile isBlank =
          c :: rest ++ after.chars := by
        apply dropWhile_append_of_stop before.blank
        intro other first
        exact trimmed.head other (by simpa using first)
      have behind : (after.chars.reverse ++ (c :: rest).reverse).dropWhile isBlank =
          (c :: rest).reverse := by
        apply dropWhile_append_of_stop _ trimmed.reverse.head
        intro other member
        exact after.blank other (List.mem_reverse.mp member)
      rw [trim, trimWhile, start, List.reverse_append, behind, List.reverse_reverse]

theorem Trimmed.trim_self {core : List Char} (trimmed : Trimmed core) : trim core = core := by
  have around := trimmed.trim_eq .none .none
  rwa [Blanks.none, List.nil_append, List.append_nil] at around

/-- Trimming a text that begins without a blank leaves a first part of it, with blanks behind. -/
theorem exists_blanks_behind (cs : List Char) :
    ∃ after : Blanks, cs.dropWhile isBlank = trim cs ++ after.chars := by
  let inner := cs.dropWhile isBlank
  refine ⟨⟨(inner.reverse.takeWhile isBlank).reverse, ?_⟩, ?_⟩
  · intro c member
    exact List.all_eq_true.mp List.all_takeWhile c (List.mem_reverse.mp member)
  · rw [trim, trimWhile, ← List.reverse_append, List.takeWhile_append_dropWhile,
      List.reverse_reverse]

/-- A text is what trimming leaves of it, between blanks. -/
theorem exists_blanks (cs : List Char) :
    ∃ before after : Blanks, cs = before.chars ++ (trim cs ++ after.chars) := by
  obtain ⟨after, behind⟩ := exists_blanks_behind cs
  refine ⟨⟨cs.takeWhile isBlank, ?_⟩, after, ?_⟩
  · intro c member
    exact List.all_eq_true.mp List.all_takeWhile c member
  · rw [← behind]
    exact List.takeWhile_append_dropWhile.symm

theorem trimmed_trim (cs : List Char) : Trimmed (trim cs) := by
  have stops := List.head?_dropWhile_not isBlank
  refine ⟨?_, ?_⟩
  · intro c first
    obtain ⟨after, behind⟩ := exists_blanks_behind cs
    have notBlank := stops cs
    rw [behind, List.head?_append, first] at notBlank
    simpa using notBlank
  · intro c last
    have notBlank := stops (cs.dropWhile isBlank).reverse
    unfold trim trimWhile at last
    rw [List.getLast?_reverse] at last
    rw [last] at notBlank
    simpa using notBlank

end Playbook.Text
