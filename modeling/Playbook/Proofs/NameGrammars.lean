import Playbook.Name

/-!
# The two forms of the grammars of names

Kinds, variables and property keys are checked by one form of their grammar when a document is
read, and matched by another form, a pattern, afterwards.  A pattern tolerates a final line feed,
and its classes of characters are narrower.  So each pattern is the grammar of documents less some
characters, with that line feed, and the two forms agree on all other texts.
-/

namespace Playbook

namespace Name

open Text

section FinalNewline

variable {cs : List Char}

theorem dropFinalNewline_append (body : List Char) : dropFinalNewline (body ++ ['\n']) = body := by
  simp [dropFinalNewline]

theorem dropFinalNewline_of_not_mem (oneLine : '\n' ∉ cs) : dropFinalNewline cs = cs := by
  unfold dropFinalNewline
  split
  · rename_i last
    exact absurd (List.mem_of_getLast? last) oneLine
  · rfl

theorem eq_dropFinalNewline_or (cs : List Char) :
    cs = dropFinalNewline cs ∨ cs = dropFinalNewline cs ++ ['\n'] := by
  unfold dropFinalNewline
  split
  · rename_i last
    right
    obtain ⟨body, rfl⟩ := List.getLast?_eq_some_iff.mp last
    simp
  · exact .inl rfl

/-- What is accepted without line feeds may have one at its end. -/
theorem dropFinalNewline_iff (accepts : List Char → Prop)
    (oneLine : ∀ body, accepts body → '\n' ∉ body) :
    accepts (dropFinalNewline cs) ↔
      ∃ body, accepts body ∧ (cs = body ∨ cs = body ++ ['\n']) := by
  constructor
  · intro accepted
    exact ⟨_, accepted, eq_dropFinalNewline_or cs⟩
  · rintro ⟨body, accepted, rfl | rfl⟩
    · rwa [dropFinalNewline_of_not_mem (oneLine cs accepted)]
    · rwa [dropFinalNewline_append]

end FinalNewline

section Matches

variable {cs : List Char}

theorem isSome_matchKind?_eq :
    (matchKind? cs).isSome = isKindWith isAsciiWord (dropFinalNewline cs) := by
  unfold matchKind? isKindWith
  dsimp only
  cases splitPoint? (dropFinalNewline cs) <;> dsimp only <;> split <;> simp_all

theorem isSome_matchVariable?_eq :
    (matchVariable? cs).isSome = isNameWith isAsciiWord (dropFinalNewline cs) := by
  unfold matchVariable?
  dsimp only
  split <;> simp_all

theorem isSome_matchPropertyKey?_eq :
    (matchPropertyKey? cs).isSome = isKeyWith isBlank (dropFinalNewline cs) := by
  unfold matchPropertyKey?
  dsimp only
  split <;> simp_all

end Matches

/-- The characters of property keys. -/
def IsKeyChar (c : Char) : Prop :=
  isBlank c = false ∧ c ≠ '\x7b' ∧ c ≠ '\x7d' ∧ c ≠ '=' ∧ c ≠ ':'

/-- A property key as it is meant: nonempty, without blanks, braces, equals signs and colons. -/
def IsKey (key : List Char) : Prop := key ≠ [] ∧ ∀ c ∈ key, IsKeyChar c

theorem isKeyWith_iff {blank : Char → Bool} {cs : List Char} :
    isKeyWith blank cs = true ↔ cs ≠ [] ∧
      ∀ c ∈ cs, blank c = false ∧ c ≠ '\x7b' ∧ c ≠ '\x7d' ∧ c ≠ '=' ∧ c ≠ ':' := by
  simp [isKeyWith, List.all_eq_true, and_assoc]

theorem IsKey.newline_not_mem {key : List Char} (isKey : IsKey key) : '\n' ∉ key := by
  intro member
  obtain ⟨notBlank, _⟩ := isKey.2 '\n' member
  cases notBlank

/-- The pattern of property keys matches them with a final line feed, too. -/
theorem isSome_matchPropertyKey?_iff {cs : List Char} :
    (matchPropertyKey? cs).isSome = true ↔
      ∃ body, IsKey body ∧ (cs = body ∨ cs = body ++ ['\n']) := by
  have body : isKeyWith isBlank (dropFinalNewline cs) = true ↔ IsKey (dropFinalNewline cs) :=
    isKeyWith_iff
  rw [isSome_matchPropertyKey?_eq, body]
  exact dropFinalNewline_iff IsKey fun _ => IsKey.newline_not_mem

/-- A class of characters that lacks some characters of another class. -/
def Lacks (narrow wide : Char → Bool) (refused : Char → Prop) : Prop :=
  ∀ c, narrow c = true ↔ wide c = true ∧ ¬refused c

section Classes

variable {narrow wide : Char → Bool} {refused : Char → Prop} {cs : List Char}

theorem isNameWith_cons {part : Char → Bool} {c : Char} :
    isNameWith part (c :: cs) = true ↔ isAsciiLetter c = true ∧ ∀ d ∈ cs, part d = true := by
  rw [isNameWith, Bool.and_eq_true, List.all_eq_true]

theorem isNameWith_iff_of_lacks (lacks : Lacks narrow wide refused)
    (letters : ∀ c, isAsciiLetter c = true → ¬refused c) :
    isNameWith narrow cs = true ↔ isNameWith wide cs = true ∧ ∀ c ∈ cs, ¬refused c := by
  cases cs with
  | nil => simp [isNameWith]
  | cons c rest =>
      rw [isNameWith_cons, isNameWith_cons, List.forall_mem_cons]
      constructor
      · rintro ⟨letter, others⟩
        exact ⟨⟨letter, fun d member => ((lacks d).mp (others d member)).1⟩, letters c letter,
          fun d member => ((lacks d).mp (others d member)).2⟩
      · rintro ⟨⟨letter, others⟩, _, allowed⟩
        exact ⟨letter, fun d member => (lacks d).mpr ⟨others d member, allowed d member⟩⟩

theorem isKindWith_iff_of_lacks (lacks : Lacks narrow wide refused)
    (letters : ∀ c, isAsciiLetter c = true → ¬refused c) (point : ¬refused '.') :
    isKindWith narrow cs = true ↔ isKindWith wide cs = true ∧ ∀ c ∈ cs, ¬refused c := by
  unfold isKindWith
  cases parts : splitPoint? cs with
  | none => exact isNameWith_iff_of_lacks lacks letters
  | some names =>
      obtain ⟨plugin, name⟩ := names
      cases eq_of_splitPoint? parts
      simp only [Bool.and_eq_true, isNameWith_iff_of_lacks lacks letters, List.forall_mem_append,
        List.forall_mem_cons]
      constructor
      · rintro ⟨⟨pluginName, front⟩, isName, back⟩
        exact ⟨⟨pluginName, isName⟩, front, point, back⟩
      · rintro ⟨⟨pluginName, isName⟩, front, _, back⟩
        exact ⟨⟨pluginName, front⟩, isName, back⟩

end Classes

/-- The control characters that separate information; they are blanks, but not white space. -/
def IsInformationSeparator (c : Char) : Prop := 0x1C ≤ c.toNat ∧ c.toNat ≤ 0x1F

def IsBeyondAscii (c : Char) : Prop := 128 ≤ c.toNat

section Forms

variable {cs : List Char}

theorem isBlank_iff {c : Char} :
    isBlank c = true ↔ isWhiteSpace c = true ∨ IsInformationSeparator c := by
  by_cases separator : IsInformationSeparator c
  · have blank : isBlank c = true := by
      obtain ⟨least, most⟩ := separator
      simp [isBlank, least, most]
    simp [separator, blank]
  · have other : (decide (0x1C ≤ c.toNat) && decide (c.toNat ≤ 0x1F)) = false := by
      simpa [IsInformationSeparator] using separator
    rw [isWhiteSpace, other]
    simp [separator]

theorem toNat_lt_of_le {c last : Char} (bounded : c ≤ last) (ascii : last.toNat < 128) :
    c.toNat < 128 :=
  Nat.lt_of_le_of_lt (UInt32.le_iff_toNat_le.mp bounded) ascii

theorem toNat_lt_of_isAsciiWord {c : Char} (word : isAsciiWord c = true) : c.toNat < 128 := by
  simp only [isAsciiWord, isAsciiLetter, isAsciiDigit, Bool.or_eq_true, Bool.and_eq_true,
    decide_eq_true_eq, beq_iff_eq] at word
  rcases word with ((⟨_, lower⟩ | ⟨_, upper⟩) | ⟨_, digit⟩) | rfl
  · exact toNat_lt_of_le lower (by decide)
  · exact toNat_lt_of_le upper (by decide)
  · exact toNat_lt_of_le digit (by decide)
  · decide

theorem isAsciiWord_lacks : Lacks isAsciiWord isIdentifierPart IsBeyondAscii := by
  intro c
  unfold isIdentifierPart IsBeyondAscii
  constructor
  · intro word
    have ascii := toNat_lt_of_isAsciiWord word
    rw [if_pos ascii]
    exact ⟨word, by omega⟩
  · rintro ⟨part, ascii⟩
    rwa [if_pos (by omega)] at part

theorem not_isBeyondAscii_of_isAsciiLetter (c : Char) (letter : isAsciiLetter c = true) :
    ¬IsBeyondAscii c := by
  have word : isAsciiWord c = true := by simp [isAsciiWord, letter]
  exact ((isAsciiWord_lacks c).mp word).2

theorem isKeyWith_isBlank_iff :
    isKeyWith isBlank cs = true ↔
      isPropertyKey cs = true ∧ ∀ c ∈ cs, ¬IsInformationSeparator c := by
  have notBlank : ∀ c, isBlank c = false ↔ isWhiteSpace c = false ∧ ¬IsInformationSeparator c := by
    intro c
    rw [← Bool.not_eq_true, isBlank_iff, not_or, Bool.not_eq_true]
  unfold isPropertyKey
  simp only [isKeyWith_iff, notBlank]
  constructor
  · rintro ⟨nonempty, chars⟩
    exact ⟨⟨nonempty, fun c member => ⟨(chars c member).1.1, (chars c member).2⟩⟩,
      fun c member => (chars c member).1.2⟩
  · rintro ⟨⟨nonempty, chars⟩, allowed⟩
    exact ⟨nonempty, fun c member =>
      ⟨⟨(chars c member).1, allowed c member⟩, (chars c member).2⟩⟩

theorem newline_not_mem_of_isNameWith {part : Char → Bool} (notPart : part '\n' = false)
    (valid : isNameWith part cs = true) : '\n' ∉ cs :=
  not_mem_of_isNameWith (by decide) notPart valid

/-- A character that is no letter, no part of a name and no point is in no kind. -/
theorem not_mem_of_isKindWith {part : Char → Bool} {c : Char}
    (notLetter : isAsciiLetter c = false) (notPart : part c = false) (notPoint : c ≠ '.')
    (point : part '.' = false) (valid : isKindWith part cs = true) : c ∉ cs := by
  rcases (isKindWith_iff point).mp valid with name | ⟨plugin, name, rfl, isPlugin, isName⟩
  · exact not_mem_of_isNameWith notLetter notPart name
  · rw [List.mem_append, List.mem_cons]
    rintro (front | same | back)
    · exact not_mem_of_isNameWith notLetter notPart isPlugin front
    · exact notPoint same
    · exact not_mem_of_isNameWith notLetter notPart isName back

theorem newline_not_mem_of_isKindWith {part : Char → Bool} (point : part '.' = false)
    (notPart : part '\n' = false) (valid : isKindWith part cs = true) : '\n' ∉ cs :=
  not_mem_of_isKindWith (by decide) notPart (by decide) point valid

theorem newline_not_mem_of_isPropertyKey (valid : isPropertyKey cs = true) : '\n' ∉ cs := by
  intro member
  obtain ⟨notWhite, _⟩ := (isKeyWith_iff.mp valid).2 '\n' member
  cases notWhite

end Forms

/-- Whether the pattern of property keys matches. -/
def matchesPropertyKey (t : List Char) : Bool := (matchPropertyKey? t).isSome

def matchesKind (t : List Char) : Bool := (matchKind? t).isSome

def matchesVariable (t : List Char) : Bool := (matchVariable? t).isSome

/-- How a pattern differs from the grammar of documents at a text: it has a final line feed or not,
and it refuses some characters. -/
structure Compared (documents pattern : List Char → Bool) (refused : Char → Prop)
    (t : List Char) : Prop where
  pattern_iff : pattern t = true ↔
    ∃ body, (documents body = true ∧ ∀ c ∈ body, ¬refused c) ∧ (t = body ∨ t = body ++ ['\n'])
  agree_iff : documents t = pattern t ↔
    ¬(documents t = true ∧ ∃ c ∈ t, refused c) ∧
      ¬∃ body, (documents body = true ∧ ∀ c ∈ body, ¬refused c) ∧ t = body ++ ['\n']

theorem Compared.ofBody {documents pattern : List Char → Bool} {refused : Char → Prop}
    {t : List Char} (oneLine : ∀ body, documents body = true → '\n' ∉ body)
    (narrowed : pattern t = true ↔ documents (dropFinalNewline t) = true ∧
      ∀ c ∈ dropFinalNewline t, ¬refused c) : Compared documents pattern refused t := by
  have matched : pattern t = true ↔
      ∃ body, (documents body = true ∧ ∀ c ∈ body, ¬refused c) ∧
        (t = body ∨ t = body ++ ['\n']) := by
    rw [narrowed]
    exact dropFinalNewline_iff (fun body => documents body = true ∧ ∀ c ∈ body, ¬refused c)
      fun body accepted => oneLine body accepted.1
  refine ⟨matched, ?_⟩
  rw [Bool.eq_iff_iff, matched]
  constructor
  · intro agree
    constructor
    · rintro ⟨accepted, c, member, isRefused⟩
      obtain ⟨body, ⟨_, allowed⟩, rfl | rfl⟩ := agree.mp accepted
      · exact allowed c member isRefused
      · exact oneLine _ accepted (by simp)
    · rintro ⟨body, valid, rfl⟩
      exact oneLine _ (agree.mpr ⟨body, valid, .inr rfl⟩) (by simp)
  · rintro ⟨noneRefused, noFeed⟩
    constructor
    · intro accepted
      refine ⟨t, ⟨accepted, ?_⟩, .inl rfl⟩
      intro c member isRefused
      exact noneRefused ⟨accepted, c, member, isRefused⟩
    · rintro ⟨body, valid, rfl | rfl⟩
      · exact valid.1
      · exact absurd ⟨body, valid, rfl⟩ noFeed

theorem compared_propertyKey (t : List Char) :
    Compared isPropertyKey matchesPropertyKey IsInformationSeparator t := by
  apply Compared.ofBody fun _ => newline_not_mem_of_isPropertyKey
  rw [matchesPropertyKey, isSome_matchPropertyKey?_eq, isKeyWith_isBlank_iff]

theorem compared_kind (t : List Char) :
    Compared isKind matchesKind IsBeyondAscii t := by
  have point : ¬IsBeyondAscii '.' := by simp [IsBeyondAscii]
  have partPoint : isIdentifierPart '.' = false := by decide +kernel
  have partNewline : isIdentifierPart '\n' = false := by decide +kernel
  apply Compared.ofBody fun _ => newline_not_mem_of_isKindWith partPoint partNewline
  rw [matchesKind, isSome_matchKind?_eq]
  exact isKindWith_iff_of_lacks isAsciiWord_lacks not_isBeyondAscii_of_isAsciiLetter point

theorem compared_variable (t : List Char) :
    Compared isVariable matchesVariable IsBeyondAscii t := by
  have partNewline : isIdentifierPart '\n' = false := by decide +kernel
  apply Compared.ofBody fun _ => newline_not_mem_of_isNameWith partNewline
  rw [matchesVariable, isSome_matchVariable?_eq]
  exact isNameWith_iff_of_lacks isAsciiWord_lacks not_isBeyondAscii_of_isAsciiLetter

end Name

end Playbook
