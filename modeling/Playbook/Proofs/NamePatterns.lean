import Playbook.Pattern.Reader
import Playbook.Proofs.Fallible
import Playbook.Proofs.NameGrammars
import Playbook.Proofs.PatternLanguages

/-!
# What the patterns of names match

The patterns of kinds, variables and property keys are read from their texts, and match exactly what
the functions for them accept.
-/

namespace Playbook

namespace Name

open Text Pattern
open scoped Computability

/-- The parts of a name: a letter, and letters, digits and underscores behind it. -/
def nameParts : List Node :=
  [.set false [.range 0x61 0x7A, .range 0x41 0x5A],
    .repetition .greedy 0 none [.set false [.category .word false]]]

section Sets

variable {flags : Flags} {c : Char}

theorem isAsciiLetter_iff :
    isAsciiLetter c = true ↔
      (0x61 ≤ c.toNat ∧ c.toNat ≤ 0x7A) ∨ (0x41 ≤ c.toNat ∧ c.toNat ≤ 0x5A) := by
  simp only [isAsciiLetter, Bool.or_eq_true, Bool.and_eq_true, decide_eq_true_eq, Char.le_def,
    UInt32.le_iff_toNat_le]
  rfl

theorem toNat_eq_iff (d : Char) : d.toNat = c.toNat ↔ c = d := eq_comm.trans Char.toNat_inj

theorem inSet_letter (sensitive : flags.ignoreCase = false) :
    inSet flags false [.range 0x61 0x7A, .range 0x41 0x5A] c = isAsciiLetter c := by
  rw [Bool.eq_iff_iff, isAsciiLetter_iff]
  simp [inSet, sensitive, variantsOf, SetItem.holds]

theorem inSet_word (sensitive : flags.ignoreCase = false) (ascii : flags.ascii = true) :
    inSet flags false [.category .word false] c = isAsciiWord c := by
  simp [inSet, sensitive, ascii, SetItem.holds, Category.holds]

theorem inSet_keyChar (sensitive : flags.ignoreCase = false) (ascii : flags.ascii = false) :
    inSet flags true
        [.category .space false, .char 0x7B, .char 0x7D, .char 0x3D, .char 0x3A] c = true ↔
      IsKeyChar c := by
  have opening : 0x7B = c.toNat ↔ c = '\x7b' := toNat_eq_iff '\x7b'
  have closing : 0x7D = c.toNat ↔ c = '\x7d' := toNat_eq_iff '\x7d'
  have equals : 0x3D = c.toNat ↔ c = '=' := toNat_eq_iff '='
  have colon : 0x3A = c.toNat ↔ c = ':' := toNat_eq_iff ':'
  simp [inSet, sensitive, ascii, variantsOf, SetItem.holds, Category.holds, IsKeyChar, opening,
    closing, equals, colon]

end Sets

section Languages

variable {flags : Flags}

/-- Names of the first 128 characters. -/
def names : Language Char := {text | isNameWith isAsciiWord text = true}

def keys : Language Char := {text | IsKey text}

/-- Names before a point. -/
def qualifiers : Language Char := names * oneOf (· == '.')

theorem reads_name (sensitive : flags.ignoreCase = false) (ascii : flags.ascii = true) :
    Reads flags nameParts 3 names := by
  have letter : Reads flags [.set false [.range 0x61 0x7A, .range 0x41 0x5A]] 0
      (setLanguage flags false [.range 0x61 0x7A, .range 0x41 0x5A]) := reads_set
  have others : Reads flags [.repetition .greedy 0 none [.set false [.category .word false]]] 3
      (setLanguage flags false [.category .word false] ^ 0 *
        (setLanguage flags false [.category .word false])∗) := reads_repetition
  have same : setLanguage flags false [.range 0x61 0x7A, .range 0x41 0x5A] *
      (setLanguage flags false [.category .word false])∗ = names := by
    ext text
    change _ ↔ isNameWith isAsciiWord text = true
    unfold setLanguage
    cases text with
    | nil => simp [nil_not_mem_oneOf_mul, isNameWith]
    | cons c rest =>
        simp only [cons_mem_oneOf_mul, mem_kstar_oneOf, isNameWith_cons, inSet_letter sensitive,
          inSet_word sensitive ascii]
  rw [pow_zero, one_mul] at others
  rw [← same]
  exact letter.append others

theorem reads_key (sensitive : flags.ignoreCase = false) (ascii : flags.ascii = false) :
    Reads flags
      [.repetition .greedy 1 none
        [.set true [.category .space false, .char 0x7B, .char 0x7D, .char 0x3D, .char 0x3A]]]
      3 keys := by
  have same : setLanguage flags true
        [.category .space false, .char 0x7B, .char 0x7D, .char 0x3D, .char 0x3A] ^ 1 *
      (setLanguage flags true
        [.category .space false, .char 0x7B, .char 0x7D, .char 0x3D, .char 0x3A])∗ =
      keys := by
    ext text
    change _ ↔ IsKey text
    unfold setLanguage IsKey
    rw [pow_one]
    cases text with
    | nil => simp [nil_not_mem_oneOf_mul]
    | cons c rest =>
        simp only [cons_mem_oneOf_mul, mem_kstar_oneOf, inSet_keyChar sensitive ascii,
          List.forall_mem_cons]
        simp
  rw [← same]
  exact reads_repetition

theorem reads_qualifier (sensitive : flags.ignoreCase = false) (ascii : flags.ascii = true) :
    Reads flags
      [.repetition .greedy 0 (some 1)
        [.group (some 1) {} [.group (some 2) {} nameParts, .char 0x2E]]] 13
      (qualifiers + 1) := by
  have unchanged : flags.change {} = flags := by
    cases flags
    simp [Flags.change]
  have name : Reads flags nameParts 3 names := reads_name sensitive ascii
  have plugin : Reads flags [.group (some 2) {} nameParts] 6 names := by
    apply Reads.group
    rwa [unchanged]
  have point : Reads flags [.char 0x2E] 0 (oneOf (· == '.')) := by
    have test : (fun c : Char => (variantsOf flags c).contains 0x2E) = (· == '.') := by
      funext c
      have code : 0x2E = c.toNat ↔ c = '.' := toNat_eq_iff '.'
      rw [Bool.eq_iff_iff]
      simp [variantsOf, sensitive, code]
    rw [← test]
    exact reads_char
  have both : Reads flags [.group (some 1) {} [.group (some 2) {} nameParts, .char 0x2E]] 9
      qualifiers := by
    apply Reads.group
    rw [unchanged]
    exact plugin.append point
  exact both.optional

end Languages

section Patterns

/-- The pattern of property keys, as it is read. -/
def keyPattern : Pattern where
  text := propertyKeyPattern
  flags := {}
  groups := 0
  body := [.anchor .lineStart,
    .repetition .greedy 1 none
      [.set true [.category .space false, .char 0x7B, .char 0x7D, .char 0x3D, .char 0x3A]],
    .anchor .lineEnd]

/-- The pattern of variables, as it is read. -/
def variableGroups : Pattern where
  text := "^(?P<name>[a-zA-Z][\\w]*)$"
  flags := { ascii := true }
  groups := 1
  body := [.anchor .lineStart, .group (some 1) {} nameParts, .anchor .lineEnd]

/-- The pattern of kinds, as it is read. -/
def kindGroups : Pattern where
  text := "^((?P<plugin>[a-zA-Z][\\w]*)\\.)?(?P<name>[a-zA-Z][\\w]*)$"
  flags := { ascii := true }
  groups := 3
  body := [.anchor .lineStart,
    .repetition .greedy 0 (some 1)
      [.group (some 1) {} [.group (some 2) {} nameParts, .char 0x2E]],
    .group (some 3) {} nameParts,
    .anchor .lineEnd]

/-- A kind is a name with a qualifier or without. -/
theorem mem_qualifiers_names {text : List Char} :
    text ∈ (qualifiers + 1) * names ↔ isKindWith isAsciiWord text = true := by
  have point : isAsciiWord '.' = false := by decide
  rw [isKindWith_iff point, add_mul, one_mul, Language.mem_add, or_comm]
  apply or_congr Iff.rfl
  constructor
  · rintro ⟨_, ⟨plugin, isPlugin, _, ⟨c, rfl, isPoint⟩, rfl⟩, name, isName, rfl⟩
    rw [beq_iff_eq] at isPoint
    exact ⟨plugin, name, by simp [isPoint], isPlugin, isName⟩
  · rintro ⟨plugin, name, rfl, isPlugin, isName⟩
    exact ⟨plugin ++ ['.'], ⟨plugin, isPlugin, ['.'], ⟨'.', rfl, by simp⟩, rfl⟩, name, isName,
      by simp⟩

/-- A pattern that is read from a text with flags and matches at the start of exactly those texts
that pass a test. -/
def IsPattern (flags : Flags) (text : String) (test : List Char → Bool) : Prop :=
  ∃ pattern, Pattern.read flags false text = .ok pattern ∧
    ∀ t, pattern.matchesStart (String.ofList t) = test t

theorem isPattern_propertyKey : IsPattern {} propertyKeyPattern matchesPropertyKey := by
  refine ⟨keyPattern, Fallible.toOption_eq_some_iff.mp (by decide +kernel), ?_⟩
  intro t
  rw [Bool.eq_iff_iff, matchesPropertyKey, isSome_matchPropertyKey?_iff]
  exact matchesStart_iff rfl rfl (reads_key rfl rfl) (by decide) t

theorem isPattern_variable :
    IsPattern { ascii := true } variableGroups.text matchesVariable := by
  refine ⟨variableGroups, Fallible.toOption_eq_some_iff.mp (by decide +kernel), ?_⟩
  intro t
  have unchanged : variableGroups.flags.change {} = variableGroups.flags := rfl
  have reads : Reads variableGroups.flags [.group (some 1) {} nameParts] 6 names := by
    apply Reads.group
    rw [unchanged]
    exact reads_name rfl rfl
  have oneLine : ∀ body ∈ names, '\n' ∉ body := fun body valid =>
    newline_not_mem_of_isNameWith (by decide) valid
  rw [Bool.eq_iff_iff, matchesVariable, isSome_matchVariable?_eq]
  exact (matchesStart_iff rfl rfl reads (by decide) t).trans
    (dropFinalNewline_iff (· ∈ names) oneLine).symm

theorem isPattern_kind : IsPattern { ascii := true } kindGroups.text matchesKind := by
  refine ⟨kindGroups, Fallible.toOption_eq_some_iff.mp (by decide +kernel), ?_⟩
  intro t
  have unchanged : kindGroups.flags.change {} = kindGroups.flags := rfl
  have name : Reads kindGroups.flags [.group (some 3) {} nameParts] 6 names := by
    apply Reads.group
    rw [unchanged]
    exact reads_name rfl rfl
  have qualifier : Reads kindGroups.flags _ 13 (qualifiers + 1) := reads_qualifier rfl rfl
  have oneLine : ∀ body ∈ (qualifiers + 1) * names, '\n' ∉ body := by
    intro body member
    rw [mem_qualifiers_names] at member
    exact newline_not_mem_of_isKindWith (by decide) (by decide) member
  rw [Bool.eq_iff_iff, matchesKind, isSome_matchKind?_eq, ← mem_qualifiers_names]
  exact (matchesStart_iff rfl rfl (qualifier.append name) (by decide) t).trans
    (dropFinalNewline_iff (· ∈ (qualifiers + 1) * names) oneLine).symm

end Patterns

end Name

end Playbook
