import Mathlib.Computability.Language
import Playbook.Pattern.Matcher

/-!
# The languages of patterns

Parts of a pattern read a language if an attempt succeeds exactly where a text of the language can
be taken off so that what comes after the parts succeeds on the rest.  The languages of sequences,
groups and repetitions follow from those of their parts.  A pattern of one line matches the texts
of its language, and these texts with a line feed behind them.
-/

namespace Playbook

namespace Pattern

open scoped Computability

/-- Where what comes after an attempt succeeds, told by the text that is left there. -/
def Continues (cs : List Char) (most : Nat) (next : Nat → Captures → Option Match)
    (success : Language Char) : Prop :=
  ∀ front back captures, cs = front ++ back → back.length ≤ most →
    ((next front.length captures).isSome = true ↔ back ∈ success)

/-- Parts of a pattern read the texts of a language, whatever comes after them, given fuel for the
text that is left and some more. -/
def Reads (flags : Flags) (nodes : List Node) (depth : Nat) (language : Language Char) : Prop :=
  ∀ cs most fuel tail next success, most + depth ≤ fuel →
    Continues cs most
      (fun position captures => attempt cs.toArray fuel flags tail position captures next) success →
    Continues cs most
      (fun position captures =>
        attempt cs.toArray (fuel + nodes.length) flags (nodes ++ tail) position captures next)
      (language * success)

/-- The characters that pass a test, as texts. -/
def oneOf (test : Char → Bool) : Language Char := {text | ∃ c, text = [c] ∧ test c = true}

/-- The characters of a set, as texts. -/
def setLanguage (flags : Flags) (negated : Bool) (items : List SetItem) : Language Char :=
  oneOf (inSet flags negated items)

section Languages

variable {test : Char → Bool} {language : Language Char}

theorem nil_not_mem_oneOf_mul : [] ∉ oneOf test * language := by
  rintro ⟨front, ⟨c, rfl, _⟩, back, _, same⟩
  cases same

theorem cons_mem_oneOf_mul {c : Char} {rest : List Char} :
    c :: rest ∈ oneOf test * language ↔ test c = true ∧ rest ∈ language := by
  constructor
  · rintro ⟨front, ⟨d, rfl, passes⟩, back, member, same⟩
    cases same
    exact ⟨passes, member⟩
  · rintro ⟨passes, member⟩
    exact ⟨[c], ⟨c, rfl, passes⟩, rest, member, rfl⟩

theorem mem_kstar_oneOf {text : List Char} :
    text ∈ (oneOf test)∗ ↔ ∀ c ∈ text, test c = true := by
  induction text with
  | nil => simp [Language.nil_mem_kstar]
  | cons c rest ih =>
      rw [← Language.one_add_self_mul_kstar_eq_kstar, Language.mem_add, Language.mem_one,
        cons_mem_oneOf_mul, ih, List.forall_mem_cons]
      simp

end Languages

section Attempts

variable {cs : List Char} {most fuel : Nat} {next : Nat → Captures → Option Match}
  {success : Language Char}

theorem Continues.mono (continues : Continues cs most next success) {fewer : Nat}
    (le : fewer ≤ most) : Continues cs fewer next success := by
  intro front back captures split short
  exact continues front back captures split (Nat.le_trans short le)

theorem Continues.oneChar (test : Char → Bool)
    (continues : ∀ fewer < most, Continues cs fewer next success) :
    Continues cs most
      (fun position captures => Pattern.oneChar test cs.toArray position fun p => next p captures)
      (oneOf test * success) := by
  intro front back captures split short
  subst split
  unfold Pattern.oneChar
  cases back with
  | nil => simp [nil_not_mem_oneOf_mul]
  | cons c rest =>
      have here : (front ++ c :: rest).toArray[front.length]? = some c := by simp
      have later := continues rest.length short (front ++ [c]) rest captures (by simp)
        (Nat.le_refl _)
      rw [List.length_append, List.length_singleton] at later
      simp only [here, cons_mem_oneOf_mul]
      cases passes : test c with
      | false => simp
      | true => simpa using later

end Attempts

section Greedy

variable {subject : Subject} {fuel position : Nat} {flags : Flags} {body nodes : List Node}
  {captures : Captures} {next : Nat → Captures → Option Match}

theorem attempt_greedy {least : Nat} {most : Option Nat} :
    attempt subject (fuel + 1) flags (.repetition .greedy least most body :: nodes) position
        captures next =
      attemptRepeated subject fuel flags true body least most 0 none position captures
        fun p inner => attempt subject fuel flags nodes p inner next := by
  rw [attempt]
  · rfl
  · simp

/-- What is repeated at most once is tried, and then left out. -/
theorem attemptRepeated_once :
    attemptRepeated subject (fuel + 2) flags true body 0 (some 1) 0 none position captures next =
      (attempt subject (fuel + 1) flags body position captures next).or
        (next position captures) := by
  have once : (fun p inner => attemptRepeated subject (fuel + 1) flags true body 0 (some 1) 1
      (some position) p inner next) = next := by
    funext p inner
    rw [attemptRepeated]
    simp
  rw [attemptRepeated]
  simp only [once]
  cases attempt subject (fuel + 1) flags body position captures next <;> rfl

/-- A repetition that has not come to its least number goes on. -/
theorem attemptRepeated_more {least count : Nat} {last : Option Nat} (less : count < least) :
    attemptRepeated subject (fuel + 1) flags true body least none count last position captures
        next =
      attempt subject fuel flags body position captures fun p inner =>
        attemptRepeated subject fuel flags true body least none (count + 1) last p inner next := by
  rw [attemptRepeated, if_pos less]

/-- A repetition without an end goes on behind what it has just repeated, or stops. -/
theorem attemptRepeated_again {least count : Nat} {last : Option Nat} (enough : ¬count < least)
    (progress : last ≠ some position) :
    attemptRepeated subject (fuel + 1) flags true body least none count last position captures
        next =
      (attempt subject fuel flags body position captures fun p inner =>
        attemptRepeated subject fuel flags true body least none (count + 1) (some position) p inner
          next).or (next position captures) := by
  have allowed : (last != some position) = true := by simpa using progress
  rw [attemptRepeated, if_neg enough]
  simp only [allowed, Bool.and_true, if_true]
  split
  · rename_i found
    rw [found]
    rfl
  · rename_i absent
    rw [absent]
    rfl

end Greedy

section Sets

variable {cs : List Char} {most fuel : Nat} {flags : Flags} {negated : Bool} {items : List SetItem}
  {next : Nat → Captures → Option Match} {success : Language Char}

theorem Continues.set (continues : ∀ fewer < most, Continues cs fewer next success) :
    Continues cs most
      (fun position captures =>
        attempt cs.toArray (fuel + 2) flags [.set negated items] position captures next)
      (setLanguage flags negated items * success) := by
  intro front back captures split short
  dsimp only
  rw [attempt]
  have last : (fun p => attempt cs.toArray (fuel + 1) flags [] p captures next) =
      fun p => next p captures := by
    funext p
    rw [attempt]
  rw [last]
  exact Continues.oneChar (inSet flags negated items) continues front back captures split short

theorem Continues.repeated {least : Nat} (continues : Continues cs most next success)
    (front back : List Char) (split : cs = front ++ back) (short : back.length ≤ most)
    (enough : back.length + 3 ≤ fuel) (count : Nat) (last : Option Nat)
    (progress : ∀ place ∈ last, place < front.length) (captures : Captures) :
    (attemptRepeated cs.toArray fuel flags true [.set negated items] least none count last
      front.length captures next).isSome = true ↔
      back ∈ setLanguage flags negated items ^ (least - count) *
        ((setLanguage flags negated items)∗ * success) := by
  induction length : back.length using Nat.strong_induction_on
    generalizing front back fuel count last captures with
  | _ n ih =>
      subst length
      obtain ⟨fuel, rfl⟩ : ∃ less, fuel = less + 3 := ⟨fuel - 3, by omega⟩
      -- What is read behind a character has less text left, and has moved on.
      have once : ∀ other : Option Nat, (∀ place ∈ other, place ≤ front.length) →
          ((attempt cs.toArray (fuel + 2) flags [.set negated items] front.length captures
            fun p inner => attemptRepeated cs.toArray (fuel + 2) flags true [.set negated items]
              least none (count + 1) other p inner next).isSome = true ↔
            back ∈ setLanguage flags negated items *
              (setLanguage flags negated items ^ (least - (count + 1)) *
                ((setLanguage flags negated items)∗ * success))) := by
        intro other before
        refine Continues.set ?_ front back captures split (Nat.le_refl _)
        intro fewer less start rest inner whole shorter
        have total : start.length + rest.length = front.length + back.length := by
          rw [← List.length_append, ← List.length_append, ← whole, ← split]
        apply ih rest.length (by omega) start rest whole (by omega) (by omega)
        · intro place member
          have placed := before place member
          omega
        · rfl
      by_cases less : count < least
      · have taken := once last fun place member => Nat.le_of_lt (progress place member)
        have one : least - count = least - (count + 1) + 1 := by omega
        rw [attemptRepeated_more less, taken, one, pow_succ', mul_assoc]
      · have moved : last ≠ some front.length := by
          intro same
          exact absurd (progress _ same) (Nat.lt_irrefl _)
        have taken := once (some front.length) (by simp)
        have stopped := continues front back captures split short
        have enough : least - count = 0 := by omega
        have noMore : least - (count + 1) = 0 := by omega
        rw [attemptRepeated_again less moved, Option.isSome_or, Bool.or_eq_true, taken, stopped,
          enough, noMore, pow_zero, one_mul, ← Language.mem_add, ← mul_assoc, ← add_one_mul,
          add_comm, Language.one_add_self_mul_kstar_eq_kstar]

end Sets

section Parts

variable {flags : Flags} {nodes others : List Node} {depth more : Nat}
  {language following : Language Char}

theorem Reads.append (first : Reads flags nodes depth language)
    (second : Reads flags others more following) :
    Reads flags (nodes ++ others) (depth + more) (language * following) := by
  intro cs most fuel tail next success enough continues
  have later := second cs most fuel tail next success (by omega) continues
  have whole := first cs most (fuel + others.length) (others ++ tail) next _ (by omega) later
  have length : fuel + (nodes ++ others).length = fuel + others.length + nodes.length := by
    rw [List.length_append]
    omega
  rw [length, List.append_assoc, mul_assoc]
  exact whole

/-- Parts with nothing else after them. -/
theorem Reads.whole (reads : Reads flags nodes depth language) {cs : List Char} {most fuel : Nat}
    {next : Nat → Captures → Option Match} {success : Language Char}
    (continues : Continues cs most next success) (enough : most + depth + nodes.length + 1 ≤ fuel) :
    Continues cs most
      (fun position captures => attempt cs.toArray fuel flags nodes position captures next)
      (language * success) := by
  obtain ⟨less, rfl⟩ : ∃ less, fuel = less + 1 + nodes.length := ⟨fuel - nodes.length - 1, by omega⟩
  have last : Continues cs most
      (fun position captures => attempt cs.toArray (less + 1) flags [] position captures next)
      success := by
    intro front back captures split short
    dsimp only
    rw [attempt]
    exact continues front back captures split short
  have read := reads cs most (less + 1) [] next success (by omega) last
  rwa [List.append_nil] at read

theorem reads_set {negated : Bool} {items : List SetItem} :
    Reads flags [.set negated items] 0 (setLanguage flags negated items) := by
  intro cs most fuel tail next success _ continues front back captures split short
  dsimp only [List.length_singleton, List.singleton_append]
  rw [attempt]
  have later : ∀ fewer < most, Continues cs fewer
      (fun position captures => attempt cs.toArray fuel flags tail position captures next)
      success := fun fewer less => continues.mono (Nat.le_of_lt less)
  exact Continues.oneChar (inSet flags negated items) later front back captures split short

theorem reads_char {code : Nat} :
    Reads flags [.char code] 0 (oneOf fun c => (variantsOf flags c).contains code) := by
  intro cs most fuel tail next success _ continues front back captures split short
  dsimp only [List.length_singleton, List.singleton_append]
  rw [attempt]
  have later : ∀ fewer < most, Continues cs fewer
      (fun position captures => attempt cs.toArray fuel flags tail position captures next)
      success := fun fewer less => continues.mono (Nat.le_of_lt less)
  exact Continues.oneChar _ later front back captures split short

theorem Reads.group (reads : Reads (flags.change change) nodes depth language) {index : Nat} :
    Reads flags [.group (some index) change nodes] (depth + nodes.length + 1) language := by
  intro cs most fuel tail next success enough continues front back captures split short
  dsimp only [List.length_singleton, List.singleton_append]
  rw [attempt]
  -- The captures that the group sets are of no account for what comes after it.
  have behind : Continues cs most
      (fun p inner => attempt cs.toArray fuel flags tail p
        (inner.set (index - 1) (some (front.length, p))) next) success := by
    intro start rest inner split short
    exact continues start rest _ split short
  exact reads.whole behind (by omega) front back captures split short

/-- A part that may be left out. -/
theorem Reads.optional (reads : Reads flags nodes depth language) :
    Reads flags [.repetition .greedy 0 (some 1) nodes] (depth + nodes.length + 3)
      (language + 1) := by
  intro cs most fuel tail next success enough continues front back captures split short
  obtain ⟨less, rfl⟩ : ∃ less, fuel = less + 2 := ⟨fuel - 2, by omega⟩
  have enough : most + depth + nodes.length + 1 ≤ less + 1 := by omega
  have taken := reads.whole continues enough front back captures split short
  have left := continues front back captures split short
  dsimp only [List.length_singleton, List.singleton_append] at taken left ⊢
  rw [attempt_greedy, attemptRepeated_once, Option.isSome_or, Bool.or_eq_true, taken, left,
    add_mul, one_mul, Language.mem_add]

/-- A character that is repeated at least a number of times. -/
theorem reads_repetition {least : Nat} {negated : Bool} {items : List SetItem} :
    Reads flags [.repetition .greedy least none [.set negated items]] 3
      (setLanguage flags negated items ^ least * (setLanguage flags negated items)∗) := by
  intro cs most fuel tail next success enough continues front back captures split short
  dsimp only [List.length_singleton, List.singleton_append]
  rw [attempt_greedy, mul_assoc]
  exact continues.repeated front back split short (by omega) 0 none (by simp) captures

end Parts

section Lines

variable {flags : Flags}

/-- The end of a line, where only the last line counts: nothing or a final line feed is left. -/
theorem continues_lineEnd (single : flags.multiline = false) {cs : List Char} {most fuel : Nat} :
    Continues cs most
      (fun position captures => attempt cs.toArray (fuel + 2) flags [.anchor .lineEnd] position
        captures fun p inner => some (p, inner))
      {rest | rest = [] ∨ rest = ['\n']} := by
  intro front back captures split short
  subst split
  have atEnd : Anchor.holds flags (front ++ back).toArray front.length .lineEnd = true ↔
      back = [] ∨ back = ['\n'] := by
    unfold Anchor.holds
    rw [single]
    cases back with
    | nil => simp
    | cons c rest => cases rest <;> simp
  dsimp only
  rw [attempt]
  change _ ↔ back = [] ∨ back = ['\n']
  rw [← atEnd]
  cases Anchor.holds flags (front ++ back).toArray front.length .lineEnd with
  | false => simp
  | true => simp [attempt]

/-- A pattern of one line matches the texts of its language, with a final line feed or without. -/
theorem matchesStart_iff {p : Playbook.Pattern} {nodes : List Node} {depth : Nat}
    {language : Language Char} (body : p.body = .anchor .lineStart :: (nodes ++ [.anchor .lineEnd]))
    (single : p.flags.multiline = false) (reads : Reads p.flags nodes depth language)
    (enough : depth + nodes.length ≤ weightOf p.body) (cs : List Char) :
    p.matchesStart (String.ofList cs) = true ↔
      ∃ text ∈ language, cs = text ∨ cs = text ++ ['\n'] := by
  have fuel : ∃ less, (weightOf p.body + 2) * (cs.length + 2) = less + 2 + nodes.length + 1 ∧
      cs.length + depth ≤ less + 2 := by
    have product : (weightOf p.body + 2) * (cs.length + 2) =
        weightOf p.body * cs.length + 2 * weightOf p.body + 2 * cs.length + 4 := by
      rw [Nat.add_mul, Nat.mul_add, Nat.mul_add]
      omega
    refine ⟨weightOf p.body * cs.length + 2 * weightOf p.body + 2 * cs.length + 1 - nodes.length,
      by omega, by omega⟩
  obtain ⟨less, isFuel, enoughFuel⟩ := fuel
  have read := reads cs cs.length (less + 2) _ _ _ enoughFuel (continues_lineEnd single)
    [] cs (List.replicate p.groups none) rfl (Nat.le_refl _)
  have started : Anchor.holds p.flags cs.toArray 0 .lineStart = true := rfl
  unfold matchesStart tryAtStart
  simp only [String.toList_ofList, List.size_toArray, if_true]
  rw [isFuel, body, attempt]
  simp only [started, if_true]
  rw [show (0 : Nat) = ([] : List Char).length from rfl, read]
  constructor
  · rintro ⟨text, member, rest, rfl | rfl, rfl⟩
    · exact ⟨text, member, .inl (List.append_nil text)⟩
    · exact ⟨text, member, .inr rfl⟩
  · rintro ⟨text, member, rfl | rfl⟩
    · exact ⟨cs, member, [], .inl rfl, List.append_nil cs⟩
    · exact ⟨text, member, ['\n'], .inr rfl, rfl⟩

end Lines

end Pattern

end Playbook
